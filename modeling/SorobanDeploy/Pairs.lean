/-!
# Keyed values in order

A list of pairs read as a map. A key that is assigned again keeps its first place and takes the last
value, so the order of the keys is that of their first assignments.
-/

namespace SorobanDeploy

/-- Keyed values, in order. -/
abbrev Pairs (κ α : Type) := List (κ × α)

namespace Pairs

variable {κ α : Type} [DecidableEq κ]

/-- The value of a key. -/
def get? (key : κ) : Pairs κ α → Option α
  | [] => none
  | (k, v) :: rest => if k = key then some v else get? key rest

/-- The pairs with one key assigned: in its place, or at the end if it is new. -/
def assign (key : κ) (value : α) : Pairs κ α → Pairs κ α
  | [] => [(key, value)]
  | (k, v) :: rest => if k = key then (k, value) :: rest else (k, v) :: assign key value rest

/-- The pairs that successive assignments leave. -/
def ofList (assignments : List (κ × α)) : Pairs κ α :=
  assignments.foldl (fun done p => assign p.1 p.2 done) []

/-- The pairs without one key. -/
def erase (key : κ) (pairs : Pairs κ α) : Pairs κ α :=
  pairs.filter fun p => p.1 ≠ key

/-- An assigned key has the new value, and every other key its old one. -/
theorem get?_assign (key k : κ) (value : α) (pairs : Pairs κ α) :
    get? k (assign key value pairs) = if key = k then some value else get? k pairs := by
  induction pairs with
  | nil => rfl
  | cons p pairs ih =>
    obtain ⟨a, v⟩ := p
    by_cases ha : a = key
    · subst ha
      by_cases h : a = k <;> simp [assign, get?, h]
    · by_cases h : key = k
      · subst h
        simp [assign, get?, ha, ih]
      · simp [assign, get?, ha, ih, h]

/-- An erased key has no value, and every other key its old one. -/
theorem get?_erase (key k : κ) (pairs : Pairs κ α) :
    get? k (erase key pairs) = if key = k then none else get? k pairs := by
  induction pairs with
  | nil => simp [erase, get?]
  | cons p pairs ih =>
    obtain ⟨a, v⟩ := p
    by_cases ha : a = key
    · subst ha
      by_cases h : a = k
      · simpa [erase, h] using ih
      · simpa [erase, get?, h] using ih
    · by_cases h : a = k
      · subst h
        simp [erase, get?, ha, Ne.symm ha]
      · simpa [erase, get?, ha, h] using ih

end Pairs

end SorobanDeploy
