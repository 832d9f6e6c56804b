import SorobanDeploy.Problem

/-!
# Looking networks up

A name is looked up in the table of networks that can be deployed to. A profile that is found is the
one of the table under that name (`resolve_eq_ok_iff`). A name may come as a JSON value; one that is
no text names nothing, and a list or an object cannot even be looked up.
-/

namespace SorobanDeploy

namespace NetworkProfile

/-- The profile of a network that can be deployed to. -/
def resolve (name : String) : Except Problem NetworkProfile :=
  match named? name with
  | some profile => .ok profile
  | none => .error (.unknownNetwork name)

/-- The table has one profile for each name. -/
theorem table_name_unique : ∀ p ∈ table, ∀ q ∈ table, p.name.text = q.name.text → p = q := by
  decide

/-- A name is resolved to a profile exactly if the table has it under this name. -/
theorem resolve_eq_ok_iff (name : String) (p : NetworkProfile) :
    resolve name = .ok p ↔ p ∈ table ∧ p.name.text = name := by
  unfold resolve
  constructor
  · intro h
    split at h
    · rename_i q hq
      obtain rfl := by simpa using h
      exact ⟨List.mem_of_find?_eq_some hq, by simpa using List.find?_some hq⟩
    · simp at h
  · rintro ⟨hp, rfl⟩
    cases hq : named? p.name.text with
    | none =>
      have := List.find?_eq_none.mp hq p hp
      simp at this
    | some q =>
      have hname : q.name.text = p.name.text := by simpa using List.find?_some hq
      rw [table_name_unique q (List.mem_of_find?_eq_some hq) p hp hname]

end NetworkProfile

/-- The name that a value gives. A list or an object cannot be looked up. -/
def Json.asName : Json → Except Failure String
  | .list items => .error (.plain .badKind ("unhashable type: '" ++ kindName (.list items) ++ "'"))
  | .object members =>
    .error (.plain .badKind ("unhashable type: '" ++ kindName (.object members) ++ "'"))
  | v => .ok v.shown

end SorobanDeploy
