/-!
# Parts between separators

A text is cut at every separator. There is one part more than there are separators, and the parts
joined by the separator are the text again (`intercalate_splitOn`).
-/

namespace SorobanDeploy.Text

/-- The parts of a text between separators. -/
def splitOn (separator : Char) : List Char → List (List Char)
  | [] => [[]]
  | c :: cs =>
    if c = separator then [] :: splitOn separator cs
    else match splitOn separator cs with
      | [] => [[c]]
      | part :: parts => (c :: part) :: parts

/-- There is always a part. -/
theorem splitOn_ne_nil (separator : Char) (cs : List Char) : splitOn separator cs ≠ [] := by
  cases cs with
  | nil => simp [splitOn]
  | cons c cs =>
    simp only [splitOn]
    split
    · simp
    · split <;> simp

/-- The parts joined again. -/
theorem intercalate_splitOn (separator : Char) (cs : List Char) :
    List.intercalate [separator] (splitOn separator cs) = cs := by
  induction cs with
  | nil => rfl
  | cons c cs ih =>
    have hne := splitOn_ne_nil separator cs
    simp only [splitOn]
    cases hs : splitOn separator cs with
    | nil => exact absurd hs hne
    | cons part parts =>
      rw [hs] at ih
      by_cases h : c = separator
      · subst h
        simpa [List.intercalate] using ih
      · cases parts <;> simpa [h, List.intercalate] using ih

/-- A list of characters without those of a class at its two ends. -/
def trim (p : Char → Bool) (cs : List Char) : List Char :=
  ((cs.dropWhile p).reverse.dropWhile p).reverse

/-- Whether a list stands somewhere in another one. -/
def holds (needle : List Char) : List Char → Bool
  | [] => needle.isEmpty
  | c :: cs => needle.isPrefixOf (c :: cs) || holds needle cs

end SorobanDeploy.Text
