/-!
# Blank characters

The blank characters are those with the Unicode property `White_Space`, and the four information
separators besides. Stripping removes them from the ends of a text and nothing else
(`stripEnd_append_blank`, `isBlank_of_isWhitespace`).
-/

namespace SorobanDeploy.Text

/-- Whether a character is blank: tabulation and line ends, the information separators, the space,
and the spaces and separators beyond ASCII. -/
def isBlank (c : Char) : Bool :=
  let n := c.toNat
  (9 ≤ n && n ≤ 13) || (28 ≤ n && n ≤ 32) || n == 0x85 || n == 0xA0 || n == 0x1680
    || (0x2000 ≤ n && n ≤ 0x200A) || n == 0x2028 || n == 0x2029 || n == 0x202F || n == 0x205F
    || n == 0x3000

/-- Every ASCII whitespace character is blank. -/
theorem isBlank_of_isWhitespace (c : Char) (h : c.isWhitespace = true) : isBlank c = true := by
  simp only [Char.isWhitespace, Bool.or_eq_true, decide_eq_true_eq] at h
  rcases h with ((h | h) | h) | h <;> subst h <;> decide

/-- A list of characters without the blanks at its end. -/
def stripEnd (cs : List Char) : List Char :=
  (cs.reverse.dropWhile isBlank).reverse

/-- A list of characters without the blanks at its two ends. -/
def stripChars (cs : List Char) : List Char :=
  stripEnd (cs.dropWhile isBlank)

/-- A text without the blanks at its two ends. -/
def strip (s : String) : String :=
  String.ofList (stripChars s.toList)

/-- Blanks added at the end of a text are stripped again. -/
theorem stripEnd_append_blank (cs bs : List Char) (h : ∀ c ∈ bs, isBlank c = true) :
    stripEnd (cs ++ bs) = stripEnd cs := by
  simp only [stripEnd, List.reverse_append]
  rw [List.dropWhile_append_of_pos (by simpa using h)]

/-- A stripped text ends with no blank. -/
theorem getLast?_stripEnd (cs : List Char) (c : Char) (h : (stripEnd cs).getLast? = some c) :
    isBlank c = false := by
  simp only [stripEnd, List.getLast?_reverse] at h
  have := List.head?_dropWhile_not isBlank cs.reverse
  rw [h] at this
  simpa using this

end SorobanDeploy.Text
