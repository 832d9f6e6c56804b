/-!
# Lines of a text

A file is read with every spelling of a newline folded into `\n`, then cut at the line breaks.
Writing ends each line with one `\n`, and reading what was written gives the lines back
(`lines_unlines`).
-/

namespace SorobanDeploy.Text

/-- The characters that end a line: the ASCII line and page ends, the information separators but
the last, the next-line control and the two Unicode separators. -/
def isLineBreak (c : Char) : Bool :=
  let n := c.toNat
  (10 ≤ n && n ≤ 13) || (28 ≤ n && n ≤ 30) || n == 0x85 || n == 0x2028 || n == 0x2029

/-- The text with `\r\n` and a lone `\r` read as `\n`. -/
def foldNewlines : List Char → List Char
  | [] => []
  | '\r' :: '\n' :: cs => '\n' :: foldNewlines cs
  | c :: cs => (if c = '\r' then '\n' else c) :: foldNewlines cs

/-- The lines of a text whose newlines are folded: a line break ends a line, and what follows the
last break is a line unless it is empty. -/
def lines : List Char → List (List Char)
  | [] => []
  | c :: cs =>
    if isLineBreak c then [] :: lines cs
    else match lines cs with
      | [] => [[c]]
      | l :: ls => (c :: l) :: ls

/-- The text of a list of lines: they are separated by newlines, and one newline ends it. No line
at all is an empty one. -/
def unlines (ls : List (List Char)) : List Char :=
  List.intercalate ['\n'] ls ++ ['\n']

@[simp] theorem lines_nil : lines [] = [] := rfl

/-- A line break in front of a text is an empty line in front of its lines. -/
theorem lines_break_cons (c : Char) (cs : List Char) (h : isLineBreak c = true) :
    lines (c :: cs) = [] :: lines cs := by
  simp [lines, h]

/-- A line without a break in it, then a newline: the line is the first of the text. -/
theorem lines_append_newline (l cs : List Char) (h : ∀ c ∈ l, isLineBreak c = false) :
    lines (l ++ '\n' :: cs) = l :: lines cs := by
  induction l with
  | nil => exact lines_break_cons '\n' cs (by decide)
  | cons c l ih =>
    have hc : isLineBreak c = false := h c (by simp)
    have ih := ih fun d hd => h d (by simp [hd])
    simp [lines, hc, ih]

/-- The text of a list of lines with one more line in front. -/
theorem unlines_cons (l : List Char) (m : List Char) (ls : List (List Char)) :
    unlines (l :: m :: ls) = l ++ '\n' :: unlines (m :: ls) := by
  simp [unlines, List.intercalate]

/-- Lines without breaks in them, once written, are read back. -/
theorem lines_unlines (ls : List (List Char)) (hne : ls ≠ [])
    (h : ∀ l ∈ ls, ∀ c ∈ l, isLineBreak c = false) : lines (unlines ls) = ls := by
  induction ls with
  | nil => exact absurd rfl hne
  | cons l ls ih =>
    have hl := h l (by simp)
    cases ls with
    | nil => simpa [unlines, List.intercalate] using lines_append_newline l [] hl
    | cons m ls =>
      rw [unlines_cons, lines_append_newline l _ hl, ih (by simp) fun k hk => h k (by simp [hk])]

end SorobanDeploy.Text
