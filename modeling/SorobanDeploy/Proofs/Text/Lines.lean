import SorobanDeploy.Text.Lines

/-!
# Lines that are written and read again

A line that is written is read as one or more lines, its pieces: it is cut at every line break in
it, and there are more of these than newlines. `lines_unlines_eq` says that a written list of lines
is read as the pieces of each line, one after the other. So a list comes back unchanged exactly
where no line has a break in it.

Folding the newlines of a text changes nothing in front of its first line end
(`foldNewlines_append`, `exists_append_of_foldNewlines`).
-/

namespace SorobanDeploy.Text

/-- The lines that one written line is read as. -/
def pieces (l : List Char) : List (List Char) :=
  lines (l ++ ['\n'])

/-- A character that breaks no line goes in front of the first line. -/
theorem lines_cons_cons {c : Char} (hc : isLineBreak c = false) {cs m : List Char}
    {ms : List (List Char)} (h : lines cs = m :: ms) : lines (c :: cs) = (c :: m) :: ms := by
  simp [lines, hc, h]

/-- What is not empty has a line. -/
theorem exists_lines {cs : List Char} (h : cs ≠ []) : ∃ m ms, lines cs = m :: ms := by
  cases cs with
  | nil => exact absurd rfl h
  | cons c cs =>
    unfold lines
    split
    · exact ⟨_, _, rfl⟩
    · split <;> exact ⟨_, _, rfl⟩

/-- Every line has a first piece. -/
theorem exists_pieces (l : List Char) : ∃ m ms, pieces l = m :: ms :=
  exists_lines (by simp)

/-- Text without breaks in front of a text is in front of its first line. -/
theorem lines_append_of_clean {a cs m : List Char} {ms : List (List Char)}
    (ha : ∀ c ∈ a, isLineBreak c = false) (h : lines cs = m :: ms) :
    lines (a ++ cs) = (a ++ m) :: ms := by
  induction a with
  | nil => exact h
  | cons c a ih =>
    have htail := ih fun d hd => ha d (List.mem_cons_of_mem _ hd)
    exact lines_cons_cons (ha c List.mem_cons_self) htail

/-- Up to a newline, a text is read as what stands before the newline is. -/
theorem lines_append_newline_append (l cs : List Char) :
    lines (l ++ '\n' :: cs) = pieces l ++ lines cs := by
  unfold pieces
  induction l with
  | nil => rfl
  | cons c l ih =>
    rw [List.cons_append, List.cons_append]
    cases hc : isLineBreak c with
    | true => rw [lines_break_cons c _ hc, lines_break_cons c _ hc, ih, List.cons_append]
    | false =>
      obtain ⟨m, ms, hl⟩ := exists_pieces l
      unfold pieces at hl
      have hboth : lines (l ++ '\n' :: cs) = m :: (ms ++ lines cs) := by
        rw [ih, hl, List.cons_append]
      rw [lines_cons_cons hc hboth, lines_cons_cons hc hl, List.cons_append]

/-- Written lines are read as the pieces of each. -/
theorem lines_unlines_eq (ls : List (List Char)) (hne : ls ≠ []) :
    lines (unlines ls) = ls.flatMap pieces := by
  induction ls with
  | nil => exact absurd rfl hne
  | cons l ls ih =>
    cases ls with
    | nil => simp [unlines, List.intercalate, pieces]
    | cons m ls =>
      have hrest := ih (by simp)
      rw [unlines_cons, lines_append_newline_append, hrest, ← List.flatMap_cons]

/-- A line without breaks is its only piece. -/
theorem pieces_of_clean {l : List Char} (h : ∀ c ∈ l, isLineBreak c = false) : pieces l = [l] :=
  lines_append_newline l [] h

/-- A line that is read has no break in it. -/
theorem isLineBreak_of_mem_lines {cs l : List Char} (h : l ∈ lines cs) :
    ∀ c ∈ l, isLineBreak c = false := by
  fun_induction lines cs generalizing l with
  | case1 => cases h
  | case2 c cs hc ih =>
    rcases List.mem_cons.1 h with rfl | hl
    · intro d hd
      cases hd
    · exact ih hl
  | case3 c cs hc hcs ih =>
    intro d hd
    obtain rfl := List.mem_singleton.1 h
    obtain rfl := List.mem_singleton.1 hd
    exact Bool.eq_false_iff.2 hc
  | case4 c cs hc m ms hcs ih =>
    intro d hd
    rw [hcs] at ih
    rcases List.mem_cons.1 h with rfl | hl
    · rcases List.mem_cons.1 hd with rfl | hd
      · exact Bool.eq_false_iff.2 hc
      · exact ih List.mem_cons_self d hd
    · exact ih (List.mem_cons_of_mem _ hl) d hd

/-- Lines that were read come back once they are written. -/
theorem flatMap_pieces_of_subset {ls : List (List Char)} {cs : List Char}
    (h : ∀ l ∈ ls, l ∈ lines cs) : ls.flatMap pieces = ls := by
  induction ls with
  | nil => rfl
  | cons l ls ih =>
    have hl := pieces_of_clean (isLineBreak_of_mem_lines (h l List.mem_cons_self))
    rw [List.flatMap_cons, hl, ih fun k hk => h k (List.mem_cons_of_mem _ hk),
      List.singleton_append]

/-- The text of lines is each line with a newline behind it. -/
theorem unlines_eq_flatMap (ls : List (List Char)) (hne : ls ≠ []) :
    unlines ls = ls.flatMap (· ++ ['\n']) := by
  induction ls with
  | nil => exact absurd rfl hne
  | cons l ls ih =>
    cases ls with
    | nil => simp [unlines, List.intercalate]
    | cons m ls => rw [unlines_cons, ih (by simp)]; simp

/-- The text of lines with others behind them. -/
theorem unlines_append (ks ms : List (List Char)) (hne : ms ≠ []) :
    unlines (ks ++ ms) = ks.flatMap (· ++ ['\n']) ++ unlines ms := by
  rw [unlines_eq_flatMap _ (by simp [hne]), unlines_eq_flatMap ms hne, List.flatMap_append]

/-- Written lines have no character but their own and newlines. -/
theorem not_mem_unlines {c : Char} {ls : List (List Char)} (hc : c ≠ '\n')
    (h : ∀ l ∈ ls, c ∉ l) : c ∉ unlines ls := by
  by_cases hne : ls = []
  · rw [hne]
    simpa [unlines, List.intercalate] using hc
  · rw [unlines_eq_flatMap ls hne]
    intro hmem
    obtain ⟨l, hl, hmem⟩ := List.mem_flatMap.1 hmem
    rcases List.mem_append.1 hmem with hmem | hmem
    · exact h l hl hmem
    · exact hc (List.mem_singleton.1 hmem)

/-! ## Folded newlines -/

/-- A folded text has no carriage return. -/
theorem not_mem_foldNewlines (cs : List Char) : '\r' ∉ foldNewlines cs := by
  fun_induction foldNewlines cs with
  | case1 => simp
  | case2 cs ih => simpa using ih
  | case3 c cs _ ih =>
    by_cases hc : c = '\r'
    · simpa [hc] using ih
    · simpa [hc, Ne.symm hc] using ih

/-- A character that is no carriage return stays where newlines are folded. -/
theorem foldNewlines_cons {c : Char} (hc : c ≠ '\r') (cs : List Char) :
    foldNewlines (c :: cs) = c :: foldNewlines cs := by
  rw [foldNewlines, if_neg hc]
  exact fun _ heq => absurd heq hc

/-- Text without carriage returns stays in front of what is folded. -/
theorem foldNewlines_append {l : List Char} (hl : '\r' ∉ l) (cs : List Char) :
    foldNewlines (l ++ cs) = l ++ foldNewlines cs := by
  induction l with
  | nil => rfl
  | cons c l ih =>
    have hc : c ≠ '\r' := fun heq => hl (heq ▸ List.mem_cons_self)
    rw [List.cons_append, foldNewlines_cons hc, ih fun hmem => hl (List.mem_cons_of_mem _ hmem)]
    rfl

/-- A text without carriage returns is folded. -/
theorem foldNewlines_of_not_mem {cs : List Char} (h : '\r' ∉ cs) : foldNewlines cs = cs := by
  have hfold := foldNewlines_append h []
  simpa only [foldNewlines, List.append_nil] using hfold

/-- What a folded text begins with before any newline is what the text begins with. -/
theorem exists_append_of_foldNewlines {l cs ends : List Char} (hl : '\n' ∉ l)
    (h : foldNewlines cs = l ++ ends) : ∃ rest, cs = l ++ rest ∧ foldNewlines rest = ends := by
  induction l generalizing cs with
  | nil => exact ⟨cs, rfl, h⟩
  | cons d l ih =>
    have hd : d ≠ '\n' := fun heq => hl (heq ▸ List.mem_cons_self)
    unfold foldNewlines at h
    split at h
    · cases h
    · exact absurd (List.cons.inj h).1.symm hd
    · rename_i c cs _
      obtain ⟨hhead, htail⟩ := List.cons.inj h
      obtain ⟨rest, rfl, hrest⟩ := ih (fun hmem => hl (List.mem_cons_of_mem _ hmem)) htail
      have hc : c = d := by
        split at hhead
        · exact absurd hhead.symm hd
        · exact hhead
      exact ⟨rest, by rw [hc, List.cons_append], hrest⟩

/-! ## Line ends -/

/-- A text of nothing but line ends. -/
def LineEnds (cs : List Char) : Prop := ∀ c ∈ cs, c = '\n' ∨ c = '\r'

/-- Folding makes line ends of line ends and of nothing else. -/
theorem lineEnds_foldNewlines {cs : List Char} : LineEnds (foldNewlines cs) ↔ LineEnds cs := by
  unfold LineEnds
  fun_induction foldNewlines cs with
  | case1 => exact Iff.rfl
  | case2 cs ih => simp [ih]
  | case3 c cs _ ih =>
    have hc : (if c = '\r' then '\n' else c) = '\n' ∨ (if c = '\r' then '\n' else c) = '\r' ↔
        c = '\n' ∨ c = '\r' := by
      split <;> simp_all
    rw [List.forall_mem_cons, List.forall_mem_cons, ih, hc]

end SorobanDeploy.Text
