import SorobanDeploy.Proofs.StateFile.Locality
import SorobanDeploy.Proofs.StateFile.Update

/-!
# What the statements of a text bind

The value of a key is told by the last statement that binds it (`get?_valuesOf`). If lines without
quotes are put behind other lines, they are read as they would be alone: whatever stands before
them, a statement of it ends before they begin, and no quote that it leaves open is closed by them
(`bindings_append`).
-/

namespace SorobanDeploy.StateFile

open Text

/-- The key and the value that a statement binds. -/
def Statement.binds : Statement → Option (String × Option String)
  | .binding key value => some (String.ofList key, value.map String.ofList)
  | _ => none

/-- What the statements of a text bind, in order. -/
def bindings (s : List Char) : List (String × Option String) :=
  (statementsFrom 1 s).filterMap fun found => found.2.binds

/-- The text without the mark in front of it. -/
def unmarked (s : List Char) : List Char :=
  if s.head? = some byteOrderMark then s.drop 1 else s

@[simp] theorem bindings_nil : bindings [] = [] := by
  rw [bindings, statementsFrom_nil]
  rfl

/-- What statements bind does not depend on the numbers of their lines. -/
theorem map_statementsFrom (s : List Char) (m n : Nat) :
    (statementsFrom m s).map (·.2) = (statementsFrom n s).map (·.2) := by
  by_cases hs : s = []
  · rw [hs, statementsFrom_nil, statementsFrom_nil]
  · have hshorter := readStatement_shorter s hs
    obtain ⟨m', hm⟩ := statementsFrom_of_ne_nil hs m
    obtain ⟨n', hn⟩ := statementsFrom_of_ne_nil hs n
    rw [hm, hn, List.map_cons, List.map_cons, map_statementsFrom (readStatement s).2 m' n']
  termination_by s.length

/-- The statements of a text bind what the first one does, and then what the others do. -/
theorem bindings_of_ne_nil {s : List Char} (hs : s ≠ []) :
    bindings s = (readStatement s).1.binds.toList ++ bindings (readStatement s).2 := by
  have hmap : ∀ found : List (Nat × Statement),
      found.filterMap (fun x => x.2.binds) = (found.map (·.2)).filterMap Statement.binds := by
    intro found
    rw [List.filterMap_map]
    rfl
  obtain ⟨n, hn⟩ := statementsFrom_of_ne_nil hs 1
  unfold bindings
  rw [hmap, hmap, map_statementsFrom (readStatement s).2 1 n, hn, List.map_cons,
    List.filterMap_cons]
  cases (readStatement s).1.binds <;> rfl

theorem valuesOf_eq (found : List (Nat × Statement)) :
    valuesOf found = (Pairs.ofList (found.filterMap fun x => x.2.binds)).filterMap fun p =>
      p.2.map fun v => (p.1, v) := by
  have hbinds : ∀ f : Nat × Statement → Option (String × Option String),
      (∀ n st, f (n, st) = st.binds) →
      found.filterMap f = found.filterMap fun x => x.2.binds :=
    fun f hf => congrArg (List.filterMap · found) (funext fun x => hf x.1 x.2)
  unfold valuesOf
  rewrite [hbinds _ fun n st => by cases st <;> rfl]
  rfl

/-- The value of a key is that of the last statement that binds it. -/
theorem get?_valuesOf (key : String) (s : List Char) :
    Pairs.get? key (valuesOf (statements s)) =
      (Pairs.get? key (bindings (unmarked s)).reverse).join := by
  rw [valuesOf_eq, Pairs.get?_filterMap (Pairs.distinct_ofList _), Pairs.get?_ofList]
  rfl

/-- No key is empty. -/
theorem key_ne_nil {s key r : List Char} (h : readKey s = some (some key, r)) : key ≠ [] := by
  unfold readKey at h
  split at h
  · cases h
  · split at h
    · cases h
    · cases h
    · rename_i hnonempty
      obtain ⟨hkey, -⟩ := Prod.mk.inj (Option.some.inj h)
      exact fun hnil => hnonempty ((Option.some.inj hkey).trans hnil)
  · split at h
    · cases h
    · rename_i hnonempty
      obtain ⟨hkey, -⟩ := Prod.mk.inj (Option.some.inj h)
      exact fun hnil => hnonempty ((Option.some.inj hkey).trans hnil)

/-- A statement that binds a key reads it behind blanks and perhaps the word for exports. -/
theorem exists_readKey_of_binds {s : List Char} {x : String × Option String}
    (h : (readStatement s).1.binds = some x) :
    ∃ rest, readKey (skipExport (s.dropWhile isBlank)) = some (some x.1.toList, rest) := by
  unfold readStatement at h
  split at h
  · cases h
  · unfold readBinding at h
    cases hkey : readKey (skipExport (s.dropWhile isBlank)) with
    | none => rw [hkey] at h; cases h
    | some found =>
      obtain ⟨k, afterKey⟩ := found
      rw [hkey] at h
      dsimp only at h
      cases hassigned : readAssigned afterKey with
      | error stopped => rw [hassigned] at h; cases h
      | ok assigned =>
        rw [hassigned] at h
        dsimp only at h
        cases hend : readEnd assigned.2 with
        | none => rw [hend] at h; cases h
        | some rest =>
          rw [hend] at h
          dsimp only at h
          cases k with
          | none => cases h
          | some k =>
            obtain rfl := Option.some.inj h
            exact ⟨afterKey, by rw [String.toList_ofList]⟩

theorem binds_ne_empty {s : List Char} {x : String × Option String}
    (h : (readStatement s).1.binds = some x) : x.1 ≠ "" := by
  obtain ⟨rest, hkey⟩ := exists_readKey_of_binds h
  exact fun hempty => key_ne_nil hkey (by rw [hempty]; rfl)

/-- The empty key is never bound. -/
theorem ne_empty_of_mem_bindings {s : List Char} {x : String × Option String}
    (h : x ∈ bindings s) : x.1 ≠ "" := by
  by_cases hs : s = []
  · rw [hs, bindings_nil] at h
    cases h
  · have hshorter := readStatement_shorter s hs
    rw [bindings_of_ne_nil hs] at h
    rcases List.mem_append.1 h with hfirst | hrest
    · exact binds_ne_empty (Option.mem_toList.1 hfirst)
    · exact ne_empty_of_mem_bindings hrest
  termination_by s.length

/-! ## Blank lines -/

/-- Blanks in front of a text are not read. -/
theorem readStatement_blank_append {b : List Char} (hb : b.dropWhile isBlank = [])
    (s : List Char) : readStatement (b ++ s) = readStatement s := by
  have hdrop : (b ++ s).dropWhile isBlank = s.dropWhile isBlank := by
    rw [List.dropWhile_append, hb]
    rfl
  unfold readStatement
  rw [hdrop]

theorem readStatement_of_blank {b : List Char} (hb : b.dropWhile isBlank = []) :
    readStatement b = (.nothing, []) := by
  unfold readStatement
  rw [hb]

/-- Blanks bind nothing. -/
theorem bindings_blank_append {b : List Char} (hb : b.dropWhile isBlank = [])
    (s : List Char) : bindings (b ++ s) = bindings s := by
  by_cases hs : s = []
  · subst hs
    rw [List.append_nil]
    by_cases hnil : b = []
    · rw [hnil]
    · rw [bindings_of_ne_nil hnil, readStatement_of_blank hb, bindings_nil]
      rfl
  · have hne : b ++ s ≠ [] := List.append_ne_nil_of_right_ne_nil _ hs
    rw [bindings_of_ne_nil hne, readStatement_blank_append hb, ← bindings_of_ne_nil hs]

/-- A blank line is not read. -/
theorem readStatement_blank_line {b : List Char} (hb : b.dropWhile isBlank = [])
    (s : List Char) : readStatement (b ++ '\n' :: s) = readStatement s := by
  have hbreak : ['\n'].dropWhile isBlank = [] := by decide
  rw [readStatement_blank_append hb, ← List.singleton_append, readStatement_blank_append hbreak]

/-- A blank line binds nothing. -/
theorem bindings_blank_line {b : List Char} (hb : b.dropWhile isBlank = [])
    (s : List Char) : bindings (b ++ '\n' :: s) = bindings s := by
  have hbreak : ['\n'].dropWhile isBlank = [] := by decide
  rw [bindings_blank_append hb, ← List.singleton_append, bindings_blank_append hbreak]

/-! ## Lines behind others -/

/-- A text without quotes. -/
def QuoteFree (s : List Char) : Prop := ∀ c ∈ s, c ≠ '\'' ∧ c ≠ '"'

/-- A text without quotes closes none. -/
theorem QuoteFree.not_closedBy {u : List Char} (hu : QuoteFree u) (q : OpenQuote) :
    ¬q.ClosedBy u := by
  have hread : ∀ quote, quote ∉ u → ¬(readQuoted quote u).isSome = true := by
    intro quote hquote hsome
    obtain ⟨⟨v, r⟩, hvr⟩ := Option.isSome_iff_exists.1 hsome
    refine hquote ?_
    rw [readQuoted_eq hvr]
    simp
  cases q with
  | key => exact fun hmem => (hu _ hmem).1 rfl
  | single => exact hread '\'' fun hmem => (hu _ hmem).1 rfl
  | double => exact hread '"' fun hmem => (hu _ hmem).2 rfl

/-- Behind the end of a line, a text without quotes binds what it would bind alone, whatever stands
before. -/
theorem bindings_append (b : List Char) {s : List Char} (hs : QuoteFree s) :
    bindings (b ++ '\n' :: s) = bindings b ++ bindings s := by
  by_cases hb : b.dropWhile isBlank = []
  · have halone := bindings_blank_append hb []
    rw [List.append_nil, bindings_nil] at halone
    rw [bindings_blank_line hb, halone, List.nil_append]
  · -- The first statement is the same with the text and without it.
    have hfree : QuoteFree ('\n' :: s) := by
      intro c hc
      rcases List.mem_cons.1 hc with rfl | hc
      · decide
      · exact hs c hc
    obtain ⟨st, left, hread, hsame⟩ := readStatement_quieter hb (boundary_newline s)
      fun ⟨q, hq⟩ => absurd hq (hfree.not_closedBy q)
    have halone := hsame [] (.inl rfl) fun q hq => absurd hq q.not_closedBy_nil
    have hne : b ≠ [] := by
      rintro rfl
      exact hb rfl
    have hshorter := readStatement_shorter b hne
    rw [List.append_nil] at halone
    rw [halone] at hshorter
    rw [bindings_of_ne_nil (s := b ++ '\n' :: s) (by simp), bindings_of_ne_nil hne, hread, halone]
    cases left with
    | none => simp [leaves]
    | some rest =>
      have hrest : rest.length < b.length := by simpa [leaves] using hshorter
      simp only [leaves, List.append_nil]
      rw [bindings_append rest hs, List.append_assoc]
  termination_by b.length

end SorobanDeploy.StateFile
