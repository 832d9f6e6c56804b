import SorobanDeploy.Proofs.Pairs.Assignment
import SorobanDeploy.Proofs.Text.Lines
import SorobanDeploy.StateFile.Update

/-!
# Writing the same values twice

`updated` keeps the lines that bind none of the written keys and puts one line for each key behind
them (`putLines_eq`). Written lines are read as their pieces, so what a value leaves behind is told
by the pieces of it after the first: the next writing of the same keys keeps those that bind no key
(`leftovers`) and takes away the rest. `updated_updated_eq_iff` says that the second writing changes
nothing exactly if nothing is left over.
-/

namespace SorobanDeploy.StateFile

open Text

variable {values : Pairs String String}

/-- Whether a line binds none of the keys that are written. -/
def isKept (values : Pairs String String) (l : List Char) : Bool :=
  values.all fun p => !bindsKey p.1 l

/-- The lines of the values that are written. -/
def recorded (values : Pairs String String) : List (List Char) :=
  values.map fun p => line p.1 p.2

/-- The lines that earlier writings of the values leave behind: pieces of values after the first
that bind no key. -/
def leftovers (values : Pairs String String) : List (List Char) :=
  (values.flatMap fun p => (pieces p.2.toList).tail).filter (isKept values)

/-- Values that can be written side by side: no key is there twice, and no key has an equals sign or
a line break in it. -/
structure Writable (values : Pairs String String) : Prop where
  some : values ≠ []
  distinct : values.Pairwise fun p q => p.1 ≠ q.1
  plain : ∀ p ∈ values, '=' ∉ p.1.toList
  whole : ∀ p ∈ values, ∀ c ∈ p.1.toList, isLineBreak c = false

/-! ## Keys and lines -/

/-- What stands before the first equals sign decides which key a line binds. -/
theorem bindsKey_append {key k : String} {rest : List Char} (hkey : '=' ∉ key.toList)
    (hk : '=' ∉ k.toList) : bindsKey key (k.toList ++ '=' :: rest) = true ↔ key = k := by
  unfold bindsKey
  rw [List.isPrefixOf_iff_prefix]
  constructor
  · rintro ⟨after, hafter⟩
    have htake : ∀ {l m : List Char}, '=' ∉ l → (l ++ '=' :: m).takeWhile (· ≠ '=') = l := by
      intro l m hl
      rw [List.takeWhile_append_of_pos fun c hc => by
        simpa using fun heq : c = '=' => hl (heq ▸ hc)]
      simp
    have hboth : key.toList = k.toList := by
      calc key.toList
          = (key.toList ++ '=' :: after).takeWhile (· ≠ '=') := (htake hkey).symm
        _ = (k.toList ++ '=' :: rest).takeWhile (· ≠ '=') := by rw [← hafter]; simp
        _ = k.toList := htake hk
    exact String.toList_inj.1 hboth
  · rintro rfl
    exact ⟨rest, by simp⟩

/-- Two keys that one line binds are the same, unless the second one begins with the first one and
an equals sign. -/
theorem eq_of_bindsKey {key k : String} {l : List Char} (hkey : '=' ∉ key.toList)
    (h : bindsKey key l = true) (hk : bindsKey k l = true) :
    k = key ∨ bindsKey key k.toList = true := by
  unfold bindsKey at h hk ⊢
  rw [List.isPrefixOf_iff_prefix] at h hk ⊢
  obtain ⟨a, rfl⟩ := h
  obtain ⟨b, hb⟩ := hk
  simp only [List.append_assoc, List.singleton_append] at hb
  rcases List.append_eq_append_iff.1 hb with ⟨more, hkey', hmore⟩ | ⟨more, hk', hmore⟩
  · -- The first key is the longer one, so the equals sign behind the second one is in it.
    cases more with
    | nil => exact .inl (String.toList_inj.1 (by simpa using hkey'.symm))
    | cons c more =>
      obtain ⟨rfl, -⟩ := List.cons.inj hmore
      rw [hkey'] at hkey
      exact absurd (List.mem_append_right _ List.mem_cons_self) hkey
  · cases more with
    | nil => exact .inl (String.toList_inj.1 (by simpa using hk'))
    | cons c more =>
      obtain ⟨rfl, -⟩ := List.cons.inj hmore
      rw [hk']
      exact .inr ⟨more, by simp⟩

/-- A key that does not begin with another one and an equals sign leaves the lines of the other
one. -/
theorem filter_putLine_of_ne {key k : String} (hkey : '=' ∉ key.toList) (hne : k ≠ key)
    (hk : bindsKey key k.toList = false) (ls : List (List Char)) (value : String) :
    (putLine ls k value).filter (bindsKey key) = ls.filter (bindsKey key) := by
  have happart : ∀ l, bindsKey k l = true → bindsKey key l = false := by
    intro l hl
    refine Bool.eq_false_iff.2 fun hl' => ?_
    rcases eq_of_bindsKey hkey hl' hl with heq | hbegins
    · exact hne heq
    · rw [hk] at hbegins
      cases hbegins
  have hline := happart _ (StateFile.bindsKey_line k value)
  have hkept : ∀ l, bindsKey key l = true → bindsKey k l = false := fun l hl =>
    Bool.eq_false_iff.2 fun hl' => by rw [happart l hl'] at hl; cases hl
  rw [putLine, List.filter_append, List.filter_filter, List.filter_cons_of_neg (by simp [hline]),
    List.filter_nil, List.append_nil]
  refine List.filter_congr fun l _ => ?_
  cases hl : bindsKey key l with
  | true => simp [hkept l hl]
  | false => rfl

/-- A key that is not written keeps its lines, if no written key begins with it and an equals
sign. -/
theorem filter_putLines_of_ne {key : String} (hkey : '=' ∉ key.toList)
    (hne : ∀ p ∈ values, p.1 ≠ key) (hplain : ∀ p ∈ values, bindsKey key p.1.toList = false)
    (ls : List (List Char)) :
    (putLines ls values).filter (bindsKey key) = ls.filter (bindsKey key) := by
  unfold putLines
  induction values generalizing ls with
  | nil => rfl
  | cons p rest ih =>
    have hrest := ih (fun q hq => hne q (List.mem_cons_of_mem _ hq))
      fun q hq => hplain q (List.mem_cons_of_mem _ hq)
    rw [List.foldl_cons, hrest]
    exact filter_putLine_of_ne hkey (hne p List.mem_cons_self) (hplain p List.mem_cons_self) ls p.2

/-- A key that is written has one line, under its value, if no written key begins with it and an
equals sign. -/
theorem filter_putLines {key value : String} (hkey : '=' ∉ key.toList)
    (hdistinct : Pairs.Distinct values) (hmem : (key, value) ∈ values)
    (hplain : ∀ p ∈ values, bindsKey key p.1.toList = false) (ls : List (List Char)) :
    (putLines ls values).filter (bindsKey key) = [line key value] := by
  induction values generalizing ls with
  | nil => cases hmem
  | cons p rest ih =>
    obtain ⟨hp, hrest⟩ := List.pairwise_cons.1 hdistinct
    have htail : ∀ q ∈ rest, bindsKey key q.1.toList = false := fun q hq =>
      hplain q (List.mem_cons_of_mem _ hq)
    change (putLines (putLine ls p.1 p.2) rest).filter (bindsKey key) = _
    rcases List.mem_cons.1 hmem with rfl | hmem
    · -- The lines of the key are those of its own writing; the other keys leave them.
      rw [filter_putLines_of_ne hkey (fun q hq => (hp q hq).symm) htail, putLine,
        List.filter_append, List.filter_filter]
      have hnone : (fun l => bindsKey key l && !bindsKey key l) = fun _ => false := by
        funext l
        cases bindsKey key l <;> rfl
      rw [hnone]
      simp [StateFile.bindsKey_line]
    · exact ih hrest hmem htail _

/-- A text without an equals sign binds no key. -/
theorem bindsKey_of_plain (key : String) {l : List Char} (h : '=' ∉ l) :
    bindsKey key l = false := by
  refine Bool.eq_false_iff.2 fun hbinds => h ?_
  unfold bindsKey at hbinds
  rw [List.isPrefixOf_iff_prefix] at hbinds
  exact hbinds.subset (List.mem_append_right _ (List.mem_singleton_self _))

/-- A line that binds a later key is not that of an earlier one, if no key is there twice and none
has an equals sign in it. -/
theorem pairwise_bindsKey_line (hdistinct : Pairs.Distinct values)
    (hplain : ∀ p ∈ values, '=' ∉ p.1.toList) :
    values.Pairwise fun p q => bindsKey q.1 (line p.1 p.2) = false := by
  refine hdistinct.imp_of_mem fun {p q} hp hq hne => ?_
  refine Bool.eq_false_iff.2 fun hbinds => hne ?_
  exact ((bindsKey_append (hplain q hq) (hplain p hp)).1 hbinds).symm

/-- The lines of the values that no later key takes away. -/
def remaining : Pairs String String → List (List Char)
  | [] => []
  | p :: rest =>
    if isKept rest (line p.1 p.2) then line p.1 p.2 :: remaining rest else remaining rest

/-- Writing keeps the lines that bind no key and puts those of the values behind them, as far as
they remain. -/
theorem putLines_eq_remaining (values : Pairs String String) (ls : List (List Char)) :
    putLines ls values = ls.filter (isKept values) ++ remaining values := by
  unfold putLines
  induction values generalizing ls with
  | nil =>
    have hall : ∀ l ∈ ls, isKept [] l = true := fun l _ => rfl
    rw [List.filter_eq_self.2 hall]
    exact (List.append_nil ls).symm
  | cons p rest ih =>
    have hboth : (fun l => isKept rest l && !bindsKey p.1 l) = isKept (p :: rest) :=
      funext fun l => Bool.and_comm _ _
    rw [List.foldl_cons, ih, putLine, List.filter_append, List.filter_filter, hboth, remaining,
      List.append_assoc]
    cases hline : isKept rest (line p.1 p.2) with
    | true => rw [List.filter_cons_of_pos hline, if_pos rfl, List.filter_nil, List.singleton_append]
    | false =>
      rw [List.filter_cons_of_neg (by simp [hline]), if_neg Bool.false_ne_true, List.filter_nil,
        List.nil_append]

theorem length_remaining_le (values : Pairs String String) :
    (remaining values).length ≤ values.length := by
  induction values with
  | nil => exact Nat.le_refl 0
  | cons p rest ih =>
    unfold remaining
    split
    · exact Nat.succ_le_succ ih
    · exact Nat.le_succ_of_le ih

/-- All lines of the values remain exactly if no key is one that the line of an earlier value
binds. -/
theorem remaining_eq_recorded_iff (values : Pairs String String) :
    remaining values = recorded values ↔
      values.Pairwise fun p q => bindsKey q.1 (line p.1 p.2) = false := by
  induction values with
  | nil => exact ⟨fun _ => .nil, fun _ => rfl⟩
  | cons p rest ih =>
    have hkept : isKept rest (line p.1 p.2) = true ↔
        ∀ q ∈ rest, bindsKey q.1 (line p.1 p.2) = false := by
      simp [isKept]
    have hrecorded : recorded (p :: rest) = line p.1 p.2 :: recorded rest := rfl
    rw [List.pairwise_cons, ← ih, ← hkept, remaining, hrecorded]
    split
    · rename_i h
      simp [h]
    · rename_i h
      -- A line that is missing is missed in the length.
      have hshort := length_remaining_le rest
      refine ⟨fun heq => ?_, fun hboth => absurd hboth.1 h⟩
      have hlength := congrArg List.length heq
      rw [List.length_cons, recorded, List.length_map] at hlength
      omega

/-- Writing keeps the lines that bind no key and puts those of the values behind them. -/
theorem putLines_eq {values : Pairs String String}
    (h : values.Pairwise fun p q => bindsKey q.1 (line p.1 p.2) = false)
    (ls : List (List Char)) :
    putLines ls values = ls.filter (isKept values) ++ recorded values := by
  rw [putLines_eq_remaining, (remaining_eq_recorded_iff values).2 h]

/-! ## What is read of what was written -/

/-- The first piece of a value's line binds its key; the others are those of the value. -/
theorem pieces_line (hw : Writable values) {p : String × String} (hp : p ∈ values) :
    ∃ l, bindsKey p.1 l = true ∧ pieces (line p.1 p.2) = l :: (pieces p.2.toList).tail := by
  obtain ⟨m, ms, hvalue⟩ := exists_pieces p.2.toList
  have hclean : ∀ c ∈ p.1.toList ++ ['='], isLineBreak c = false := by
    intro c hc
    rcases List.mem_append.1 hc with hc | hc
    · exact hw.whole p hp c hc
    · obtain rfl := List.mem_singleton.1 hc
      rfl
  refine ⟨p.1.toList ++ ['='] ++ m, ?_, ?_⟩
  · unfold bindsKey
    rw [List.isPrefixOf_iff_prefix]
    exact List.prefix_append _ _
  · have hread := lines_append_of_clean hclean hvalue
    rw [hvalue, List.tail_cons, ← hread]
    simp [pieces, line]

/-- Of the written lines, the next writing of the same keys keeps the leftovers. -/
theorem filter_pieces_recorded (hw : Writable values) :
    ((recorded values).flatMap pieces).filter (isKept values) = leftovers values := by
  unfold recorded leftovers
  rw [List.flatMap_map]
  -- The filter is that of all values, while the induction is on the values that are written.
  suffices h : ∀ written : Pairs String String, (∀ p ∈ written, p ∈ values) →
      (written.flatMap fun p => pieces (line p.1 p.2)).filter (isKept values) =
        (written.flatMap fun p => (pieces p.2.toList).tail).filter (isKept values) from
    h values fun p hp => hp
  intro written hsub
  induction written with
  | nil => rfl
  | cons p rest ih =>
    have hp := hsub p List.mem_cons_self
    obtain ⟨l, hbinds, hpieces⟩ := pieces_line hw hp
    have hl : isKept values l = false := by
      refine Bool.eq_false_iff.2 fun hkept => ?_
      have hnot := List.all_eq_true.1 hkept p hp
      rw [hbinds] at hnot
      cases hnot
    rw [List.flatMap_cons, List.flatMap_cons, hpieces, List.filter_append, List.filter_append,
      List.filter_cons_of_neg (by simp [hl]), ih fun q hq => hsub q (List.mem_cons_of_mem _ hq)]

/-- The text that writing leaves: the kept lines, then the values. -/
theorem updated_eq (hw : Writable values) (old : List Char) :
    updated old values = unlines ((lines old).filter (isKept values) ++ recorded values) := by
  unfold updated
  rw [putLines_eq (pairwise_bindsKey_line hw.distinct hw.plain)]

theorem recorded_ne_nil (hw : Writable values) : recorded values ≠ [] := by
  unfold recorded
  simpa using hw.some

/-- The text that a second writing of the same values leaves: the leftovers stand between the kept
lines and the values. -/
theorem updated_updated (hw : Writable values) (old : List Char) :
    updated (updated old values) values =
      unlines ((lines old).filter (isKept values) ++ (leftovers values ++ recorded values)) := by
  have hkept : ((lines old).filter (isKept values)).flatMap pieces =
      (lines old).filter (isKept values) :=
    flatMap_pieces_of_subset fun l hl => (List.mem_filter.1 hl).1
  have hread : lines (updated old values) =
      (lines old).filter (isKept values) ++ (recorded values).flatMap pieces := by
    rw [updated_eq hw, lines_unlines_eq _ (by simp [recorded_ne_nil hw]), List.flatMap_append,
      hkept]
  rw [updated_eq hw, hread, List.filter_append, List.filter_filter, filter_pieces_recorded hw]
  simp

/-- A second writing of the same values changes nothing exactly if nothing is left over. -/
theorem updated_updated_eq_iff (hw : Writable values) (old : List Char) :
    updated (updated old values) values = updated old values ↔ leftovers values = [] := by
  have hne := recorded_ne_nil hw
  constructor
  · intro h
    rw [updated_updated hw, updated_eq hw, unlines_append _ _ (by simp [hne]),
      unlines_append _ _ hne, unlines_append _ _ hne] at h
    -- Behind the kept lines the leftovers would stand in front of the same text again.
    have hnone : (leftovers values).flatMap (· ++ ['\n']) = [] :=
      List.append_left_eq_self.1 (List.append_cancel_left h)
    refine List.eq_nil_iff_forall_not_mem.2 fun l hl => ?_
    have hline := List.flatMap_eq_nil_iff.1 hnone l hl
    exact List.append_ne_nil_of_right_ne_nil l (List.cons_ne_nil _ _) hline
  · intro h
    rw [updated_updated hw, updated_eq hw, h, List.nil_append]

/-- Values without line breaks leave nothing over. -/
theorem leftovers_of_clean (h : ∀ p ∈ values, ∀ c ∈ p.2.toList, isLineBreak c = false) :
    leftovers values = [] := by
  have hnone : (values.flatMap fun p => (pieces p.2.toList).tail) = [] := by
    refine List.flatMap_eq_nil_iff.2 fun p hp => ?_
    rw [pieces_of_clean (h p hp)]
    rfl
  rw [leftovers, hnone, List.filter_nil]

/-- Writing adds no line but those of the values. -/
theorem mem_putLines {ls : List (List Char)} {l : List Char} (h : l ∈ putLines ls values) :
    l ∈ ls ∨ ∃ p ∈ values, l = line p.1 p.2 := by
  unfold putLines at h
  induction values generalizing ls with
  | nil => exact .inl h
  | cons p rest ih =>
    rcases ih h with hput | ⟨q, hq, hl⟩
    · rcases List.mem_append.1 hput with hold | hnew
      · exact .inl (List.mem_filter.1 hold).1
      · exact .inr ⟨p, List.mem_cons_self, List.mem_singleton.1 hnew⟩
    · exact .inr ⟨q, List.mem_cons_of_mem _ hq, hl⟩

/-- Writing values without carriage returns makes a text without any. -/
theorem carriageReturn_not_mem_updated (hkeys : ∀ p ∈ values, '\r' ∉ p.1.toList)
    (hvalues : ∀ p ∈ values, '\r' ∉ p.2.toList) (old : List Char) :
    '\r' ∉ updated old values := by
  refine not_mem_unlines (by decide) fun l hl hc => ?_
  rcases mem_putLines hl with hold | ⟨p, hp, rfl⟩
  · cases isLineBreak_of_mem_lines hold _ hc
  · rcases List.mem_append.1 hc with hkey | hvalue
    · exact hkeys p hp hkey
    · exact hvalues p hp (by simpa using hvalue)

theorem Writable.carriageReturn_not_mem (hw : Writable values) :
    ∀ p ∈ values, '\r' ∉ p.1.toList := by
  intro p hp hmem
  cases hw.whole p hp _ hmem

end SorobanDeploy.StateFile
