import SorobanDeploy.StateFile.Grammar

/-!
# Which values are read back as they stand

A value is written as it stands, but read by a grammar that knows quotes, comments and blanks.
Those come back that begin neither with a blank nor with a quote, do not end with a blank, and have
no number sign right behind a blank (`ReadsBack`), and no others do. For a quoted value the reason
is its length: what stands between quotes is shorter than the value, unless the quotes enclose the
end of the line, and that no value of one line has in it.
-/

namespace SorobanDeploy.StateFile

open Text

/-- A value that is read back as it stands. -/
structure ReadsBack (v : List Char) : Prop where
  start : ∀ c, v.head? = some c → isBlank c = false ∧ c ≠ '\'' ∧ c ≠ '"'
  finish : ∀ c, v.getLast? = some c → isBlank c = false
  /-- No comment begins in the value. -/
  whole : ∀ b, isBlank b = true → ¬[b, '#'] <:+: v

/-! ## Blanks and comments -/

theorem isGap_of_isBlank {c : Char} (hc : isBlank c = true) (hne : c ≠ '\n') : isGap c = true := by
  unfold isGap
  rw [hc, decide_eq_true hne]
  rfl

theorem isBlank_of_isGap {c : Char} (hc : isGap c = true) : isBlank c = true := by
  unfold isGap at hc
  exact (Bool.and_eq_true_iff.1 hc).1

/-- What is stripped at its end is as it was exactly if it does not end with a blank. -/
theorem stripEnd_eq_self_iff (cs : List Char) :
    stripEnd cs = cs ↔ ∀ c, cs.getLast? = some c → isBlank c = false := by
  constructor
  · intro h c hc
    rw [← h] at hc
    exact getLast?_stripEnd cs c hc
  · intro h
    unfold stripEnd
    cases hcs : cs.reverse with
    | nil => rw [List.reverse_eq_nil_iff.1 hcs]; rfl
    | cons c rest =>
      have hlast : cs.getLast? = some c := by
        rw [← List.head?_reverse, hcs]
        rfl
      rw [List.dropWhile_cons_of_neg (by simp [h c hlast]), ← hcs, List.reverse_reverse]

/-- Where only blanks stand between a blank and a number sign, one of them stands right before
it. -/
theorem infix_of_blanks {c : Char} {rest : List Char} (hc : isBlank c = true)
    (h : (rest.dropWhile isBlank).head? = some '#') :
    ∃ b, isBlank b = true ∧ [b, '#'] <:+: c :: rest := by
  induction rest generalizing c with
  | nil => cases h
  | cons d rest ih =>
    by_cases hd : isBlank d = true
    · rw [List.dropWhile_cons_of_pos hd] at h
      obtain ⟨b, hb, hinside⟩ := ih hd h
      exact ⟨b, hb, hinside.trans (List.suffix_cons c _).isInfix⟩
    · rw [List.dropWhile_cons_of_neg hd] at h
      obtain rfl : d = '#' := by simpa using h
      exact ⟨c, hc, (List.prefix_append [c, '#'] rest).isInfix⟩

/-- What is cut before comments is as it was exactly if no number sign stands behind a blank. -/
theorem cutComment_eq_self_iff (cs : List Char) :
    cutComment cs = cs ↔ ∀ b, isBlank b = true → ¬[b, '#'] <:+: cs := by
  induction cs with
  | nil => simp [cutComment]
  | cons c rest ih =>
    unfold cutComment
    by_cases hcut : isBlank c = true ∧ (rest.dropWhile isBlank).head? = some '#'
    · rw [if_pos hcut]
      obtain ⟨b, hb, hinside⟩ := infix_of_blanks hcut.1 hcut.2
      constructor
      · intro h
        cases h
      · exact fun h => absurd hinside (h b hb)
    · rw [if_neg hcut, List.cons.injEq, and_iff_right rfl, ih]
      constructor
      · intro h b hb hinside
        rcases List.infix_cons_iff.1 hinside with hprefix | hinner
        · obtain ⟨rfl, after, hrest⟩ := List.cons_prefix_cons.1 hprefix
          refine hcut ⟨hb, ?_⟩
          rw [← hrest, List.singleton_append, List.dropWhile_cons_of_neg (by decide)]
          rfl
        · exact h b hb hinner
      · exact fun h b hb hinside => h b hb (hinside.trans (List.suffix_cons c rest).isInfix)

theorem cutComment_isPrefix (cs : List Char) : cutComment cs <+: cs := by
  induction cs with
  | nil => exact List.nil_prefix
  | cons c rest ih =>
    unfold cutComment
    split
    · exact List.nil_prefix
    · exact (List.prefix_cons_inj c).2 ih

theorem stripEnd_isPrefix (cs : List Char) : stripEnd cs <+: cs := by
  unfold stripEnd
  have hsuffix := List.reverse_prefix.2 (List.dropWhile_suffix (l := cs.reverse) isBlank)
  rwa [List.reverse_reverse] at hsuffix

/-! ## Quotes -/

/-- What is read between quotes stands between them. -/
theorem readQuoted_eq {quote : Char} {s v rest : List Char}
    (h : readQuoted quote s = some (v, rest)) : s = v ++ quote :: rest := by
  fun_induction readQuoted quote s generalizing v with
  | case1 => cases h
  | case2 c r ih =>
    obtain ⟨⟨w, t⟩, hw, heq⟩ := Option.map_eq_some_iff.1 h
    obtain ⟨rfl, rfl⟩ := Prod.mk.inj heq
    rw [ih hw]
    rfl
  | case3 =>
    obtain ⟨rfl, rfl⟩ := Prod.mk.inj (Option.some.inj h)
    rfl
  | case4 c r _ _ ih =>
    obtain ⟨⟨w, t⟩, hw, heq⟩ := Option.map_eq_some_iff.1 h
    obtain ⟨rfl, rfl⟩ := Prod.mk.inj heq
    rw [ih hw]
    rfl

/-- Escapes become shorter when they are replaced. -/
theorem length_unescape_le (table : Char → Option Char) (cs : List Char) :
    (unescape table cs).length ≤ cs.length := by
  fun_induction unescape table cs with
  | case1 c rest x hx ih => simp only [List.length_cons]; omega
  | case2 c rest hx ih => simp only [List.length_cons]; omega
  | case3 c rest _ ih => simp only [List.length_cons]; omega
  | case4 => exact Nat.le_refl 0

/-- A newline stays where escapes are replaced, unless it is escaped itself. -/
theorem newline_mem_unescape {table : Char → Option Char} (htable : table '\n' = none)
    {cs : List Char} (h : '\n' ∈ cs) : '\n' ∈ unescape table cs := by
  fun_induction unescape table cs with
  | case1 c rest x hx ih =>
    have hc : '\n' ≠ c := by
      rintro rfl
      cases htable.symm.trans hx
    have hrest : '\n' ∈ rest := by simpa [hc] using h
    exact List.mem_cons_of_mem _ (ih hrest)
  | case2 c rest hx ih =>
    have hmem : '\n' = c ∨ '\n' ∈ rest := by simpa using h
    rcases hmem with rfl | hrest
    · exact List.mem_cons_of_mem _ List.mem_cons_self
    · exact List.mem_cons_of_mem _ (List.mem_cons_of_mem _ (ih hrest))
  | case3 c rest _ ih =>
    rcases List.mem_cons.1 h with rfl | hrest
    · exact List.mem_cons_self
    · exact List.mem_cons_of_mem _ (ih hrest)
  | case4 => cases h

/-- What a quoted value is read as is not as long as the value, or it has a newline in it. -/
theorem quoted_shorter {quote : Char} {table : Char → Option Char} (htable : table '\n' = none)
    (hquote : quote ≠ '\n') {v rest inner r : List Char}
    (h : readQuoted quote (v ++ '\n' :: rest) = some (inner, r)) :
    (unescape table inner).length ≤ v.length ∨ '\n' ∈ unescape table inner := by
  have heq := readQuoted_eq h
  rcases List.append_eq_append_iff.1 heq with ⟨more, hinner, hrest⟩ | ⟨more, hv, hrest⟩
  · -- The quotes enclose the end of the line.
    cases more with
    | nil =>
      obtain ⟨hnewline, -⟩ := List.cons.inj hrest
      exact absurd hnewline.symm hquote
    | cons c more =>
      obtain ⟨rfl, -⟩ := List.cons.inj hrest
      exact .inr (newline_mem_unescape htable (by rw [hinner]; simp))
  · refine .inl (Nat.le_trans (length_unescape_le table inner) ?_)
    rw [hv, List.length_append]
    exact Nat.le_add_right _ _

/-! ## Values -/

/-- Whether a text begins like a quoted value. -/
def Quoted (s : List Char) : Prop := s.head? = some '\'' ∨ s.head? = some '"'

theorem readPlacedValue_of_not_quoted {s : List Char} (h : ¬Quoted s) :
    readPlacedValue s =
      some (stripEnd (cutComment (s.takeWhile (· ≠ '\n'))), s.dropWhile (· ≠ '\n')) := by
  unfold readPlacedValue
  split
  · exact absurd (.inl rfl) h
  · exact absurd (.inr rfl) h
  · rfl

theorem takeWhile_line {v : List Char} (hv : '\n' ∉ v) (rest : List Char) :
    (v ++ '\n' :: rest).takeWhile (· ≠ '\n') = v := by
  rw [List.takeWhile_append_of_pos fun c hc => by
    simpa using fun heq : c = '\n' => hv (heq ▸ hc)]
  simp

theorem dropWhile_line {v : List Char} (hv : '\n' ∉ v) (rest : List Char) :
    (v ++ '\n' :: rest).dropWhile (· ≠ '\n') = '\n' :: rest := by
  rw [List.dropWhile_append_of_pos fun c hc => by
    simpa using fun heq : c = '\n' => hv (heq ▸ hc)]
  simp

/-- The blanks in front of a value end before the newline behind it. -/
theorem dropWhile_isGap_line (v rest : List Char) :
    (v ++ '\n' :: rest).dropWhile isGap = v.dropWhile isGap ++ '\n' :: rest := by
  induction v with
  | nil => rfl
  | cons c v ih =>
    by_cases hc : isGap c = true
    · rw [List.cons_append, List.dropWhile_cons_of_pos hc, List.dropWhile_cons_of_pos hc, ih]
    · rw [List.cons_append, List.dropWhile_cons_of_neg hc, List.dropWhile_cons_of_neg hc,
        List.cons_append]

/-- A value that reads back is read as it stands, up to the end of its line. -/
theorem ReadsBack.readValue_eq {v : List Char} (h : ReadsBack v) (hv : '\n' ∉ v)
    (rest : List Char) : readValue (v ++ '\n' :: rest) = .ok (v, '\n' :: rest) := by
  -- Nothing is dropped in front, no quote is met, and nothing is cut or stripped behind.
  have hgap : v.dropWhile isGap = v := by
    cases v with
    | nil => rfl
    | cons c v =>
      refine List.dropWhile_cons_of_neg fun hc => ?_
      have hblank := isBlank_of_isGap hc
      rw [(h.start c rfl).1] at hblank
      cases hblank
  have hquoted : ¬Quoted (v ++ '\n' :: rest) := by
    cases v with
    | nil => simp [Quoted]
    | cons c v =>
      obtain ⟨-, hsingle, hdouble⟩ := h.start c rfl
      simp [Quoted, hsingle, hdouble]
  have hcut := (cutComment_eq_self_iff v).2 h.whole
  have hstrip := (stripEnd_eq_self_iff v).2 h.finish
  unfold readValue
  dsimp only
  rw [dropWhile_isGap_line, hgap, if_neg fun hshort => Nat.lt_irrefl _ hshort.1,
    readPlacedValue_of_not_quoted hquoted, takeWhile_line hv, dropWhile_line hv, hcut, hstrip]

/-- A quoted value is not read as it stands. -/
theorem ne_of_quoted {x w rest r : List Char} (hx : '\n' ∉ x) (hquoted : Quoted x)
    (h : readPlacedValue (x ++ '\n' :: rest) = some (w, r)) :
    w.length < x.length ∨ '\n' ∈ w := by
  cases x with
  | nil => cases hquoted <;> rename_i hnone <;> cases hnone
  | cons c x =>
    rcases hquoted with hc | hc
    · obtain rfl := Option.some.inj hc
      obtain ⟨⟨inner, after⟩, hinner, heq⟩ := Option.map_eq_some_iff.1 h
      obtain ⟨rfl, -⟩ := Prod.mk.inj heq
      exact (quoted_shorter rfl (by decide) hinner).imp_left Nat.lt_succ_of_le
    · obtain rfl := Option.some.inj hc
      obtain ⟨⟨inner, after⟩, hinner, heq⟩ := Option.map_eq_some_iff.1 h
      obtain ⟨rfl, -⟩ := Prod.mk.inj heq
      exact (quoted_shorter rfl (by decide) hinner).imp_left Nat.lt_succ_of_le

/-- A line that is a value once it lost its front, its comment and its blanks has lost nothing. -/
theorem eq_of_stripEnd_cutComment {x v : List Char} (hsuffix : x <:+ v)
    (h : stripEnd (cutComment x) = v) : x = v ∧ cutComment v = v ∧ stripEnd v = v := by
  have hstripped := (stripEnd_isPrefix (cutComment x)).length_le
  have hcut := (cutComment_isPrefix x).length_le
  have hall := hsuffix.length_le
  have hlength := congrArg List.length h
  have hxv : x = v := hsuffix.eq_of_length_le (by omega)
  have hcutx : cutComment x = x := (cutComment_isPrefix x).eq_of_length (by omega)
  subst hxv
  rw [hcutx] at h
  exact ⟨rfl, hcutx, h⟩

/-- What has no blanks to drop in front does not begin with one. -/
theorem not_isBlank_of_dropWhile {v : List Char} {c : Char} (hv : '\n' ∉ v)
    (h : v.dropWhile isGap = v) (hc : v.head? = some c) : isBlank c = false := by
  refine Bool.eq_false_iff.2 fun hblank => ?_
  have hnewline : c ≠ '\n' := by
    rintro rfl
    exact hv (List.mem_of_mem_head? hc)
  have hhead := List.head?_dropWhile_not isGap v
  rw [h, hc] at hhead
  have hnot : isGap c = false := hhead
  rw [isGap_of_isBlank hblank hnewline] at hnot
  cases hnot

/-- Only a value that reads back is read as it stands. -/
theorem readsBack_of_readValue {v rest r : List Char} (hv : '\n' ∉ v)
    (h : readValue (v ++ '\n' :: rest) = .ok (v, r)) : ReadsBack v := by
  unfold readValue at h
  dsimp only at h
  rw [dropWhile_isGap_line] at h
  have hsuffix : v.dropWhile isGap <:+ v := List.dropWhile_suffix _
  have hx : '\n' ∉ v.dropWhile isGap := fun hmem => hv (hsuffix.subset hmem)
  generalize hdropped : v.dropWhile isGap = x at h hsuffix hx
  split at h
  · -- A comment behind blanks leaves nothing, but then there were blanks.
    rename_i hcomment
    obtain ⟨rfl, -⟩ := Prod.mk.inj (Except.ok.inj h)
    rw [← hdropped] at hcomment
    exact absurd hcomment.1 (Nat.lt_irrefl _)
  · cases hplaced : readPlacedValue (x ++ '\n' :: rest) with
    | none => rw [hplaced] at h; cases h
    | some found =>
      rw [hplaced] at h
      cases h
      have hquoted : ¬Quoted x := by
        intro hquoted
        rcases ne_of_quoted hx hquoted hplaced with hlength | hnewline
        · exact absurd hsuffix.length_le (Nat.not_le.2 hlength)
        · exact hv hnewline
      have hline : ¬Quoted (x ++ '\n' :: rest) := by
        cases x with
        | nil => simp [Quoted]
        | cons c x => simpa [Quoted] using hquoted
      rw [readPlacedValue_of_not_quoted hline, takeWhile_line hx] at hplaced
      obtain ⟨hread, -⟩ := Prod.mk.inj (Option.some.inj hplaced)
      obtain ⟨rfl, hcut, hstrip⟩ := eq_of_stripEnd_cutComment hsuffix hread
      refine ⟨fun c hc => ⟨not_isBlank_of_dropWhile hv hdropped hc, ?_, ?_⟩,
        (stripEnd_eq_self_iff x).1 hstrip, (cutComment_eq_self_iff x).1 hcut⟩
      · rintro rfl
        exact hquoted (.inl hc)
      · rintro rfl
        exact hquoted (.inr hc)

end SorobanDeploy.StateFile
