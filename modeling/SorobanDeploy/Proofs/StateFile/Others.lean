import SorobanDeploy.Proofs.StateFile.RoundTrip

/-!
# Writing leaves the other keys

Writing takes lines away, while a statement may take several of them. Lines that a statement keeps
all are read as before, since fewer lines behind them close no more quotes, and of lines that a
statement loses all, the first one binds a written key or nothing (`Undivided.bindings_kept`). So
where no statement is divided (`Undivided`), each key that is not written has the same value as
before (`get?_kept_of_ne`). In general it has what the kept lines alone give it
(`get?_updated_of_ne`). `upsert_leaves_others` says both of saving and loading.

The mark in front of a text is not read. It can be lost with the first line, and a later line can
come to be the first one; `MarkStays` says that neither happens.
-/

namespace SorobanDeploy

open Act

variable {σ : Type}

namespace StateFile

open Text

variable {values : Pairs String String} {old : List Char}

/-- A text whose lines all end with newlines. -/
def OnlyNewlines (s : List Char) : Prop := ∀ c ∈ s, isLineBreak c = true → c = '\n'

instance (s : List Char) : Decidable (OnlyNewlines s) :=
  decidable_of_iff (s.all (fun c => !isLineBreak c || c == '\n') = true) <| by
    simp only [List.all_eq_true, Bool.or_eq_true, Bool.not_eq_true', beq_iff_eq]
    refine forall₂_congr fun c _ => ?_
    cases isLineBreak c <;> simp

/-- The lines of a text as they are read, without the mark in front, and whether writing keeps
them. -/
def markedLines (values : Pairs String String) (old : List Char) : List (List Char × Bool) :=
  match lines old with
  | [] => []
  | l :: ls => (unmarked l, isKept values l) :: ls.map fun m => (m, isKept values m)

/-- The text of such lines. -/
def textOf (ls : List (List Char × Bool)) : List Char := body (ls.map (·.1))

/-- Lines of which no statement is divided: each one keeps all its lines, or loses all but blank
ones. -/
inductive Undivided : List (List Char × Bool) → Prop
  | nil : Undivided []
  | stays (group rest : List (List Char × Bool)) (some : group ≠ [])
      (kept : ∀ x ∈ group, x.2 = true)
      (read : (readStatement (textOf (group ++ rest))).2 = textOf rest) (others : Undivided rest) :
      Undivided (group ++ rest)
  | goes (group rest : List (List Char × Bool)) (some : group ≠ [])
      (lost : ∀ x ∈ group, x.2 = true → x.1.dropWhile isBlank = [])
      (read : (readStatement (textOf (group ++ rest))).2 = textOf rest) (others : Undivided rest) :
      Undivided (group ++ rest)

/-- A mark in front of a text stays there, and none comes to be there. -/
def MarkStays (values : Pairs String String) (old : List Char) : Prop :=
  if old.head? = some byteOrderMark then (lines old).head?.any (isKept values) = true
  else (updated old values).head? ≠ some byteOrderMark

/-! ## Fewer lines -/

theorem textOf_append (ks ls : List (List Char × Bool)) :
    textOf (ks ++ ls) = textOf ks ++ textOf ls := by
  unfold textOf
  rw [List.map_append, body_append]

/-- A quoted value is closed by lines exactly if one of them closes it. -/
theorem readQuoted_body {quote : Char} (hquote : quote ≠ '\n' ∧ quote ≠ '\\')
    (ls : List (List Char)) : (readQuoted quote ('\n' :: body ls)).isSome = true ↔
      ∃ l ∈ ls, (readQuoted quote (l ++ ['\n'])).isSome = true := by
  have hnewline : ∀ s, (readQuoted quote ('\n' :: s)).isSome = (readQuoted quote s).isSome := by
    intro s
    rw [readQuoted_cons (by decide), if_neg hquote.1.symm, Option.isSome_map]
  induction ls with
  | nil => simp [body, readQuoted, hquote.1.symm]
  | cons l ls ih =>
    rw [hnewline, body_cons]
    simp only [List.mem_cons, exists_eq_or_imp]
    rcases readQuoted_boundary hquote l with ⟨v, r, hclosed⟩ | hopen
    · rw [hclosed _ (boundary_newline (body ls)), hclosed _ (boundary_newline [])]
      simp
    · have hsame : ∀ u, Boundary u →
          (readQuoted quote (l ++ u)).isSome = (readQuoted quote u).isSome := by
        intro u hu
        rw [← Option.isSome_map (f := (·.2)), hopen u hu, Option.isSome_map]
      have hnone : (readQuoted quote ['\n']).isSome = false := by rw [hnewline]; rfl
      rw [hsame _ (boundary_newline (body ls)), hsame _ (boundary_newline []), hnone]
      simpa using ih

/-- Fewer lines close no more quotes. -/
theorem closedBy_of_subset {ks ls : List (List Char)} (hsub : ks ⊆ ls) (q : OpenQuote)
    (h : q.ClosedBy ('\n' :: body ks)) : q.ClosedBy ('\n' :: body ls) := by
  cases q with
  | key =>
    have hmem : '\'' ∈ body ks := (List.mem_cons.1 h).resolve_left (by decide)
    obtain ⟨l, hl, hc⟩ := List.mem_flatMap.1 hmem
    exact List.mem_cons_of_mem _ (List.mem_flatMap.2 ⟨l, hsub hl, hc⟩)
  | single =>
    obtain ⟨l, hl, hc⟩ := (readQuoted_body (by decide) ks).1 h
    exact (readQuoted_body (by decide) ls).2 ⟨l, hsub hl, hc⟩
  | double =>
    obtain ⟨l, hl, hc⟩ := (readQuoted_body (by decide) ks).1 h
    exact (readQuoted_body (by decide) ls).2 ⟨l, hsub hl, hc⟩

/-- The text of lines, of which there are some, ends with a newline. -/
theorem exists_textOf_eq {group : List (List Char × Bool)} (hne : group ≠ []) :
    ∃ b, ∀ rest, textOf (group ++ rest) = b ++ '\n' :: textOf rest := by
  have hlines : group.map (·.1) ≠ [] := by simpa using hne
  obtain ⟨b, hb⟩ := exists_body_eq hlines
  refine ⟨b, fun rest => ?_⟩
  rw [textOf_append, textOf, hb, List.append_assoc, List.singleton_append]

/-- Blank lines are a blank text. -/
theorem textOf_blank {ls : List (List Char × Bool)}
    (h : ∀ x ∈ ls, x.1.dropWhile isBlank = []) : (textOf ls).dropWhile isBlank = [] := by
  rw [List.dropWhile_eq_nil_iff]
  intro c hc
  obtain ⟨l, hl, hc⟩ := List.mem_flatMap.1 hc
  obtain ⟨x, hx, rfl⟩ := List.mem_map.1 hl
  rcases List.mem_append.1 hc with hline | hnewline
  · exact List.dropWhile_eq_nil_iff.1 (h x hx) c hline
  · obtain rfl := List.mem_singleton.1 hnewline
    decide

/-- Lines that a statement keeps all bind the same in front of other lines, if those close no quote
that the lines behind the statement did not close. -/
theorem bindings_of_whole {b r w : List Char} (hread : (readStatement (b ++ '\n' :: r)).2 = r)
    (hquiet : ∀ q : OpenQuote, q.ClosedBy ('\n' :: w) → q.ClosedBy ('\n' :: r)) :
    ∃ front, bindings (b ++ '\n' :: r) = front ++ bindings r ∧
      bindings (b ++ '\n' :: w) = front ++ bindings w := by
  by_cases hblank : b.dropWhile isBlank = []
  · exact ⟨[], bindings_blank_line hblank r, bindings_blank_line hblank w⟩
  · obtain ⟨st, left, hst, hsame⟩ := readStatement_quieter hblank (boundary_newline r)
      fun _ => by rw [hread]; exact Nat.le_refl _
    have hleft : left = none := by
      cases left with
      | none => rfl
      | some before =>
        -- The statement would have ended in front of the newline.
        rw [hst] at hread
        have hlength := congrArg List.length hread
        simp [leaves] at hlength
        omega
    subst hleft
    have hw := hsame _ (boundary_newline w) hquiet
    refine ⟨st.binds.toList, ?_, ?_⟩
    · rw [bindings_of_ne_nil (by simp), hst]
      rfl
    · rw [bindings_of_ne_nil (by simp), hw]
      rfl

/-- A line that begins with a key and an equals sign binds the key or nothing. -/
theorem key_of_binds {key : String} {l s : List Char} {x : String × Option String}
    (hkey : ∀ c ∈ key.toList, isKeyChar c = true ∧ c ≠ '\'' ∧ c ≠ '"')
    (hline : bindsKey key l = true) (h : (readStatement (l ++ s)).1.binds = some x) :
    x.1 = key := by
  obtain ⟨more, rfl⟩ := List.isPrefixOf_iff_prefix.1 hline
  rw [List.append_assoc, List.append_assoc, List.singleton_append] at h
  by_cases hempty : key = ""
  · subst hempty
    rw [show "".toList = [] from rfl, List.nil_append, readStatement_no_key] at h
    cases h
  · cases hst : (readStatement (key.toList ++ '=' :: (more ++ s))).1 with
    | nothing => rw [hst] at h; cases h
    | malformed => rw [hst] at h; cases h
    | binding k value =>
      obtain ⟨rfl, -⟩ := binding_of_readStatement (bareKey_of_ne_empty hempty hkey) hst
      rw [hst] at h
      obtain rfl := Option.some.inj h
      exact String.ofList_toList

/-- Lines of which those that are not blank are lost begin with a statement on a written key, or
with none. -/
theorem key_of_binds_lost (hbare : Bare values) {group : List (List Char × Bool)}
    (rest : List (List Char × Bool))
    (hlost : ∀ x ∈ group, x.2 = false → ∃ p ∈ values, bindsKey p.1 x.1 = true)
    (hblank : ∀ x ∈ group, x.2 = true → x.1.dropWhile isBlank = []) :
    bindings (textOf (group ++ rest)) = bindings (textOf rest) ∨
      ∀ x, (readStatement (textOf (group ++ rest))).1.binds = some x → ∃ p ∈ values, x.1 = p.1 := by
  induction group with
  | nil => exact .inl rfl
  | cons l group ih =>
    have htext : textOf (l :: group ++ rest) = l.1 ++ '\n' :: textOf (group ++ rest) :=
      body_cons _ _
    by_cases hl : l.1.dropWhile isBlank = []
    · -- A blank line in front of a statement is not read.
      rw [htext, bindings_blank_line hl, readStatement_blank_line hl]
      exact ih (fun x hx => hlost x (List.mem_cons_of_mem _ hx))
        fun x hx => hblank x (List.mem_cons_of_mem _ hx)
    · have hfalse : l.2 = false :=
        Bool.eq_false_iff.2 fun hkept => hl (hblank l List.mem_cons_self hkept)
      obtain ⟨p, hp, hbinds⟩ := hlost l List.mem_cons_self hfalse
      refine .inr fun x hx => ⟨p, hp, ?_⟩
      rw [htext] at hx
      exact key_of_binds (hbare.keys p hp) hbinds hx

/-- Lines that a statement loses bind nothing to a key that is not written. -/
theorem bindings_of_lost (hbare : Bare values) {key : String} (hkey : ∀ p ∈ values, p.1 ≠ key)
    {group rest : List (List Char × Bool)} (hsome : group ≠ [])
    (hread : (readStatement (textOf (group ++ rest))).2 = textOf rest)
    (hlost : ∀ x ∈ group, x.2 = false → ∃ p ∈ values, bindsKey p.1 x.1 = true)
    (hblank : ∀ x ∈ group, x.2 = true → x.1.dropWhile isBlank = []) :
    (bindings (textOf (group ++ rest))).filter (·.1 = key) =
      (bindings (textOf rest)).filter (·.1 = key) := by
  rcases key_of_binds_lost hbare rest hlost hblank with hnone | hwritten
  · rw [hnone]
  · obtain ⟨b, hb⟩ := exists_textOf_eq hsome
    have hne : textOf (group ++ rest) ≠ [] := by rw [hb]; simp
    have hother : (readStatement (textOf (group ++ rest))).1.binds.toList.filter (·.1 = key) =
        [] := by
      rw [List.filter_eq_nil_iff]
      intro x hx
      obtain ⟨p, hp, heq⟩ := hwritten x (Option.mem_toList.1 hx)
      simpa [heq] using hkey p hp
    rw [bindings_of_ne_nil hne, hread, List.filter_append, hother, List.nil_append]

/-- Where no statement is divided, what the kept lines bind to a key that is not written is what all
lines bind to it. -/
theorem Undivided.bindings_kept {ls : List (List Char × Bool)} (h : Undivided ls)
    (hbare : Bare values) {key : String} (hkey : ∀ p ∈ values, p.1 ≠ key)
    (hlost : ∀ x ∈ ls, x.2 = false → ∃ p ∈ values, bindsKey p.1 x.1 = true) :
    (bindings (textOf (ls.filter (·.2)))).filter (·.1 = key) =
      (bindings (textOf ls)).filter (·.1 = key) := by
  induction h with
  | nil => rfl
  | stays group rest hsome hkept hread others ih =>
    have ih := ih fun x hx => hlost x (List.mem_append_right _ hx)
    have hsub : (rest.filter (·.2)).map (·.1) ⊆ rest.map (·.1) :=
      (List.filter_sublist.map _).subset
    obtain ⟨b, hb⟩ := exists_textOf_eq hsome
    rw [hb] at hread
    obtain ⟨front, hall, hfewer⟩ := bindings_of_whole hread (closedBy_of_subset hsub)
    rw [List.filter_append, List.filter_eq_self.2 hkept, hb, hb, hall]
    rw [textOf, hfewer, List.filter_append, List.filter_append]
    exact congrArg _ ih
  | goes group rest hsome hblank hread others ih =>
    have ih := ih fun x hx => hlost x (List.mem_append_right _ hx)
    -- The lines that such a statement keeps are blank.
    have hfront : (textOf (group.filter (·.2))).dropWhile isBlank = [] :=
      textOf_blank fun x hx =>
        hblank x (List.mem_filter.1 hx).1 (by simpa using (List.mem_filter.1 hx).2)
    rw [List.filter_append, textOf_append, bindings_blank_append hfront, ih]
    exact (bindings_of_lost hbare hkey hsome hread
      (fun x hx => hlost x (List.mem_append_left _ hx)) hblank).symm

/-! ## Lines and texts -/

/-- A text whose lines end with newlines is that of its lines, but for a newline at its end. -/
theorem body_lines {s : List Char} (h : OnlyNewlines s) :
    body (lines s) = s ∨ body (lines s) = s ++ ['\n'] := by
  induction s with
  | nil => exact .inl rfl
  | cons c s ih =>
    have ih := ih fun d hd => h d (List.mem_cons_of_mem _ hd)
    by_cases hc : isLineBreak c = true
    · obtain rfl := h c List.mem_cons_self hc
      rw [lines_break_cons _ _ hc, body_cons]
      exact ih.imp (congrArg (List.cons '\n')) (congrArg (List.cons '\n'))
    · by_cases hs : s = []
      · -- The last line has no newline of its own.
        subst hs
        refine .inr ?_
        unfold lines
        rw [if_neg hc]
        rfl
      · obtain ⟨m, ms, hlines⟩ := exists_lines hs
        rw [lines_cons_cons (by simpa using hc) hlines, body_cons]
        rw [hlines, body_cons] at ih
        exact ih.imp (congrArg (List.cons c)) (congrArg (List.cons c))

theorem markedLines_of_lines {l : List Char} {ls : List (List Char)} (h : lines old = l :: ls) :
    markedLines values old =
      (unmarked l, isKept values l) :: ls.map fun m => (m, isKept values m) := by
  unfold markedLines
  rw [h]

theorem textOf_markedLines (values : Pairs String String) (old : List Char) :
    textOf (markedLines values old) = unmarked (body (lines old)) := by
  unfold markedLines textOf
  cases lines old with
  | nil => rfl
  | cons l ls =>
    have hmap : (ls.map fun m => (m, isKept values m)).map (·.1) = ls := by
      rw [List.map_map]
      exact List.map_id ls
    rw [List.map_cons, hmap, body_cons, body_cons, unmarked_append_newline]

/-- The lines of a text bind what the text does. -/
theorem bindings_markedLines (values : Pairs String String) (h : OnlyNewlines old) :
    bindings (textOf (markedLines values old)) = bindings (unmarked old) := by
  rw [textOf_markedLines]
  rcases body_lines h with hsame | hnewline
  · rw [hsame]
  · have hnone : QuoteFree [] := fun c hc => absurd hc List.not_mem_nil
    rw [hnewline, unmarked_append_newline, bindings_append _ hnone, bindings_nil, List.append_nil]

/-- The first line of a text begins as the text does. -/
theorem head?_of_lines {s l : List Char} {ls : List (List Char)} {c : Char}
    (h : lines s = l :: ls) (hc : l.head? = some c) : s.head? = some c := by
  cases s with
  | nil => cases h
  | cons d s =>
    unfold lines at h
    split at h
    · obtain ⟨rfl, -⟩ := List.cons.inj h
      cases hc
    · split at h <;> (obtain ⟨rfl, -⟩ := List.cons.inj h; exact hc)

/-! ## The mark in front -/

/-- Of lines that are kept or not, those that are kept. -/
theorem map_filter_isKept (values : Pairs String String) (ls : List (List Char)) :
    ((ls.map fun m => (m, isKept values m)).filter (·.2)).map (·.1) =
      ls.filter (isKept values) := by
  rw [List.filter_map, List.map_map]
  exact List.map_id _

/-- The first line of a text is kept or does not begin with a mark. -/
theorem MarkStays.first (h : MarkStays values old) {l : List Char} {ls : List (List Char)}
    (hlines : lines old = l :: ls) : isKept values l = true ∨ unmarked l = l := by
  unfold MarkStays at h
  split at h
  · rw [hlines] at h
    exact .inl h
  · rename_i hhead
    exact .inr (if_neg fun hl => hhead (head?_of_lines hlines hl))

/-- A line that is not kept begins with a written key. -/
theorem MarkStays.lost (h : MarkStays values old) :
    ∀ x ∈ markedLines values old, x.2 = false → ∃ p ∈ values, bindsKey p.1 x.1 = true := by
  have hbinds : ∀ l, isKept values l = false → ∃ p ∈ values, bindsKey p.1 l = true := by
    intro l hl
    simpa [isKept] using hl
  intro x hx hlost
  cases hlines : lines old with
  | nil =>
    unfold markedLines at hx
    rw [hlines] at hx
    cases hx
  | cons l ls =>
    rw [markedLines_of_lines hlines] at hx
    rcases List.mem_cons.1 hx with rfl | hx
    · rcases h.first hlines with hkept | hsame
      · rw [hkept] at hlost
        cases hlost
      · dsimp only at hlost ⊢
        rw [hsame]
        exact hbinds l hlost
    · obtain ⟨m, -, rfl⟩ := List.mem_map.1 hx
      exact hbinds m hlost

/-- The written text begins as its first line does. -/
theorem head?_updated (hdistinct : Pairs.Distinct values) (hbare : Bare values)
    {l : List Char} {ls : List (List Char)}
    (h : keptLines values old ++ recorded values = l :: ls) :
    (updated old values).head? = (l ++ ['\n']).head? := by
  rw [updated_bare hdistinct hbare, h, unlines_eq_flatMap _ (List.cons_ne_nil _ _),
    List.flatMap_cons]
  cases l <;> rfl

/-- No key begins the written text with a mark if none came to be there. -/
theorem MarkStays.not_markedKey (h : MarkStays values old) (hdistinct : Pairs.Distinct values)
    (hbare : Bare values) (key : String) : ¬MarkedKey values old key := by
  rintro ⟨hkept, ⟨p, hp, rfl⟩, hmark⟩
  unfold MarkStays at h
  split at h
  · unfold keptLines at hkept
    cases hlines : lines old with
    | nil =>
      rw [hlines] at h
      cases h
    | cons l ls =>
      rw [hlines] at h hkept
      have hfirst : isKept values l = true := h
      rw [List.filter_cons_of_pos hfirst] at hkept
      cases hkept
  · cases values with
    | nil => cases hp
    | cons q rest =>
      obtain rfl := Option.some.inj hp
      have hlines : keptLines (q :: rest) old ++ recorded (q :: rest) =
          line q.1 q.2 :: recorded rest := by rw [hkept]; rfl
      refine h ?_
      rw [head?_updated hdistinct hbare hlines]
      obtain ⟨cs, hcs⟩ := List.head?_eq_some_iff.1 hmark
      rw [line, hcs]
      rfl

/-- What the kept lines are read as. -/
theorem MarkStays.unmarked_kept (h : MarkStays values old) (hdistinct : Pairs.Distinct values)
    (hbare : Bare values) : unmarked (body (keptLines values old)) =
      textOf ((markedLines values old).filter (·.2)) := by
  unfold MarkStays at h
  cases hlines : lines old with
  | nil =>
    unfold keptLines markedLines
    rw [hlines]
    rfl
  | cons l ls =>
    rw [markedLines_of_lines hlines, textOf]
    split at h
    · -- The mark is read off the first line, which is kept.
      rw [hlines] at h
      have hfirst : isKept values l = true := h
      rw [keptLines, hlines, List.filter_cons_of_pos hfirst,
        List.filter_cons_of_pos (p := fun x : List Char × Bool => x.2) hfirst, List.map_cons,
        map_filter_isKept, body_cons, body_cons, unmarked_append_newline]
    · rename_i hhead
      have hsame : unmarked l = l := if_neg fun hl => hhead (head?_of_lines hlines hl)
      have hmap := map_filter_isKept values (l :: ls)
      rw [List.map_cons, ← hlines] at hmap
      rw [hsame, hmap]
      change unmarked (body (keptLines values old)) = body (keptLines values old)
      cases hkept : keptLines values old with
      | nil => rfl
      | cons k ks =>
        have hall : keptLines values old ++ recorded values = k :: (ks ++ recorded values) := by
          rw [hkept]
          rfl
        rw [head?_updated hdistinct hbare hall] at h
        refine if_neg fun hbody => h ?_
        rw [body_cons] at hbody
        cases k <;> exact hbody

/-! ## The values of other keys -/

/-- A key that is not written has what the kept lines alone give it. -/
theorem get?_updated_of_ne (hdistinct : Pairs.Distinct values) (hbare : Bare values)
    (hmark : ∀ k, ¬MarkedKey values old k) {key : String} (hkey : ∀ p ∈ values, p.1 ≠ key) :
    Pairs.get? key (valuesOf (statements (updated old values))) =
      Pairs.get? key (valuesOf (statements (body (keptLines values old)))) := by
  rw [get?_valuesOf, get?_valuesOf, bindings_updated hdistinct hbare hmark, List.reverse_append,
    Pairs.get?_append, get?_written_of_ne hkey, Option.none_or]

/-- A key that is not written has the same value as before, if no statement is divided and the mark
stays. -/
theorem get?_kept_of_ne (hdistinct : Pairs.Distinct values) (hbare : Bare values)
    (hends : OnlyNewlines old) (hmark : MarkStays values old)
    (hwhole : Undivided (markedLines values old)) {key : String}
    (hkey : ∀ p ∈ values, p.1 ≠ key) :
    Pairs.get? key (valuesOf (statements (body (keptLines values old)))) =
      Pairs.get? key (valuesOf (statements old)) := by
  have hsame := hwhole.bindings_kept hbare hkey hmark.lost
  rw [bindings_markedLines values hends, ← hmark.unmarked_kept hdistinct hbare] at hsame
  rw [get?_valuesOf, get?_valuesOf, ← Pairs.get?_filter, List.filter_reverse, hsame,
    ← List.filter_reverse, Pairs.get?_filter]

/-- Saving bare values leaves the other keys what the kept lines alone give them. Where no statement
of the state file loses some but not all of its lines, and the mark in front of the file stays, each
of them has the value that it had before, or none as before. -/
theorem upsert_leaves_others {s : Session σ} {path : Path} {q : Spot} {e : Entry}
    {content : Text.Octets} {cs : List Char} (hdistinct : Pairs.Distinct values)
    (hbare : Bare values) (hstatus : s.host.tree.status s.host.cwd path.text = .ok (q, e))
    (hregular : e = .file content ∨ e = .program content)
    (hdecode : Text.Utf8.decode content = .ok cs) (hends : OnlyNewlines (foldNewlines cs))
    (h : (upsert path values).result s = .ok ()) :
    ∃ before after, (load path).result s = .ok before ∧
      (∀ u : Session σ, u.host.tree = ((upsert path values).after s).host.tree →
        u.host.cwd = s.host.cwd → (load path).result u = .ok after) ∧
      ∀ key, (∀ p ∈ values, p.1 ≠ key) →
        ((∀ k, ¬MarkedKey values (foldNewlines cs) k) → Pairs.get? key after =
          Pairs.get? key (valuesOf (statements (body (keptLines values (foldNewlines cs)))))) ∧
        (MarkStays values (foldNewlines cs) →
          Undivided (markedLines values (foldNewlines cs)) →
          Pairs.get? key after = Pairs.get? key before) := by
  have hnul := (upsert_ok h).choose_spec.2.1
  obtain ⟨old, hfound, hload⟩ := load_of_upsert hbare h
  have hread : e.read = .ok content := by
    rcases hregular with rfl | rfl <;> rfl
  have hcontent := (Tree.contentOf_of_status hstatus).trans hread
  obtain rfl := Except.ok.inj (hfound.symm.trans (result_found_of_content hnul hcontent hdecode))
  refine ⟨_, _, result_load_of_decode hnul hstatus hregular hdecode, hload, fun key hkey => ⟨?_, ?_⟩⟩
  · exact fun hmark => get?_updated_of_ne hdistinct hbare hmark hkey
  · intro hmark hwhole
    calc Pairs.get? key (valuesOf (statements (updated (foldNewlines cs) values)))
        = Pairs.get? key (valuesOf (statements (body (keptLines values (foldNewlines cs))))) :=
          get?_updated_of_ne hdistinct hbare (hmark.not_markedKey hdistinct hbare) hkey
      _ = Pairs.get? key (valuesOf (statements (foldNewlines cs))) :=
          get?_kept_of_ne hdistinct hbare hends hmark hwhole hkey

/-- A text with a mark in front, a line of a key, and a value over two lines. -/
def threeSettings : String := "\uFEFFA=1\nKEY=0\nB='x\ny'\n"

/-- A value over two lines stays when the line in front of it is replaced. -/
theorem quoted_lines_stay : ∃ before after,
    (load (.ofText "state")).result ⟨stateHost threeSettings, []⟩ = .ok before ∧
      (load (.ofText "state")).result (savedOver threeSettings [("KEY", "1")]) = .ok after ∧
      Pairs.get? "B" after = Pairs.get? "B" before := by
  have hresult : ((upsert (.ofText "state") [("KEY", "1")]).result
      ⟨stateHost threeSettings, []⟩).toOption = some () := by
    decide +kernel
  have hfile : (stateHost threeSettings).tree.status (.live []) (Path.ofText "state").text =
      .ok (.live ["state"], .file (Utf8.encode threeSettings.toList)) := by
    decide +kernel
  have hcwd : (savedOver threeSettings [("KEY", "1")]).host.cwd = .live [] := by
    decide +kernel
  have hlines : markedLines [("KEY", "1")] (foldNewlines threeSettings.toList) =
      [("A=1".toList, true)] ++ ([("KEY=0".toList, false)] ++
        ([("B='x".toList, true), ("y'".toList, true)] ++ [])) := by
    decide +kernel
  have hwhole : Undivided (markedLines [("KEY", "1")] (foldNewlines threeSettings.toList)) := by
    rw [hlines]
    refine .stays _ _ (by simp) (by decide +kernel) (by decide +kernel) ?_
    refine .goes _ _ (by simp) (by decide +kernel) (by decide +kernel) ?_
    exact .stays _ _ (by simp) (by decide +kernel) (by decide +kernel) .nil
  have hmark : MarkStays [("KEY", "1")] (foldNewlines threeSettings.toList) := by
    unfold MarkStays
    decide +kernel
  obtain ⟨before, after, hbefore, hafter, hothers⟩ := upsert_leaves_others
    (List.pairwise_singleton _ _) (by decide +kernel) hfile (.inl rfl) (Utf8.decode_encode _)
    (by decide +kernel) (result_eq_ok_of_toOption hresult)
  refine ⟨before, after, hbefore, hafter _ (by unfold savedOver; rfl) hcwd, ?_⟩
  exact (hothers "B" (by decide)).2 hmark hwhole

/-- A line within a value is lost if it begins with a written key, and a mark that comes to be in
front is not read. -/
theorem divided_values_change :
    Bare [("KEY", "2")] ∧ ((load (.ofText "state")).result
      ⟨stateHost "KEY=0\n\uFEFFC=1\nB='x\nKEY=1\ny'\n", []⟩).toOption =
        some [("KEY", "0"), ("\uFEFFC", "1"), ("B", "x\nKEY=1\ny")] ∧
    ((upsert (.ofText "state") [("KEY", "2")]).result
      ⟨stateHost "KEY=0\n\uFEFFC=1\nB='x\nKEY=1\ny'\n", []⟩).toOption = some () ∧
    ((load (.ofText "state")).result
      (savedOver "KEY=0\n\uFEFFC=1\nB='x\nKEY=1\ny'\n" [("KEY", "2")])).toOption =
        some [("C", "1"), ("B", "x\ny"), ("KEY", "2")] := by
  refine ⟨?_, ?_, ?_, ?_⟩
  · decide +kernel
  · decide +kernel
  · decide +kernel
  · decide +kernel

end StateFile

end SorobanDeploy
