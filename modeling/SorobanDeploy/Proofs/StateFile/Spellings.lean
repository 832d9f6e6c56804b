import SorobanDeploy.Proofs.StateFile.RoundTrip

/-!
# How often a written key is bound

Saving takes away the lines that begin with a written key and an equals sign. The grammar finds a
key in more lines than these: behind blanks, behind the word for exports, in quotes, in front of
blanks and an equals sign, and without any value (`spells`). Such lines are kept, so what a saved
file binds a key to is what the kept lines bind it to, and then the written value
(`boundTo_updated_iff`). Each binding comes from a line that spells its key
(`exists_spelling`), so the written value is the only one if no line spells the key but those that
are taken away.
-/

namespace SorobanDeploy.StateFile

open Act Text

variable {σ : Type} {values : Pairs String String} {old : List Char} {key : String}

/-- What bindings give a key, in order. -/
def allOf (key : String) (bound : List (String × Option String)) : List (Option String) :=
  (bound.filter (·.1 = key)).map (·.2)

/-- What the statements of a text bind a key to, in order. -/
def boundTo (key : String) (text : List Char) : List (Option String) :=
  allOf key ((statements text).filterMap fun found => found.2.binds)

/-- Whether the grammar finds a key at the beginning of a line. -/
def spells (key : String) (l : List Char) : Bool :=
  (readKey (skipExport (l.dropWhile isBlank))).any fun found => found.1 = some key.toList

/-! ## The lines of bindings -/

/-- What is left at the end of a line is the text of the lines behind it. -/
theorem LineEnd.exists_body {ls : List (List Char)} {rest : List Char}
    (hls : ∀ l ∈ ls, '\n' ∉ l) (h : LineEnd (body ls) rest) : ∃ ms, ms <:+ ls ∧ rest = body ms := by
  induction ls with
  | nil =>
    rcases h with rfl | ⟨before, hbefore⟩
    · exact ⟨[], List.suffix_rfl, rfl⟩
    · cases before <;> cases hbefore
  | cons l ls ih =>
    rw [body_cons] at h
    rcases h.of_line (hls l List.mem_cons_self) with rfl | rfl | hbehind
    · exact ⟨[], List.nil_suffix, rfl⟩
    · exact ⟨ls, List.suffix_cons l ls, rfl⟩
    · obtain ⟨ms, hms, hrest⟩ := ih (fun m hm => hls m (List.mem_cons_of_mem _ hm)) hbehind
      exact ⟨ms, hms.trans (List.suffix_cons l ls), hrest⟩

/-- Behind its blanks a text of lines begins within a line, unless all of it is blank. -/
theorem dropWhile_body (ls : List (List Char)) : (body ls).dropWhile isBlank = [] ∨
    ∃ l ms, l ∈ ls ∧ (body ls).dropWhile isBlank = l.dropWhile isBlank ++ '\n' :: body ms := by
  induction ls with
  | nil => exact .inl rfl
  | cons l ls ih =>
    rw [body_cons]
    by_cases hl : l.dropWhile isBlank = []
    · have hskip : (l ++ '\n' :: body ls).dropWhile isBlank = (body ls).dropWhile isBlank := by
        rw [List.dropWhile_append, hl]
        rfl
      rw [hskip]
      refine ih.imp_right fun ⟨m, ms, hm, heq⟩ => ⟨m, ms, List.mem_cons_of_mem _ hm, heq⟩
    · refine .inr ⟨l, ls, List.mem_cons_self, ?_⟩
      rw [List.dropWhile_append, if_neg (by simpa using hl)]

/-- A key is read as it stands, or as it stands between quotes. -/
theorem readKey_eq {s k r : List Char} (h : readKey s = some (some k, r)) :
    ∃ quote : List Char, '\n' ∉ quote ∧ s = quote ++ k ++ quote ++ r := by
  cases s with
  | nil => cases h
  | cons c s =>
    by_cases hnumber : c = '#'
    · subst hnumber
      cases h
    by_cases hquote : c = '\''
    · subst hquote
      refine ⟨['\''], by decide, ?_⟩
      rw [readKey_quote] at h
      by_cases hclosed : '\'' ∈ s
      · obtain ⟨after, hdrop, hspan⟩ := span_of_mem hclosed
        rw [hdrop] at h
        cases htake : s.takeWhile (· ≠ '\'') with
        | nil => rw [htake] at h; cases h
        | cons d taken =>
          rw [htake] at h
          obtain ⟨hk, rfl⟩ := Prod.mk.inj (Option.some.inj h)
          rw [← Option.some.inj hk, ← htake]
          simpa using hspan
      · have hdrop : s.dropWhile (· ≠ '\'') = [] := by
          rw [List.dropWhile_eq_nil_iff]
          intro d hd
          have hne : d ≠ '\'' := fun heq => hclosed (heq ▸ hd)
          simpa using hne
        rw [hdrop] at h
        cases htake : s.takeWhile (· ≠ '\'') <;> rw [htake] at h <;> cases h
    · refine ⟨[], List.not_mem_nil, ?_⟩
      rw [readKey_of_bare hnumber hquote] at h
      cases htake : (c :: s).takeWhile isKeyChar with
      | nil => rw [htake] at h; cases h
      | cons d taken =>
        rw [htake] at h
        obtain ⟨hk, rfl⟩ := Prod.mk.inj (Option.some.inj h)
        rw [← Option.some.inj hk, ← htake]
        simp

/-- A key without a newline in it is read from its line alone. -/
theorem readKey_of_append {b u k r : List Char} (hu : Boundary u) (hk : '\n' ∉ k)
    (h : readKey (b ++ u) = some (some k, r)) : ∃ r', readKey b = some (some k, r') := by
  have hkeyOf : keyOf (b ++ u) = .ok (some k, r) := by rw [keyOf, h]
  cases readKey_follows b with
  | reads x halone =>
    rw [halone u hu] at hkeyOf
    have hb := halone [] (.inl rfl)
    rw [List.append_nil, keyOf] at hb
    cases x with
    | error stopped => cases hkeyOf
    | ok found =>
      obtain ⟨key, rest⟩ := found
      obtain ⟨rfl, -⟩ := Prod.mk.inj (Except.ok.inj hkeyOf)
      cases hread : readKey b with
      | none => rw [hread] at hb; cases hb
      | some found =>
        rw [hread] at hb
        exact ⟨rest ++ [], by rw [Except.ok.inj hb]⟩
  | waits q stopped hstops hgoes =>
    by_cases hclosed : q.ClosedBy u
    · -- The key would go on behind the line, so there would be a newline in it.
      have hlength := hgoes u hu hclosed
      rw [hkeyOf] at hlength
      obtain ⟨quote, hquote, hspan⟩ := readKey_eq h
      rcases hu with rfl | ⟨t, rfl⟩
      · exact absurd hclosed q.not_closedBy_nil
      · rcases List.append_eq_append_iff.1 hspan with ⟨more, hkey, hrest⟩ | ⟨more, -, hrest⟩
        · cases more with
          | nil =>
            rw [List.nil_append] at hrest
            simp only [leftOf, ← hrest, List.length_cons] at hlength
            omega
          | cons c more =>
            obtain ⟨rfl, -⟩ := List.cons.inj hrest
            have hmem : '\n' ∈ quote ++ k ++ quote := by rw [hkey]; simp
            simp [hquote, hk] at hmem
        · rw [hrest] at hlength
          simp [leftOf] at hlength
          omega
    · rw [hstops u hu hclosed] at hkeyOf
      cases hkeyOf

/-- A statement that begins in a line, on a key without a newline in it, has its key there. -/
theorem spells_of_binds {s b u : List Char} {x : String × Option String} (hu : Boundary u)
    (hdrop : s.dropWhile isBlank = b.dropWhile isBlank ++ u) (hkey : '\n' ∉ x.1.toList)
    (h : (readStatement s).1.binds = some x) : spells x.1 b = true := by
  obtain ⟨rest, hread⟩ := exists_readKey_of_binds h
  rw [hdrop, skipExport_boundary hu] at hread
  obtain ⟨rest', hline⟩ := readKey_of_append hu hkey hread
  unfold spells
  rw [hline]
  simp

/-- Each key that lines bind is spelled by one of them. -/
theorem exists_spelling {ls : List (List Char)} (hls : ∀ l ∈ ls, '\n' ∉ l)
    {x : String × Option String} (hkey : '\n' ∉ x.1.toList) (h : x ∈ bindings (body ls)) :
    ∃ l ∈ ls, spells x.1 l = true := by
  by_cases hnil : body ls = []
  · rw [hnil, bindings_nil] at h
    cases h
  · have hshorter := readStatement_shorter _ hnil
    rw [bindings_of_ne_nil hnil] at h
    rcases List.mem_append.1 h with hfirst | hrest
    · rw [Option.mem_toList] at hfirst
      rcases dropWhile_body ls with hblank | ⟨l, ms, hl, hdrop⟩
      · rw [readStatement_of_blank hblank] at hfirst
        cases hfirst
      · exact ⟨l, hl, spells_of_binds (boundary_newline _) hdrop hkey hfirst⟩
    · obtain ⟨ms, hms, hbehind⟩ := (readStatement_ends (body ls)).exists_body hls
      rw [hbehind] at hrest hshorter
      have : (body ms).length < (body ls).length := hshorter
      obtain ⟨l, hl, hspells⟩ := exists_spelling (fun m hm => hls m (hms.subset hm)) hkey hrest
      exact ⟨l, hms.subset hl, hspells⟩
  termination_by (body ls).length

/-- The mark in front of lines is that of the first one. -/
theorem exists_unmarked_body (ls : List (List Char)) :
    ∃ ms, unmarked (body ls) = body ms ∧ ∀ m ∈ ms, ∃ l ∈ ls, m = l ∨ m = unmarked l := by
  cases ls with
  | nil => exact ⟨[], rfl, fun m hm => absurd hm List.not_mem_nil⟩
  | cons l ls =>
    refine ⟨unmarked l :: ls, by rw [body_cons, body_cons, unmarked_append_newline], ?_⟩
    intro m hm
    rcases List.mem_cons.1 hm with rfl | hm
    · exact ⟨l, List.mem_cons_self, .inr rfl⟩
    · exact ⟨m, List.mem_cons_of_mem _ hm, .inl rfl⟩

theorem newline_not_mem_unmarked {l : List Char} (h : '\n' ∉ l) : '\n' ∉ unmarked l := by
  unfold unmarked
  split
  · exact fun hmem => h (List.mem_of_mem_drop hmem)
  · exact h

/-- What the kept lines bind a key to is spelled in one of them. -/
theorem exists_kept_spelling (hkey : '\n' ∉ key.toList)
    (h : boundTo key (body (keptLines values old)) ≠ []) :
    ∃ l ∈ keptLines values old, spells key l = true ∨ spells key (unmarked l) = true := by
  obtain ⟨value, hvalue⟩ := List.exists_mem_of_ne_nil _ h
  obtain ⟨x, hx, -⟩ := List.mem_map.1 hvalue
  obtain ⟨hbound, hname⟩ := List.mem_filter.1 hx
  obtain rfl : x.1 = key := by simpa using hname
  obtain ⟨ms, hbody, hms⟩ := exists_unmarked_body (keptLines values old)
  change x ∈ bindings (unmarked (body (keptLines values old))) at hbound
  have hclean : ∀ l ∈ keptLines values old, '\n' ∉ l := fun l hl hmem => by
    cases isLineBreak_of_mem_lines (List.mem_filter.1 hl).1 _ hmem
  have hlines : ∀ m ∈ ms, '\n' ∉ m := by
    intro m hm
    obtain ⟨l, hl, rfl | rfl⟩ := hms m hm
    · exact hclean m hl
    · exact newline_not_mem_unmarked (hclean l hl)
  rw [hbody] at hbound
  obtain ⟨m, hm, hspells⟩ := exists_spelling hlines hkey hbound
  obtain ⟨l, hl, rfl | rfl⟩ := hms m hm
  · exact ⟨m, hl, .inl hspells⟩
  · exact ⟨l, hl, .inr hspells⟩

/-! ## What a saved file binds -/

theorem allOf_append (key : String) (front back : List (String × Option String)) :
    allOf key (front ++ back) = allOf key front ++ allOf key back := by
  unfold allOf
  rw [List.filter_append, List.map_append]

theorem allOf_eq_nil {bound : List (String × Option String)} (h : ∀ x ∈ bound, x.1 ≠ key) :
    allOf key bound = [] := by
  unfold allOf
  rw [List.filter_eq_nil_iff.2 fun x hx => by simpa using h x hx]
  rfl

/-- Where no key is there twice, one that is there has its value. -/
theorem allOf_of_mem {bound : List (String × Option String)} {value : Option String}
    (hdistinct : Pairs.Distinct bound) (hmem : (key, value) ∈ bound) :
    allOf key bound = [value] := by
  obtain ⟨front, back, rfl⟩ := List.append_of_mem hmem
  obtain ⟨-, hback, hfront⟩ := List.pairwise_append.1 hdistinct
  have hbefore : allOf key front = [] :=
    allOf_eq_nil fun x hx => hfront x hx _ List.mem_cons_self
  have hbehind : allOf key back = [] :=
    allOf_eq_nil fun x hx heq => (List.pairwise_cons.1 hback).1 x hx heq.symm
  have hhere : allOf key [(key, value)] = [value] := by simp [allOf]
  rw [← List.singleton_append, allOf_append, allOf_append, hbefore, hhere, hbehind]
  rfl

/-- The empty key is bound to nothing. -/
theorem boundTo_empty (text : List Char) : boundTo "" text = [] :=
  allOf_eq_nil fun _ hx => ne_empty_of_mem_bindings (s := unmarked text) hx

/-- Keys that are not among the values are not bound by them. -/
theorem allOf_written_of_ne (h : ∀ p ∈ values, p.1 ≠ key) : allOf key (written values) = [] := by
  refine allOf_eq_nil fun x hx heq => ?_
  obtain ⟨p, hp, hpx⟩ := key_of_mem_written hx
  exact h p hp (hpx.trans heq)

theorem allOf_written_of_mem (hdistinct : Pairs.Distinct values) {value : String}
    (hmem : (key, value) ∈ values) (hne : key ≠ "") : allOf key (written values) = [some value] :=
  allOf_of_mem (distinct_written hdistinct) (mem_written.2 ⟨hmem, hne⟩)

/-- Where the first key begins the text with a mark, each other key is bound once, unless it is the
first one without its mark. -/
theorem boundTo_updated_marked_iff (hdistinct : Pairs.Distinct values) (hbare : Bare values)
    {k : String} (hk : MarkedKey values old k) {value : String} (hmem : (key, value) ∈ values)
    (hne : key ≠ "") : boundTo key (updated old values) = [some value] ↔
      ¬MarkedKey values old key ∧ ¬MarkedKey values old (withMark key) := by
  obtain ⟨p, rest, dropped, rfl, rfl, hdropped, hbinds⟩ :=
    bindings_updated_marked hdistinct hbare hk
  obtain ⟨hp, hrest⟩ := List.pairwise_cons.1 hdistinct
  have hfirst : ∀ name, MarkedKey (p :: rest) old name ↔ name = p.1 := by
    intro name
    refine ⟨?_, fun h => h ▸ hk⟩
    rintro ⟨-, ⟨q, hq, hname⟩, -⟩
    rw [← hname, Option.some.inj hq]
  have hbound : boundTo key (updated old (p :: rest)) =
      allOf key (written [(dropped, p.2)]) ++ allOf key (written rest) := by
    rw [← allOf_append, ← written_append]
    exact congrArg (allOf key) hbinds
  rw [hbound, hfirst, hfirst, hdropped]
  rcases List.mem_cons.1 hmem with rfl | hlater
  · -- The first key itself is not bound at all.
    have hhere : allOf key (written [(dropped, value)]) = [] := by
      refine allOf_written_of_ne fun q hq heq => ?_
      obtain rfl := List.mem_singleton.1 hq
      exact ne_withMark dropped (heq.trans hdropped)
    have hbehind : allOf key (written rest) = [] :=
      allOf_written_of_ne fun q hq => (hp q hq).symm
    rw [hhere, hbehind]
    exact ⟨nofun, fun h => absurd hdropped h.1⟩
  · have hother : key ≠ withMark dropped := fun heq =>
      hp _ hlater (hdropped.trans heq.symm)
    rw [allOf_written_of_mem hrest hlater hne]
    by_cases hsame : dropped = key
    · subst hsame
      rw [allOf_written_of_mem (List.pairwise_singleton _ _) (List.mem_singleton_self _) hne]
      exact ⟨nofun, fun h => absurd rfl h.2⟩
    · have hhere : allOf key (written [(dropped, p.2)]) = [] :=
        allOf_written_of_ne fun q hq => by rwa [List.mem_singleton.1 hq]
      rw [hhere]
      exact ⟨fun _ => ⟨hother, fun heq => hsame (withMark_inj heq).symm⟩, fun _ => rfl⟩

/-- A written key is bound to its value once, behind what the kept lines bind it to. It is not if it
is empty, and not if the file begins with the byte order mark of the first key: that key is read
without the mark, so a key that is the same without it is bound by both lines. -/
theorem boundTo_updated_iff (hdistinct : Pairs.Distinct values) (hbare : Bare values)
    (old : List Char) {value : String} (hmem : (key, value) ∈ values) :
    boundTo key (updated old values) =
        boundTo key (body (keptLines values old)) ++ [some value] ↔
      key ≠ "" ∧ ¬MarkedKey values old key ∧ ¬MarkedKey values old (withMark key) := by
  by_cases hempty : key = ""
  · subst hempty
    rw [boundTo_empty, boundTo_empty]
    exact ⟨nofun, fun h => absurd rfl h.1⟩
  by_cases hmarked : ∃ k, MarkedKey values old k
  · obtain ⟨k, hk⟩ := hmarked
    have hkept : boundTo key (body (keptLines values old)) = [] := by
      rw [hk.1]
      exact congrArg (allOf key) bindings_nil
    rw [hkept, List.nil_append, boundTo_updated_marked_iff hdistinct hbare hk hmem hempty]
    exact ⟨fun h => ⟨hempty, h⟩, fun h => h.2⟩
  · rw [not_exists] at hmarked
    have hbound : boundTo key (updated old values) =
        boundTo key (body (keptLines values old)) ++ allOf key (written values) :=
      (congrArg (allOf key) (bindings_updated hdistinct hbare hmarked)).trans (allOf_append _ _ _)
    rw [hbound, allOf_written_of_mem hdistinct hmem hempty]
    exact ⟨fun _ => ⟨hempty, hmarked _, hmarked _⟩, fun _ => rfl⟩

/-- Nothing is left for a key that no line spells but those that are taken away. -/
theorem boundTo_kept_eq_nil {p : String × String} (hp : p ∈ values) (hkey : '\n' ∉ p.1.toList)
    (hplain : ∀ l ∈ lines old, spells p.1 l = true ∨ spells p.1 (unmarked l) = true →
      bindsKey p.1 l = true) : boundTo p.1 (body (keptLines values old)) = [] := by
  by_contra hleft
  obtain ⟨l, hl, hspells⟩ := exists_kept_spelling hkey hleft
  obtain ⟨hmem, hkept⟩ := List.mem_filter.1 hl
  have hnot := List.all_eq_true.1 hkept p hp
  rw [hplain l hmem hspells] at hnot
  cases hnot

/-- After saving, the file binds a written key to what the kept lines bind it to, and then once to
its value, but for an empty key and for one that is lost or doubled by a byte order mark in front of
the first key. If no line of the old text spells the key but those that begin with it and an equals
sign, the value is its only binding. -/
theorem upsert_binds_once {s : Session σ} {path : Path} (hdistinct : Pairs.Distinct values)
    (hbare : Bare values) (h : (upsert path values).result s = .ok ()) :
    ∃ old, (found path).result s = .ok old ∧
      (∀ u : Session σ, u.host.tree = ((upsert path values).after s).host.tree →
        u.host.cwd = s.host.cwd →
        (load path).result u = .ok (valuesOf (statements (updated old values)))) ∧
      ∀ p ∈ values,
        (boundTo p.1 (updated old values) =
            boundTo p.1 (body (keptLines values old)) ++ [some p.2] ↔
          p.1 ≠ "" ∧ ¬MarkedKey values old p.1 ∧ ¬MarkedKey values old (withMark p.1)) ∧
        ((∀ l ∈ lines old, spells p.1 l = true ∨ spells p.1 (unmarked l) = true →
            bindsKey p.1 l = true) →
          (boundTo p.1 (updated old values) = [some p.2] ↔
            p.1 ≠ "" ∧ ¬MarkedKey values old p.1 ∧ ¬MarkedKey values old (withMark p.1))) := by
  obtain ⟨old, hfound, hload⟩ := load_of_upsert hbare h
  refine ⟨old, hfound, hload, fun p hp => ?_⟩
  have hiff := boundTo_updated_iff hdistinct hbare old hp
  refine ⟨hiff, fun hplain => ?_⟩
  have hkey : '\n' ∉ p.1.toList := fun hmem =>
    absurd (of_isKeyChar (hbare.keys p hp _ hmem).1).1 (by decide)
  rwa [boundTo_kept_eq_nil hp hkey hplain, List.nil_append] at hiff

/-- A key has one binding behind an exported line of another key. -/
theorem plain_line_replaced : ∃ old,
    (found (.ofText "state")).result ⟨stateHost "KEY=0\nexport A=1\n", []⟩ = .ok old ∧
      boundTo "KEY" (updated old [("KEY", "1")]) = [some "1"] := by
  have hresult : ((upsert (.ofText "state") [("KEY", "1")]).result
      ⟨stateHost "KEY=0\nexport A=1\n", []⟩).toOption = some () := by
    decide +kernel
  have hfile : (stateHost "KEY=0\nexport A=1\n").tree.status (.live []) (Path.ofText "state").text =
      .ok (.live ["state"], .file (Utf8.encode "KEY=0\nexport A=1\n".toList)) := by
    decide +kernel
  obtain ⟨old, hfound, -, hbinds⟩ := upsert_binds_once (List.pairwise_singleton _ _)
    (by decide +kernel) (result_eq_ok_of_toOption hresult)
  obtain rfl : old = foldNewlines "KEY=0\nexport A=1\n".toList :=
    Except.ok.inj (hfound.symm.trans
      (result_found_of_content (by decide +kernel) (Tree.contentOf_of_file hfile)
        (Utf8.decode_encode _)))
  refine ⟨_, hfound, ((hbinds _ List.mem_cons_self).2 (by decide +kernel)).2 ⟨by decide, ?_, ?_⟩⟩
  · rintro ⟨-, -, hmark⟩
    exact absurd hmark (by decide +kernel)
  · rintro ⟨hkept, -, -⟩
    exact absurd hkept (by decide +kernel)

/-- A binding that was exported stays beside the one that replaces it. A key is bound twice if the
first key is the same behind a mark, and an empty key is not bound. -/
theorem exported_binding_stays :
    Bare [("KEY", "1")] ∧ ((load (.ofText "state")).result
      ⟨stateHost "export KEY=0\n", []⟩).toOption = some [("KEY", "0")] ∧
    ((upsert (.ofText "state") [("KEY", "1")]).result
      ⟨stateHost "export KEY=0\n", []⟩).toOption = some () ∧
    (((Files.readText "state").result
      (savedOver "export KEY=0\n" [("KEY", "1")])).toOption.map (boundTo "KEY")) =
        some [some "0", some "1"] ∧
    Pairs.Distinct [("\uFEFFA", "1"), ("A", "2"), ("", "3")] ∧
    Bare [("\uFEFFA", "1"), ("A", "2"), ("", "3")] ∧
    ((upsert (.ofText "state") [("\uFEFFA", "1"), ("A", "2"), ("", "3")]).result
      ⟨stateHost "", []⟩).toOption = some () ∧
    (((Files.readText "state").result
      (savedOver "" [("\uFEFFA", "1"), ("A", "2"), ("", "3")])).toOption.map fun text =>
        (boundTo "\uFEFFA" text, boundTo "A" text, boundTo "" text)) =
        some ([], [some "1", some "2"], []) := by
  refine ⟨?_, ?_, ?_, ?_, ?_, ?_, ?_, ?_⟩
  · decide +kernel
  · decide +kernel
  · decide +kernel
  · decide +kernel
  · simp [Pairs.Distinct]
  · decide +kernel
  · decide +kernel
  · decide +kernel

end SorobanDeploy.StateFile
