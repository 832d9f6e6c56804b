import SorobanDeploy.Proofs.StateFile.Bindings
import SorobanDeploy.Proofs.StateFile.Store

/-!
# Written values are read back

Values without quotes, blanks and signs of the grammar (`Bare`) are written on lines that are
statements of their own (`readStatement_bare`). They stand behind the lines that are kept, and
whatever these are, reading is at the beginning of a line when it comes to the first of them
(`bindings_updated`). So each written key has its value in the file, whatever stood there before
(`get?_updated_iff`), and loading gives it (`upsert_reads_back`). There are two exceptions: no
statement binds the empty key, and a mark in front of the file is not read, which a first key that
begins with the mark loses if no line stands before it (`MarkedKey`).
-/

namespace SorobanDeploy

open Act

variable {σ : Type}

namespace StateFile

open Text

variable {values : Pairs String String}

/-- The text of lines, each with a newline behind it. -/
def body (ls : List (List Char)) : List Char := ls.flatMap (· ++ ['\n'])

theorem body_cons (l : List Char) (ls : List (List Char)) :
    body (l :: ls) = l ++ '\n' :: body ls := by
  simp [body]

theorem body_append (ks ls : List (List Char)) : body (ks ++ ls) = body ks ++ body ls :=
  List.flatMap_append

/-- Values that are written without quotes, blanks and signs of the grammar. -/
structure Bare (values : Pairs String String) : Prop where
  keys : ∀ p ∈ values, ∀ c ∈ p.1.toList, isKeyChar c = true ∧ c ≠ '\'' ∧ c ≠ '"'
  texts : ∀ p ∈ values, ∀ c ∈ p.2.toList, isBlank c = false ∧ c ≠ '\'' ∧ c ≠ '"'

instance (values : Pairs String String) : Decidable (Bare values) :=
  decidable_of_iff (values.all (fun p =>
      p.1.toList.all (fun c => isKeyChar c && c != '\'' && c != '"') &&
      p.2.toList.all (fun c => !isBlank c && c != '\'' && c != '"')) = true) <| by
    simp only [List.all_eq_true, Bool.and_eq_true, bne_iff_ne, ne_eq, Bool.not_eq_true',
      and_assoc]
    exact ⟨fun h => ⟨fun p hp => (h p hp).1, fun p hp => (h p hp).2⟩,
      fun h p hp => ⟨h.keys p hp, h.texts p hp⟩⟩

theorem Bare.tail {p : String × String} {rest : Pairs String String} (h : Bare (p :: rest)) :
    Bare rest where
  keys := fun q hq => h.keys q (List.mem_cons_of_mem p hq)
  texts := fun q hq => h.texts q (List.mem_cons_of_mem p hq)

/-- What follows the first character of a key is a key like it. -/
theorem Bare.drop {p : String × String} {rest : Pairs String String} (h : Bare (p :: rest))
    {c : Char} {cs : List Char} (hkey : p.1.toList = c :: cs) :
    Bare ((String.ofList cs, p.2) :: rest) := by
  refine ⟨fun q hq d hd => ?_, fun q hq d hd => ?_⟩
  · rcases List.mem_cons.1 hq with rfl | hq
    · rw [String.toList_ofList] at hd
      exact h.keys p List.mem_cons_self d (by rw [hkey]; exact List.mem_cons_of_mem _ hd)
    · exact h.keys q (List.mem_cons_of_mem _ hq) d hd
  · rcases List.mem_cons.1 hq with rfl | hq
    · exact h.texts p List.mem_cons_self d hd
    · exact h.texts q (List.mem_cons_of_mem _ hq) d hd

/-- The text of the lines of values begins with the first key. -/
theorem body_recorded_cons (p : String × String) (rest : Pairs String String) :
    body (recorded (p :: rest)) =
      p.1.toList ++ '=' :: (p.2.toList ++ '\n' :: body (recorded rest)) := by
  rw [← line_newline]
  exact body_cons _ _

/-- A character of a key is none of the grammar's. -/
theorem of_isKeyChar {c : Char} (h : isKeyChar c = true) :
    isBlank c = false ∧ c ≠ '=' ∧ c ≠ '#' := by
  unfold isKeyChar at h
  simpa [and_assoc] using h

/-- A value without quotes and blanks reads back. -/
theorem readsBack_of_bare {v : List Char}
    (h : ∀ c ∈ v, isBlank c = false ∧ c ≠ '\'' ∧ c ≠ '"') : ReadsBack v where
  start c hc := h c (List.mem_of_mem_head? hc)
  finish c hc := (h c (List.mem_of_getLast? hc)).1
  whole b hb hinside := by
    have hmem := hinside.subset (List.mem_cons_self (a := b) (l := ['#']))
    rw [(h b hmem).1] at hb
    cases hb

theorem newline_not_mem_of_bare {v : List Char}
    (h : ∀ c ∈ v, isBlank c = false ∧ c ≠ '\'' ∧ c ≠ '"') : '\n' ∉ v := fun hmem =>
  absurd (h _ hmem).1 (by decide)

/-- A text that begins with an equals sign has no key, so its first line is malformed. -/
theorem readStatement_no_key (s : List Char) :
    readStatement ('=' :: s) = (.malformed, skipLine ('=' :: s)) := by
  have hstart : ('=' :: s).dropWhile isBlank = '=' :: s := List.dropWhile_cons_of_neg (by decide)
  have hnone : ∀ c ∈ ([] : List Char), isKeyChar c = true := fun _ hc =>
    absurd hc List.not_mem_nil
  have hskip : skipExport ('=' :: s) = '=' :: s := skipExport_key hnone s
  have hhead : headOf ('=' :: s) = .error ('=' :: s) := by
    unfold headOf chain keyOf
    rw [readKey_of_bare (by decide) (by decide), List.takeWhile_cons_of_neg (by decide)]
  rw [readStatement_eq (by rw [hstart]; exact List.cons_ne_nil _ _), hstart, hskip, hhead, closed]

/-- A key without signs of the grammar is bare, unless it is empty. -/
theorem bareKey_of_ne_empty {key : String} (hne : key ≠ "")
    (hkey : ∀ c ∈ key.toList, isKeyChar c = true ∧ c ≠ '\'' ∧ c ≠ '"') : BareKey key.toList := by
  cases hchars : key.toList with
  | nil => exact absurd (String.toList_eq_nil_iff.1 hchars) hne
  | cons c cs =>
    rw [hchars] at hkey
    exact ⟨fun d hd => (hkey d hd).1, c, cs, rfl, (hkey c List.mem_cons_self).2.1⟩

/-- The line of a bare value is one statement: it binds the key, unless that is empty. -/
theorem readStatement_bare {p : String × String}
    (hkey : ∀ c ∈ p.1.toList, isKeyChar c = true ∧ c ≠ '\'' ∧ c ≠ '"')
    (htext : ∀ c ∈ p.2.toList, isBlank c = false ∧ c ≠ '\'' ∧ c ≠ '"') (rest : List Char) :
    readStatement (line p.1 p.2 ++ '\n' :: rest) =
      (if p.1 = "" then .malformed else .binding p.1.toList (some p.2.toList), rest) := by
  have hnewline := newline_not_mem_of_bare htext
  rw [line_newline]
  split
  · rename_i hempty
    have hline : '\n' ∉ '=' :: p.2.toList := by simpa using hnewline
    rw [hempty]
    refine (readStatement_no_key _).trans (Prod.ext rfl ?_)
    rw [skipLine, ← List.cons_append, dropWhile_line hline]
    rfl
  · rename_i hne
    exact readStatement_line (bareKey_of_ne_empty hne hkey) (readsBack_of_bare htext) hnewline rest

/-- What the lines of bare values bind: each key to its value, but for an empty key. -/
def written (values : Pairs String String) : List (String × Option String) :=
  (values.filter fun p => p.1 ≠ "").map fun p => (p.1, some p.2)

theorem mem_written {key value : String} :
    (key, some value) ∈ written values ↔ (key, value) ∈ values ∧ key ≠ "" := by
  simp [written]

theorem key_of_mem_written {x : String × Option String} (h : x ∈ written values) :
    ∃ p ∈ values, p.1 = x.1 := by
  obtain ⟨p, hp, rfl⟩ := List.mem_map.1 h
  exact ⟨p, (List.mem_filter.1 hp).1, rfl⟩

theorem written_append (ps qs : Pairs String String) :
    written (ps ++ qs) = written ps ++ written qs := by
  simp [written]

theorem distinct_written (h : Pairs.Distinct values) : Pairs.Distinct (written values) :=
  List.pairwise_map.2 (List.Pairwise.filter _ h)

/-- Keys that are not among the values are not bound. -/
theorem get?_written_of_ne {key : String} (hkey : ∀ p ∈ values, p.1 ≠ key) :
    Pairs.get? key (written values).reverse = none := by
  refine Pairs.get?_eq_none fun x hx heq => ?_
  obtain ⟨p, hp, hpx⟩ := key_of_mem_written (List.mem_reverse.1 hx)
  exact hkey p hp (hpx.trans heq)

/-- Lines of bare values bind the values, but for an empty key. -/
theorem bindings_recorded (h : Bare values) :
    bindings (body (recorded values)) = written values := by
  induction values with
  | nil => exact bindings_nil
  | cons p rest ih =>
    have hread := readStatement_bare (h.keys p List.mem_cons_self) (h.texts p List.mem_cons_self)
      (body (recorded rest))
    rw [line_newline, ← body_recorded_cons] at hread
    have hne : body (recorded (p :: rest)) ≠ [] := by rw [body_recorded_cons]; simp
    rw [bindings_of_ne_nil hne, hread, ih h.tail]
    rw [← List.singleton_append, written_append]
    by_cases hempty : p.1 = "" <;> simp [written, hempty, Statement.binds]

/-! ## The text that writing leaves -/

/-- The lines of a text that writing keeps. -/
def keptLines (values : Pairs String String) (old : List Char) : List (List Char) :=
  (lines old).filter (isKept values)

/-- Bare values are written behind the lines that are kept. -/
theorem updated_bare (hdistinct : Pairs.Distinct values) (hbare : Bare values) (old : List Char) :
    updated old values = unlines (keptLines values old ++ recorded values) := by
  have hequals : ∀ p ∈ values, '=' ∉ p.1.toList := fun p hp hmem =>
    (of_isKeyChar (hbare.keys p hp _ hmem).1).2.1 rfl
  unfold updated
  rw [putLines_eq (pairwise_bindsKey_line hdistinct hequals)]
  rfl

theorem quoteFree_recorded (hbare : Bare values) : QuoteFree (body (recorded values)) := by
  intro c hc
  obtain ⟨l, hl, hc⟩ := List.mem_flatMap.1 hc
  obtain ⟨p, hp, rfl⟩ := List.mem_map.1 hl
  unfold line at hc
  rw [List.append_assoc, List.cons_append] at hc
  rcases List.mem_append.1 hc with hkey | hc
  · exact (hbare.keys p hp c hkey).2
  · rcases List.mem_cons.1 hc with rfl | hc
    · decide
    · rcases List.mem_append.1 hc with htext | hnewline
      · exact (hbare.texts p hp c htext).2
      · obtain rfl := List.mem_singleton.1 hnewline
        decide

theorem exists_body_eq {ls : List (List Char)} (hne : ls ≠ []) : ∃ b, body ls = b ++ ['\n'] := by
  rcases List.eq_nil_or_concat ls with rfl | ⟨ks, l, rfl⟩
  · exact absurd rfl hne
  · refine ⟨body ks ++ l, ?_⟩
    rw [List.concat_eq_append, body_append, body_cons, List.append_assoc]
    rfl

/-- The text of lines binds what their body does. -/
theorem unmarked_unlines (ls : List (List Char)) :
    bindings (unmarked (unlines ls)) = bindings (unmarked (body ls)) := by
  by_cases hne : ls = []
  · subst hne
    have hnewline : bindings ['\n'] = [] := by
      have hblank := bindings_blank_append (b := ['\n']) (by decide) []
      rwa [List.append_nil, bindings_nil] at hblank
    exact hnewline.trans bindings_nil.symm
  · rw [unlines_eq_flatMap ls hne]
    rfl

theorem unmarked_append_newline (b s : List Char) :
    unmarked (b ++ '\n' :: s) = unmarked b ++ '\n' :: s := by
  unfold unmarked
  cases b with
  | nil => rfl
  | cons c b =>
    have hhead : (c :: b ++ '\n' :: s).head? = (c :: b).head? := rfl
    rw [hhead]
    split <;> rfl

/-- Lines without quotes behind others bind what they would bind alone. -/
theorem bindings_body_append {ks : List (List Char)} (hne : ks ≠ []) {s : List Char}
    (hs : QuoteFree s) : bindings (unmarked (body ks ++ s)) =
      bindings (unmarked (body ks)) ++ bindings s := by
  obtain ⟨b, hb⟩ := exists_body_eq hne
  have hnone : QuoteFree [] := fun c hc => absurd hc List.not_mem_nil
  have halone : bindings (unmarked (body ks)) = bindings (unmarked b) := by
    rw [hb, unmarked_append_newline, bindings_append _ hnone, bindings_nil, List.append_nil]
  rw [halone, hb, List.append_assoc, List.singleton_append, unmarked_append_newline,
    bindings_append _ hs]

/-- A key with a byte order mark in front of it. -/
def withMark (key : String) : String := String.ofList (byteOrderMark :: key.toList)

theorem toList_withMark (key : String) : (withMark key).toList = byteOrderMark :: key.toList :=
  String.toList_ofList

theorem withMark_inj {k key : String} (h : withMark k = withMark key) : k = key := by
  have hlists := congrArg String.toList h
  rw [toList_withMark, toList_withMark] at hlists
  exact String.toList_inj.1 (List.cons.inj hlists).2

theorem ne_withMark (key : String) : key ≠ withMark key := by
  intro h
  have hlengths := congrArg (·.toList.length) h
  simp [toList_withMark] at hlengths

/-- Whether the text that writing leaves begins with a mark in the first key. -/
def MarkedKey (values : Pairs String String) (old : List Char) (key : String) : Prop :=
  keptLines values old = [] ∧ (∃ p ∈ values.head?, p.1 = key) ∧
    key.toList.head? = some byteOrderMark

/-- The first line of values has the first character of the first key, or an equals sign. -/
theorem unmarked_recorded (hmark : ∀ p ∈ values.head?, p.1.toList.head? ≠ some byteOrderMark) :
    unmarked (body (recorded values)) = body (recorded values) := by
  cases values with
  | nil => rfl
  | cons p rest =>
    have hp := hmark p rfl
    refine if_neg fun hhead => ?_
    rw [body_recorded_cons] at hhead
    cases hkey : p.1.toList with
    | nil =>
      rw [hkey] at hhead
      exact absurd (Option.some.inj hhead) (by decide)
    | cons c cs =>
      rw [hkey] at hhead hp
      exact hp hhead

/-- What the written text binds: what the kept lines bind alone, and then the values. -/
theorem bindings_updated (hdistinct : Pairs.Distinct values) (hbare : Bare values)
    {old : List Char} (hmark : ∀ key, ¬MarkedKey values old key) :
    bindings (unmarked (updated old values)) =
      bindings (unmarked (body (keptLines values old))) ++ written values := by
  rw [updated_bare hdistinct hbare, unmarked_unlines, body_append, ← bindings_recorded hbare]
  by_cases hkept : keptLines values old = []
  · have hfirst : ∀ p ∈ values.head?, p.1.toList.head? ≠ some byteOrderMark := fun p hp hhead =>
      hmark p.1 ⟨hkept, ⟨p, hp, rfl⟩, hhead⟩
    have hempty : bindings (unmarked []) = [] := bindings_nil
    rw [hkept, show body [] = [] from rfl, List.nil_append, hempty, List.nil_append,
      unmarked_recorded hfirst]
  · exact bindings_body_append hkept (quoteFree_recorded hbare)

/-- If the written text begins with a mark, that is not read, and the first key is read without
it. -/
theorem bindings_updated_marked (hdistinct : Pairs.Distinct values) (hbare : Bare values)
    {old : List Char} {key : String} (hmark : MarkedKey values old key) :
    ∃ p rest k, values = p :: rest ∧ p.1 = key ∧ key = withMark k ∧
      bindings (unmarked (updated old values)) = written ((k, p.2) :: rest) := by
  obtain ⟨hkept, ⟨p, hp, rfl⟩, hhead⟩ := hmark
  cases values with
  | nil => cases hp
  | cons q rest =>
    obtain rfl := Option.some.inj hp
    obtain ⟨cs, hcs⟩ := List.head?_eq_some_iff.1 hhead
    refine ⟨q, rest, String.ofList cs, rfl, rfl, ?_, ?_⟩
    · refine String.toList_inj.1 ?_
      rw [hcs, toList_withMark, String.toList_ofList]
    · -- Without the mark these are the lines of other values.
      have hdropped : unmarked (body (recorded (q :: rest))) =
          body (recorded ((String.ofList cs, q.2) :: rest)) := by
        rw [body_recorded_cons, body_recorded_cons, hcs, String.toList_ofList]
        exact if_pos rfl
      rw [updated_bare hdistinct hbare, hkept, List.nil_append, unmarked_unlines, hdropped,
        bindings_recorded (hbare.drop hcs)]

/-- The last values that are bound decide. -/
theorem get?_last {values : Pairs String String} (hdistinct : Pairs.Distinct values)
    (front : List (String × Option String)) {key value : String} (hmem : (key, value) ∈ values)
    (hne : key ≠ "") :
    (Pairs.get? key (front ++ written values).reverse).join = some value := by
  have hbound := List.mem_reverse.2 (mem_written.2 ⟨hmem, hne⟩)
  rw [List.reverse_append, Pairs.get?_append,
    Pairs.get?_of_mem (distinct_written hdistinct).reverse hbound]
  rfl

/-- Where the first key begins the text with a mark, the other keys have their values. -/
theorem get?_updated_marked_iff (hdistinct : Pairs.Distinct values) (hbare : Bare values)
    {old : List Char} {k : String} (hk : MarkedKey values old k) {key value : String}
    (hmem : (key, value) ∈ values) (hne : key ≠ "") :
    Pairs.get? key (valuesOf (statements (updated old values))) = some value ↔
      ¬MarkedKey values old key := by
  obtain ⟨p, rest, dropped, rfl, rfl, hdropped, hbinds⟩ :=
    bindings_updated_marked hdistinct hbare hk
  obtain ⟨hp, hrest⟩ := List.pairwise_cons.1 hdistinct
  rw [get?_valuesOf, hbinds]
  by_cases hkey : key = p.1
  · have hnone : Pairs.get? key (written ((dropped, p.2) :: rest)).reverse = none := by
      refine get?_written_of_ne fun q hq heq => ?_
      rcases List.mem_cons.1 hq with rfl | hq
      · exact ne_withMark dropped ((heq.trans hkey).trans hdropped)
      · exact hp q hq (hkey.symm.trans heq.symm)
    rw [hnone]
    exact ⟨nofun, fun h => absurd (hkey ▸ hk) h⟩
  · have hlater : (key, value) ∈ rest :=
      (List.mem_cons.1 hmem).resolve_left fun heq => hkey (congrArg Prod.fst heq)
    have hother : ¬MarkedKey (p :: rest) old key := by
      rintro ⟨-, ⟨q, hq, heq⟩, -⟩
      obtain rfl := Option.some.inj hq
      exact hkey heq.symm
    rw [← List.singleton_append, written_append]
    exact ⟨fun _ => hother, fun _ => get?_last hrest _ hlater hne⟩

/-- A written key has its value in the text that writing leaves, but for an empty key and for one
that begins the text with a mark. -/
theorem get?_updated_iff (hdistinct : Pairs.Distinct values) (hbare : Bare values)
    (old : List Char) {key value : String} (hmem : (key, value) ∈ values) :
    Pairs.get? key (valuesOf (statements (updated old values))) = some value ↔
      key ≠ "" ∧ ¬MarkedKey values old key := by
  by_cases hempty : key = ""
  · -- No statement binds the empty key.
    have hnone : Pairs.get? key (bindings (unmarked (updated old values))).reverse = none :=
      Pairs.get?_eq_none fun x hx heq =>
        ne_empty_of_mem_bindings (List.mem_reverse.1 hx) (heq.trans hempty)
    rw [get?_valuesOf, hnone]
    exact ⟨nofun, fun h => absurd hempty h.1⟩
  by_cases hmarked : ∃ k, MarkedKey values old k
  · obtain ⟨k, hk⟩ := hmarked
    rw [get?_updated_marked_iff hdistinct hbare hk hmem hempty]
    exact ⟨fun h => ⟨hempty, h⟩, fun h => h.2⟩
  · rw [not_exists] at hmarked
    rw [get?_valuesOf, bindings_updated hdistinct hbare hmarked]
    exact ⟨fun _ => ⟨hempty, hmarked key⟩, fun _ => get?_last hdistinct _ hmem hempty⟩

/-! ## Saving and loading -/

/-- Bare values are written without carriage returns. -/
theorem carriageReturn_not_mem_bare (hbare : Bare values) (old : List Char) :
    '\r' ∉ updated old values := by
  refine carriageReturn_not_mem_updated (fun p hp hmem => ?_) (fun p hp hmem => ?_) old
  · exact absurd (of_isKeyChar (hbare.keys p hp _ hmem).1).1 (by decide)
  · exact absurd (hbare.texts p hp _ hmem).1 (by decide)

/-- What loading gives once bare values were saved, on the files and in the directory that saving
left: the values of the text that was found, with the values written. -/
theorem load_of_upsert {s : Session σ} {path : Path} (hbare : Bare values)
    (h : (upsert path values).result s = .ok ()) :
    ∃ old, (found path).result s = .ok old ∧
      ∀ u : Session σ, u.host.tree = ((upsert path values).after s).host.tree →
        u.host.cwd = s.host.cwd →
        (load path).result u = .ok (valuesOf (statements (updated old values))) := by
  obtain ⟨old, hfound, hnul, -, -, place, hfile⟩ := upsert_ok h
  refine ⟨old, hfound, fun u htree hcwd => ?_⟩
  have hfolded := carriageReturn_not_mem_bare hbare old
  refine result_load_of_file hnul (q := .live place) ?_ hfolded
  rw [htree, hcwd]
  exact hfile

/-- Bare values that were saved come back when the state file is loaded, whatever stood in it
before: each written key has exactly its value. Only an empty key does not, and a key that begins
the new file with a byte order mark. -/
theorem upsert_reads_back {s : Session σ} {path : Path} (hdistinct : Pairs.Distinct values)
    (hbare : Bare values) (h : (upsert path values).result s = .ok ()) :
    ∃ old loaded, (found path).result s = .ok old ∧
      (∀ u : Session σ, u.host.tree = ((upsert path values).after s).host.tree →
        u.host.cwd = s.host.cwd → (load path).result u = .ok loaded) ∧
      ∀ p ∈ values, Pairs.get? p.1 loaded = some p.2 ↔
        p.1 ≠ "" ∧ ¬MarkedKey values old p.1 := by
  obtain ⟨old, hfound, hload⟩ := load_of_upsert hbare h
  exact ⟨old, _, hfound, hload, fun p hp => get?_updated_iff hdistinct hbare old hp⟩

/-- A host with a state file and nothing else. -/
def stateHost (content : String) : Host Unit where
  tree := [(["state"], .file (Text.Utf8.encode content.toList))]
  cwd := .live []
  env := []
  renameFault := none
  outside := ()

/-- What saving leaves of the host. -/
def savedOver (content : String) (values : Pairs String String) : Session Unit :=
  (upsert (.ofText "state") values).after ⟨stateHost content, []⟩

/-- A value comes back from behind a quote that is never closed. -/
theorem unclosed_quote_harmless : ∃ loaded,
    (load (.ofText "state")).result (savedOver "A='x\nKEY=0\n" [("KEY", "1")]) = .ok loaded ∧
      Pairs.get? "KEY" loaded = some "1" := by
  have hresult : ((upsert (.ofText "state") [("KEY", "1")]).result
      ⟨stateHost "A='x\nKEY=0\n", []⟩).toOption = some () := by
    decide +kernel
  have hcwd : (savedOver "A='x\nKEY=0\n" [("KEY", "1")]).host.cwd = .live [] := by
    decide +kernel
  obtain ⟨old, loaded, -, hload, hback⟩ := upsert_reads_back (List.pairwise_singleton _ _)
    (by decide +kernel) (result_eq_ok_of_toOption hresult)
  have hloaded := hload (savedOver "A='x\nKEY=0\n" [("KEY", "1")]) (by unfold savedOver; rfl) hcwd
  refine ⟨loaded, hloaded, (hback _ List.mem_cons_self).2 ⟨by decide, ?_⟩⟩
  rintro ⟨-, -, hmark⟩
  exact absurd hmark (by decide +kernel)

/-- An empty key is not read, and neither is a mark in front of the first key. -/
theorem marked_and_empty_keys_lost :
    Pairs.Distinct [("\uFEFFA", "1"), ("", "2")] ∧ Bare [("\uFEFFA", "1"), ("", "2")] ∧
    ((upsert (.ofText "state") [("\uFEFFA", "1"), ("", "2")]).result
      ⟨stateHost "", []⟩).toOption = some () ∧
    ((load (.ofText "state")).result
      (savedOver "" [("\uFEFFA", "1"), ("", "2")])).toOption = some [("A", "1")] := by
  refine ⟨?_, ?_, ?_, ?_⟩
  · simp [Pairs.Distinct]
  · decide +kernel
  · decide +kernel
  · decide +kernel

end StateFile

end SorobanDeploy
