import SorobanDeploy.Proofs.StateFile.RoundTrip

/-!
# One writing after another

The keys are written one after the other, into the lines that the writings before left. Where no key
has an equals sign in it, none of these takes away the line of another, so what is written are the
lines that bind no key and then those of the values (`upsert_writes_lines`).

A text that was written is read as the lines that it was made of if no key and no value has a line
break in it (`OneLined`). So the second of two writings starts from the lines that the first one
made, and both write what the second mapping writes over the first one (`supersede`). Whether a
state file can be written depends neither on the values nor on the writings before (`Ready.again`).
-/

namespace SorobanDeploy

open Act

variable {σ : Type} {s : Session σ} {path : Path} {values v w : Pairs String String}
  {old : List Char}

namespace StateFile

open Text

/-! ## Where values can be written -/

/-- Saving finds a text, and the file can be replaced. -/
structure Ready (path : Path) (old : List Char) (s : Session σ) : Prop where
  finds : (found path).result s = .ok old
  replaceable : Files.Replaceable path ((found path).after s)

/-- An action succeeds and leaves a text at the end of a path. -/
def Leaves (x : Act σ Unit) (path : Path) (text : List Char) (s : Session σ) : Prop :=
  x.result s = .ok () ∧ ∃ place, (x.after s).host.tree.status (x.after s).host.cwd path.text =
    .ok (.live place, .file (Utf8.encode text))

theorem leaves_bind {x y : Act σ Unit} {text : List Char} (h : x.result s = .ok ()) :
    Leaves (x >>= fun _ => y) path text s ↔ Leaves y path text (x.after s) := by
  unfold Leaves
  rw [result_bind_of_ok _ h, after_bind_of_ok _ h]

/-- Values are written exactly if any are. -/
theorem result_upsert_eq_ok_iff :
    (upsert path values).result s = .ok () ↔ ∃ old, Ready path old s := by
  rw [upsert_eq]
  constructor
  · intro h
    obtain ⟨old, hfound, h⟩ := result_bind_eq_ok h
    obtain ⟨_, hreplace, -⟩ := result_bind_eq_ok h
    obtain ⟨-, hcwd, ⟨q, e, hstatus, he⟩, -⟩ := found_ok hfound
    rw [← hcwd] at hstatus
    exact ⟨old, hfound, (Files.result_replace_eq_ok_iff hstatus he _).1 hreplace⟩
  · rintro ⟨old, hfound, hreplaceable⟩
    obtain ⟨-, hcwd, ⟨q, e, hstatus, he⟩, -⟩ := found_ok hfound
    rw [← hcwd] at hstatus
    have hreplace := (Files.result_replace_eq_ok_iff hstatus he
      (Utf8.encode (updated old values))).2 hreplaceable
    rw [result_bind_of_ok _ hfound, result_bind_of_ok _ hreplace]
    rfl

/-- What is written where a text is found is that text with the values written. -/
theorem Ready.leaves (h : Ready path old s) (values : Pairs String String) :
    Leaves (upsert path values) path (updated old values) s := by
  have hresult : (upsert path values).result s = .ok () := result_upsert_eq_ok_iff.2 ⟨old, h⟩
  obtain ⟨found, hfound, -, -, hcwd, place, hplace⟩ := upsert_ok hresult
  cases h.finds.symm.trans hfound
  rw [← hcwd] at hplace
  exact ⟨hresult, place, hplace⟩

/-- Where values were written, others can be written again, and what they find is the text that the
first ones left. -/
theorem Ready.again (h : Ready path old s) (hfolded : '\r' ∉ updated old values) :
    Ready path (updated old values) ((upsert path values).after s) := by
  obtain ⟨hresult, place, hplace⟩ := h.leaves values
  have hnul := (found_ok h.finds).1
  have hfound := result_found_of_content hnul (Tree.contentOf_of_file hplace) (Utf8.decode_encode _)
  rw [foldNewlines_of_not_mem hfolded] at hfound
  refine ⟨hfound, ?_⟩
  rw [after_found_of_status hnul hplace]
  -- Only the file was replaced since the text was found.
  obtain ⟨_, _, -, tree, -, hhost, -, htakes, -⟩ := upsert_takes hresult
  exact h.replaceable.of_takes hhost htakes

/-! ## The lines that are written -/

/-- The text that writing leaves: the lines that begin with no written key and an equals sign, then
one line for each value, joined by newlines and with one at the end. It is written exactly if the
file can be replaced. No key takes away the line of another one that was written, and a key that is
not written has the lines that it had. -/
theorem upsert_writes_lines {content : Octets} {cs : List Char}
    (hdistinct : Pairs.Distinct values) (hplain : ∀ p ∈ values, '=' ∉ p.1.toList)
    (hnul : Files.hasNul path.text = false)
    (hcontent : s.host.tree.contentOf s.host.cwd path.text = .ok content)
    (hdecode : Utf8.decode content = .ok cs) :
    ∃ written, written = (lines (foldNewlines cs)).filter
        (fun l => values.all fun p => !(p.1.toList ++ ['=']).isPrefixOf l) ++
          values.map (fun p => p.1.toList ++ '=' :: p.2.toList) ∧
      upsert path values s = (Files.replace path
          (Utf8.encode (List.intercalate ['\n'] written ++ ['\n'])) >>= fun _ =>
        log Log.debug logger
          ("Wrote " ++ toString values.length ++ " key(s) to " ++ path.text)) s ∧
      ((upsert path values).result s = .ok () ↔ Files.Replaceable path s) ∧
      (Files.Replaceable path s →
        Leaves (upsert path values) path (List.intercalate ['\n'] written ++ ['\n']) s) ∧
      (values.Pairwise fun p q => bindsKey q.1 (line p.1 p.2) = false) ∧
      (∀ p ∈ values, written.filter (bindsKey p.1) = [line p.1 p.2]) ∧
      ∀ key : String, '=' ∉ key.toList → (∀ p ∈ values, p.1 ≠ key) →
        written.filter (bindsKey key) = (lines (foldNewlines cs)).filter (bindsKey key) := by
  obtain ⟨q, e, hstatus, -, -⟩ := Tree.contentOf_eq_ok hcontent
  have hfound := result_found_of_content hnul hcontent hdecode
  have hsame := after_found_of_status hnul hstatus
  have happart := pairwise_bindsKey_line hdistinct hplain
  have hnames : ∀ key : String, ∀ p ∈ values, bindsKey key p.1.toList = false := fun key p hp =>
    bindsKey_of_plain key (hplain p hp)
  have hready : Ready path (foldNewlines cs) s ↔ Files.Replaceable path s := by
    constructor
    · intro h
      exact hsame ▸ h.replaceable
    · intro h
      exact ⟨hfound, hsame.symm ▸ h⟩
  refine ⟨putLines (lines (foldNewlines cs)) values, putLines_eq happart _, ?_, ?_, ?_, happart,
    fun p hp => ?_, fun key hkey hne => ?_⟩
  · have hends : found path s = .ok (foldNewlines cs) s := (eq_ok_iff _ _ _ _).2 ⟨hfound, hsame⟩
    rw [upsert_eq, bind_apply, hends]
    rfl
  · rw [result_upsert_eq_ok_iff, ← hready]
    constructor
    · rintro ⟨old, h⟩
      cases hfound.symm.trans h.finds
      exact h
    · intro h
      exact ⟨_, h⟩
  · intro h
    exact (hready.2 h).leaves values
  · exact filter_putLines (hplain p hp) hdistinct hp (hnames p.1) _
  · exact filter_putLines_of_ne hkey hne (hnames key) _

/-- Saving a key takes away the line that the file had for it, and neither the line that was just
written for a longer key nor one of a longer key that is not written. -/
theorem key_saved_beside_longer : ∃ written,
    (upsert (.ofText "state") [("AB", "1"), ("A", "2")]).result
        ⟨stateHost "A=0\nABC=4\n", []⟩ = .ok () ∧
      Leaves (upsert (.ofText "state") [("AB", "1"), ("A", "2")]) (.ofText "state")
        (List.intercalate ['\n'] written ++ ['\n']) ⟨stateHost "A=0\nABC=4\n", []⟩ ∧
      written.filter (bindsKey "AB") = [line "AB" "1"] ∧
      written.filter (bindsKey "A") = [line "A" "2"] ∧
      written.filter (bindsKey "ABC") = [line "ABC" "4"] := by
  have hresult : ((upsert (.ofText "state") [("AB", "1"), ("A", "2")]).result
      ⟨stateHost "A=0\nABC=4\n", []⟩).toOption = some () := by
    decide +kernel
  have hsaved := result_eq_ok_of_toOption hresult
  have hfile : (stateHost "A=0\nABC=4\n").tree.status (stateHost "A=0\nABC=4\n").cwd
      (Path.ofText "state").text =
        .ok (.live ["state"], .file (Utf8.encode "A=0\nABC=4\n".toList)) := by
    rfl
  have hdistinct : Pairs.Distinct [("AB", "1"), ("A", "2")] := by simp [Pairs.Distinct]
  obtain ⟨written, -, -, hiff, hleaves, -, hkeys, hothers⟩ :=
    upsert_writes_lines (s := ⟨stateHost "A=0\nABC=4\n", []⟩) hdistinct (by decide)
      (by decide +kernel) (Tree.contentOf_of_file hfile) (Utf8.decode_encode _)
  refine ⟨written, hsaved, hleaves (hiff.1 hsaved), hkeys _ List.mem_cons_self,
    hkeys _ (List.mem_cons_of_mem _ List.mem_cons_self), ?_⟩
  rw [hothers "ABC" (by decide) (by decide)]
  decide +kernel

/-! ## Lines that are read again -/

/-- Values that are read as the lines that were written: no key is there twice or has an equals sign
in it, and neither a key nor a value has a line break in it. -/
structure OneLined (values : Pairs String String) : Prop where
  distinct : Pairs.Distinct values
  plain : ∀ p ∈ values, '=' ∉ p.1.toList
  keys : ∀ p ∈ values, ∀ c ∈ p.1.toList, isLineBreak c = false
  texts : ∀ p ∈ values, ∀ c ∈ p.2.toList, isLineBreak c = false

/-- What two mappings write, one after the other: the first one without the keys of the second one,
then that. -/
def supersede (v w : Pairs String String) : Pairs String String :=
  (v.filter fun p => w.all fun q => q.1 ≠ p.1) ++ w

theorem OneLined.carriageReturn_not_mem (h : OneLined values) (old : List Char) :
    '\r' ∉ updated old values := by
  refine carriageReturn_not_mem_updated (fun p hp hmem => ?_) (fun p hp hmem => ?_) old
  · cases h.keys p hp _ hmem
  · cases h.texts p hp _ hmem

theorem OneLined.isLineBreak_of_mem_putLines (h : OneLined values) {l : List Char}
    (hl : l ∈ putLines (lines old) values) : ∀ c ∈ l, isLineBreak c = false := by
  rcases mem_putLines hl with hold | ⟨p, hp, rfl⟩
  · exact isLineBreak_of_mem_lines hold
  · intro c hc
    rcases List.mem_append.1 hc with hkey | htext
    · exact h.keys p hp c hkey
    · rcases List.mem_cons.1 htext with rfl | htext
      · decide
      · exact h.texts p hp c htext

/-- The lines that were written are read again. No line at all is written as an empty one. -/
theorem OneLined.lines_updated (h : OneLined values) (old : List Char) :
    lines (updated old values) =
      if putLines (lines old) values = [] then [[]] else putLines (lines old) values := by
  unfold updated
  split
  · rename_i hnone
    rw [hnone]
    rfl
  · rename_i hsome
    exact lines_unlines _ hsome fun l hl => h.isLineBreak_of_mem_putLines hl

theorem putLines_ne_nil (hne : values ≠ []) (ls : List (List Char)) : putLines ls values ≠ [] := by
  rcases List.eq_nil_or_concat values with rfl | ⟨front, p, rfl⟩
  · exact absurd rfl hne
  · unfold putLines putLine
    simp

/-! ## The last writing wins -/

/-- A mapping keeps the line of a key exactly if the key is none of its own. -/
theorem isKept_line (hw : ∀ q ∈ w, '=' ∉ q.1.toList) {key : String} (hkey : '=' ∉ key.toList)
    (value : String) : isKept w (line key value) = w.all fun q => q.1 ≠ key := by
  unfold isKept
  rw [Bool.eq_iff_iff, List.all_eq_true, List.all_eq_true]
  refine forall₂_congr fun q hq => ?_
  have hbinds : bindsKey q.1 (line key value) = true ↔ q.1 = key :=
    bindsKey_append (hw q hq) hkey
  rw [Bool.not_eq_true', decide_eq_true_iff, ← Bool.not_eq_true]
  exact not_congr hbinds

theorem OneLined.supersede (hv : OneLined v) (hw : OneLined w) : OneLined (supersede v w) := by
  have hmem : ∀ p ∈ StateFile.supersede v w, p ∈ v ∨ p ∈ w := fun p hp =>
    (List.mem_append.1 hp).imp_left fun hkept => (List.mem_filter.1 hkept).1
  refine ⟨?_, fun p hp => (hmem p hp).elim (hv.plain p) (hw.plain p),
    fun p hp => (hmem p hp).elim (hv.keys p) (hw.keys p),
    fun p hp => (hmem p hp).elim (hv.texts p) (hw.texts p)⟩
  refine List.pairwise_append.2 ⟨hv.distinct.filter _, hw.distinct, fun p hp q hq => ?_⟩
  have hnone := (List.mem_filter.1 hp).2
  have hother := List.all_eq_true.1 hnone q hq
  exact fun heq => of_decide_eq_true hother heq.symm

/-- A line is kept by what two mappings write exactly if both keep it. -/
theorem isKept_supersede (v w : Pairs String String) (l : List Char) :
    isKept (supersede v w) l = (isKept w l && isKept v l) := by
  have hkeeps (values : Pairs String String) :
      isKept values l = true ↔ ∀ p ∈ values, bindsKey p.1 l = false := by
    simp [isKept]
  rw [Bool.eq_iff_iff, Bool.and_eq_true, hkeeps, hkeeps, hkeeps]
  constructor
  · intro h
    have hw : ∀ q ∈ w, bindsKey q.1 l = false := fun q hq => h q (List.mem_append_right _ hq)
    refine ⟨hw, fun p hp => ?_⟩
    by_cases hnone : ∀ q ∈ w, q.1 ≠ p.1
    · have hkept : p ∈ v.filter fun p => w.all fun q => q.1 ≠ p.1 :=
        List.mem_filter.2 ⟨hp, by simpa using hnone⟩
      exact h p (List.mem_append_left _ hkept)
    · -- The key is written again.
      rw [not_forall₂] at hnone
      obtain ⟨q, hq, heq⟩ := hnone
      rw [← not_not.1 heq]
      exact hw q hq
  · rintro ⟨hw, hv⟩ p hp
    rcases List.mem_append.1 hp with hp | hp
    · exact hv p (List.mem_filter.1 hp).1
    · exact hw p hp

/-- The second of two writings makes the lines that the two mappings make at once. -/
theorem putLines_putLines (hv : OneLined v) (hw : OneLined w) (ls : List (List Char)) :
    putLines (putLines ls v) w = putLines ls (supersede v w) := by
  have hboth := hv.supersede hw
  have hrecorded : (recorded v).filter (isKept w) ++ recorded w = recorded (supersede v w) := by
    unfold recorded StateFile.supersede
    rw [List.filter_map, List.map_append]
    congr 2
    refine List.filter_congr fun p hp => ?_
    exact isKept_line hw.plain (hv.plain p hp) p.2
  have hkept : (fun l => isKept w l && isKept v l) = isKept (supersede v w) :=
    funext fun l => (isKept_supersede v w l).symm
  calc putLines (putLines ls v) w
      = (ls.filter (isKept v) ++ recorded v).filter (isKept w) ++ recorded w := by
        rw [putLines_eq (pairwise_bindsKey_line hv.distinct hv.plain),
          putLines_eq (pairwise_bindsKey_line hw.distinct hw.plain)]
    _ = ls.filter (isKept (supersede v w)) ++ recorded (supersede v w) := by
        rw [List.filter_append, List.filter_filter, hkept, List.append_assoc, hrecorded]
    _ = putLines ls (supersede v w) :=
        (putLines_eq (pairwise_bindsKey_line hboth.distinct hboth.plain) ls).symm

/-- Two writings leave the text that one leaves. -/
theorem updated_updated_of_ne_nil (hv : OneLined v) (hw : OneLined w) (hne : v ≠ [])
    (old : List Char) : updated (updated old v) w = updated old (supersede v w) := by
  have hread := hv.lines_updated old
  rw [if_neg (putLines_ne_nil hne _)] at hread
  unfold updated at hread ⊢
  rw [hread, putLines_putLines hv hw]

/-- Writing nothing into an empty file makes an empty line of it, which the next writing keeps. -/
example : updated (updated [] []) [("KEY", "1")] ≠ updated [] (supersede [] [("KEY", "1")]) := by
  decide

theorem supersede_self (values : Pairs String String) : supersede values values = values := by
  have hnone : (values.filter fun p => values.all fun q => q.1 ≠ p.1) = [] := by
    rw [List.filter_eq_nil_iff]
    intro p hp hall
    exact of_decide_eq_true (List.all_eq_true.1 hall p hp) rfl
  rw [supersede, hnone, List.nil_append]

/-- Writing the same values again changes nothing. -/
theorem OneLined.updated_updated (h : OneLined values) (old : List Char) :
    updated (updated old values) values = updated old values := by
  by_cases hne : values = []
  · have hread := h.lines_updated old
    subst hne
    unfold updated at hread ⊢
    rw [hread]
    split
    · rename_i hnone
      rw [hnone]
      rfl
    · rfl
  · rw [updated_updated_of_ne_nil h h hne, supersede_self]

/-- A key that is written has one line, under its value; any other one has the lines that it had. -/
theorem filter_lines_updated (h : OneLined values) {key : String} (hkey : '=' ∉ key.toList)
    (old : List Char) : (lines (updated old values)).filter (bindsKey key) =
      (Pairs.get? key values).elim ((lines old).filter (bindsKey key))
        fun value => [line key value] := by
  have hnames : ∀ p ∈ values, bindsKey key p.1.toList = false := fun p hp =>
    bindsKey_of_plain key (h.plain p hp)
  have hread : (lines (updated old values)).filter (bindsKey key) =
      (putLines (lines old) values).filter (bindsKey key) := by
    rw [h.lines_updated]
    split
    · rename_i hnone
      have hempty : bindsKey key [] = false := bindsKey_of_plain key List.not_mem_nil
      rw [hnone, List.filter_cons_of_neg (by simp [hempty])]
    · rfl
  rw [hread]
  cases hget : Pairs.get? key values with
  | none =>
    have hne : ∀ p ∈ values, p.1 ≠ key := by
      rintro ⟨k, value⟩ hp rfl
      rw [Pairs.get?_of_mem h.distinct hp] at hget
      cases hget
    exact filter_putLines_of_ne hkey hne hnames _
  | some value => exact filter_putLines hkey h.distinct (Pairs.mem_of_get? hget) hnames _

/-- After writings, a key that was written has one line, under the value that was written last. -/
theorem filter_lines_foldl {vs : List (Pairs String String)} (h : ∀ v ∈ vs, OneLined v)
    {key : String} (hkey : '=' ∉ key.toList) (old : List Char) :
    (lines (vs.foldl updated old)).filter (bindsKey key) =
      (Pairs.get? key vs.flatten.reverse).elim ((lines old).filter (bindsKey key))
        fun value => [line key value] := by
  induction vs generalizing old with
  | nil => rfl
  | cons v rest ih =>
    have hv := h v List.mem_cons_self
    rw [List.foldl_cons, ih fun u hu => h u (List.mem_cons_of_mem _ hu),
      filter_lines_updated hv hkey, List.flatten_cons, List.reverse_append, Pairs.get?_append,
      Pairs.get?_reverse hv.distinct]
    cases Pairs.get? key rest.flatten.reverse <;> rfl

/-! ## Writing one mapping after another -/

/-- Saves mappings, one after the other. -/
def upsertAll (path : Path) : List (Pairs String String) → Act σ Unit
  | [] => pure ()
  | v :: rest => upsert path v >>= fun _ => upsertAll path rest

/-- Every saving leaves the text that the one before left, with its values written. -/
theorem upsertAll_leaves {vs : List (Pairs String String)} (hne : vs ≠ [])
    (hlined : ∀ v ∈ vs, OneLined v) (h : Ready path old s) :
    Leaves (upsertAll path vs) path (vs.foldl updated old) s := by
  induction vs generalizing old s with
  | nil => exact absurd rfl hne
  | cons v rest ih =>
    have hv := hlined v List.mem_cons_self
    have hfirst := h.leaves v
    unfold upsertAll
    rw [leaves_bind hfirst.1]
    by_cases hnone : rest = []
    · subst hnone
      exact ⟨rfl, hfirst.2⟩
    · have hagain := h.again (hv.carriageReturn_not_mem old)
      exact ih hnone (fun u hu => hlined u (List.mem_cons_of_mem _ hu)) hagain

/-- Successive writings are won by the last one, wherever anything can be written: two of them leave
the text that one leaves that writes both mappings, the second one over the first; any number of
them leaves one line for each key, under the value that was written last; and writing the same
mapping again changes nothing. -/
theorem upserts_last_wins (h : (upsert path values).result s = .ok ()) :
    (∀ v w, OneLined v → OneLined w → v ≠ [] → ∃ text,
      Leaves (upsert path v >>= fun _ => upsert path w) path text s ∧
        Leaves (upsert path (supersede v w)) path text s) ∧
    (∀ vs, vs ≠ [] → (∀ v ∈ vs, OneLined v) → ∃ text, Leaves (upsertAll path vs) path text s ∧
      ∀ key value, Pairs.get? key vs.flatten.reverse = some value →
        (lines text).filter (bindsKey key) = [line key value]) ∧
    ∀ v, OneLined v → ∃ text, Leaves (upsert path v) path text s ∧
      Leaves (upsert path v >>= fun _ => upsert path v) path text s := by
  obtain ⟨old, hready⟩ := result_upsert_eq_ok_iff.1 h
  have htwice (v w : Pairs String String) (hv : OneLined v) :
      Leaves (upsert path v >>= fun _ => upsert path w) path (updated (updated old v) w) s := by
    rw [leaves_bind (hready.leaves v).1]
    exact (hready.again (hv.carriageReturn_not_mem old)).leaves w
  refine ⟨fun v w hv hw hne => ?_, fun vs hne hlined => ?_, fun v hv => ?_⟩
  · refine ⟨_, htwice v w hv, ?_⟩
    rw [updated_updated_of_ne_nil hv hw hne]
    exact hready.leaves _
  · refine ⟨_, upsertAll_leaves hne hlined hready, fun key value hlast => ?_⟩
    have hkey : '=' ∉ key.toList := by
      obtain ⟨v, hv, hmem⟩ :=
        List.mem_flatten.1 (List.mem_reverse.1 (Pairs.mem_of_get? hlast))
      exact (hlined v hv).plain _ hmem
    rw [filter_lines_foldl hlined hkey, hlast]
    rfl
  · refine ⟨_, hready.leaves v, ?_⟩
    rw [← hv.updated_updated old]
    exact htwice v v hv

/-- A key that is saved twice has one line, and the one that is saved once keeps its line. -/
theorem saved_twice_one_line : ∃ text,
    Leaves (upsertAll (.ofText "state") [[("A", "1"), ("B", "2")], [("A", "3")]]) (.ofText "state")
      text ⟨stateHost "# ids\nA=0\nAB=4\n", []⟩ ∧
      (lines text).filter (bindsKey "A") = [line "A" "3"] ∧
      (lines text).filter (bindsKey "B") = [line "B" "2"] := by
  have hresult : ((upsert (.ofText "state") []).result
      ⟨stateHost "# ids\nA=0\nAB=4\n", []⟩).toOption = some () := by
    decide +kernel
  have hlined : ∀ v ∈ [[("A", "1"), ("B", "2")], [("A", "3")]], OneLined v := by
    intro v hv
    simp only [List.mem_cons, List.not_mem_nil, or_false] at hv
    rcases hv with rfl | rfl
    · exact ⟨by simp [Pairs.Distinct], by decide, by simp [isLineBreak], by simp [isLineBreak]⟩
    · exact ⟨by simp [Pairs.Distinct], by decide, by simp [isLineBreak], by simp [isLineBreak]⟩
  obtain ⟨-, hall, -⟩ := upserts_last_wins (result_eq_ok_of_toOption hresult)
  obtain ⟨text, hleaves, hlast⟩ := hall _ (List.cons_ne_nil _ _) hlined
  exact ⟨text, hleaves, hlast "A" "3" (by decide), hlast "B" "2" (by decide)⟩

end StateFile

end SorobanDeploy
