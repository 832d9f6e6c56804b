import SorobanDeploy.Proofs.Host.Replaced
import SorobanDeploy.Proofs.StateFile.Update
import SorobanDeploy.Proofs.Text.Utf8

/-!
# What saving leaves on a host

Saving finds a text, which is that of the state file or that of a file it makes (`found`), and what
it leaves at the path is the text with the values written (`upsert_ok`). What it left is what the
next reading finds: for saving again (`result_found_of_content`), and for loading
(`result_load_of_file`).
-/

namespace SorobanDeploy

open Act

variable {σ : Type} {s : Session σ} {path : Path} {values : Pairs String String}

/-- The octets that the reader of statements gets from an entry. It opens files and streams only. -/
def Entry.stateOctets : Entry → Text.Octets
  | .file content | .program content => content
  | .stream early _ => early
  | .link _ | .directory => []

/-! ## Reading files -/

namespace Tree

variable {t : Tree} {cwd : Spot} {place : String} {content : Text.Octets}

theorem contentOf_of_status {q : Spot} {e : Entry} (h : t.status cwd place = .ok (q, e)) :
    t.contentOf cwd place = e.read := by
  unfold contentOf
  rw [h]

/-- What has a content is no directory, and if it is a file, the content is that of the file. -/
theorem contentOf_eq_ok (h : t.contentOf cwd place = .ok content) :
    ∃ q e, t.status cwd place = .ok (q, e) ∧ e ≠ .directory ∧
      ∀ c, e = .file c → content = c := by
  cases hstatus : t.status cwd place with
  | error r =>
    rw [contentOf, hstatus] at h
    cases h
  | ok reached =>
    obtain ⟨q, e⟩ := reached
    rw [contentOf_of_status hstatus] at h
    refine ⟨q, e, rfl, ?_, ?_⟩
    · rintro rfl
      cases h
    · rintro c rfl
      cases h
      rfl

theorem contentOf_of_file {q : Spot} (h : t.status cwd place = .ok (q, .file content)) :
    t.contentOf cwd place = .ok content :=
  contentOf_of_status h

end Tree

namespace Files

/-- What reading octets as text gives is told by the octets alone. -/
theorem result_textOf (octets : Text.Octets) (s : Session σ) :
    (textOf octets).result s = match Text.Utf8.decode octets with
      | .ok cs => .ok (Text.foldNewlines cs)
      | .error m => .error (.plain .undecodable m.message) := by
  unfold textOf
  cases Text.Utf8.decode octets <;> rfl

/-- What reading a text gives is told by the files and the working directory. -/
theorem result_readText {place : String} (hnul : hasNul place = false) :
    (readText place).result s = match s.host.tree.contentOf s.host.cwd place with
      | .error r => .error (refusalAt r place)
      | .ok octets => match Text.Utf8.decode octets with
        | .ok cs => .ok (Text.foldNewlines cs)
        | .error m => .error (.plain .undecodable m.message) := by
  unfold readText content
  cases hcontent : s.host.tree.contentOf s.host.cwd place with
  | error r => rw [result_bind, result_of_error (request_of_refused hnul hcontent)]
  | ok octets =>
    rw [result_bind_of_ok _ (result_request_eq_ok_iff.2 ⟨hnul, hcontent⟩)]
    exact result_textOf octets _

/-- A text is read exactly if its file has a content that is well formed. -/
theorem result_readText_eq_ok_iff {place : String} {cs : List Char} :
    (readText place).result s = .ok cs ↔ hasNul place = false ∧
      ∃ content text, s.host.tree.contentOf s.host.cwd place = .ok content ∧
        Text.Utf8.decode content = .ok text ∧ Text.foldNewlines text = cs := by
  have hrequest (octets : Text.Octets) : (content place).result s = .ok octets ↔
      hasNul place = false ∧ s.host.tree.contentOf s.host.cwd place = .ok octets :=
    result_request_eq_ok_iff
  unfold readText
  constructor
  · intro h
    obtain ⟨octets, hoctets, h⟩ := result_bind_eq_ok h
    obtain ⟨hnul, hcontent⟩ := (hrequest octets).1 hoctets
    refine ⟨hnul, octets, ?_⟩
    rw [result_textOf] at h
    cases hdecode : Text.Utf8.decode octets with
    | error m => rw [hdecode] at h; cases h
    | ok text =>
      rw [hdecode] at h
      cases h
      exact ⟨text, hcontent, rfl, rfl⟩
  · rintro ⟨hnul, octets, text, hcontent, hdecode, rfl⟩
    rw [result_bind_of_ok _ ((hrequest octets).2 ⟨hnul, hcontent⟩), result_textOf, hdecode]

/-- No file is made where something is. -/
theorem after_touch_of_status {place : String} {q : Spot} {e : Entry}
    (h : s.host.tree.status s.host.cwd place = .ok (q, e)) : (touch place).after s = s := by
  unfold touch
  split
  · rfl
  · rw [after_host_bind]
    simp only [h]
    rfl

/-- Where nothing was, a file is made where the path ends. -/
theorem touch_of_missing {place : String} {r : Refusal}
    (hstatus : s.host.tree.status s.host.cwd place = .error r)
    (h : (touch place).result s = .ok ()) :
    ∃ dir name, s.host.tree.find s.host.cwd .target place = .ok (.absent dir name) ∧
      ((touch place).after s).host.tree = s.host.tree.assign (dir ++ [name]) (.file []) := by
  unfold touch at h ⊢
  split at h
  · cases h
  · rename_i hnul
    rw [if_neg hnul, after_host_bind]
    rw [result_host_bind] at h
    simp only [hstatus] at h ⊢
    obtain ⟨t, hrequest, h⟩ := result_bind_eq_ok h
    rw [after_bind_of_ok _ hrequest]
    obtain ⟨-, htouched⟩ := result_request_eq_ok_iff.1 hrequest
    unfold Tree.touch at htouched
    split at htouched
    · cases htouched
    · rename_i q e _ hfind
      cases hstatus.symm.trans (Tree.status_eq_ok_iff.2 (Tree.find_of_file hfind))
    · rename_i dir name hfind
      exact ⟨dir, name, Tree.find_of_file hfind, (Except.ok.inj htouched).symm⟩
    · cases htouched

/-- Something stands at the end of a path that leads somewhere. -/
theorem result_exists?_of_status {place : String} {q : Spot} {e : Entry}
    (hnul : hasNul place = false) (h : s.host.tree.status s.host.cwd place = .ok (q, e)) :
    (exists? place).result s = .ok true := by
  have hentry : ( entry? place).result s = .ok (some e) := by
    rw [result_entry_of_path, hnul, if_neg Bool.false_ne_true, h]
  unfold exists?
  rw [result_bind_of_ok _ hentry]
  rfl

/-- A path at whose end something stands leads there. -/
theorem status_of_exists? {place : String} (h : (exists? place).result s = .ok true) :
    hasNul place = false ∧ ∃ q e, s.host.tree.status s.host.cwd place = .ok (q, e) := by
  unfold exists? at h
  rw [result_bind, result_entry_of_path] at h
  cases hnul : hasNul place with
  | true => simp [hnul] at h
  | false =>
    rw [hnul, if_neg Bool.false_ne_true] at h
    cases hstatus : s.host.tree.status s.host.cwd place with
    | ok reached => exact ⟨rfl, reached.1, reached.2, rfl⟩
    | error r => cases habsent : meansAbsent r <;> simp [hstatus, habsent] at h

end Files

namespace StateFile

/-- The text that saving starts from: that of the state file, which is made if nothing is there. -/
def found (path : Path) : Act σ (List Char) := do
  ensure path
  Files.readText path.text

/-- Saving finds a text and replaces the file by the text with the values written. -/
theorem upsert_eq (path : Path) (values : Pairs String String) :
    (upsert path values : Act σ Unit) = found path >>= fun old =>
      Files.replace path (Text.Utf8.encode (updated old values)) >>= fun _ =>
        log Log.debug logger
          ("Wrote " ++ toString values.length ++ " key(s) to " ++ path.text) := by
  simp only [upsert, found, bind_assoc]

/-- A way on which the working directory stays the same. -/
theorem isWay_cwd : IsWay (σ := σ) fun s t => t.host.cwd = s.host.cwd :=
  ⟨fun _ => rfl, fun h g => g.trans h⟩

/-- A text that was found is that of a file at the end of the path. -/
theorem found_ok {old : List Char} (h : (found path).result s = .ok old) :
    Files.hasNul path.text = false ∧ ((found path).after s).host.cwd = s.host.cwd ∧
      (∃ q e, ((found path).after s).host.tree.status s.host.cwd path.text = .ok (q, e) ∧
        e ≠ .directory) ∧ '\r' ∉ old := by
  unfold found at h ⊢
  obtain ⟨_, hensure, h⟩ := result_bind_eq_ok h
  rw [after_bind_of_ok _ hensure, Files.readText_reads]
  have hcwd : ((ensure path).after s).host.cwd = s.host.cwd :=
    ensure_along isWay_cwd (fun _ _ => rfl) path s
  obtain ⟨hnul, content, text, hcontent, -, hold⟩ := Files.result_readText_eq_ok_iff.1 h
  obtain ⟨q, e, hstatus, he, -⟩ := Tree.contentOf_eq_ok hcontent
  rw [hcwd] at hstatus
  exact ⟨hnul, hcwd, ⟨q, e, hstatus, he⟩, hold ▸ Text.not_mem_foldNewlines text⟩

/-- Saving puts the text that it found, with the values written, in the place where the path ends.
Nothing else changes. -/
theorem upsert_takes (h : (upsert path values).result s = .ok ()) :
    ∃ old place f tree, (found path).result s = .ok old ∧
      ((upsert path values).after s).host = { ((found path).after s).host with tree := tree } ∧
      ((found path).after s).host.tree.find s.host.cwd .entry path.text =
        .ok (.present (.live place) f) ∧
      ((found path).after s).host.tree.Takes tree place (Text.Utf8.encode (updated old values)) ∧
      ∀ aim, aim ≠ .file → tree.find s.host.cwd aim path.text =
        .ok (.present (.live place) (.file (Text.Utf8.encode (updated old values)))) := by
  rw [upsert_eq] at h ⊢
  obtain ⟨old, hfound, h⟩ := result_bind_eq_ok h
  rw [after_bind_of_ok _ hfound]
  obtain ⟨_, hreplace, h⟩ := result_bind_eq_ok h
  rw [after_bind_of_ok _ hreplace]
  obtain ⟨-, hcwd, ⟨q, e, hstatus, he⟩, -⟩ := found_ok hfound
  rw [← hcwd] at hstatus ⊢
  obtain ⟨place, f, tree, hhost, hentry, htakes, hends⟩ := Files.replace_ok hreplace hstatus he
  exact ⟨old, place, f, tree, hfound, hhost, hentry, htakes, hends⟩

/-- Saving leaves the text that it found, with the values written, at the end of the path. The
working directory stays. -/
theorem upsert_ok (h : (upsert path values).result s = .ok ()) :
    ∃ old, (found path).result s = .ok old ∧ Files.hasNul path.text = false ∧ '\r' ∉ old ∧
      ((upsert path values).after s).host.cwd = s.host.cwd ∧
      ∃ place, ((upsert path values).after s).host.tree.status s.host.cwd path.text =
        .ok (.live place, .file (Text.Utf8.encode (updated old values))) := by
  obtain ⟨old, place, -, tree, hfound, hhost, -, -, hends⟩ := upsert_takes h
  obtain ⟨hnul, hcwd, -, hfolded⟩ := found_ok hfound
  refine ⟨old, hfound, hnul, hfolded, ?_, place, ?_⟩
  · exact (congrArg Host.cwd hhost).trans hcwd
  · rw [hhost]
    exact Tree.status_eq_ok_iff.2 (hends .target (by decide))

/-- Nothing is made where something is. -/
theorem ensure_of_status {q : Spot} {e : Entry} (hnul : Files.hasNul path.text = false)
    (hstatus : s.host.tree.status s.host.cwd path.text = .ok (q, e)) :
    ensure path s = .ok () s := by
  have hexists := Files.result_exists?_of_status hnul hstatus
  unfold ensure
  rw [bind_eq_ok_iff]
  exact ⟨true, s, (eq_ok_iff _ _ _ _).2 ⟨hexists, Files.exists?_reads _ s⟩, rfl⟩

/-- Finding the text of what is there leaves the session as it is. -/
theorem after_found_of_status {q : Spot} {e : Entry} (hnul : Files.hasNul path.text = false)
    (hstatus : s.host.tree.status s.host.cwd path.text = .ok (q, e)) :
    (found path).after s = s := by
  have hensure := ensure_of_status hnul hstatus
  unfold found
  rw [after_bind_of_ok _ (result_of_ok hensure), after_of_ok hensure, Files.readText_reads]

/-- The session once the directories above the state file are made. -/
def withParents (path : Path) (s : Session σ) : Session σ :=
  (Files.ensureDirectories path.root path.parent.names).after s

/-- Saving finds a text at a path that leads to something, or it makes the directories above it and
the file before that. -/
theorem found_cases {old : List Char} (h : (found path).result s = .ok old) :
    ((∃ q e, s.host.tree.status s.host.cwd path.text = .ok (q, e)) ∧
        (found path).after s = s) ∨
      ((Files.touch path.text).result (withParents path s) = .ok () ∧
        (found path).after s = (Files.touch path.text).after (withParents path s) ∧
        (Files.readText path.text).result ((found path).after s) = .ok old) := by
  unfold found at h ⊢
  obtain ⟨_, hensure, hread⟩ := result_bind_eq_ok h
  rw [after_bind_of_ok _ hensure, Files.readText_reads]
  unfold ensure at hensure hread ⊢
  obtain ⟨there, hthere, hensure⟩ := result_bind_eq_ok hensure
  rw [after_bind_of_ok _ hthere] at hread ⊢
  rw [Files.exists?_reads _ s] at hensure hread ⊢
  cases there with
  | true =>
    exact .inl ⟨(Files.status_of_exists? hthere).2, rfl⟩
  | false =>
    rw [if_neg Bool.false_ne_true] at hensure hread ⊢
    obtain ⟨_, hmade, htouch⟩ := result_bind_eq_ok hensure
    rw [after_bind_of_ok _ hmade] at hread ⊢
    exact .inr ⟨htouch, rfl, hread⟩

/-- What saving finds at a path that leads to something is the text there. -/
theorem result_found_of_status {q : Spot} {e : Entry} (hnul : Files.hasNul path.text = false)
    (hstatus : s.host.tree.status s.host.cwd path.text = .ok (q, e)) :
    (found path).result s = (Files.readText path.text).result s := by
  have hensure := ensure_of_status hnul hstatus
  unfold found
  rw [result_bind_of_ok _ (result_of_ok hensure), after_of_ok hensure]

/-- What saving finds at a path that leads to something is told by the files and the working
directory. -/
theorem result_found_congr {t : Session σ} {q : Spot} {e : Entry}
    (hnul : Files.hasNul path.text = false)
    (hstatus : s.host.tree.status s.host.cwd path.text = .ok (q, e))
    (htree : t.host.tree = s.host.tree) (hcwd : t.host.cwd = s.host.cwd) :
    (found path).result t = (found path).result s := by
  have hthere : t.host.tree.status t.host.cwd path.text = .ok (q, e) := by
    rw [htree, hcwd]
    exact hstatus
  rw [result_found_of_status hnul hthere, result_found_of_status hnul hstatus,
    Files.result_readText hnul, Files.result_readText hnul, htree, hcwd]

/-- What saving finds at a path that has a well-formed content. -/
theorem result_found_of_content {content : Text.Octets} {cs : List Char}
    (hnul : Files.hasNul path.text = false)
    (hcontent : s.host.tree.contentOf s.host.cwd path.text = .ok content)
    (hdecode : Text.Utf8.decode content = .ok cs) :
    (found path).result s = .ok (Text.foldNewlines cs) := by
  obtain ⟨q, e, hstatus, -, -⟩ := Tree.contentOf_eq_ok hcontent
  rw [result_found_of_status hnul hstatus]
  exact Files.result_readText_eq_ok_iff.2 ⟨hnul, content, cs, hcontent, hdecode, rfl⟩

/-- What saving finds at a path that has a content is the text of that. -/
theorem found_of_content {content : Text.Octets} {old : List Char}
    (hcontent : s.host.tree.contentOf s.host.cwd path.text = .ok content)
    (h : (found path).result s = .ok old) :
    ∃ text, Text.Utf8.decode content = .ok text ∧ old = Text.foldNewlines text := by
  obtain ⟨q, e, hstatus, -, -⟩ := Tree.contentOf_eq_ok hcontent
  have hensure := ensure_of_status (found_ok h).1 hstatus
  unfold found at h
  rw [result_bind_of_ok _ (result_of_ok hensure), after_of_ok hensure] at h
  obtain ⟨-, content', text, hcontent', hdecode, hold⟩ := Files.result_readText_eq_ok_iff.1 h
  cases hcontent.symm.trans hcontent'
  exact ⟨text, hdecode, hold.symm⟩

/-! ## Nothing saved before -/

/-- Nothing is at the end of a path, also once the directories above it are made. -/
def Missing (path : Path) (h : Host σ) : Prop :=
  (∃ r, h.tree.status h.cwd path.text = .error r) ∧
    ∀ s : Session σ, s.host.tree = h.tree → s.host.cwd = h.cwd →
      ∃ r, ((Files.ensureDirectories path.root path.parent.names).after s).host.tree.status h.cwd
        path.text = .error r

/-- The state file is missing or empty. -/
def Blank (path : Path) (h : Host σ) : Prop :=
  Missing path h ∨ h.tree.contentOf h.cwd path.text = .ok []

/-- A file in a directory that is there is missing if nothing is at its path. -/
theorem missing_of_directory {h : Host σ} {r : Refusal} {q : Spot}
    (hmissing : h.tree.status h.cwd path.text = .error r)
    (hnul : Files.hasNul path.parent.text = false)
    (hparent : h.tree.status h.cwd path.parent.text = .ok (q, .directory)) : Missing path h := by
  refine ⟨⟨r, hmissing⟩, fun s htree hcwd => ⟨r, ?_⟩⟩
  have hthere : s.host.tree.status s.host.cwd (Path.mk path.root path.parent.names).text =
      .ok (q, .directory) := by
    rw [htree, hcwd]
    exact hparent
  have hsame : (Files.ensureDirectories path.root path.parent.names).after s = s :=
    Files.after_ensureDirectories hnul hthere
  rw [hsame, htree]
  exact hmissing

/-- What has no octet has no text. -/
theorem eq_nil_of_readText {place : String} {old : List Char} {q : Spot}
    (hstatus : s.host.tree.status s.host.cwd place = .ok (q, .file []))
    (h : (Files.readText place).result s = .ok old) : old = [] := by
  obtain ⟨-, content, text, hcontent, hdecode, hold⟩ := Files.result_readText_eq_ok_iff.1 h
  cases hcontent.symm.trans (Tree.contentOf_of_file hstatus)
  cases hdecode
  exact hold.symm

/-- A file that is made where nothing was is read as empty. -/
theorem eq_nil_of_touch {place : String} {old : List Char} {r : Refusal}
    (hstatus : s.host.tree.status s.host.cwd place = .error r)
    (htouch : (Files.touch place).result s = .ok ())
    (h : (Files.readText place).result ((Files.touch place).after s) = .ok old) : old = [] := by
  obtain ⟨hnul, content, text, hcontent, -, -⟩ := Files.result_readText_eq_ok_iff.1 h
  obtain ⟨q, e, hnew, -, -⟩ := Tree.contentOf_eq_ok hcontent
  have hcwd : ((Files.touch place).after s).host.cwd = s.host.cwd :=
    Files.touch_along isWay_cwd (fun _ _ => rfl) place s
  obtain ⟨dir, name, -, hassigned⟩ := Files.touch_of_missing hstatus htouch
  have hfile : e = .file [] := by
    rw [hassigned, hcwd] at hnew
    refine (Tree.status_of_assign hnew).resolve_left fun hbefore => ?_
    rw [hstatus] at hbefore
    cases hbefore
  rw [hfile] at hnew
  exact eq_nil_of_readText hnew h

/-- Saving makes a missing file empty. -/
theorem Missing.found_eq_nil {old : List Char} (hmissing : Missing path s.host)
    (hfound : (found path).result s = .ok old) : old = [] := by
  obtain ⟨⟨r, hr⟩, hdirectories⟩ := hmissing
  rcases found_cases hfound with ⟨⟨q, e, hthere⟩, -⟩ | ⟨htouch, hafter, hread⟩
  · cases hr.symm.trans hthere
  · have hkept : (withParents path s).host.cwd = s.host.cwd :=
      Files.ensureDirectories_along isWay_cwd (fun _ _ => rfl) _ _ s
    obtain ⟨r', hr'⟩ := hdirectories s rfl rfl
    rw [← hkept] at hr'
    rw [hafter] at hread
    exact eq_nil_of_touch hr' htouch hread

/-- Saving finds no text in a state file that is missing or empty. -/
theorem Blank.found_eq_nil {h : Host σ} {old : List Char} (hblank : Blank path h)
    (htree : s.host.tree = h.tree) (hcwd : s.host.cwd = h.cwd)
    (hfound : (found path).result s = .ok old) : old = [] := by
  rcases hblank with ⟨hmissing, hdirectories⟩ | hempty
  · rw [← htree, ← hcwd] at hmissing
    refine Missing.found_eq_nil ⟨hmissing, fun t ht hc => ?_⟩ hfound
    rw [hcwd]
    exact hdirectories t (ht.trans htree) (hc.trans hcwd)
  · rw [← htree, ← hcwd] at hempty
    obtain ⟨text, hdecode, rfl⟩ := found_of_content hempty hfound
    cases hdecode
    rfl

/-- Telling of unread statements never fails. -/
theorem result_reportMalformed (ns : List Nat) (s : Session σ) :
    (reportMalformed ns).result s = .ok () := by
  induction ns generalizing s with
  | nil => rfl
  | cons n rest ih =>
    have hlog : (log Log.warning readerLogger
        ("python-dotenv could not parse statement starting at line " ++ toString n)).result s =
        .ok () := rfl
    unfold reportMalformed
    rw [result_bind_of_ok _ hlog]
    exact ih _

/-- What saving finds at a path that leads to something that can be read is the text of what is
read there. -/
theorem result_found_of_read {q : Spot} {e : Entry} {octets : Text.Octets}
    (hnul : Files.hasNul path.text = false)
    (hstatus : s.host.tree.status s.host.cwd path.text = .ok (q, e)) (hread : e.read = .ok octets) :
    (found path).result s = (Files.textOf octets).result s := by
  rw [result_found_of_status hnul hstatus, Files.result_readText hnul,
    Tree.contentOf_of_status hstatus, hread, Files.result_textOf]

/-- Loading takes the values of the text that the reader of statements reads. -/
theorem result_load_of_text {q : Spot} {e : Entry} {answer : Except Failure (List Char)}
    (hnul : Files.hasNul path.text = false)
    (hstatus : s.host.tree.status s.host.cwd path.text = .ok (q, e))
    (htext : (text path).result s = answer) :
    (load path).result s = (answer.map fun old =>
      valuesOf (statements old)).mapError (unreadable path) := by
  have hexists := Files.result_exists?_of_status hnul hstatus
  unfold load
  rw [result_bind_of_ok _ hexists, Files.exists?_reads, if_pos rfl, result_bind,
    result_mapFailure, htext]
  cases answer with
  | error d => rfl
  | ok old => exact result_bind_of_ok _ (result_reportMalformed _ _)

/-- Loading takes the values of the text of the octets that the reader of statements gets. -/
theorem result_load_of_status {q : Spot} {e : Entry} (hnul : Files.hasNul path.text = false)
    (hstatus : s.host.tree.status s.host.cwd path.text = .ok (q, e)) :
    (load path).result s = (((Files.textOf e.stateOctets).result s).map fun old =>
      valuesOf (statements old)).mapError (unreadable path) := by
  refine result_load_of_text hnul hstatus ?_
  have hentry : ( Files.entry? path.text).result s = .ok (some e) := by
    rw [Files.result_entry_of_path, hnul, if_neg Bool.false_ne_true, hstatus]
  unfold text
  rw [result_bind_of_ok _ hentry, Files.entry?_reads]
  cases e with
  | file content | program content =>
    exact (result_found_of_status hnul hstatus).symm.trans
      (result_found_of_read hnul hstatus rfl)
  | stream early late => rfl
  | directory | link target => exact (Files.result_textOf [] s).symm

/-- A regular file is loaded as the values of the text that saving would start from, and fails to
load if that cannot be read. -/
theorem result_load_of_regular {q : Spot} {e : Entry} (hnul : Files.hasNul path.text = false)
    (hstatus : s.host.tree.status s.host.cwd path.text = .ok (q, e))
    (hread : e.read = .ok e.stateOctets) :
    (load path).result s = (((found path).result s).map fun old =>
      valuesOf (statements old)).mapError (unreadable path) := by
  rw [result_load_of_status hnul hstatus, result_found_of_read hnul hstatus hread]

/-- What loading gives for a file that is there. It may be a program. -/
theorem result_load_of_decode {q : Spot} {e : Entry} {content : Text.Octets} {cs : List Char}
    (hnul : Files.hasNul path.text = false)
    (hstatus : s.host.tree.status s.host.cwd path.text = .ok (q, e))
    (hregular : e = .file content ∨ e = .program content)
    (hdecode : Text.Utf8.decode content = .ok cs) :
    (load path).result s = .ok (valuesOf (statements (Text.foldNewlines cs))) := by
  have hread : e.read = .ok content ∧ e.stateOctets = content := by
    rcases hregular with rfl | rfl <;> exact ⟨rfl, rfl⟩
  have hcontent := (Tree.contentOf_of_status hstatus).trans hread.1
  rw [result_load_of_regular hnul hstatus (hread.2.symm ▸ hread.1),
    result_found_of_content hnul hcontent hdecode]
  rfl

/-- What loading gives for a written text. -/
theorem result_load_of_file {q : Spot} {cs : List Char} (hnul : Files.hasNul path.text = false)
    (hstatus : s.host.tree.status s.host.cwd path.text =
      .ok (q, .file (Text.Utf8.encode cs))) (hfolded : '\r' ∉ cs) :
    (load path).result s = .ok (valuesOf (statements cs)) := by
  have hload := result_load_of_decode hnul hstatus (.inl rfl) (Text.Utf8.decode_encode cs)
  rwa [Text.foldNewlines_of_not_mem hfolded] at hload

end StateFile

end SorobanDeploy
