import SorobanDeploy.Proofs.Host.Walk
import SorobanDeploy.Proofs.Session.Along
import SorobanDeploy.StateFile.Store
import SorobanDeploy.Workspace

/-!
# What requests for files do to a session

Looking at files leaves the session as it is. Writing them changes the tree and nothing else, and
reading or writing the state file adds log records besides. So an action on files goes along every
relation that a change of the tree and a log record go along.
-/

namespace SorobanDeploy

open Act

variable {σ : Type}

/-- A file or a program stands at the end of a path. -/
def Host.HasFile (h : Host σ) (path : String) : Prop :=
  Files.hasNul path = false ∧ ∃ spot entry, h.tree.status h.cwd path = .ok (spot, entry) ∧
    ∃ content, entry = .file content ∨ entry = .program content

/-- A directory stands at the end of a path. -/
def Host.HasDirectory (h : Host σ) (path : String) : Prop :=
  Files.hasNul path = false ∧ ∃ spot, h.tree.status h.cwd path = .ok (spot, .directory)

/-! ## Looking -/

namespace Files

theorem request_reads {α : Type} (path : String) (answer : Host σ → Except Refusal α) :
    (request path answer).Reads := by
  unfold request
  split
  · exact .fail isWay_reads _
  · refine .bind isWay_reads (.host isWay_reads) fun h => ?_
    split
    · exact .pure isWay_reads _
    · exact .fail isWay_reads _

/-- A request is answered exactly if its path is one and the system answers. -/
theorem request_eq_ok_iff {α : Type} (path : String) (answer : Host σ → Except Refusal α)
    (s t : Session σ) (a : α) :
    request path answer s = .ok a t ↔ hasNul path = false ∧ answer s.host = .ok a ∧ s = t := by
  unfold request
  cases hasNul path with
  | true => simp
  | false =>
    rw [if_neg (by simp), host_bind_apply]
    cases answer s.host <;> simp

/-- A request ends with an answer exactly if its path is one and that is what the system answers. -/
theorem result_request_eq_ok_iff {α : Type} {path : String} {answer : Host σ → Except Refusal α}
    {s : Session σ} {a : α} :
    (request path answer).result s = .ok a ↔ hasNul path = false ∧ answer s.host = .ok a := by
  have hreads := request_reads path answer s
  constructor
  · intro h
    obtain ⟨hnul, hanswer, -⟩ :=
      (request_eq_ok_iff path answer s s a).1 ((eq_ok_iff _ _ _ _).2 ⟨h, hreads⟩)
    exact ⟨hnul, hanswer⟩
  · rintro ⟨hnul, hanswer⟩
    exact result_of_ok ((request_eq_ok_iff path answer s s a).2 ⟨hnul, hanswer, rfl⟩)

/-- A request that the system refuses fails and leaves the session as it is. -/
theorem request_of_refused {α : Type} {path : String} {answer : Host σ → Except Refusal α}
    {s : Session σ} {r : Refusal} (hnul : hasNul path = false) (h : answer s.host = .error r) :
    request path answer s = .error (refusalAt r path) s := by
  unfold request
  rw [hnul, if_neg Bool.false_ne_true, host_bind_apply]
  simp only [h]
  rfl

/-- A move succeeds exactly if the path leads to a directory, and changes the working directory
alone. -/
theorem changeDirectory_eq_ok_iff (path : String) (s t : Session σ) :
    changeDirectory path s = .ok () t ↔ hasNul path = false ∧
      ∃ dir, s.host.tree.status s.host.cwd path = .ok (dir, .directory) ∧
        { s with host := { s.host with cwd := dir } } = t := by
  unfold changeDirectory
  simp only [bind_eq_ok_iff, request_eq_ok_iff]
  constructor
  · rintro ⟨dir, _, ⟨hnul, hdir, rfl⟩, ht⟩
    refine ⟨hnul, dir, ?_, EStateM.Result.ok.inj ht |>.2⟩
    split at hdir
    · rename_i heq; cases hdir; exact heq
    · cases hdir
    · cases hdir
  · rintro ⟨hnul, dir, hdir, rfl⟩
    exact ⟨dir, s, ⟨hnul, by rw [hdir], rfl⟩, rfl⟩

/-- What a move that succeeded found, and what it left. -/
theorem changeDirectory_ok {path : String} {s : Session σ} {u : Unit}
    (h : (changeDirectory path).result s = .ok u) : hasNul path = false ∧
      ∃ dir, s.host.tree.status s.host.cwd path = .ok (dir, .directory) ∧
        (changeDirectory path).after s = { s with host := { s.host with cwd := dir } } := by
  obtain ⟨hnul, dir, hdir, hafter⟩ :=
    (changeDirectory_eq_ok_iff path s _).1 ((eq_ok_iff _ _ _ _).2 ⟨h, rfl⟩)
  exact ⟨hnul, dir, hdir, hafter.symm⟩

theorem entry?_reads (path : String) : ( entry? path : Act σ (Option Entry)).Reads := by
  unfold entry?
  split
  · exact .pure isWay_reads _
  · refine .bind isWay_reads (.host isWay_reads) fun h => ?_
    split
    · exact .pure isWay_reads _
    · split
      · exact .pure isWay_reads _
      · exact .fail isWay_reads _

theorem exists?_reads (path : String) : (exists? path : Act σ Bool).Reads :=
  .bind isWay_reads (entry?_reads path) fun _ => .pure isWay_reads _

theorem isDirectory_reads (path : String) : (isDirectory path : Act σ Bool).Reads :=
  .bind isWay_reads (entry?_reads path) fun _ => .pure isWay_reads _

theorem isFile_reads (path : String) : (isFile path : Act σ Bool).Reads := by
  refine .bind isWay_reads (entry?_reads path) fun e => ?_
  split <;> exact .pure isWay_reads _

/-- A move that is refused leaves the session as it is. -/
theorem after_changeDirectory_of_error {path : String} {s : Session σ} {e : Failure}
    (h : (changeDirectory path).result s = .error e) : (changeDirectory path).after s = s := by
  unfold changeDirectory at h ⊢
  rw [after_bind]
  split
  · rename_i dir hdir
    rw [result_bind, hdir] at h
    cases h
  · exact request_reads _ _ s

/-- The working directory is told by its place, if it is still there. -/
theorem result_workingDirectory (s : Session σ) {dir : Path}
    (h : (workingDirectory : Act σ Path).result s = .ok dir) :
    s.host.cwd.lost = 0 ∧ dir = .ofPlace s.host.cwd.place := by
  unfold workingDirectory Spot.path? at h
  rw [result_host_bind] at h
  by_cases hlost : s.host.cwd.lost = 0
  · rw [if_pos hlost] at h
    cases h
    exact ⟨hlost, rfl⟩
  · rw [if_neg hlost] at h
    cases h

/-- What the system says stands at the end of a path. A path with a NUL character leads nowhere, and
so does one that the system refuses because nothing is there. -/
theorem result_entry_of_path (path : String) (s : Session σ) :
    ( entry? path : Act σ (Option Entry)).result s =
      if hasNul path then .ok none
      else match s.host.tree.status s.host.cwd path with
        | .ok (_, entry) => .ok (some entry)
        | .error r => if meansAbsent r then .ok none else .error (refusalAt r path) := by
  unfold entry?
  split
  · rfl
  · rw [result_host_bind]
    cases s.host.tree.status s.host.cwd path with
    | ok found => rfl
    | error r => cases hr : meansAbsent r <;> simp [hr]

/-- A file is found at the end of a path exactly if one stands there. -/
theorem result_isFile_eq_true_iff (path : String) (s : Session σ) :
    (isFile path).result s = .ok true ↔ s.host.HasFile path := by
  unfold isFile Host.HasFile
  rw [result_bind, result_entry_of_path]
  cases hasNul path with
  | true => simp
  | false =>
    cases s.host.tree.status s.host.cwd path with
    | error r => cases hr : meansAbsent r <;> simp [hr]
    | ok found =>
      obtain ⟨spot, entry⟩ := found
      cases entry <;> simp [and_assoc]

theorem resolvedDirectory?_reads (path : String) :
    (resolvedDirectory? path : Act σ (Option Path)).Reads := by
  unfold resolvedDirectory?
  split
  · exact .pure isWay_reads _
  · refine .bind isWay_reads (.host isWay_reads) fun h => ?_
    split
    · split
      · exact .pure isWay_reads _
      · exact .fail isWay_reads _
    · exact .pure isWay_reads _
    · split
      · exact .pure isWay_reads _
      · exact .fail isWay_reads _

theorem textOf_reads (octets : Text.Octets) : (textOf octets : Act σ (List Char)).Reads := by
  unfold textOf
  split
  · exact .pure isWay_reads _
  · exact .fail isWay_reads _

theorem readText_reads (path : String) : (readText path : Act σ (List Char)).Reads :=
  .bind isWay_reads (request_reads path _) fun octets => textOf_reads octets

theorem workingDirectory_reads : (workingDirectory : Act σ Path).Reads := by
  refine .bind isWay_reads (.host isWay_reads) fun h => ?_
  split
  · exact .pure isWay_reads _
  · exact .fail isWay_reads _

theorem absolute_reads (p : Path) : (absolute p : Act σ Path).Reads := by
  unfold absolute
  split
  · exact .pure isWay_reads _
  · exact .bind isWay_reads workingDirectory_reads fun _ => .pure isWay_reads _

end Files

namespace Workspace

theorem searchBase_reads (start : Option String) : (searchBase start : Act σ Path).Reads := by
  unfold searchBase
  split
  · exact Files.workingDirectory_reads
  · exact Files.absolute_reads _

/-- Looking for the contracts directory changes nothing. -/
theorem findContracts_reads (start : Option String) : (findContracts start : Act σ Path).Reads := by
  refine .bind isWay_reads (searchBase_reads start) fun base => ?_
  refine .bind isWay_reads (Files.resolvedDirectory?_reads _) fun inside => ?_
  split
  · exact .pure isWay_reads _
  · refine .bind isWay_reads (Files.resolvedDirectory?_reads _) fun beside => ?_
    split
    · exact .pure isWay_reads _
    · exact .refuse isWay_reads _

end Workspace

/-! ## Moving -/

namespace Files

/-- How a move ends is told by the host alone. -/
theorem result_changeDirectory_congr {path : String} {s t : Session σ} (h : s.host = t.host) :
    (changeDirectory path).result s = (changeDirectory path).result t := by
  have hrequest : ∀ answer : Host σ → Except Refusal Spot,
      (request path answer).result s = (request path answer).result t := by
    intro answer
    unfold request
    split
    · rfl
    · rw [result_host_bind, result_host_bind, h]
      cases answer t.host <;> rfl
  unfold changeDirectory
  rw [result_bind, result_bind, hrequest]
  split <;> rfl

/-- A move that fails tells no stage of a run. -/
theorem unstaged_of_changeDirectory {path : String} {s : Session σ} {e : Failure}
    (h : (changeDirectory path).result s = .error e) : e.isA .pipeline = false := by
  have hrequest : ∀ answer : Host σ → Except Refusal Spot,
      (request path answer).result s = .error e → e.isA .pipeline = false := by
    intro answer hfails
    unfold request at hfails
    split at hfails
    · cases hfails
      rfl
    · rw [result_host_bind] at hfails
      split at hfails
      · cases hfails
      · rename_i r _
        cases hfails
        cases r <;> rfl
  unfold changeDirectory at h
  rw [result_bind] at h
  split at h
  · cases h
  · rename_i d hd
    cases h
    exact hrequest _ hd

/-- A move succeeds exactly if there is a directory at the end of the path. -/
theorem result_changeDirectory_eq_ok_iff {path : String} {s : Session σ} :
    (changeDirectory path).result s = .ok () ↔ s.host.HasDirectory path := by
  constructor
  · intro h
    obtain ⟨hnul, dir, hdir, -⟩ := changeDirectory_ok h
    exact ⟨hnul, dir, hdir⟩
  · rintro ⟨hnul, dir, hdir⟩
    exact result_of_ok ((changeDirectory_eq_ok_iff path s _).2 ⟨hnul, dir, hdir, rfl⟩)

end Files

namespace Workspace

variable {α : Type}

/-- A move back ends as the move itself. -/
theorem result_leaveTo (previous : Path) (s : Session σ) :
    (leaveTo previous).result s = (Files.changeDirectory previous.text).result s := by
  unfold leaveTo
  rw [result_bind]
  cases (Files.changeDirectory previous.text).result s <;> rfl

/-- From a working directory that is there, an action in another directory moves there, runs, and
moves back. -/
theorem inDirectory_of_live (path : Path) (body : Act σ α) {s : Session σ}
    (hlive : s.host.cwd.lost = 0) : inDirectory path body s =
      (Files.changeDirectory path.text >>= fun _ =>
        log Log.debug logger ("Entered " ++ path.text) >>= fun _ =>
          andFinally body (leaveTo (.ofPlace s.host.cwd.place))) s := by
  have hprevious : (Files.workingDirectory : Act σ Path) s = .ok (.ofPlace s.host.cwd.place) s := by
    unfold Files.workingDirectory Spot.path?
    rw [host_bind_apply, if_pos hlive]
    rfl
  unfold inDirectory
  rw [bind_apply, hprevious]

/-- From a working directory that was removed there is no way back, so no other one is entered. -/
theorem inDirectory_of_lost (path : Path) (body : Act σ α) {s : Session σ}
    (hlost : s.host.cwd.lost ≠ 0) :
    inDirectory path body s = .error (Files.refusal .noEntry) s := by
  have hprevious : (Files.workingDirectory : Act σ Path) s =
      .error (Files.refusal .noEntry) s := by
    unfold Files.workingDirectory Spot.path?
    rw [host_bind_apply, if_neg hlost]
    rfl
  unfold inDirectory
  rw [bind_apply, hprevious]

/-- An action in another directory runs in the directory that the path leads to, and the move back
follows. It is not entered if the path leads to none, or from a directory that was removed. -/
theorem inDirectory_entry (path : Path) (body : Act σ α) (s : Session σ) :
    ((s.host.cwd.lost = 0 → ¬s.host.HasDirectory path.text) ∧
        ∃ e, inDirectory path body s = .error e s) ∨
      ∃ dir v n, s.host.cwd.lost = 0 ∧ Files.hasNul path.text = false ∧
        s.host.tree.status s.host.cwd path.text = .ok (dir, .directory) ∧
        v.host = { s.host with cwd := dir } ∧ v.trace = s.trace ++ [.note n] ∧
        inDirectory path body s = andFinally body (leaveTo (.ofPlace s.host.cwd.place)) v := by
  by_cases hlive : s.host.cwd.lost = 0
  · rw [inDirectory_of_live path body hlive]
    cases hmove : Files.changeDirectory path.text s with
    | error e t =>
      obtain ⟨hfails, ht⟩ := (eq_error_iff _ _ _ _).1 hmove
      obtain rfl := ht.symm.trans (Files.after_changeDirectory_of_error hfails)
      refine .inl ⟨fun _ hthere => ?_, e, by rw [bind_apply, hmove]⟩
      cases hfails.symm.trans (Files.result_changeDirectory_eq_ok_iff.2 hthere)
    | ok u t =>
      obtain ⟨hnul, dir, hdir, rfl⟩ := (Files.changeDirectory_eq_ok_iff _ _ _).1 hmove
      have hlogged := after_emit (.note (.record ⟨Log.debug, logger, "Entered " ++ path.text⟩))
        ({ s with host := { s.host with cwd := dir } } : Session σ)
      refine .inr ⟨dir, _, _, hlive, hnul, hdir, ?_, congrArg Session.trace hlogged, ?_⟩
      · rw [hlogged]
      · rw [bind_apply, hmove]
        rfl
  · exact .inl ⟨fun h => absurd h hlive, _, inDirectory_of_lost path body hlive⟩

/-- From a working directory whose path is too long for the system there is no way back, so no
action in another directory succeeds, and none tells its failure. -/
theorem inDirectory_of_long (path : Path) (body : Act σ α) {s : Session σ}
    (hlong : Tree.pathLimit ≤ (Path.ofPlace s.host.cwd.place).text.utf8ByteSize) :
    ∃ e, (inDirectory path body).result s = .error e ∧ e.isA .pipeline = false := by
  by_cases hlive : s.host.cwd.lost = 0
  · rw [(congr_of_apply (inDirectory_of_live path body hlive)).1, result_bind]
    cases hmove : (Files.changeDirectory path.text).result s with
    | error e => exact ⟨e, rfl, Files.unstaged_of_changeDirectory hmove⟩
    | ok _ =>
      simp only
      rw [result_bind, log, result_emit]
      simp only
      rw [result_andFinally, result_leaveTo]
      generalize body.after _ = t
      cases hback : (Files.changeDirectory (Path.ofPlace s.host.cwd.place).text).result t with
      | error e => exact ⟨e, rfl, Files.unstaged_of_changeDirectory hback⟩
      | ok _ =>
        obtain ⟨-, dir, hdir⟩ := Files.result_changeDirectory_eq_ok_iff.1 hback
        rw [Tree.status_of_long _ _ hlong] at hdir
        cases hdir
  · exact ⟨_, by rw [result, inDirectory_of_lost path body hlive], rfl⟩

end Workspace

/-! ## Writing -/

namespace Files

variable {R : Session σ → Session σ → Prop}

theorem makeDirectory_along (hR : IsWay R) (hset : ∀ t, (setTree t : Act σ Unit).Along R)
    (path : String) : (makeDirectory path : Act σ Unit).Along R :=
  .bind hR (.of_reads hR (request_reads path _)) hset

theorem acceptPresent_along (hR : IsWay R) (path : String) (e : Failure) :
    (acceptPresent path e : Act σ Unit).Along R := by
  unfold acceptPresent
  split
  · refine .bind hR (.of_reads hR (isDirectory_reads path)) fun found => ?_
    split
    · exact .pure hR _
    · exact .fail hR _
  · exact .fail hR _

/-- Making a directory and the missing ones above it goes along every way that making each of them
goes along. The directories above are made first, so the names grow fewer. -/
theorem ensureDirectories_along_each (hR : IsWay R) (root : PathRoot) (names : List String)
    (hmake : ∀ above, above <+: names →
      (makeDirectory (Path.mk root above).text : Act σ Unit).Along R) :
    (ensureDirectories root names : Act σ Unit).Along R := by
  have hlast := hmake names (List.prefix_refl names)
  unfold ensureDirectories
  refine .recover hR hlast fun e => ?_
  split
  · split
    · exact .fail hR _
    · refine .bind hR ?_ fun _ => .recover hR hlast fun e => acceptPresent_along hR _ e
      exact ensureDirectories_along_each hR root names.dropLast fun above habove =>
        hmake above (habove.trans (List.dropLast_prefix names))
  · exact acceptPresent_along hR _ e
  termination_by names.length
  decreasing_by
    rename_i h
    have := List.length_pos_iff.mpr h
    simp only [List.length_dropLast]
    omega

theorem ensureDirectories_along (hR : IsWay R) (hset : ∀ t, (setTree t : Act σ Unit).Along R)
    (root : PathRoot) (names : List String) :
    (ensureDirectories root names : Act σ Unit).Along R :=
  ensureDirectories_along_each hR root names fun _ _ => makeDirectory_along hR hset _

theorem touch_along (hR : IsWay R) (hset : ∀ t, (setTree t : Act σ Unit).Along R)
    (path : String) : (touch path : Act σ Unit).Along R := by
  unfold touch
  split
  · exact .fail hR _
  · refine .bind hR (.host hR) fun h => ?_
    split
    · exact .pure hR _
    · exact .bind hR (.of_reads hR (request_reads path _)) hset

theorem move_along (hR : IsWay R) (hset : ∀ t, (setTree t : Act σ Unit).Along R)
    (source : Place) (shown path : String) : (move source shown path : Act σ Unit).Along R := by
  refine .bind hR (.host hR) fun h => ?_
  split
  · exact .fail hR _
  · split
    · exact hset _
    · exact .fail hR _
    · exact .fail hR _

theorem removeAt_along (hR : IsWay R) (hset : ∀ t, (setTree t : Act σ Unit).Along R)
    (place : Place) : (removeAt place : Act σ Unit).Along R :=
  .bind hR (.host hR) fun _ => hset _

theorem replace_along (hR : IsWay R) (hset : ∀ t, (setTree t : Act σ Unit).Along R)
    (path : Path) (content : Text.Octets) : (replace path content : Act σ Unit).Along R := by
  refine .bind hR (.of_reads hR (absolute_reads _)) fun dir => ?_
  refine .bind hR (.of_reads hR (request_reads _ _)) fun place => ?_
  refine .bind hR (.host hR) fun h => ?_
  refine .bind hR (hset _) fun _ => ?_
  exact .onFailure hR (move_along hR hset _ _ _) (removeAt_along hR hset _)

end Files

namespace StateFile

variable {R : Session σ → Session σ → Prop}

/-- Making the state file goes along every way that its parts go along. -/
theorem ensure_along_each (hR : IsWay R) (path : Path)
    (hmake : ∀ above, above <+: path.parent.names →
      (Files.makeDirectory (Path.mk path.root above).text : Act σ Unit).Along R)
    (htouch : (Files.touch path.text : Act σ Unit).Along R) :
    (ensure path : Act σ Unit).Along R := by
  refine .bind hR (.of_reads hR (Files.exists?_reads _)) fun found => ?_
  split
  · exact .pure hR _
  · exact .bind hR (Files.ensureDirectories_along_each hR _ _ hmake) fun _ => htouch

theorem ensure_along (hR : IsWay R) (hset : ∀ t, (setTree t : Act σ Unit).Along R)
    (path : Path) : (ensure path : Act σ Unit).Along R :=
  ensure_along_each hR path (fun _ _ => Files.makeDirectory_along hR hset _)
    (Files.touch_along hR hset _)

/-- Saving values goes along every way that changes of the tree and log records go along. -/
theorem upsert_along (hR : IsWay R) (hset : ∀ t, (setTree t : Act σ Unit).Along R)
    (hlog : ∀ level logger message, (log level logger message : Act σ Unit).Along R)
    (path : Path) (values : Pairs String String) :
    (upsert path values : Act σ Unit).Along R := by
  refine .bind hR (ensure_along hR hset path) fun _ => ?_
  refine .bind hR (.of_reads hR (Files.readText_reads _)) fun old => ?_
  exact .bind hR (Files.replace_along hR hset _ _) fun _ => hlog _ _ _

theorem text_reads (path : Path) : (text path : Act σ (List Char)).Reads := by
  refine .bind isWay_reads (Files.entry?_reads _) fun entry => ?_
  split
  · exact Files.readText_reads _
  · exact Files.readText_reads _
  · exact Files.textOf_reads _
  · exact .pure isWay_reads _

theorem reportMalformed_along (hR : IsWay R)
    (hlog : ∀ level logger message, (log level logger message : Act σ Unit).Along R)
    (ns : List Nat) : (reportMalformed ns : Act σ Unit).Along R := by
  induction ns with
  | nil => exact .pure hR _
  | cons n rest ih => exact .bind hR (hlog _ _ _) fun _ => ih

/-- Reading the state file goes along every way that log records go along. -/
theorem load_along (hR : IsWay R)
    (hlog : ∀ level logger message, (log level logger message : Act σ Unit).Along R)
    (path : Path) : (load path : Act σ (Pairs String String)).Along R := by
  refine .bind hR (.of_reads hR (Files.exists?_reads _)) fun found => ?_
  split
  · refine .bind hR (.mapFailure _ (.of_reads hR (text_reads path))) fun cs => ?_
    exact .bind hR (reportMalformed_along hR hlog _) fun _ => .pure hR _
  · exact .pure hR _

end StateFile

end SorobanDeploy
