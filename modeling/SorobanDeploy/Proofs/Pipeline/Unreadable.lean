import SorobanDeploy.Proofs.Pipeline.Saved
import SorobanDeploy.Proofs.Pipeline.Stopped
import SorobanDeploy.Proofs.Pipeline.Twins
import SorobanDeploy.Proofs.Pipeline.Unsaved
import SorobanDeploy.Proofs.Session.Raised
import SorobanDeploy.Proofs.StateFile.Loaded

/-!
# State files that are no text

A run reads the state file twice: at its beginning, to tell what is going to be replaced, and when
it saves. Both readings accept the same regular files (`StateFile.result_load_of_regular`), and
between them the file stays the same if the client leaves the files and the working directory. So a
state file that is no text ends the run before the client is asked for anything
(`Pipeline.run_reads_early`).

The first reader opens regular files only, and takes everything else that is there for an empty
text. The second one opens what is there. So a directory is refused, and what comes through a pipe
or from a terminal is found to be no text, when everything is live (`Pipeline.read_too_late`).

Only saving ends with the class of failures that it has (`Pipeline.goLive_otherwise`), and once it
has found its text it fails as the system refuses (`StateFile.upsert_error_cases`).
-/

namespace SorobanDeploy

open Act Event

variable {σ α : Type}

/-! ## Failures of another class -/

/-- An action whose failures are of another class than those to save. -/
abbrev Act.FailsOtherwise (x : Act σ α) : Prop :=
  x.FailsAs (fun _ => True) fun e => e.kind ≠ .persistence

/-- A failure that the system had for one of its refusals. -/
def Failure.Refused (e : Failure) : Prop :=
  ∃ (r : Refusal) (message : String), e = .plain (.ofErrorNumber r.number) message

theorem Files.refuses_otherwise : Refuses fun e => e.kind ≠ .persistence := by
  intro r message
  show FailureClass.ofErrorNumber r.number ≠ .persistence
  cases r <;> decide

/-- What the system refuses has nothing to do with texts. -/
theorem Files.refuses_decodable : Refuses fun e => e.isA .undecodable = false := by
  intro r message
  show (FailureClass.ofErrorNumber r.number).isA .undecodable = false
  cases r <;> decide

namespace Act.FailsOtherwise

theorem nul : Files.nulFailure.kind ≠ .persistence := by decide

theorem refuse {problem : Problem} (c : FailureClass) (hkind : problem.kind = c)
    (hc : c ≠ .persistence) : (Act.refuse problem : Act σ α).FailsOtherwise :=
  .fail fun h => hc (hkind.symm.trans h)

theorem setCwd (dir : Spot) : (Act.setCwd dir : Act σ Unit).FailsOtherwise :=
  fun _ _ => ⟨trivial, nofun⟩

/-- A failure to save that the client has is one that every stage expects, so that the stage has a
failure of its own. -/
theorem explain_ask {client : Client σ} {call : Call} {problem : Failure → Problem}
    (c : FailureClass) (hkind : ∀ e, (problem e).kind = c)
    (hc : c ≠ .persistence) : (explain problem (ask client call)).FailsOtherwise := by
  refine .mapFailure (.any _) fun e _ => ?_
  split
  · exact fun h => hc ((hkind e).symm.trans h)
  · rename_i hunexpected
    intro hkind
    rw [Failure.isExpected_eq hkind] at hunexpected
    exact hunexpected rfl

/-- A failure to save that the client has is an ordinary one. -/
theorem attempt_ask (client : Client σ) (call : Call) :
    (attempt .ordinary (ask client call)).FailsOtherwise := by
  refine .attempt (.any _) fun e _ hextraordinary hkind => ?_
  unfold Failure.isA at hextraordinary
  rw [hkind] at hextraordinary
  cases hextraordinary

end Act.FailsOtherwise

/-! ## Requests for files and directories -/

namespace Files

theorem exists?_otherwise (path : String) : (exists? path : Act σ Bool).FailsOtherwise :=
  .bind (entry?_failsAs refuses_otherwise path) fun _ => .pure _

theorem isFile_otherwise (path : String) : (isFile path : Act σ Bool).FailsOtherwise := by
  refine .bind (entry?_failsAs refuses_otherwise path) fun entry => ?_
  split <;> exact .pure _

theorem textOf_otherwise (octets : Text.Octets) :
    (textOf octets : Act σ (List Char)).FailsOtherwise :=
  textOf_failsAs octets fun _ => (by decide : FailureClass.undecodable ≠ .persistence)

theorem readText_otherwise (path : String) :
    (readText path : Act σ (List Char)).FailsOtherwise :=
  readText_failsAs refuses_otherwise (fun _ => FailsOtherwise.nul) fun _ =>
    (by decide : FailureClass.undecodable ≠ .persistence)

theorem resolvedDirectory?_otherwise (path : String) :
    (resolvedDirectory? path : Act σ (Option Path)).FailsOtherwise := by
  unfold resolvedDirectory?
  split
  · exact .pure _
  · refine .host_bind fun h _ => ?_
    split
    · split
      · exact .pure _
      · exact .fail fun hkind => absurd hkind (by decide : FailureClass.runtime ≠ .persistence)
    · exact .pure _
    · split
      · exact .pure _
      · exact .fail (refuses_otherwise _ _)

theorem changeDirectory_otherwise (path : String) :
    (changeDirectory path : Act σ Unit).FailsOtherwise :=
  .bind (request_failsAs refuses_otherwise fun _ => FailsOtherwise.nul) FailsOtherwise.setCwd

end Files

namespace Workspace

theorem findContracts_otherwise (start : Option String) :
    (findContracts start : Act σ Path).FailsOtherwise := by
  have hbase : (searchBase start : Act σ Path).FailsOtherwise := by
    cases start with
    | none => exact Files.workingDirectory_failsAs Files.refuses_otherwise
    | some start => exact Files.absolute_failsAs Files.refuses_otherwise _
  refine .bind hbase fun base => .bind (Files.resolvedDirectory?_otherwise _) fun inside => ?_
  split
  · exact .pure _
  · refine .bind (Files.resolvedDirectory?_otherwise _) fun beside => ?_
    split
    · exact .pure _
    · exact FailsOtherwise.refuse .configuration rfl (by decide)

/-- A move to another directory fails as what is done there, or as a move. -/
theorem inDirectory_otherwise {path : Path} {body : Act σ α} (hbody : body.FailsOtherwise) :
    (inDirectory path body).FailsOtherwise := by
  refine .bind (Files.workingDirectory_failsAs Files.refuses_otherwise) fun previous => ?_
  refine .bind (Files.changeDirectory_otherwise _) fun _ => .bind (.log _ _ _) fun _ => ?_
  exact .andFinally hbody (.bind (Files.changeDirectory_otherwise _) fun _ => .log _ _ _)

end Workspace

/-! ## The state file -/

namespace StateFile

variable {path : Path} {values : Pairs String String} {s : Session σ} {e : Failure}

theorem load_otherwise (path : Path) :
    (load path : Act σ (Pairs String String)).FailsOtherwise := by
  have htext : (text path : Act σ (List Char)).FailsOtherwise := by
    refine .bind (Files.entry?_failsAs Files.refuses_otherwise _) fun entry => ?_
    split
    · exact Files.readText_otherwise _
    · exact Files.readText_otherwise _
    · exact Files.textOf_otherwise _
    · exact .pure _
  have hreport (ns : List Nat) : (reportMalformed ns : Act σ Unit).FailsOtherwise := by
    induction ns with
    | nil => exact .pure _
    | cons n rest ih => exact .bind (.log _ _ _) fun _ => ih
  refine .bind (Files.exists?_otherwise _) fun there => ?_
  split
  · refine .bind (.mapFailure htext fun e he => ?_) fun _ => .bind (hreport _) fun _ => .pure _
    unfold unreadable
    split
    · exact fun h => absurd h (by decide : FailureClass.configuration ≠ .persistence)
    · exact he
  · exact .pure _

/-- Where something is at the path, saving fails as finding its text does, or else as the system
refuses, because of a NUL character, or with the failure that the host has for every renaming. -/
theorem upsert_error_cases {q : Spot} {entry : Entry}
    (hnul : Files.hasNul path.text = false)
    (hstatus : s.host.tree.status s.host.cwd path.text = .ok (q, entry))
    (h : (upsert path values).result s = .error e) :
    (found path).result s = .error e ∨ e.Refused ∨ e = Files.nulFailure ∨
      s.host.renameFault = some e := by
  have hallows : Files.Allows (fun k : Host σ => k.renameFault = s.host.renameFault)
      (fun d => d.Refused ∨ d = Files.nulFailure ∨ s.host.renameFault = some d) :=
    { tree := fun _ _ h => h
      refused := fun r message => .inl ⟨r, message, rfl⟩
      fault := fun _ _ hI h => .inr (.inr (hI.symm.trans h))
      cwd := fun _ _ _ => .inr (.inl rfl) }
  rw [upsert_eq] at h
  cases hfound : (found path).result s with
  | error d =>
    rw [result_bind, hfound] at h
    cases h
    exact .inl rfl
  | ok old =>
    rw [result_bind_of_ok _ hfound, after_found_of_status hnul hstatus] at h
    have hreplace := Files.replace_failsAs hallows path (Text.Utf8.encode (updated old values))
      fun _ => .inr (.inl rfl)
    exact .inr ((hreplace.bind fun _ => .log _ _ _) s rfl |>.2 e h)

end StateFile

/-! ## The stages of a run -/

namespace Pipeline

variable {p : Pipeline σ} {request : DeploymentRequest} {s : Session σ}

theorem announce_otherwise (p : Pipeline σ) (request : DeploymentRequest) :
    (p.announce request).FailsOtherwise := by
  have hreplaced (previous : Pairs String String) (artifacts : List Artifact) :
      (reportReplaced previous artifacts : Act σ Unit).FailsOtherwise := by
    induction artifacts with
    | nil => exact .pure _
    | cons a rest ih =>
      unfold reportReplaced
      split
      · exact .bind (.log _ _ _) fun _ => ih
      · exact ih
  refine .bind (.log _ _ _) fun _ => .bind (.log _ _ _) fun _ => .bind (.log _ _ _) fun _ => ?_
  exact .bind (StateFile.load_otherwise _) fun previous => hreplaced previous _

theorem resolveIdentity_otherwise (p : Pipeline σ) (request : DeploymentRequest) :
    (p.resolveIdentity request).FailsOtherwise := by
  refine .bind (FailsOtherwise.explain_ask .identity (fun _ => rfl) (by decide)) fun raw => ?_
  dsimp only
  split
  · exact FailsOtherwise.refuse .identity rfl (by decide)
  · exact .pure _

theorem fund_otherwise (p : Pipeline σ) (request : DeploymentRequest) :
    (p.fund request).FailsOtherwise := by
  unfold fund Identity.ensureFunded
  split
  · refine .bind (.log _ _ _) fun _ => .bind (FailsOtherwise.attempt_ask _ _) fun funded => ?_
    split
    · exact .pure _
    · exact .bind (.log _ _ _) fun _ => .pure _
  · exact .bind (.log _ _ _) fun _ => .pure _

theorem front_otherwise (p : Pipeline σ) (request : DeploymentRequest) :
    (p.front request).FailsOtherwise := by
  refine .bind (p.announce_otherwise request) fun _ => ?_
  refine .bind (p.resolveIdentity_otherwise request) fun admin => .bind (.log _ _ _) fun _ => ?_
  exact .bind (p.fund_otherwise request) fun _ => .pure _

theorem buildAll_otherwise (p : Pipeline σ) : p.buildAll.FailsOtherwise := by
  have hoptimize (artifacts : List Artifact) :
      (optimizeAll p.client artifacts).FailsOtherwise := by
    induction artifacts with
    | nil => exact .pure _
    | cons a rest ih =>
      exact .bind (FailsOtherwise.explain_ask .build (fun _ => rfl) (by decide)) fun _ => ih
  refine .bind (.log _ _ _) fun _ => ?_
  refine .bind (FailsOtherwise.explain_ask .build (fun _ => rfl) (by decide)) fun _ => ?_
  exact .bind (.log _ _ _) fun _ => hoptimize _

theorem deployOne_otherwise (p : Pipeline σ) (request : DeploymentRequest)
    (live : List DeployedContract) (a : Artifact) :
    (p.deployOne request live a).FailsOtherwise := by
  refine .bind (Files.isFile_otherwise _) fun built => ?_
  split
  · refine .bind (.log _ _ _) fun _ =>
      .bind (FailsOtherwise.explain_ask .deployment (fun _ => rfl) (by decide)) fun answer => ?_
    split
    · rename_i problem hproblem
      exact FailsOtherwise.refuse .deployment (acceptId_eq_error hproblem).1 (by decide)
    · exact .bind (.log _ _ _) fun _ => .pure _
  · exact FailsOtherwise.refuse .build rfl (by decide)

theorem deployFrom_otherwise (p : Pipeline σ) (request : DeploymentRequest)
    (live : List DeployedContract) (artifacts : List Artifact) :
    (p.deployFrom request live artifacts).FailsOtherwise := by
  induction artifacts generalizing live with
  | nil => exact .pure _
  | cons a rest ih => exact .bind (p.deployOne_otherwise request live a) fun _ => ih _

theorem initializeAdmin_otherwise (p : Pipeline σ) (request : DeploymentRequest)
    (admin : ResolvedIdentity) (deployed : List DeployedContract) :
    (p.initializeAdmin request admin deployed).FailsOtherwise := by
  refine .bind (.log _ _ _) fun _ => ?_
  split
  · exact FailsOtherwise.refuse .initialization rfl (by decide)
  · split
    · exact FailsOtherwise.refuse .initialization rfl (by decide)
    · refine .bind (FailsOtherwise.explain_ask .initialization (fun _ => rfl) (by decide)) ?_
      exact fun _ => .log _ _ _

theorem establish_otherwise (p : Pipeline σ) (request : DeploymentRequest)
    (admin : ResolvedIdentity) (contracts : Path) :
    (p.establish request admin contracts).FailsOtherwise := by
  refine .bind (.bind (.log _ _ _) fun _ => p.deployFrom_otherwise request _ _) fun deployed => ?_
  exact .bind (p.initializeAdmin_otherwise request admin deployed) fun _ => .pure _

/-- The check of the network, if there is one, has a failure. -/
def CheckHas (p : Pipeline σ) (request : DeploymentRequest) (e : Failure) : Prop :=
  ∃ check ∈ p.check, ∃ k, (check request.network k).answer = .error e

theorem checkNetwork_failsAs (p : Pipeline σ) (request : DeploymentRequest) :
    (p.checkNetwork request.network).FailsAs (fun _ => True) (p.CheckHas request) := by
  refine fun s _ => ⟨trivial, fun e he => ?_⟩
  cases hparty : p.check with
  | none =>
    unfold checkNetwork at he
    rw [hparty] at he
    cases he
  | some check =>
    rw [(checkNetwork_of_some hparty request.network s).1] at he
    refine ⟨check, hparty, s.host, ?_⟩
    cases hanswer : (check request.network s.host).answer with
    | ok info =>
      rw [hanswer] at he
      cases he
    | error d =>
      rw [hanswer] at he
      cases he
      rfl

/-- Before it saves, a run fails with a failure to save only if the check of the network does. -/
theorem goLive_otherwise (p : Pipeline σ) (request : DeploymentRequest) :
    (p.goLive request).FailsAs (fun _ => True) fun e =>
      e.kind ≠ .persistence ∨ p.CheckHas request e := by
  have weaken {α : Type} {x : Act σ α} (h : x.FailsOtherwise) :
      x.FailsAs (fun _ => True) fun e => e.kind ≠ .persistence ∨ p.CheckHas request e :=
    h.mono fun _ => .inl
  have happroach : (p.approach request).FailsAs (fun _ => True) fun e =>
      e.kind ≠ .persistence ∨ p.CheckHas request e := by
    rw [approach_eq_front]
    refine .bind (weaken (p.front_otherwise request)) fun admin => ?_
    refine .bind ((p.checkNetwork_failsAs request).mono fun _ => .inr) fun _ => ?_
    exact .bind (weaken (Workspace.findContracts_otherwise _)) fun _ => .pure _
  refine .bind (.bind happroach fun ready => ?_) fun ready => ?_
  · exact .bind (weaken (Workspace.inDirectory_otherwise p.buildAll_otherwise)) fun _ => .pure _
  · exact .bind (weaken (p.establish_otherwise request _ _)) fun _ => .pure _

/-! ## The two readings -/

/-- A failure to save that octets which are no text caused. -/
def UnreadSave (e : Failure) : Prop :=
  e.kind = .persistence ∧ ∃ c, e.cause = some c ∧ c.isA .undecodable = true

/-- A failure that a run did not come to by itself: the check of the network has it, or when
everything is live the host has it, or its cause, for every renaming. -/
def HandedIn (p : Pipeline σ) (request : DeploymentRequest) (s : Session σ) (e : Failure) : Prop :=
  p.CheckHas request e ∨
    ∃ f, ((p.goLive request).after s).host.renameFault = some f ∧ (f = e ∨ e.cause = some f)

/-- Telling which IDs are going to be replaced never fails. -/
theorem result_reportReplaced (previous : Pairs String String) (artifacts : List Artifact)
    (s : Session σ) : (reportReplaced previous artifacts).result s = .ok () := by
  induction artifacts generalizing s with
  | nil => rfl
  | cons a rest ih =>
    unfold reportReplaced
    split
    · rw [result_bind_of_ok _ rfl]
      exact ih _
    · exact ih _

/-- A run begins with messages, and fails there exactly as loading its state file does. -/
theorem result_announce (p : Pipeline σ) (request : DeploymentRequest) (s : Session σ) :
    (p.announce request).result s =
      ((StateFile.load p.statePath).result s).map fun _ => () := by
  unfold announce reportPrevious
  rw [result_bind_of_ok _ rfl, result_bind_of_ok _ rfl, result_bind_of_ok _ rfl, result_bind,
    StateFile.result_load_congr (t := s) (by rfl)]
  cases (StateFile.load p.statePath).result s with
  | error e => rfl
  | ok previous => exact result_reportReplaced _ _ _

/-- A state file that cannot be loaded ends the run, and the client was asked for nothing. -/
theorem goLive_of_load_error {e : Failure} (request : DeploymentRequest)
    (h : (StateFile.load p.statePath).result s = .error e) :
    (p.goLive request).result s = .error e ∧ exchanges ((p.goLive request).events s) = [] := by
  have hannounce : (p.announce request).result s = .error e := by
    rw [result_announce, h]
    rfl
  obtain ⟨es, ht, hes⟩ := announce_silent p request s
  unfold goLive prepare
  rw [approach_eq_front, front]
  simp only [bind_assoc]
  refine ⟨by rw [result_bind, hannounce], ?_⟩
  rw [events_eq (by rw [after_bind, hannounce]; exact ht), exchanges_eq_nil hes]

/-- A failure that is passed on stays as it is, or it is told as a cause. -/
theorem unsaved_eq_or_cause (path : Path) (values : Pairs String String) (d : Failure) :
    d = unsaved path values d ∨ (unsaved path values d).cause = some d := by
  unfold unsaved
  split
  · exact .inr rfl
  · exact .inl rfl

/-- Where saving failed for want of a text, the failure was handed in, unless no text was found. -/
theorem persist_unread {deployed : List DeployedContract} {q : Spot} {entry : Entry} {e : Failure}
    (hnul : Files.hasNul p.statePath.text = false)
    (hstatus : s.host.tree.status s.host.cwd p.statePath.text = .ok (q, entry))
    (h : (p.persist deployed).result s = .error e) (hunread : UnreadSave e) :
    (∃ d, (StateFile.found p.statePath).result s = .error d ∧ d.isA .undecodable = true) ∨
      ∃ f, s.host.renameFault = some f ∧ (f = e ∨ e.cause = some f) := by
  obtain ⟨hkind, c, hcause, hc⟩ := hunread
  obtain ⟨t, hhost, hresult, -⟩ := result_persist p deployed s
  rw [h] at hresult
  cases hupsert : (StateFile.upsert p.statePath
      (DeployedContract.contractIds deployed)).result t with
  | ok _ =>
    rw [hupsert] at hresult
    cases hresult
  | error d =>
    rw [hupsert] at hresult
    have hd : d = e ∨ e.cause = some d := by
      rw [Except.error.inj hresult]
      exact unsaved_eq_or_cause _ _ _
    -- A failure of another class is not the one that the run ended with, so it is its cause.
    have htext (hother : d.kind ≠ .persistence) : d.isA .undecodable = true := by
      cases hcause.symm.trans (hd.resolve_left fun heq => hother (heq ▸ hkind))
      exact hc
    have hthere : t.host.tree.status t.host.cwd p.statePath.text = .ok (q, entry) :=
      hhost ▸ hstatus
    rcases StateFile.upsert_error_cases hnul hthere hupsert with
      hfound | ⟨r, message, rfl⟩ | rfl | hfault
    · rw [StateFile.result_found_congr hnul hstatus (congrArg _ hhost)
        (congrArg _ hhost)] at hfound
      refine .inl ⟨d, hfound, htext ?_⟩
      rw [StateFile.result_found_of_status hnul hstatus] at hfound
      exact (Files.readText_otherwise _ s trivial).2 d hfound
    · cases (Files.refuses_decodable r message).symm.trans
        (htext (Files.refuses_otherwise r message))
    · cases htext FailsOtherwise.nul
    · exact .inr ⟨d, hhost ▸ hfault, hd⟩

/-- A run that goes live fails exactly as its saving does. -/
theorem run_of_goLive {live : ResolvedIdentity × List DeployedContract} {e : Failure}
    (hlive : (p.goLive request).result s = .ok live) :
    (p.run request).result s = .error e ↔
      (p.persist live.2).result ((p.goLive request).after s) = .error e := by
  rw [run_eq, result_bind_of_ok _ hlive, save, result_bind]
  cases (p.persist live.2).result ((p.goLive request).after s) with
  | error d => simp
  | ok _ =>
    -- Behind the saving only a message is told.
    constructor
    · intro h
      cases h
    · intro h
      cases h

section Early

variable {q : Spot} {entry : Entry} (hnul : Files.hasNul p.statePath.text = false)
  (hstatus : s.host.tree.status s.host.cwd p.statePath.text = .ok (q, entry))
include hnul hstatus

/-- Octets that are no text end a run at its beginning, if the first reader gets them. -/
theorem goLive_of_undecodable (request : DeploymentRequest) {m : Text.Utf8.Malformed}
    (hdecode : Text.Utf8.decode entry.stateOctets = .error m) :
    (p.goLive request).result s = .error ((Problem.unreadableState p.statePath.text
        m.message).because (.plain .undecodable m.message)) ∧
      exchanges ((p.goLive request).events s) = [] := by
  refine goLive_of_load_error request ?_
  rw [StateFile.result_load_of_status hnul hstatus, Files.result_textOf, hdecode]
  rfl

/-- Where a run went live and saving finds no text for want of one, it is a stream that the second
reader gets none from. -/
theorem stream_of_goLive {live : ResolvedIdentity × List DeployedContract} {d : Failure}
    (hlive : (p.goLive request).result s = .ok live)
    (hfound : (StateFile.found p.statePath).result s = .error d) (hd : d.isA .undecodable = true) :
    ∃ early late m, entry = .stream early late ∧ Text.Utf8.decode late = .error m := by
  have hregular (hread : entry.read = .ok entry.stateOctets) : False := by
    have hload := StateFile.result_load_of_regular hnul hstatus hread
    rw [hfound] at hload
    cases hlive.symm.trans (goLive_of_load_error request hload).1
  cases entry with
  | file content | program content | link target => exact (hregular rfl).elim
  | directory =>
    cases (StateFile.result_of_directory hnul hstatus).2.symm.trans hfound
    cases (Files.refuses_decodable _ _).symm.trans hd
  | stream early late =>
    rw [StateFile.result_found_of_read hnul hstatus rfl, Files.result_textOf] at hfound
    cases hdecode : Text.Utf8.decode late with
    | error m => exact ⟨early, late, m, rfl, hdecode⟩
    | ok cs =>
      rw [hdecode] at hfound
      cases hfound

/-- Saving fails for want of a text if it finds none for that. -/
theorem persist_of_unfound {message : String} (deployed : List DeployedContract)
    (hfound : (StateFile.found p.statePath).result s = .error (.plain .undecodable message)) :
    ∃ e, (p.persist deployed).result s = .error e ∧ UnreadSave e := by
  obtain ⟨t, hhost, hresult, -⟩ := result_persist p deployed s
  rw [StateFile.upsert_eq, result_bind, StateFile.result_found_congr hnul hstatus
    (congrArg _ hhost) (congrArg _ hhost), hfound] at hresult
  exact ⟨_, hresult, rfl, .plain .undecodable message, rfl, rfl⟩

/-- If the client leaves the files and the working directory, a run that fails to save for want of a
text had that failure handed in, or it saves to a stream that the second reader gets none from. -/
theorem run_unread {e : Failure} (hp : p.LeavesFiles) (hstands : s.host.Stands)
    (h : (p.run request).result s = .error e) (hunread : UnreadSave e) :
    p.HandedIn request s e ∨
      ∃ early late m, entry = .stream early late ∧ Text.Utf8.decode late = .error m := by
  cases hlive : (p.goLive request).result s with
  | error d =>
    cases h.symm.trans (run_of_goLive_error hlive).1
    have hcheck := (p.goLive_otherwise request s trivial).2 e hlive
    exact .inl (.inl (hcheck.resolve_left fun hother => hother hunread.1))
  | ok live =>
    obtain ⟨htree, hcwd⟩ := goLive_leaves_host hp hstands hlive
    have hthere : ((p.goLive request).after s).host.tree.status
        ((p.goLive request).after s).host.cwd p.statePath.text = .ok (q, entry) := by
      rw [htree, hcwd]
      exact hstatus
    rcases persist_unread hnul hthere ((run_of_goLive hlive).1 h) hunread with
      ⟨d, hfound, hd⟩ | hfault
    · rw [StateFile.result_found_congr hnul hstatus htree hcwd] at hfound
      exact .inr (stream_of_goLive hnul hstatus hlive hfound hd)
    · exact .inl (.inr hfault)

end Early

/-- A run that goes live over a stream that the second reader gets no text from fails to save for
want of one, if the client leaves the files and the working directory. -/
theorem run_of_stream {q : Spot} {early late : Text.Octets} {m : Text.Utf8.Malformed}
    {live : ResolvedIdentity × List DeployedContract}
    (hnul : Files.hasNul p.statePath.text = false) (hp : p.LeavesFiles) (hstands : s.host.Stands)
    (hstream : s.host.tree.status s.host.cwd p.statePath.text = .ok (q, .stream early late))
    (hdecode : Text.Utf8.decode late = .error m) (hlive : (p.goLive request).result s = .ok live) :
    ∃ e, (p.run request).result s = .error e ∧ UnreadSave e := by
  obtain ⟨htree, hcwd⟩ := goLive_leaves_host hp hstands hlive
  have hfound : (StateFile.found p.statePath).result ((p.goLive request).after s) =
      .error (.plain .undecodable m.message) := by
    rw [StateFile.result_found_congr hnul hstream htree hcwd,
      StateFile.result_found_of_read hnul hstream rfl, Files.result_textOf, hdecode]
  rw [← htree, ← hcwd] at hstream
  obtain ⟨e, he, hunread⟩ := persist_of_unfound hnul hstream live.2 hfound
  exact ⟨e, (run_of_goLive hlive).2 he, hunread⟩

/-- A run over a state file that is there ends with a failure of the configuration, before the
client is asked for anything, if what the first reader gets is no text. If the client leaves the
files and the working directory, which stands where its path says, saving finds what it would have
found at the beginning. So a run that fails to save for want of a text had that failure handed in,
or it saves to a stream that the second reader gets no text from; and every run that goes live over
such a stream does fail so. Both readers get the same text from a regular file. A directory alone is
loaded as a state file without values, and is nothing to save to. -/
theorem run_reads_early (p : Pipeline σ) (request : DeploymentRequest) (s : Session σ)
    (hexists : (Files.exists? p.statePath.text).result s = .ok true) :
    (∀ q entry m, s.host.tree.status s.host.cwd p.statePath.text = .ok (q, entry) →
      Text.Utf8.decode entry.stateOctets = .error m →
        (p.run request).result s =
            .error ((Problem.unreadableState p.statePath.text m.message).because
              (.plain .undecodable m.message)) ∧
          exchanges ((p.run request).events s) = []) ∧
    (p.LeavesFiles → s.host.Stands →
      (∀ live, (p.goLive request).result s = .ok live →
        (StateFile.found p.statePath).result ((p.goLive request).after s) =
          (StateFile.found p.statePath).result s) ∧
      (∀ e, (p.run request).result s = .error e → UnreadSave e → p.HandedIn request s e ∨
        ∃ q early late m, s.host.tree.status s.host.cwd p.statePath.text =
          .ok (q, .stream early late) ∧ Text.Utf8.decode late = .error m) ∧
      ∀ live q early late m, (p.goLive request).result s = .ok live →
        s.host.tree.status s.host.cwd p.statePath.text = .ok (q, .stream early late) →
          Text.Utf8.decode late = .error m →
            ∃ e, (p.run request).result s = .error e ∧ UnreadSave e) ∧
    ∀ q entry, s.host.tree.status s.host.cwd p.statePath.text = .ok (q, entry) →
      (StateFile.load p.statePath).result s =
        (((Files.textOf entry.stateOctets).result s).map fun old =>
          StateFile.valuesOf (StateFile.statements old)).mapError
            (StateFile.unreadable p.statePath) ∧
      match entry with
      | .directory => (StateFile.load p.statePath).result s = .ok [] ∧
          (StateFile.found p.statePath).result s =
            .error (Files.refusalAt .isDirectory p.statePath.text)
      | .stream _ late => (StateFile.found p.statePath).result s = (Files.textOf late).result s
      | regular => (StateFile.found p.statePath).result s =
          (Files.textOf regular.stateOctets).result s := by
  obtain ⟨hnul, q, entry, hstatus⟩ := Files.status_of_exists? hexists
  refine ⟨fun q entry m hstatus hdecode => ?_, fun hp hstands => ⟨fun live hlive => ?_,
    fun e he hunread => ?_, fun live q early late m hlive hstream hdecode => ?_⟩,
    fun q entry hstatus => ⟨StateFile.result_load_of_status hnul hstatus, ?_⟩⟩
  · obtain ⟨hlive, hcalls⟩ := goLive_of_undecodable hnul hstatus request hdecode
    obtain ⟨hrun, hafter⟩ := run_of_goLive_error hlive
    refine ⟨hrun, ?_⟩
    rw [events, hafter]
    exact hcalls
  · obtain ⟨htree, hcwd⟩ := goLive_leaves_host hp hstands hlive
    exact StateFile.result_found_congr hnul hstatus htree hcwd
  · refine (run_unread hnul hstatus hp hstands he hunread).imp_right ?_
    rintro ⟨early, late, m, rfl, hdecode⟩
    exact ⟨q, early, late, m, hstatus, hdecode⟩
  · exact run_of_stream hnul hp hstands hstream hdecode hlive
  · cases entry with
    | directory => exact StateFile.result_of_directory hnul hstatus
    | file content | program content | link target | stream early late =>
      exact StateFile.result_found_of_read hnul hstatus rfl

/-- A project whose contracts are built, and what stands at the path of its state file. -/
def stateHost (entry : Entry) : Host Unit :=
  { builtHost with tree := ([".env"], entry) :: builtHost.tree }

/-- A project whose contracts are built, and a state file that is no text. -/
def textlessHost : Host Unit := stateHost (.file [0xff])

theorem stateHost_stands (entry : Entry) : (stateHost entry).Stands :=
  ⟨by simp [stateHost, builtHost, Spot.live], by simp [stateHost, builtHost, Spot.live]⟩

/-- A state file of one octet that is no text ends a run before the client is asked, and the run
does not fail to save. -/
theorem textless_stops_early :
    (Files.exists? ".env").result ⟨textlessHost, []⟩ = .ok true ∧
    (answeringWith "CAFE").LeavesFiles ∧ textlessHost.Stands ∧
    (∃ m, Text.Utf8.decode [0xff] = .error m ∧
      ((answeringWith "CAFE").run mainnetRequest).result ⟨textlessHost, []⟩ =
        .error ((Problem.unreadableState ".env" m.message).because
          (.plain .undecodable m.message))) ∧
    exchanges (((answeringWith "CAFE").run mainnetRequest).events ⟨textlessHost, []⟩) = [] ∧
    ∀ e, ((answeringWith "CAFE").run mainnetRequest).result ⟨textlessHost, []⟩ = .error e →
      ¬ UnreadSave e := by
  have hexists : (Files.exists? ".env").result ⟨textlessHost, []⟩ = .ok true :=
    result_eq_ok_of_toOption (by decide +kernel)
  have hp : (answeringWith "CAFE").LeavesFiles := leavesFiles_answering rfl rfl
  have hstands : textlessHost.Stands := stateHost_stands (.file [0xff])
  have hstatus : textlessHost.tree.status textlessHost.cwd ".env" =
      .ok (.live [".env"], .file [0xff]) := by decide +kernel
  have hdecode : ∃ m, Text.Utf8.decode [0xff] = .error m := ⟨_, rfl⟩
  obtain ⟨m, hm⟩ := hdecode
  obtain ⟨htext, hsaves, -⟩ := run_reads_early (answeringWith "CAFE") mainnetRequest
    ⟨textlessHost, []⟩ hexists
  obtain ⟨hresult, hcalls⟩ := htext _ _ m hstatus hm
  refine ⟨hexists, hp, hstands, ⟨m, hm, hresult⟩, hcalls, fun e he hunread => ?_⟩
  rcases (hsaves hp hstands).2.1 e he hunread with
    (⟨check, hcheck, -⟩ | ⟨f, hfault, -⟩) | ⟨q, early, late, d, hstream, -⟩
  · cases hcheck
  · have hnone : (((answeringWith "CAFE").goLive mainnetRequest).after
        ⟨textlessHost, []⟩).host.renameFault.isNone = true := by decide +kernel
    rw [hfault] at hnone
    cases hnone
  · cases hstatus.symm.trans hstream

/-- A terminal, from which the first reader gets nothing and the second one octets that are no text,
lets a run go live that then fails to save for want of a text. A directory is loaded as well, and
refused when everything is live. -/
theorem read_too_late :
    (answeringWith "CAFE").LeavesFiles ∧
    (∀ entry ∈ [Entry.stream [] [0xff], .directory], (stateHost entry).Stands ∧
      (Files.exists? ".env").result ⟨stateHost entry, []⟩ = .ok true ∧
      (StateFile.load (.ofText ".env")).result ⟨stateHost entry, []⟩ = .ok [] ∧
      ((StateFile.found (.ofText ".env")).result ⟨stateHost entry, []⟩).toOption = none ∧
      (((answeringWith "CAFE").goLive mainnetRequest).result ⟨stateHost entry, []⟩).isOk = true) ∧
    ∃ e, ((answeringWith "CAFE").run mainnetRequest).result ⟨stateHost (.stream [] [0xff]), []⟩ =
      .error e ∧ UnreadSave e := by
  have hp : (answeringWith "CAFE").LeavesFiles := leavesFiles_answering rfl rfl
  have hlives : ∀ entry ∈ [Entry.stream [] [0xff], .directory],
      (((answeringWith "CAFE").goLive mainnetRequest).result ⟨stateHost entry, []⟩).isOk = true := by
    decide +kernel
  refine ⟨hp, fun entry hentry => ⟨stateHost_stands entry, ?_, ?_, ?_, hlives entry hentry⟩, ?_⟩
  · refine result_eq_ok_of_toOption ?_
    revert entry
    decide +kernel
  · refine result_eq_ok_of_toOption ?_
    revert entry
    decide +kernel
  · revert entry
    decide +kernel
  · have hterminal := hlives _ List.mem_cons_self
    cases hlive : ((answeringWith "CAFE").goLive mainnetRequest).result
        ⟨stateHost (.stream [] [0xff]), []⟩ with
    | error e =>
      rw [hlive] at hterminal
      cases hterminal
    | ok live =>
      have hdecode : ∃ m, Text.Utf8.decode [0xff] = .error m := ⟨_, rfl⟩
      obtain ⟨m, hm⟩ := hdecode
      have hstream : (stateHost (.stream [] [0xff])).tree.status
          (stateHost (.stream [] [0xff])).cwd ".env" =
            .ok (.live [".env"], .stream [] [0xff]) := by decide +kernel
      exact run_of_stream (by decide) hp (stateHost_stands _) hstream hm hlive

end Pipeline

end SorobanDeploy
