import SorobanDeploy.Proofs.CommandLine.Orders
import SorobanDeploy.Proofs.Pipeline.Unreadable

/-!
# How a program takes its state file

A program with a request loads its state file before it asks the client for anything. What is loaded
is accepted, and the client is asked for the address of the identity. What is no text ends the
program with status 1 and a message that names the path. The refusal of a path that is too long
leaves the program instead (`CommandLine.TakesState`), and so does the failure to make a path of an
option whose value was dropped (`CommandLine.run_takes_state`).
-/

namespace SorobanDeploy

open Act Event

variable {σ : Type}

namespace Pipeline

variable {p : Pipeline σ} {s : Session σ}

/-- A run that has loaded its state file asks for the address of the identity first, on the host as
it was. -/
theorem exchanges_run_of_load {values : Pairs String String} (request : DeploymentRequest)
    (h : (StateFile.load p.statePath).result s = .ok values) :
    ∃ answer rest, exchanges ((p.run request).events s) =
      ⟨.resolveAddress request.adminIdentity, s.host, answer⟩ :: rest := by
  have hannounce : (p.announce request).result s = .ok () := by
    rw [result_announce, h]
    rfl
  obtain ⟨rest, hrest⟩ := exchanges_approach hannounce
  rw [exchanges_run, exchanges_goLive, exchanges_prepare, hrest]
  exact ⟨_, _, rfl⟩

/-- A run that cannot load its state file ends with that failure, and the client was asked for
nothing. -/
theorem run_of_load_error {e : Failure} (request : DeploymentRequest)
    (h : (StateFile.load p.statePath).result s = .error e) :
    (p.run request).result s = .error e ∧ exchanges ((p.run request).events s) = [] := by
  obtain ⟨hlive, hcalls⟩ := goLive_of_load_error request h
  exact ⟨(run_of_goLive_error hlive).1, by rw [exchanges_run, hcalls]⟩

end Pipeline

namespace CommandLine

variable {sur : Surroundings σ} {o : Options} {s : Session σ} {e : Failure} {words : List String}
  {request : DeploymentRequest} {path : Path}

/-- A client is found for all options. -/
theorem result_clientFor (sur : Surroundings σ) (o : Options) (s : Session σ) :
    ∃ client, (clientFor sur o).result s = .ok client := by
  unfold clientFor
  split
  · exact ⟨_, rfl⟩
  · exact ⟨_, rfl⟩
  · exact ⟨_, rfl⟩

/-- The pipeline that options ask for has the path of their state file, and there is none only for
want of that path. -/
theorem result_pipelineFor (sur : Surroundings σ) (o : Options) (s : Session σ) :
    ∃ make : Path → Pipeline σ, (∀ path, (make path).statePath = path) ∧
      (pipelineFor sur o).result s = ((statePathFor o).result s).map make := by
  obtain ⟨client, hclient⟩ := result_clientFor sur o s
  refine ⟨fun path => {
    client := client
    statePath := path
    contractsRoot := none
    artifacts := Artifact.standard
    check := if o.checkRpc then some (Rpc.verifyNetwork sur.transport) else none },
    fun _ => rfl, ?_⟩
  rw [pipelineFor_eq, result_bind_of_ok _ hclient, clientFor_reads, result_bind]
  cases (statePathFor o).result s <;> rfl

/-- A deployment with a request and a path for its state file is a run with them. -/
theorem deploy_of_path (sur : Surroundings σ) (hrequest : requestOf o = .ok request)
    (hpath : (statePathFor o).result s = .ok path) :
    ∃ p : Pipeline σ, p.statePath = path ∧ deploy sur o s = p.run request s := by
  obtain ⟨make, hmake, hresult⟩ := result_pipelineFor sur o s
  rw [hpath] at hresult
  have hok : pipelineFor sur o s = .ok (make path) s :=
    (eq_ok_iff _ _ _ _).2 ⟨hresult, pipelineFor_reads sur o s⟩
  refine ⟨make path, hmake path, ?_⟩
  unfold deploy
  simp only [hrequest, bind_apply, hok]

/-- A deployment without a path for its state file fails at once. -/
theorem deploy_of_no_path (sur : Surroundings σ) (hrequest : requestOf o = .ok request)
    (hpath : (statePathFor o).result s = .error e) : deploy sur o s = .error e s := by
  obtain ⟨make, -, hresult⟩ := result_pipelineFor sur o s
  rw [hpath] at hresult
  have herror : pipelineFor sur o s = .error e s :=
    (eq_error_iff _ _ _ _).2 ⟨hresult, pipelineFor_reads sur o s⟩
  unfold deploy
  simp only [hrequest, bind_apply, herror]

/-- A deployment that fails with a failure of the tool ends the program with status 1, and the last
that is seen is the message. -/
theorem runOptions_reports (h : (deploy sur o).result (configured o s) = .error e)
    (he : e.isA .pipeline = true) : (runOptions sur o).result s = .ok ⟨1, false⟩ ∧
      ((runOptions sur o).events s).getLast? =
        some (.print .errors ("Error: " ++ e.message ++ "\n")) := by
  have hends := (runOptions_of_error ((eq_error_iff _ _ _ _).2 ⟨h, rfl⟩)).trans
    (endFailed_of_pipeline he _)
  have htrace := trace_after_deploy sur o (configured o s)
  -- The message stands behind what sets the log up and all that the deployment shows.
  have hevents : (runOptions sur o).events s =
      .configure (if o.verbose then Log.debug else Log.info) ::
        ((deploy sur o).events (configured o s) ++
          [.print .errors ("Error: " ++ e.message ++ "\n")]) := by
    refine events_eq ?_
    rw [after_of_ok hends, htrace, configured]
    simp
  refine ⟨result_of_ok hends, ?_⟩
  rw [hevents, ← List.cons_append, List.getLast?_concat]

/-- Other failures than those of the tool and interruptions leave the program. -/
theorem runOptions_passes (h : (deploy sur o).result (configured o s) = .error e)
    (he : e.isA .pipeline = false) (hother : e.isA .interrupt = false) :
    (runOptions sur o).result s = .error e := by
  have hends := runOptions_of_error ((eq_error_iff _ _ _ _).2 ⟨h, rfl⟩)
  rw [result, hends, endFailed, if_neg (by simp [he]), if_neg (by simp [hother])]
  rfl

/-- How a program with a request takes the state file at a path. -/
inductive TakesState (sur : Surroundings σ) (words : List String) (s : Session σ)
    (request : DeploymentRequest) (path : Path) : Prop
  /-- The values of a text are loaded, and the client is asked for the address of the identity
  first. -/
  | accepted (octets : Text.Octets) (text : List Char) (answer : Except Failure (Option String))
      (rest : List (Exchange σ)) (held : s.host.stateOctets path = .ok octets)
      (wellFormed : Text.Utf8.decode octets = .ok text)
      (loaded : (StateFile.load path).result s =
        .ok (StateFile.valuesOf (StateFile.statements (Text.foldNewlines text))))
      (asked : exchanges ((run sur words).events s) =
        ⟨.resolveAddress request.adminIdentity, s.host, answer⟩ :: rest)
  /-- The file is no text. The program ends with status 1, and the last that is seen is a message
  that names the path. -/
  | reported (octets : Text.Octets) (m : Text.Utf8.Malformed)
      (held : s.host.stateOctets path = .ok octets) (malformed : Text.Utf8.decode octets = .error m)
      (loaded : (StateFile.load path).result s =
        .error ((Problem.unreadableState path.text m.message).because
          (.plain .undecodable m.message)))
      (ended : (run sur words).result s = .ok ⟨1, false⟩)
      (told : ((run sur words).events s).getLast? = some (.print .errors
        ("Error: " ++ (Problem.unreadableState path.text m.message).message ++ "\n")))
      (unasked : exchanges ((run sur words).events s) = [])
  /-- The path is too long. The refusal leaves the program. -/
  | passed (overlong : s.host.Overlong path)
      (loaded : (StateFile.load path).result s =
        .error (Files.refusalAt .nameTooLong path.text))
      (ended : (run sur words).result s = .error (Files.refusalAt .nameTooLong path.text))
      (unasked : exchanges ((run sur words).events s) = [])

/-- A deployment with a request and a path for its state file loads the file first. -/
theorem takesState_of_path (sur : Surroundings σ) (hparse : parse words = .ok (.options o))
    (hrequest : requestOf o = .ok request) (hpath : (statePathFor o).result s = .ok path) :
    TakesState sur words s request path := by
  have hconfigured : (statePathFor o).result (configured o s) = .ok path :=
    (statePathFor_congr o s.host _ _).trans hpath
  obtain ⟨p, rfl, hdeploy⟩ := deploy_of_path sur hrequest hconfigured
  obtain ⟨hresult, -, hevents⟩ := congr_of_apply hdeploy
  -- Setting the log up leaves what is loaded as it is.
  have hload : (StateFile.load p.statePath).result (configured o s) =
      (StateFile.load p.statePath).result s := StateFile.result_load_congr rfl
  have hruns : run sur words = runOptions sur o := run_of_options hparse
  have hcalls : exchanges ((run sur words).events s) =
      exchanges ((p.run request).events (configured o s)) := by
    rw [hruns, exchanges_runOptions, hevents]
  have hloaded := StateFile.result_load p.statePath s
  cases hheld : s.host.stateOctets p.statePath with
  | error r =>
    obtain ⟨rfl, hlong⟩ := Host.stateOctets_eq_error_iff.1 hheld
    simp only [hheld] at hloaded
    obtain ⟨hrun, hnone⟩ := Pipeline.run_of_load_error request (hload.trans hloaded)
    refine .passed hlong hloaded ?_ (hcalls.trans hnone)
    rw [hruns]
    -- A refusal of the system is neither a failure of the tool nor an interruption.
    exact runOptions_passes (hresult.trans hrun) rfl rfl
  | ok octets =>
    cases hdecode : Text.Utf8.decode octets with
    | ok text =>
      simp only [hheld, hdecode] at hloaded
      obtain ⟨answer, rest, hasked⟩ :=
        Pipeline.exchanges_run_of_load request (hload.trans hloaded)
      exact .accepted octets text answer rest hheld hdecode hloaded (hcalls.trans hasked)
    | error m =>
      simp only [hheld, hdecode] at hloaded
      obtain ⟨hrun, hnone⟩ := Pipeline.run_of_load_error request (hload.trans hloaded)
      obtain ⟨hended, htold⟩ := runOptions_reports (hresult.trans hrun) rfl
      rw [← hruns] at hended htold
      exact .reported octets m hheld hdecode hloaded hended htold (hcalls.trans hnone)

/-- The failure to make a path of an option whose value was dropped. -/
def pathFailure : Failure :=
  .plain .badKind "expected str, bytes or os.PathLike object, not list"

/-- Loading a state file gives values, or a failure of the configuration that names the path, unless
the system refuses to look at the path for its length: that of the path, of a name on it, or of a
name that a link of the tree holds. There is no other refusal because hosts have no permissions; one
for want of a permission would be passed on in the same way. A program with a request takes its
state file as `TakesState` says. If the value of the option for its path was dropped, the failure to
make a path of it leaves the program. -/
theorem run_takes_state (sur : Surroundings σ) (words : List String) (s : Session σ) :
    (∀ path, StateFile.Answers path ((StateFile.load path).result s) ↔ ¬s.host.Overlong path) ∧
    (∀ path, s.host.Overlong path → Tree.pathLimit ≤ path.text.utf8ByteSize ∨
      (∃ name ∈ Tree.walkNames path.text, Tree.LongName name) ∨ s.host.tree.HasLongLink) ∧
    ∀ o request, parse words = .ok (.options o) → requestOf o = .ok request →
      (∀ path, (statePathFor o).result s = .ok path → TakesState sur words s request path) ∧
      (o.stateFile = some .dropped → (run sur words).result s = .error pathFailure ∧
        exchanges ((run sur words).events s) = []) := by
  refine ⟨fun path => StateFile.answers_load_iff path s,
    fun path hlong => Tree.long_of_status hlong.2, fun o request hparse hrequest =>
      ⟨fun path hpath => takesState_of_path sur hparse hrequest hpath, fun hdropped => ?_⟩⟩
  have hpath : (statePathFor o).result (configured o s) = .error pathFailure := by
    unfold statePathFor
    rw [hdropped]
    rfl
  have hdeploy := deploy_of_no_path sur hrequest hpath
  rw [run_of_options hparse, exchanges_runOptions, events_of_fails hdeploy]
  refine ⟨runOptions_passes ((eq_error_iff _ _ _ _).1 hdeploy).1 rfl rfl, rfl⟩

/-- The options of an order by one identity with a state file. -/
def stating (path : String) : Options :=
  .set (.set .empty (.text "alice") .admin) (.text path) .stateFile

/-- The words for such options, if the path does not look like an option. -/
theorem parse_stating {path : String} (h : path.toList.head? ≠ some '-') :
    parse ["--admin", "alice", "--state-file", path] = .ok (.options (stating path)) := by
  have hpath : classWord path = .ok (.plain path) := by
    unfold classWord
    exact if_pos h
  have hseparator : path ≠ OptionValue.separator := by
    rintro rfl
    exact h rfl
  have hwords : classWords ["--admin", "alice", "--state-file", path] =
      .ok [.option .admin false none, .plain "alice", .option .stateFile false none,
        .plain path] := by
    have hadmin : classWord "--admin" = .ok (.option .admin false none) := by decide +kernel
    have halice : classWord "alice" = .ok (.plain "alice") := by decide +kernel
    have hstate : classWord "--state-file" = .ok (.option .stateFile false none) := by
      decide +kernel
    simp only [classWords, hadmin, halice, hstate, hpath, if_neg hseparator]
    rfl
  unfold parse
  rw [hwords]
  rfl

/-- Such options make a request. -/
theorem requestOf_stating (path : String) : ∃ request, requestOf (stating path) = .ok request := by
  obtain ⟨profile, hprofile⟩ :
      ∃ profile, NetworkProfile.resolve defaultNetwork.text = .ok profile := ⟨_, rfl⟩
  obtain ⟨hlisted, hname⟩ := (NetworkProfile.resolve_eq_ok_iff _ _).1 hprofile
  have hnames : (stating path).Names profile "alice" :=
    ⟨hlisted, congrArg OptionValue.text hname.symm, ⟨"alice", rfl, by decide⟩, by decide⟩
  exact ⟨_, (requestOf_eq_ok_iff _ ⟨profile, "alice"⟩).2 hnames⟩

/-- A state file of one octet that is no text ends the program with status 1 and a message that
names the path, before the client is asked. -/
theorem textless_state_reported : ∃ m, Text.Utf8.decode [0xff] = .error m ∧
    (run (surroundedBy (.ok none)) ["--admin", "alice", "--state-file", ".env"]).result
      ⟨Pipeline.textlessHost, []⟩ = .ok ⟨1, false⟩ ∧
    ((run (surroundedBy (.ok none)) ["--admin", "alice", "--state-file", ".env"]).events
      ⟨Pipeline.textlessHost, []⟩).getLast? = some (.print .errors
        ("Error: " ++ (Problem.unreadableState ".env" m.message).message ++ "\n")) ∧
    exchanges ((run (surroundedBy (.ok none)) ["--admin", "alice", "--state-file", ".env"]).events
      ⟨Pipeline.textlessHost, []⟩) = [] := by
  have hheld : Pipeline.textlessHost.stateOctets (.ofText ".env") = .ok [0xff] := by
    decide +kernel
  have hnone : ∀ text, Text.Utf8.decode [0xff] ≠ .ok text := fun _ => nofun
  have hname : (Path.ofText ".env").text = ".env" := by decide +kernel
  obtain ⟨request, hrequest⟩ := requestOf_stating ".env"
  obtain ⟨-, -, htakes⟩ := run_takes_state (surroundedBy (.ok none))
    ["--admin", "alice", "--state-file", ".env"] ⟨Pipeline.textlessHost, []⟩
  cases (htakes _ request (parse_stating (by decide)) hrequest).1 (.ofText ".env") rfl with
  | accepted octets text answer rest held wellFormed loaded asked =>
    cases hheld.symm.trans held
    exact absurd wellFormed (hnone text)
  | reported octets m held malformed loaded ended told unasked =>
    cases hheld.symm.trans held
    rw [hname] at told
    exact ⟨m, malformed, ended, told, unasked⟩
  | passed overlong loaded ended unasked =>
    cases hheld.symm.trans (Host.stateOctets_eq_error_iff.2 ⟨rfl, overlong⟩)

/-- A state file whose path is too long is neither loaded nor reported. -/
theorem unreported_of_overlong {path : String} (sur : Surroundings σ)
    (hplain : path.toList.head? ≠ some '-') (hlong : s.host.Overlong (.ofText path)) :
    ¬StateFile.Answers (.ofText path) ((StateFile.load (.ofText path)).result s) ∧
      ¬∃ ending, (run sur ["--admin", "alice", "--state-file", path]).result s = .ok ending := by
  refine ⟨fun hanswers => (StateFile.answers_load_iff _ s).1 hanswers hlong, ?_⟩
  rintro ⟨ending, hending⟩
  obtain ⟨request, hrequest⟩ := requestOf_stating path
  have hpath : (statePathFor (stating path)).result s = .ok (.ofText path) := rfl
  have hrefused := Host.stateOctets_eq_error_iff.2 ⟨rfl, hlong⟩
  cases takesState_of_path sur (parse_stating hplain) hrequest hpath with
  | accepted octets text answer rest held wellFormed loaded asked =>
    cases hrefused.symm.trans held
  | reported octets m held malformed loaded ended told unasked => cases hrefused.symm.trans held
  | passed overlong loaded ended unasked => cases hending.symm.trans ended

/-- A name of one octet more than the system takes. -/
def longName : String := .ofList (List.replicate (Tree.nameLimit + 1) 'a')

/-- A state file with a name that is too long is neither loaded nor reported: the program does not
end with a status. -/
theorem overlong_state_unreported :
    ¬StateFile.Answers (.ofText longName)
      ((StateFile.load (.ofText longName)).result ⟨Pipeline.builtHost, []⟩) ∧
    ¬∃ ending, (run (surroundedBy (.ok none))
      ["--admin", "alice", "--state-file", longName]).result ⟨Pipeline.builtHost, []⟩ =
        .ok ending := by
  have hlist : longName.toList = List.replicate (Tree.nameLimit + 1) 'a' := String.toList_ofList
  have hname : Path.IsName longName := by
    refine ⟨by decide +kernel, by decide +kernel, ?_⟩
    rw [hlist]
    exact fun hmem => absurd (List.eq_of_mem_replicate hmem) (by decide)
  have hnul : Files.hasNul longName = false := by
    unfold Files.hasNul
    rw [hlist]
    decide
  have hplain : longName.toList.head? ≠ some '-' := by
    rw [hlist]
    decide
  have hlong : Tree.LongName longName := by
    unfold Tree.LongName
    decide +kernel
  exact unreported_of_overlong _ hplain (Host.overlong_of_name hname hnul hlong rfl)

end CommandLine

end SorobanDeploy
