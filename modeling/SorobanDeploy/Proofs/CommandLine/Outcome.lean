import SorobanDeploy.Proofs.CommandLine.Console
import SorobanDeploy.Proofs.Host.Kept
import SorobanDeploy.Proofs.Pipeline.Attributed
import SorobanDeploy.Proofs.Pipeline.Redeploy

/-!
# How the program ends

A program that ends with status 0 printed the lines of the two IDs and nothing else on the output,
and these lines end the state file, behind the other lines that it had (`CommandLine.Succeeds`). One
that ends with status 1 or 130 printed nothing there, kept every entry of the tree, and is back in
its working directory. An interruption of any call of the client ends the program with status 130,
with the tree as it was (`CommandLine.run_ends`).
-/

namespace SorobanDeploy

open Act Event

variable {σ : Type}

/-! ## Failures -/

/-- An interruption that no stage of a run handles. -/
structure Failure.Interrupts (e : Failure) : Prop where
  interrupt : e.isA .interrupt = true
  extraordinary : e.isA .ordinary = false
  unexpected : e.isExpected = false

/-- An interruption from the keyboard is one. -/
theorem Failure.interrupts_of_kind {e : Failure} (h : e.kind = .interrupt) : e.Interrupts := by
  constructor
  · rw [isA, h]
    decide
  · rw [isA, h]
    decide
  · rw [isExpected_eq h]
    decide

namespace Pipeline

variable {p : Pipeline σ} {request : DeploymentRequest} {s : Session σ}

/-- A failure to save keeps every entry of the tree, whatever it is explained by. -/
theorem persist_keeps {deployed : List DeployedContract} {e : Failure}
    (h : (p.persist deployed).result s = .error e) :
    KeepsEntries s ((p.persist deployed).after s) := by
  unfold persist at h ⊢
  have htell : (tell ("Saving contract IDs to " ++ p.statePath.text ++ "...") :
      Act σ Unit).result s = .ok () := rfl
  rw [result_bind_of_ok _ htell, result_mapFailure] at h
  rw [after_bind_of_ok _ htell, after_mapFailure]
  have htold : KeepsEntries s
      ((tell ("Saving contract IDs to " ++ p.statePath.text ++ "...")).after s) := .refl _
  -- From here on only the host counts, not what was told.
  generalize (tell ("Saving contract IDs to " ++ p.statePath.text ++ "...")).after s = t
    at h htold ⊢
  refine isWay_keepsEntries.trans htold ?_
  cases hupsert :
      (StateFile.upsert p.statePath (DeployedContract.contractIds deployed)).result t with
  | error d => exact StateFile.upsert_keeps hupsert
  | ok _ =>
    rw [hupsert] at h
    cases h

/-- A run that fails keeps every entry of the tree. -/
theorem run_keeps (hp : p.LeavesFiles) {e : Failure} (h : (p.run request).result s = .error e) :
    KeepsEntries s ((p.run request).after s) := by
  have hlive : KeepsEntries s ((p.goLive request).after s) := by
    rw [KeepsEntries, (goLive_untouched hp request s).1]
    exact .refl _
  rw [run_eq] at h ⊢
  rw [after_bind]
  cases hresult : (p.goLive request).result s with
  | error d => exact hlive
  | ok live =>
    refine isWay_keepsEntries.trans hlive ?_
    rw [result_bind_of_ok _ hresult] at h
    unfold save at h ⊢
    simp only
    rw [after_bind]
    -- Nothing fails behind the saving.
    cases hsaved : (p.persist live.2).result ((p.goLive request).after s) with
    | error d => exact persist_keeps hsaved
    | ok _ =>
      rw [result_bind_of_ok _ hsaved] at h
      cases h

/-- An interruption of a call of the client ends the run, with the tree as it was. -/
theorem run_interrupted (hp : p.LeavesFiles) (hroot : p.contractsRoot = none)
    (hstands : s.host.Stands) (hnamed : s.host.Named) {x : Exchange σ}
    (hx : x ∈ exchanges ((p.run request).events s)) {e : Failure} (hanswer : x.answer = .error e)
    (he : e.Interrupts) : (p.run request).result s = .error e ∧
      ((p.run request).after s).host.tree = s.host.tree := by
  rw [exchanges_run] at hx
  obtain ⟨g, hg, hbecomes⟩ := (goLive_raises_here hp hroot hstands hnamed request).each x hx e
    ⟨hanswer, fun _ => he.extraordinary⟩
  -- No stage expects an interruption, so it is the failure that the run ends with.
  obtain rfl := hbecomes.eq he.unexpected
  obtain ⟨hresult, hafter⟩ := run_of_goLive_error hg
  exact ⟨hresult, by rw [hafter]; exact (goLive_untouched hp request s).1⟩

end Pipeline

/-! ## What is shown and what is written -/

/-- The lines that tell the IDs of the project's contracts. -/
def idLines (exampleId inheritanceId : String) : String :=
  "EXAMPLE_CONTRACT_ID" ++ "=" ++ exampleId ++ "\n"
    ++ ("INHERITANCE_CONTRACT_ID" ++ "=" ++ inheritanceId ++ "\n")

/-- The lines of a text that begin with neither key and an equals sign, each with a newline. -/
def otherLines (old : List Char) : List Char :=
  ((Text.lines old).filter fun l => !StateFile.bindsKey "EXAMPLE_CONTRACT_ID" l
    && !StateFile.bindsKey "INHERITANCE_CONTRACT_ID" l).flatMap (· ++ ['\n'])

/-- What is printed for values is what is written for them. -/
theorem toList_recordLines (values : Pairs String String) :
    (String.join ((recordLines values).map (· ++ "\n"))).toList =
      (StateFile.recorded values).flatMap (· ++ ['\n']) := by
  rw [String.toList_join, recordLines, StateFile.recorded, List.map_map, List.flatMap_map,
    List.flatMap_map]
  refine congrArg (fun f => List.flatMap f values) (funext fun v => ?_)
  simp [StateFile.line]

/-- What is printed for the IDs of the project. -/
theorem join_recordLines_standardIds (exampleId inheritanceId : String) :
    String.join ((recordLines (standardIds exampleId inheritanceId)).map (· ++ "\n")) =
      idLines exampleId inheritanceId := by
  unfold recordLines standardIds inheritanceKey idLines
  simp only [List.map_cons, List.map_nil]
  rw [String.join_cons, String.join_cons, String.join_nil, String.append_empty]

/-- Saving the IDs of the project writes their lines behind the other ones. -/
theorem updated_standardIds (old : List Char) (exampleId inheritanceId : String) :
    StateFile.updated old (standardIds exampleId inheritanceId) =
      otherLines old ++ (idLines exampleId inheritanceId).toList := by
  have hw := writable_standardIds exampleId inheritanceId
  have hkept : StateFile.isKept (standardIds exampleId inheritanceId) = fun l =>
      !StateFile.bindsKey "EXAMPLE_CONTRACT_ID" l
        && !StateFile.bindsKey "INHERITANCE_CONTRACT_ID" l := by
    funext l
    simp [StateFile.isKept, standardIds, inheritanceKey]
  rw [StateFile.updated_eq hw, Text.unlines_append _ _ (StateFile.recorded_ne_nil hw),
    Text.unlines_eq_flatMap _ (StateFile.recorded_ne_nil hw), hkept, ← toList_recordLines,
    join_recordLines_standardIds, otherLines]

/-- What a pipeline for the project's contracts leaves of its state file. -/
structure Pipeline.Leaves (p : Pipeline σ) (h k : Host σ) (exampleId inheritanceId : String) :
    Prop where
  /-- A file that was there keeps its other lines. -/
  file : ∀ content, h.contentAt p.statePath = .ok content →
    ∃ text, Text.Utf8.decode content = .ok text ∧
      k.contentAt p.statePath = .ok (Text.Utf8.encode
        (otherLines (Text.foldNewlines text) ++ (idLines exampleId inheritanceId).toList))
  /-- A file that was missing in its directory has the lines of the IDs alone. -/
  missing : ∀ r, h.tree.status h.cwd p.statePath.text = .error r →
    h.HasDirectory p.statePath.parent.text →
      k.contentAt p.statePath = .ok (Text.Utf8.encode (idLines exampleId inheritanceId).toList)

/-- A run that succeeds leaves the lines of the IDs that it ends with. -/
theorem Pipeline.run_leaves {p : Pipeline σ} {request : DeploymentRequest} {s : Session σ}
    {d : Deployment} (hp : p.LeavesFiles) (hartifacts : p.artifacts = Artifact.standard)
    (hstands : s.host.Stands) (hrun : (p.run request).result s = .ok d) :
    ∃ exampleId inheritanceId,
      DeployedContract.contractIds d.contracts = standardIds exampleId inheritanceId ∧
      (deployments ((p.run request).events s)).map (·.answer) =
        [.ok (some exampleId), .ok (some inheritanceId)] ∧
      p.Leaves s.host ((p.run request).after s).host exampleId inheritanceId := by
  obtain ⟨t, ids, old, hsaves⟩ := run_saves hrun
  obtain ⟨exampleId, inheritanceId, rfl, -, -, hvalues⟩ := hsaves.standard hartifacts
  obtain ⟨htree, hcwd⟩ := hsaves.host_eq hp hstands
  obtain ⟨place, hfile⟩ := hsaves.file
  have hcontent : ((p.run request).after s).host.contentAt p.statePath =
      .ok (Text.Utf8.encode (otherLines old ++ (idLines exampleId inheritanceId).toList)) := by
    rw [hvalues, updated_standardIds, ← hsaves.cwd] at hfile
    exact Tree.contentOf_of_file hfile
  refine ⟨exampleId, inheritanceId, hvalues, hsaves.answers, fun content h => ?_,
    fun r hmissing hdirectory => ?_⟩
  · -- The session that the saving starts from has the files that the run began with.
    rw [Host.contentAt, ← htree, ← hcwd] at h
    obtain ⟨text, hdecode, rfl⟩ := StateFile.found_of_content h hsaves.found
    exact ⟨text, hdecode, hcontent⟩
  · obtain ⟨hnul, q, hq⟩ := hdirectory
    have hblank : StateFile.Blank p.statePath s.host :=
      .inl (StateFile.missing_of_directory hmissing hnul hq)
    have hnone : otherLines [] = [] := rfl
    rw [hblank.found_eq_nil htree hcwd hsaves.found, hnone, List.nil_append] at hcontent
    exact hcontent

namespace CommandLine

variable {sur : Surroundings σ} {client : Client σ} {o : Options} {s : Session σ}

/-! ## The stages of the program -/

/-- The path of the state file that options name. -/
def statePathFor (o : Options) : Act σ Path :=
  match o.stateFile with
  | some (.text path) => pure (.ofText path)
  | some .dropped => fail (.plain .badKind "expected str, bytes or os.PathLike object, not list")
  | none => Workspace.defaultStatePath

/-- The pipeline for the client of the options. -/
theorem pipelineFor_eq (sur : Surroundings σ) (o : Options) :
    pipelineFor sur o = clientFor sur o >>= fun client => statePathFor o >>= fun statePath => pure {
      client := client
      statePath := statePath
      contractsRoot := none
      artifacts := Artifact.standard
      check := if o.checkRpc then some (Rpc.verifyNetwork sur.transport) else none } := by
  unfold pipelineFor statePathFor
  cases o.stateFile with
  | none => rfl
  | some v => cases v <;> rfl

/-- The pipeline for a client that is given. -/
theorem pipelineFor_of_given (hclient : sur.client = some client) (o : Options) :
    pipelineFor sur o = statePathFor o >>= fun statePath => pure {
      client := client
      statePath := statePath
      contractsRoot := none
      artifacts := Artifact.standard
      check := if o.checkRpc then some (Rpc.verifyNetwork sur.transport) else none } := by
  have hgiven : clientFor sur o = pure client := by
    unfold clientFor
    rw [hclient]
  rw [pipelineFor_eq, hgiven, pure_bind]

/-- The pipeline that options ask for with a client that is given. -/
theorem pipelineFor_ok (hclient : sur.client = some client) {p : Pipeline σ}
    (h : (pipelineFor sur o).result s = .ok p) :
    p.client = client ∧ p.contractsRoot = none ∧ p.artifacts = Artifact.standard ∧
      ∀ check ∈ p.check, check = Rpc.verifyNetwork sur.transport := by
  rw [pipelineFor_of_given hclient] at h
  obtain ⟨path, -, h⟩ := result_bind_eq_ok h
  cases h
  refine ⟨rfl, rfl, rfl, fun check hcheck => ?_⟩
  dsimp only at hcheck
  split at hcheck
  · exact (Option.some.inj hcheck).symm
  · cases hcheck

theorem clientFor_reads (sur : Surroundings σ) (o : Options) : (clientFor sur o).Reads := by
  unfold clientFor
  split
  · exact .pure isWay_reads _
  · exact .pure isWay_reads _
  · exact .bind isWay_reads (.host isWay_reads) fun _ => .pure isWay_reads _

theorem pipelineFor_reads (sur : Surroundings σ) (o : Options) : (pipelineFor sur o).Reads := by
  rw [pipelineFor_eq]
  refine .bind isWay_reads (clientFor_reads sur o) fun client => ?_
  refine .bind isWay_reads ?_ fun path => .pure isWay_reads _
  unfold statePathFor
  split
  · exact .pure isWay_reads _
  · exact .fail isWay_reads _
  · exact .bind isWay_reads Files.workingDirectory_reads fun _ => .pure isWay_reads _

/-- The path of the state file depends on the host alone. -/
theorem statePathFor_congr (o : Options) (h : Host σ) (es fs : List (Event σ)) :
    (statePathFor o).result (⟨h, es⟩ : Session σ) = (statePathFor o).result ⟨h, fs⟩ := by
  unfold statePathFor
  split
  · rfl
  · rfl
  · unfold Workspace.defaultStatePath Files.workingDirectory
    simp only [bind_assoc, result_host_bind]
    cases h.cwd.path? <;> rfl

/-- The pipeline depends on the host alone. -/
theorem pipelineFor_congr (hclient : sur.client = some client) (o : Options) (h : Host σ)
    (es fs : List (Event σ)) :
    (pipelineFor sur o).result ⟨h, es⟩ = (pipelineFor sur o).result ⟨h, fs⟩ := by
  rw [pipelineFor_of_given hclient, result_bind, result_bind, statePathFor_congr o h es fs]
  cases (statePathFor o).result (⟨h, fs⟩ : Session σ) <;> rfl

/-- A deployment fails at once, or it is a run of the pipeline that the options ask for. -/
theorem deploy_cases (sur : Surroundings σ) (o : Options) (s : Session σ) :
    (∃ e, deploy sur o s = .error e s) ∨
      ∃ p request, requestOf o = .ok request ∧ (pipelineFor sur o).result s = .ok p ∧
        deploy sur o s = p.run request s := by
  unfold deploy
  cases requestOf o with
  | error e => exact .inl ⟨e, rfl⟩
  | ok request =>
    have hreads := pipelineFor_reads sur o s
    cases hp : (pipelineFor sur o).result s with
    | error e =>
      refine .inl ⟨e, ?_⟩
      have hfails : pipelineFor sur o s = .error e s := (eq_error_iff _ _ _ _).2 ⟨hp, hreads⟩
      simp only [bind_apply, hfails]
    | ok p =>
      refine .inr ⟨p, request, rfl, rfl, ?_⟩
      have hok : pipelineFor sur o s = .ok p s := (eq_ok_iff _ _ _ _).2 ⟨hp, hreads⟩
      simp only [bind_apply, hok]

theorem printIds_apply (ls : List String) (s : Session σ) :
    printIds ls s = .ok () ⟨s.host, s.trace ++ ls.map fun l => .print .output (l ++ "\n")⟩ := by
  induction ls generalizing s with
  | nil => simp [printIds]
  | cons l rest ih =>
    have hprint : (print .output (l ++ "\n") : Act σ Unit) s =
        .ok () ⟨s.host, s.trace ++ [.print .output (l ++ "\n")]⟩ := rfl
    simp only [printIds, bind_apply, hprint, ih]
    simp

/-- What is printed for a deployment. -/
def printed (d : Deployment) : List (Event σ) :=
  (recordLines (DeployedContract.contractIds d.contracts)).map fun l => .print .output (l ++ "\n")

theorem steps_printed (d : Deployment) : steps (printed d : List (Event σ)) = [] := by
  simp [printed, steps, step?]

theorem output_printed (d : Deployment) : output (printed d : List (Event σ)) =
    String.join ((recordLines (DeployedContract.contractIds d.contracts)).map (· ++ "\n")) := by
  simp [printed, output, output?, List.filterMap_map, Function.comp_def]

theorem run_of_options {words : List String} (h : parse words = .ok (.options o)) :
    run sur words = runOptions sur o := by
  unfold run
  rw [h]

/-- Words that are refused end the program with status 2. -/
theorem run_of_refused (sur : Surroundings σ) {words : List String} {e : UsageError}
    (h : parse words = .error e) (s : Session σ) : run sur words s =
      .ok ⟨2, true⟩ ⟨s.host, s.trace ++ [.print .errors
        (usage (textWidth s.host.env) ++ programName ++ ": error: " ++ e.message ++ "\n")]⟩ := by
  unfold run
  rw [h]
  rfl

/-- Words that ask for help end the program with status 0. -/
theorem run_of_help (sur : Surroundings σ) {words : List String} (h : parse words = .ok .help)
    (s : Session σ) : run sur words s = .ok ⟨0, true⟩
      ⟨s.host, s.trace ++ [.print .output (help (textWidth s.host.env))]⟩ := by
  unfold run
  rw [h]
  rfl

/-- Words without options for a run leave the host, and a text is printed. The status is 0 only for
the help. -/
theorem run_unoptioned (sur : Surroundings σ) {words : List String}
    (h : ∀ o, parse words ≠ .ok (.options o)) (s : Session σ) : ∃ status channel text,
      run sur words s = .ok ⟨status, true⟩ ⟨s.host, s.trace ++ [.print channel text]⟩ ∧
        (parse words ≠ .ok .help → status ≠ 0) := by
  cases hparse : parse words with
  | error e => exact ⟨2, _, _, run_of_refused sur hparse s, nofun⟩
  | ok parsed =>
    cases parsed with
    | help => exact ⟨0, _, _, run_of_help sur hparse s, fun hother => absurd rfl hother⟩
    | options o => exact absurd hparse (h o)

/-- A program that is not to deploy ends early and asks the client for nothing. -/
theorem run_early {words : List String} (h : ∀ o, parse words ≠ .ok (.options o))
    (s : Session σ) : (∃ status, (run sur words).result s = .ok ⟨status, true⟩) ∧
      exchanges ((run sur words).events s) = [] := by
  obtain ⟨status, channel, text, hruns, -⟩ := run_unoptioned sur h s
  have hevents : (run sur words).events s = [.print channel text] :=
    events_eq (by rw [after_of_ok hruns])
  exact ⟨⟨status, result_of_ok hruns⟩, by rw [hevents]; rfl⟩

/-- The session of a run with options when the log is set up. -/
def configured (o : Options) (s : Session σ) : Session σ :=
  ⟨s.host, s.trace ++ [.configure (if o.verbose then Log.debug else Log.info)]⟩

/-- A deployment that succeeds is followed by the lines of its IDs. -/
theorem runOptions_of_ok {d : Deployment} {t : Session σ}
    (h : deploy sur o (configured o s) = .ok d t) :
    runOptions sur o s = .ok ⟨0, false⟩ ⟨t.host, t.trace ++ printed d⟩ := by
  have hemit : (emit (.configure (if o.verbose then Log.debug else Log.info)) : Act σ Unit) s =
      .ok () (configured o s) := rfl
  simp only [runOptions, bind_apply, hemit, recover, h, printIds_apply, pure_apply, printed]

/-- A deployment that fails ends the run as its failure says. -/
theorem runOptions_of_error {e : Failure} {t : Session σ}
    (h : deploy sur o (configured o s) = .error e t) : runOptions sur o s = endFailed e t := by
  have hemit : (emit (.configure (if o.verbose then Log.debug else Log.info)) : Act σ Unit) s =
      .ok () (configured o s) := rfl
  simp only [runOptions, bind_apply, hemit, recover, h]

/-- The end of a failed run leaves the host, and what it prints goes to the errors. -/
theorem after_endFailed (e : Failure) (t : Session σ) :
    ∃ fs, (endFailed e).after t = ⟨t.host, t.trace ++ fs⟩ ∧ steps fs = [] ∧ output fs = "" := by
  unfold endFailed
  split
  · exact ⟨[_], rfl, rfl, rfl⟩
  · split
    · exact ⟨[_], rfl, rfl, rfl⟩
    · exact ⟨[], by simp, rfl, rfl⟩

/-- A failed run does not end with status 0. -/
theorem result_endFailed_ne (e : Failure) (t : Session σ) :
    (endFailed e).result t ≠ .ok ⟨0, false⟩ := by
  unfold endFailed
  split
  · exact nofun
  · split
    · exact nofun
    · exact nofun

/-- An interruption ends the program with status 130. -/
theorem result_endFailed_of_interrupts {e : Failure} (he : e.Interrupts) (t : Session σ) :
    (endFailed e).result t = .ok ⟨130, false⟩ := by
  have hpipeline : e.isA .pipeline = false := by
    have hunexpected := he.unexpected
    unfold Failure.isExpected at hunexpected
    exact (Bool.or_eq_false_iff.1 hunexpected).1
  unfold endFailed
  rw [hpipeline, if_neg Bool.false_ne_true, he.interrupt, if_pos rfl]
  rfl

/-! ## The whole program -/

/-- A deployment only adds to the trace. -/
theorem trace_after_deploy (sur : Surroundings σ) (o : Options) (s : Session σ) :
    ((deploy sur o).after s).trace = s.trace ++ (deploy sur o).events s := by
  refine trace_after ?_
  rcases deploy_cases sur o s with ⟨e, he⟩ | ⟨p, request, -, -, hrun⟩
  · obtain ⟨-, hafter⟩ := (eq_error_iff _ _ _ _).1 he
    exact ⟨[], by rw [hafter, List.append_nil]⟩
  · rw [(congr_of_apply hrun).2.1]
    exact Pipeline.run_grows p request s

/-- A run with options takes no steps but those of the deployment. On the output it prints the lines
of the IDs if the deployment succeeds, and nothing if it fails. -/
theorem events_runOptions (sur : Surroundings σ) (o : Options) (s : Session σ) :
    ∃ fs, (runOptions sur o).events s = .configure (if o.verbose then Log.debug else Log.info)
        :: ((deploy sur o).events (configured o s) ++ fs) ∧
      steps fs = [] ∧
      ((runOptions sur o).after s).host = ((deploy sur o).after (configured o s)).host ∧
      output fs = match (deploy sur o).result (configured o s) with
        | .ok d =>
          String.join ((recordLines (DeployedContract.contractIds d.contracts)).map (· ++ "\n"))
        | .error _ => "" := by
  have htrace := trace_after_deploy sur o (configured o s)
  cases hd : deploy sur o (configured o s) with
  | ok d t =>
    obtain ⟨hresult, hafter⟩ := (eq_ok_iff _ _ _ _).1 hd
    have hruns := after_of_ok (runOptions_of_ok hd)
    rw [hafter] at htrace
    refine ⟨printed d, events_eq ?_, steps_printed d, by rw [hruns, hafter], ?_⟩
    · rw [hruns, htrace, configured]
      simp
    · rw [hresult, output_printed]
  | error e t =>
    obtain ⟨hresult, hafter⟩ := (eq_error_iff _ _ _ _).1 hd
    obtain ⟨fs, hfs, hsteps, houtput⟩ := after_endFailed e t
    have hruns : (runOptions sur o).after s = (endFailed e).after t := by
      rw [after, runOptions_of_error hd, after]
    rw [hafter] at htrace
    refine ⟨fs, events_eq ?_, hsteps, by rw [hruns, hfs, hafter], by rw [hresult, houtput]⟩
    rw [hruns, hfs, htrace, configured]
    simp

/-- A run with options asks the client for what the deployment asks for. -/
theorem exchanges_runOptions (sur : Surroundings σ) (o : Options) (s : Session σ) :
    exchanges ((runOptions sur o).events s) =
      exchanges ((deploy sur o).events (configured o s)) := by
  obtain ⟨fs, hevents, hsteps, -⟩ := events_runOptions sur o s
  rw [hevents, exchanges_configure_cons, exchanges_append, exchanges_eq_nil hsteps, List.append_nil]

/-- A deployment shows nothing on the output. -/
theorem output_deploy (sur : Surroundings σ) (o : Options) (s : Session σ) :
    output ((deploy sur o).events s) = "" := by
  rcases deploy_cases sur o s with ⟨e, he⟩ | ⟨p, request, -, -, hrun⟩
  · rw [events_of_fails he]
    rfl
  · obtain ⟨es, hes, hmute⟩ := p.run_mute request s
    rw [(congr_of_apply hrun).2.2, events_eq hes, hmute]

/-- What a program that ended with status 0 had deployed, what it showed and what it left. -/
structure Succeeds (p : Pipeline σ) (time : String) (s t : Session σ) (es : List (Event σ))
    (exampleId inheritanceId : String) : Prop where
  /-- The client answered the two deployments with the IDs. -/
  answers : (deployments es).map (·.answer) = [.ok (some exampleId), .ok (some inheritanceId)]
  /-- The lines of the IDs are all that was printed on the output. -/
  shown : (console time es).1 = idLines exampleId inheritanceId
  /-- They end the state file. -/
  left : p.Leaves s.host t.host exampleId inheritanceId

/-- What a program that failed showed and left. -/
structure Fails (time : String) (s t : Session σ) (es : List (Event σ)) : Prop where
  /-- Nothing was printed on the output. -/
  shown : (console time es).1 = ""
  kept : KeepsEntries s t
  cwd : t.host.cwd = s.host.cwd

section

variable (hclient : sur.client = some client)
  (hleaves : ∀ call h, (client call h).host.tree = h.tree ∧ (client call h).host.cwd = h.cwd)
  (hstands : s.host.Stands) (hnamed : s.host.Named)

include hclient hleaves

/-- The pipeline that options ask for leaves the files, if the client that is given does. -/
theorem pipelineFor_leavesFiles {p : Pipeline σ} (h : (pipelineFor sur o).result s = .ok p) :
    p.LeavesFiles := by
  obtain ⟨rfl, -, -, hcheck⟩ := pipelineFor_ok hclient h
  exact Pipeline.leavesFiles_of_verifies hcheck hleaves

include hstands

theorem deploy_succeeds {d : Deployment} (h : (deploy sur o).result s = .ok d) :
    ∃ p exampleId inheritanceId, (pipelineFor sur o).result s = .ok p ∧
      DeployedContract.contractIds d.contracts = standardIds exampleId inheritanceId ∧
      (deployments ((deploy sur o).events s)).map (·.answer) =
        [.ok (some exampleId), .ok (some inheritanceId)] ∧
      p.Leaves s.host ((deploy sur o).after s).host exampleId inheritanceId := by
  rcases deploy_cases sur o s with ⟨e, he⟩ | ⟨p, request, -, hp, hrun⟩
  · cases h.symm.trans ((eq_error_iff _ _ _ _).1 he).1
  · obtain ⟨hresult, hafter, hevents⟩ := congr_of_apply hrun
    rw [hresult] at h
    obtain ⟨-, -, hartifacts, -⟩ := pipelineFor_ok hclient hp
    obtain ⟨exampleId, inheritanceId, hids⟩ := Pipeline.run_leaves
      (pipelineFor_leavesFiles hclient hleaves hp) hartifacts hstands h
    rw [← hafter, ← hevents] at hids
    exact ⟨p, exampleId, inheritanceId, hp, hids⟩

theorem runOptions_succeeds (time : String) (h : (runOptions sur o).result s = .ok ⟨0, false⟩) :
    ∃ p exampleId inheritanceId, (pipelineFor sur o).result s = .ok p ∧
      Succeeds p time s ((runOptions sur o).after s) ((runOptions sur o).events s) exampleId
        inheritanceId := by
  obtain ⟨fs, hevents, -, hhost, houtput⟩ := events_runOptions sur o s
  cases hd : (deploy sur o).result (configured o s) with
  | error e =>
    have hfails := runOptions_of_error ((eq_error_iff _ _ _ _).2 ⟨hd, rfl⟩)
    rw [result, hfails] at h
    exact absurd h (result_endFailed_ne e _)
  | ok d =>
    obtain ⟨p, exampleId, inheritanceId, hp, hids, hanswers, hleft⟩ :=
      deploy_succeeds (s := configured o s) hclient hleaves hstands hd
    refine ⟨p, exampleId, inheritanceId, ?_, ?_, ?_, ?_⟩
    · rw [← hp]
      exact pipelineFor_congr hclient o s.host _ _
    · rw [deployments, exchanges_runOptions]
      exact hanswers
    · rw [console_fst, hevents, output_configure_cons, output_append,
        output_deploy sur o _, houtput, hd]
      simp only
      rw [hids, join_recordLines_standardIds, String.empty_append]
    · rw [hhost]
      exact hleft

include hnamed

/-- A deployment that fails keeps every entry of the tree, and comes back to where it began. -/
theorem deploy_fails {e : Failure} (h : (deploy sur o).result s = .error e) :
    KeepsEntries s ((deploy sur o).after s) ∧
      ((deploy sur o).after s).host.cwd = s.host.cwd := by
  rcases deploy_cases sur o s with ⟨d, hd⟩ | ⟨p, request, -, hp, hrun⟩
  · rw [((eq_error_iff _ _ _ _).1 hd).2]
    exact ⟨isWay_keepsEntries.refl s, rfl⟩
  · obtain ⟨hresult, hafter, -⟩ := congr_of_apply hrun
    rw [hresult] at h
    rw [hafter]
    have hfiles := pipelineFor_leavesFiles hclient hleaves hp
    obtain ⟨-, hroot, -, -⟩ := pipelineFor_ok hclient hp
    exact ⟨Pipeline.run_keeps hfiles h, Pipeline.run_cwd hfiles hroot hstands hnamed request⟩

theorem runOptions_fails (time : String) (h : (runOptions sur o).result s ≠ .ok ⟨0, false⟩) :
    Fails time s ((runOptions sur o).after s) ((runOptions sur o).events s) := by
  obtain ⟨fs, hevents, -, hhost, houtput⟩ := events_runOptions sur o s
  cases hd : (deploy sur o).result (configured o s) with
  | ok d => exact absurd (result_of_ok (runOptions_of_ok ((eq_ok_iff _ _ _ _).2 ⟨hd, rfl⟩))) h
  | error e =>
    obtain ⟨hkept, hcwd⟩ :=
      deploy_fails (s := configured o s) hclient hleaves hstands hnamed hd
    refine ⟨?_, ?_, ?_⟩
    · rw [console_fst, hevents, output_configure_cons, output_append,
        output_deploy sur o _, houtput, hd]
      rfl
    · rw [KeepsEntries, hhost]
      exact hkept
    · rw [hhost]
      exact hcwd

/-- An interruption of a call of the client ends a deployment, with the tree as it was. -/
theorem deploy_interrupted {x : Exchange σ} (hx : x ∈ exchanges ((deploy sur o).events s))
    {e : Failure} (hanswer : x.answer = .error e) (he : e.Interrupts) :
    (deploy sur o).result s = .error e ∧
      ((deploy sur o).after s).host.tree = s.host.tree := by
  rcases deploy_cases sur o s with ⟨d, hd⟩ | ⟨p, request, -, hp, hrun⟩
  · rw [events_of_fails hd] at hx
    cases hx
  · obtain ⟨hresult, hafter, hevents⟩ := congr_of_apply hrun
    rw [hevents] at hx
    rw [hresult, hafter]
    obtain ⟨-, hroot, -, -⟩ := pipelineFor_ok hclient hp
    exact Pipeline.run_interrupted (pipelineFor_leavesFiles hclient hleaves hp) hroot hstands
      hnamed hx hanswer he

theorem runOptions_interrupted {x : Exchange σ}
    (hx : x ∈ exchanges ((runOptions sur o).events s)) {e : Failure}
    (hanswer : x.answer = .error e) (he : e.Interrupts) :
    (runOptions sur o).result s = .ok ⟨130, false⟩ ∧
      ((runOptions sur o).after s).host.tree = s.host.tree := by
  obtain ⟨-, -, -, hhost, -⟩ := events_runOptions sur o s
  rw [exchanges_runOptions] at hx
  obtain ⟨hresult, htree⟩ :=
    deploy_interrupted (s := configured o s) hclient hleaves hstands hnamed hx hanswer he
  have hfails := runOptions_of_error ((eq_error_iff _ _ _ _).2 ⟨hresult, rfl⟩)
  rw [hhost]
  refine ⟨?_, htree⟩
  rw [result, hfails]
  exact result_endFailed_of_interrupts he _

/-- How the program ends, whatever its words are. With status 0 it deployed both contracts, printed
the lines of their IDs and nothing else on the output, and these lines end the state file, behind
the other lines that it had. With another status it printed nothing there, kept every entry of the
tree, and is back in its working directory. If a call of the client is interrupted, the status is
130, and the tree is as it was. -/
theorem run_ends (time : String) (words : List String) :
    ((run sur words).result s = .ok ⟨0, false⟩ → ∃ o p exampleId inheritanceId,
      parse words = .ok (.options o) ∧ (pipelineFor sur o).result s = .ok p ∧
      Succeeds p time s ((run sur words).after s) ((run sur words).events s) exampleId
        inheritanceId) ∧
    (∀ status, status ≠ 0 → (run sur words).result s = .ok ⟨status, false⟩ →
      Fails time s ((run sur words).after s) ((run sur words).events s)) ∧
    ∀ x ∈ exchanges ((run sur words).events s), ∀ e, x.answer = .error e → e.Interrupts →
      (run sur words).result s = .ok ⟨130, false⟩ ∧
        ((run sur words).after s).host.tree = s.host.tree := by
  by_cases hoptions : ∃ o, parse words = .ok (.options o)
  · obtain ⟨o, ho⟩ := hoptions
    rw [run_of_options ho]
    refine ⟨fun h => ?_, fun status hstatus h => ?_, fun x hx e hanswer he => ?_⟩
    · obtain ⟨p, exampleId, inheritanceId, hsucceeds⟩ :=
        runOptions_succeeds hclient hleaves hstands time h
      exact ⟨o, p, exampleId, inheritanceId, ho, hsucceeds⟩
    · refine runOptions_fails hclient hleaves hstands hnamed time fun hzero => hstatus ?_
      cases h.symm.trans hzero
      rfl
    · exact runOptions_interrupted hclient hleaves hstands hnamed hx hanswer he
  · -- Words that ask for help or are refused end the program before it can return a status.
    obtain ⟨⟨early, hearly⟩, hnone⟩ := run_early (not_exists.1 hoptions) s
    rw [hearly, hnone]
    exact ⟨nofun, fun _ _ => nofun, nofun⟩

end

/-- A client that answers every call for a build with one answer, and the other calls as they
expect. -/
def building (answer : Except Failure (Option String)) : Client Unit :=
  .answering fun call => match call with
    | .resolveAddress _ => .ok (some "GADMIN")
    | .deploy .. => .ok (some "CAFE")
    | .build .. => answer
    | _ => .ok none

/-- Surroundings with such a client, where every program fails and no server answers. -/
def surroundedBy (answer : Except Failure (Option String)) : Surroundings Unit where
  client := some (building answer)
  programs _ outside := (⟨[], [], 1⟩, outside)
  transport _ outside := (.error (.plain .noConnection "no server"), outside)

/-- The failures of the client among events, by their classes. -/
def failureKinds (es : List (Event σ)) : List FailureClass :=
  (exchanges es).filterMap fun x => match x.answer with
    | .ok _ => none
    | .error e => some e.kind

/-- The built project is deployed with status 0, and an interrupted build ends with status 130. -/
theorem built_project_ends :
    (∃ o p exampleId inheritanceId, parse ["--admin", "alice"] = .ok (.options o) ∧
      (pipelineFor (surroundedBy (.ok none)) o).result ⟨Pipeline.builtHost, []⟩ = .ok p ∧
      Succeeds p "" ⟨Pipeline.builtHost, []⟩
        ((run (surroundedBy (.ok none)) ["--admin", "alice"]).after ⟨Pipeline.builtHost, []⟩)
        ((run (surroundedBy (.ok none)) ["--admin", "alice"]).events ⟨Pipeline.builtHost, []⟩)
        exampleId inheritanceId) ∧
    (run (surroundedBy (.error (.plain .interrupt ""))) ["--admin", "alice"]).result
      ⟨Pipeline.builtHost, []⟩ = .ok ⟨130, false⟩ := by
  have hstands : (⟨Pipeline.builtHost, []⟩ : Session Unit).host.Stands := by
    constructor <;> simp [Pipeline.builtHost, Spot.live]
  have hnamed : (⟨Pipeline.builtHost, []⟩ : Session Unit).host.Named := by
    constructor <;> simp [Pipeline.builtHost, Spot.live]
  have hgiven : ∀ answer, (surroundedBy answer).client = some (building answer) := fun _ => rfl
  have hends : ∀ answer, _ := fun answer =>
    run_ends (hgiven answer) (fun _ _ => ⟨rfl, rfl⟩) hstands hnamed "" ["--admin", "alice"]
  constructor
  · have hzero : ((run (surroundedBy (.ok none)) ["--admin", "alice"]).result
        ⟨Pipeline.builtHost, []⟩).toOption = some ⟨0, false⟩ := by decide +kernel
    exact (hends _).1 (result_eq_ok_of_toOption hzero)
  · have hkinds : .interrupt ∈ failureKinds
        ((run (surroundedBy (.error (.plain .interrupt ""))) ["--admin", "alice"]).events
          ⟨Pipeline.builtHost, []⟩) := by decide +kernel
    obtain ⟨x, hx, hkind⟩ := List.mem_filterMap.1 hkinds
    cases hanswer : x.answer with
    | ok a => simp [hanswer] at hkind
    | error e =>
      have he : e.kind = .interrupt := by simpa [hanswer] using hkind
      exact ((hends _).2.2 x hx e hanswer (Failure.interrupts_of_kind he)).1

end CommandLine

end SorobanDeploy
