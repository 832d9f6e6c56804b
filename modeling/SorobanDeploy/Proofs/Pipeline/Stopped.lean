import SorobanDeploy.Proofs.Pipeline.Redeploy

/-!
# Deployments that stop

A deployment that stops leaves the contracts live that were deployed before. Whoever reads why it
stopped should read which these are. `deployAll_lists_live` says what a failure of the deployment
tells: if the client's answer is what stopped it, the message lists all live contracts in order. If
a file is missing, the message tells the file and no contract, whatever is live
(`missing_file_lists_none`).
-/

namespace SorobanDeploy

open Act Event

variable {σ : Type}

/-- A message that lists contracts with their IDs, in order. -/
def Lists (message : String) (contracts : List DeployedContract) : Prop :=
  (", ".intercalate (contracts.map DeployedContract.line)).toList <:+: message.toList

instance (message : String) (contracts : List DeployedContract) :
    Decidable (Lists message contracts) := inferInstanceAs (Decidable (_ <:+: _))

/-- The note on live contracts lists them. -/
theorem lists_liveNote (reason : String) (live : List DeployedContract) :
    Lists (reason ++ Problem.liveNote live) live := by
  unfold Lists
  cases live with
  | nil => exact List.nil_infix
  | cons c rest =>
    have hnote : Problem.liveNote (c :: rest) = ". Already deployed in this run (still live): " ++
        ", ".intercalate ((c :: rest).map DeployedContract.line) := rfl
    rw [hnote, String.toList_append, String.toList_append, ← List.append_assoc]
    exact (List.suffix_append _ _).isInfix

/-- The failure that a file cannot be looked at is no failure of a stage. -/
theorem Files.unstaged_of_isFile {path : String} {s : Session σ} {e : Failure}
    (h : (Files.isFile path).result s = .error e) : e.isA .pipeline = false := by
  unfold Files.isFile at h
  rw [result_bind, Files.result_entry_of_path] at h
  split at h
  · split at h <;> cases h
  · rename_i d hd
    cases h
    split at hd
    · cases hd
    · split at hd
      · cases hd
      · rename_i r _
        split at hd
        · cases hd
        · cases hd
          cases r <;> rfl

namespace Pipeline

variable {p : Pipeline σ} {request : DeploymentRequest} {s : Session σ} {e : Failure}

/-- What is not taken as an ID stops the deployment with a note on what is live. -/
theorem acceptId_eq_error {package : String} {live : List DeployedContract}
    {answer : Option String} {problem : Problem}
    (h : acceptId package live answer = .error problem) :
    problem.kind = .deployment ∧ (∃ reason, problem.message = reason ++ Problem.liveNote live) ∧
      ∀ id, answer = some id → ¬AcceptedId id := by
  have hrefused : ∀ id, answer = some id → ¬AcceptedId id := by
    intro id hid haccepted
    have hok := (acceptId_eq_ok_iff package live answer id).2 ⟨hid, haccepted⟩
    cases h.symm.trans hok
  unfold acceptId at h
  split at h
  · cases h
    exact ⟨rfl, ⟨_, rfl⟩, hrefused⟩
  · split at h
    · cases h
      exact ⟨rfl, ⟨_, rfl⟩, hrefused⟩
    · split at h
      · cases h
        exact ⟨rfl, ⟨_, rfl⟩, hrefused⟩
      · cases h

/-- The question that deploys an artifact. -/
def deployCall (request : DeploymentRequest) (a : Artifact) : Call :=
  .deploy (Path.ofText a.wasmPath).text request.network request.adminIdentity

/-- What is done with the answer to the question. -/
def takeAnswer (a : Artifact) (live : List DeployedContract) (answer : Option String) :
    Act σ DeployedContract :=
  match acceptId a.packageName live answer with
  | .error problem => refuse problem
  | .ok id => do
    tell ("  ID: " ++ id)
    pure ⟨a.logicalName, id⟩

/-- The question, and what is done with the answer. -/
def askFor (p : Pipeline σ) (request : DeploymentRequest) (live : List DeployedContract)
    (a : Artifact) : Act σ DeployedContract := do
  takeAnswer a live (← explain (fun e => .deployFailed a.packageName e.message live)
    (ask p.client (deployCall request a)))

/-- An artifact whose file is there is asked for. -/
theorem deployOne_of_isFile {live : List DeployedContract} {a : Artifact}
    (hfound : (Files.isFile (Path.ofText a.wasmPath).text).result s = .ok true) :
    p.deployOne request live a s =
      (tell ("- Deploying " ++ a.packageName ++ "...") >>= fun _ => p.askFor request live a) s := by
  have hfile : Files.isFile (Path.ofText a.wasmPath).text s = .ok true s :=
    (eq_ok_iff _ _ _ _).2 ⟨hfound, Files.isFile_reads _ _⟩
  unfold deployOne
  rw [bind_apply, hfile]
  rfl

theorem takeAnswer_silent (a : Artifact) (live : List DeployedContract) (answer : Option String) :
    (takeAnswer a live answer : Act σ DeployedContract).Along Silent := by
  unfold takeAnswer
  split
  · exact .refuse isWay_silent _
  · exact .bind isWay_silent (log_silent _ _ _) fun _ => .pure isWay_silent _

/-- The client is asked once, whatever becomes of its answer. -/
theorem exchanges_askFor (p : Pipeline σ) (request : DeploymentRequest)
    (live : List DeployedContract) (a : Artifact) (s : Session σ) :
    exchanges ((p.askFor request live a).events s) =
      [⟨deployCall request a, s.host, (p.client (deployCall request a) s.host).answer⟩] := by
  have hask : (explain (fun e => .deployFailed a.packageName e.message live)
      (ask p.client (deployCall request a))).Along Grows := .explain _ (ask_grows _ _)
  unfold askFor
  rw [exchanges_bind_silent hask (takeAnswer_silent a live), events_explain, exchanges_ask]

/-- A question that stops with a failure of the deployment's own got no accepted ID, and the failure
has the note on what is live. -/
theorem askFor_stops {live : List DeployedContract} {a : Artifact}
    (h : (p.askFor request live a).result s = .error e) (hstage : e.isA .pipeline = true) :
    e.kind = .deployment ∧ (∃ reason, e.message = reason ++ Problem.liveNote live) ∧
      ∀ id, (p.client (deployCall request a) s.host).answer = .ok (some id) → ¬AcceptedId id := by
  unfold askFor explain at h
  rw [result_bind, result_mapFailure, result_ask] at h
  cases hanswer : (p.client (deployCall request a) s.host).answer with
  | error d =>
    rw [hanswer] at h
    simp only [Except.mapError] at h
    split at h
    · cases h
      exact ⟨rfl, ⟨_, rfl⟩, nofun⟩
    · -- An unexpected failure of the client is none of the deployment's own.
      rename_i hexpected
      cases h
      unfold Failure.isExpected at hexpected
      rw [hstage] at hexpected
      exact absurd rfl hexpected
  | ok answer =>
    rw [hanswer] at h
    simp only [Except.mapError, takeAnswer] at h
    cases haccept : acceptId a.packageName live answer with
    | ok id => rw [haccept] at h; cases h
    | error problem =>
      rw [haccept] at h
      cases h
      obtain ⟨hkind, ⟨reason, hreason⟩, hrefused⟩ := acceptId_eq_error haccept
      exact ⟨hkind, ⟨reason, hreason⟩, fun id hid => hrefused id (Except.ok.inj hid)⟩

/-- How the deployment of one artifact stops with a failure of its own: its file is missing, or the
client was asked and gave no ID. Only then the failure has the note on what is live. -/
theorem deployOne_stops {live : List DeployedContract} {a : Artifact}
    (h : (p.deployOne request live a).result s = .error e)
    (hown : e.kind = .build ∨ e.kind = .deployment) :
    (e = (Problem.artifactMissing a.packageName (Path.ofText a.wasmPath).text).failure ∧
        (p.deployOne request live a).after s = s ∧
        ¬s.host.HasFile (Path.ofText a.wasmPath).text) ∨
      (e.kind = .deployment ∧ (∃ reason, e.message = reason ++ Problem.liveNote live) ∧
        ∃ x, exchanges ((p.deployOne request live a).events s) = [x] ∧
          ∀ id, x.answer = .ok (some id) → ¬AcceptedId id) := by
  have hstage : e.isA .pipeline = true := by
    unfold Failure.isA
    rcases hown with hkind | hkind <;> rw [hkind] <;> rfl
  have hreads := Files.isFile_reads (Path.ofText a.wasmPath).text s
  cases hfound : (Files.isFile (Path.ofText a.wasmPath).text).result s with
  | error d =>
    -- A file that cannot be looked at is a failure of the system.
    unfold deployOne at h
    rw [result_bind, hfound] at h
    cases h
    rw [Files.unstaged_of_isFile hfound] at hstage
    cases hstage
  | ok found =>
    cases found with
    | false =>
      have hmissing : ¬s.host.HasFile (Path.ofText a.wasmPath).text := by
        intro hfile
        cases hfound.symm.trans ((Files.result_isFile_eq_true_iff _ s).2 hfile)
      unfold deployOne at h ⊢
      rw [result_bind_of_ok _ hfound, hreads] at h
      rw [after_bind_of_ok _ hfound, hreads]
      cases h
      exact .inl ⟨rfl, rfl, hmissing⟩
    | true =>
      have hdeploy : p.deployOne request live a s = _ := deployOne_of_isFile hfound
      obtain ⟨hresult, -, hevents⟩ := congr_of_apply hdeploy
      have htell : (tell ("- Deploying " ++ a.packageName ++ "...") : Act σ Unit).Along Silent :=
        log_silent _ _ _
      have hgrows : (p.askFor request live a).Along Grows :=
        .bind isWay_grows (.explain _ (ask_grows _ _)) fun answer =>
          (takeAnswer_silent a live answer).grows
      rw [hresult, result_bind_of_ok _ rfl] at h
      obtain ⟨hkind, hnote, hrefused⟩ := askFor_stops h hstage
      rw [hevents, exchanges_silent_bind htell rfl hgrows, exchanges_askFor]
      exact .inr ⟨hkind, hnote, _, rfl, hrefused⟩

/-- How a deployment of artifacts stops with a failure of its own, when the first of them are live
under IDs and the next one is not. -/
inductive Stops (artifacts : List Artifact) (live : List DeployedContract) (ids : List String)
    (e : Failure) (answers : List (Except Failure (Option String))) (t : Session σ) : Prop where
  /-- The client answered with no accepted ID. The message ends with the note on what is live. -/
  | refused (x : Except Failure (Option String)) (reason : String) (kind : e.kind = .deployment)
      (message : e.message = reason ++ Problem.liveNote (live ++ contractsUnder artifacts ids))
      (answers : answers = ids.map (fun id => .ok (some id)) ++ [x])
      (rejected : ∀ id, x = .ok (some id) → ¬AcceptedId id)
  /-- The file of the next artifact is missing, and the message tells nothing else. -/
  | missing (a : Artifact) (next : artifacts[ids.length]? = some a)
      (failure : e = (Problem.artifactMissing a.packageName (Path.ofText a.wasmPath).text).failure)
      (answers : answers = ids.map fun id => .ok (some id))
      (absent : ¬t.host.HasFile (Path.ofText a.wasmPath).text)

/-- How a deployment stops behind an artifact that went live is how the rest of it stops. -/
theorem Stops.cons {a : Artifact} {rest : List Artifact} {live : List DeployedContract}
    {id : String} {ids : List String} {answers : List (Except Failure (Option String))}
    {t : Session σ} (h : Stops rest (live ++ [⟨a.logicalName, id⟩]) ids e answers t) :
    Stops (a :: rest) live (id :: ids) e (.ok (some id) :: answers) t := by
  cases h with
  | refused x reason hkind hmessage hanswers hrejected =>
    refine .refused x reason hkind ?_ ?_ hrejected
    · rw [hmessage, List.append_assoc]
      rfl
    · rw [hanswers]
      rfl
  | missing b hnext hfailure hanswers habsent =>
    refine .missing b hnext hfailure ?_ habsent
    rw [hanswers]
    rfl

/-- A deployment of artifacts that stops with a failure of its own stopped at one of them, and those
before it are live. -/
theorem deployFrom_stops {live : List DeployedContract} {artifacts : List Artifact}
    (h : (p.deployFrom request live artifacts).result s = .error e)
    (hown : e.kind = .build ∨ e.kind = .deployment) :
    ∃ ids, (∀ id ∈ ids, AcceptedId id) ∧ ids.length < artifacts.length ∧
      Stops artifacts live ids e
        ((exchanges ((p.deployFrom request live artifacts).events s)).map (·.answer))
        ((p.deployFrom request live artifacts).after s) := by
  induction artifacts generalizing live s with
  | nil => cases h
  | cons a rest ih =>
    have hgrows : (p.deployOne request live a).Along Grows :=
      deployOne_along isWay_grows log_grows (fun _ _ _ => ask_grows p.client _) request live a
    unfold deployFrom at h ⊢
    rw [events_bind (hgrows s) fun contract _ => p.deployFrom_grows request _ rest _, after_bind]
    rw [result_bind] at h
    cases hone : (p.deployOne request live a).result s with
    | error d =>
      -- The first artifact is the one, and nothing was made live before.
      rw [hone] at h
      cases h
      refine ⟨[], fun _ hid => absurd hid List.not_mem_nil, Nat.succ_pos _, ?_⟩
      rcases deployOne_stops hone hown with ⟨hfailure, hafter, habsent⟩ |
        ⟨hkind, ⟨reason, hmessage⟩, x, hx, hrejected⟩
      · have hevents : (p.deployOne request live a).events s = [] :=
          events_eq (by rw [hafter, List.append_nil])
        refine .missing a rfl hfailure ?_ (hafter.symm ▸ habsent)
        rw [hevents]
        rfl
      · refine .refused x.answer reason hkind ?_ ?_ hrejected
        · simpa [contractsUnder] using hmessage
        · simp [hx]
    | ok contract =>
      rw [hone] at h
      -- The artifact is live, so the rest stops with one more contract to tell.
      obtain ⟨id, hid, rfl, hanswer⟩ := deployOne_ok hone
      obtain ⟨ids, hids, hlen, hstops⟩ := ih h
      refine ⟨id :: ids, List.forall_mem_cons.2 ⟨hid, hids⟩, Nat.succ_lt_succ hlen, ?_⟩
      simp only [exchanges_append, List.map_append, hanswer]
      exact hstops.cons

/-- A deployment that stops with a failure of its own stopped at one of the artifacts, and those
before it are live under the IDs that the client gave. If the client was asked for the one, the
message lists all that are live, in order. If its file is missing, the message tells the file and
nothing else. -/
theorem deployAll_lists_live {artifacts : List Artifact}
    (h : (p.deployAll request artifacts).result s = .error e)
    (hown : e.kind = .build ∨ e.kind = .deployment) :
    ∃ ids, (∀ id ∈ ids, AcceptedId id) ∧ ids.length < artifacts.length ∧
      Stops artifacts [] ids e
        ((exchanges ((p.deployAll request artifacts).events s)).map (·.answer))
        ((p.deployAll request artifacts).after s) ∧
      (e.kind = .deployment → Lists e.message (contractsUnder artifacts ids)) := by
  have htell : (tell "[3/4] Deploying contracts..." : Act σ Unit).Along Silent :=
    log_silent _ _ _
  unfold deployAll at h ⊢
  rw [exchanges_silent_bind htell rfl (deployFrom_grows p request [] artifacts),
    after_bind_of_ok _ rfl]
  obtain ⟨ids, hids, hlen, hstops⟩ := deployFrom_stops h hown
  refine ⟨ids, hids, hlen, hstops, fun hkind => ?_⟩
  cases hstops with
  | refused x reason _ hmessage _ _ =>
    rw [hmessage]
    exact lists_liveNote reason _
  | missing a _ hfailure _ _ =>
    rw [hfailure] at hkind
    have hclasses : FailureClass.build = .deployment := hkind
    exact absurd hclasses (by decide)

/-- The artifacts of the project where the builds leave them. -/
def builtArtifacts : List Artifact := Artifact.standard.map (placed (.ofText "/contracts"))

/-- A pipeline whose client deploys the first contract of the project and gives no ID for others. -/
def answeringOnce : Pipeline Unit :=
  { answeringWith "CAFE" with
    client := .answering fun call => match call with
      | .deploy wasm _ _ =>
        .ok (if wasm.endsWith "example_contract.wasm" then some "CAFE" else none)
      | _ => .ok none }

/-- A deployment whose second contract gets no ID lists the first one. -/
theorem unanswered_lists_example : ∃ e,
    (answeringOnce.deployAll mainnetRequest builtArtifacts).result ⟨builtHost, []⟩ = .error e ∧
      e.kind = .deployment ∧ Lists e.message [⟨"EXAMPLE_CONTRACT_ID", "CAFE"⟩] := by
  have hruns : told? ((answeringOnce.deployAll mainnetRequest builtArtifacts).result
      ⟨builtHost, []⟩) = some (.deployment, "Deploying inheritance-contract returned no contract ID"
        ++ Problem.liveNote [⟨"EXAMPLE_CONTRACT_ID", "CAFE"⟩]) ∧
      ((exchanges ((answeringOnce.deployAll mainnetRequest builtArtifacts).events
        ⟨builtHost, []⟩)).map fun x => x.answer.toOption) = [some (some "CAFE"), some none] := by
    decide +kernel
  obtain ⟨htold, hanswers⟩ := hruns
  obtain ⟨e, he, hkind, -⟩ := told?_eq_some_iff.1 htold
  obtain ⟨ids, -, -, hstops, hlists⟩ := deployAll_lists_live he (.inr hkind)
  have hids : ids = ["CAFE"] := by
    cases hstops with
    | refused x _ _ _ hgiven _ =>
      have hoptions := congrArg (List.map Except.toOption) hgiven
      rw [List.map_map] at hoptions
      have hsame := hoptions.symm.trans hanswers
      rw [List.map_append, List.map_map] at hsame
      have hparts : _ ++ [x.toOption] = [some (some "CAFE")] ++ [some none] := hsame
      have hfirst := (List.append_inj' hparts rfl).1
      exact List.map_injective_iff.2 (fun _ _ hab => Option.some.inj (Option.some.inj hab))
        (hfirst.trans (b := List.map _ ["CAFE"]) rfl)
    | missing a _ hfailure _ _ =>
      have hclasses : FailureClass.build = .deployment := (congrArg _ hfailure).symm.trans hkind
      exact absurd hclasses (by decide)
  have hlisted := hlists hkind
  rw [hids] at hlisted
  exact ⟨e, he, hkind, hlisted⟩

/-- A deployment that misses the file of the second contract does not list the first one, though
that is live. -/
theorem missing_file_lists_none : ∃ e,
    ((answeringWith "CAFE").deployAll mainnetRequest builtArtifacts).result
      ⟨{ builtHost with tree := builtHost.tree.dropLast }, []⟩ = .error e ∧
    e.kind = .build ∧
    ((exchanges (((answeringWith "CAFE").deployAll mainnetRequest builtArtifacts).events
      ⟨{ builtHost with tree := builtHost.tree.dropLast }, []⟩)).map fun x => x.answer.toOption) =
        [some (some "CAFE")] ∧
    ¬Lists e.message [⟨"EXAMPLE_CONTRACT_ID", "CAFE"⟩] := by
  have hruns : told? (((answeringWith "CAFE").deployAll mainnetRequest builtArtifacts).result
      ⟨{ builtHost with tree := builtHost.tree.dropLast }, []⟩) =
        some (.build, "Built artifact for inheritance-contract not found at " ++
          "/contracts/target/wasm32v1-none/release/inheritance_contract.wasm") ∧
      ((exchanges (((answeringWith "CAFE").deployAll mainnetRequest builtArtifacts).events
        ⟨{ builtHost with tree := builtHost.tree.dropLast }, []⟩)).map fun x =>
          x.answer.toOption) = [some (some "CAFE")] := by
    decide +kernel
  obtain ⟨htold, hanswers⟩ := hruns
  obtain ⟨e, he, hkind, hmessage⟩ := told?_eq_some_iff.1 htold
  refine ⟨e, he, hkind, hanswers, ?_⟩
  rw [hmessage]
  decide +kernel

end Pipeline

end SorobanDeploy
