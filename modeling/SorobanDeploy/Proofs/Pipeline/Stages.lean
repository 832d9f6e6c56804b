import SorobanDeploy.Pipeline
import SorobanDeploy.Proofs.Host.Access

/-!
# The stages of a run

A run is what makes the contracts live (`Pipeline.goLive`) and then the saving of their IDs
(`run_eq`). Each stage goes along every relation that its own requests go along: questions to the
client, the check of the network, log records, moves between directories and, in the last stage
alone, changes of the tree.
-/

namespace SorobanDeploy

open Act

variable {σ : Type} {R : Session σ → Session σ → Prop}

namespace Identity

theorem resolve_along (hR : IsWay R) {client : Client σ} {identity : String}
    (hask : (ask client (.resolveAddress identity)).Along R) :
    (resolve client identity).Along R := by
  refine .bind hR (.explain _ hask) fun raw => ?_
  dsimp only
  split
  · exact .refuse hR _
  · exact .pure hR _

theorem ensureFunded_along (hR : IsWay R)
    (hlog : ∀ level logger message, (log level logger message : Act σ Unit).Along R)
    {client : Client σ} {identity network : String}
    (hask : (ask client (.fund identity network)).Along R) :
    (ensureFunded client identity network).Along R := by
  unfold ensureFunded
  split
  · refine .bind hR (hlog _ _ _) fun _ => .bind hR (.attempt _ hask) fun answer => ?_
    split
    · exact .pure hR _
    · exact .bind hR (hlog _ _ _) fun _ => .pure hR _
  · exact .bind hR (hlog _ _ _) fun _ => .pure hR _

end Identity

namespace Workspace

variable {α : Type}

theorem leaveTo_along (hR : IsWay R)
    (hlog : ∀ level logger message, (log level logger message : Act σ Unit).Along R)
    (hcwd : ∀ dir, (setCwd dir : Act σ Unit).Along R) (previous : Path) :
    (leaveTo previous : Act σ Unit).Along R :=
  .bind hR (.bind hR (.of_reads hR (Files.request_reads _ _)) hcwd) fun _ => hlog _ _ _

theorem inDirectory_along (hR : IsWay R)
    (hlog : ∀ level logger message, (log level logger message : Act σ Unit).Along R)
    (hcwd : ∀ dir, (setCwd dir : Act σ Unit).Along R) (path : Path) {body : Act σ α}
    (hbody : body.Along R) : (inDirectory path body).Along R := by
  refine .bind hR (.of_reads hR Files.workingDirectory_reads) fun previous => ?_
  refine .bind hR (.bind hR (.of_reads hR (Files.request_reads _ _)) hcwd) fun _ => ?_
  refine .bind hR (hlog _ _ _) fun _ => ?_
  exact .andFinally hR hbody (leaveTo_along hR hlog hcwd previous)

end Workspace

namespace Pipeline

variable {p : Pipeline σ}

theorem reportReplaced_along (hR : IsWay R)
    (hlog : ∀ level logger message, (log level logger message : Act σ Unit).Along R)
    (previous : Pairs String String) (artifacts : List Artifact) :
    (reportReplaced previous artifacts : Act σ Unit).Along R := by
  induction artifacts with
  | nil => exact .pure hR _
  | cons a rest ih =>
    unfold reportReplaced
    split
    · exact .bind hR (hlog _ _ _) fun _ => ih
    · exact ih

theorem reportPrevious_along (hR : IsWay R)
    (hlog : ∀ level logger message, (log level logger message : Act σ Unit).Along R) :
    p.reportPrevious.Along R :=
  .bind hR (StateFile.load_along hR hlog _) fun previous =>
    reportReplaced_along hR hlog previous _

theorem optimizeAll_along (hR : IsWay R) {client : Client σ} {artifacts : List Artifact}
    (hask : ∀ a ∈ artifacts, (ask client (.build (some a.packageName) true)).Along R) :
    (optimizeAll client artifacts).Along R := by
  induction artifacts with
  | nil => exact .pure hR _
  | cons a rest ih =>
    refine .bind hR (.explain _ (hask a (by simp))) fun _ => ih fun b hb => hask b (by simp [hb])

theorem buildAll_along (hR : IsWay R)
    (hlog : ∀ level logger message, (log level logger message : Act σ Unit).Along R)
    (hask : ∀ package optimize, (ask p.client (.build package optimize)).Along R) :
    p.buildAll.Along R := by
  refine .bind hR (hlog _ _ _) fun _ => .bind hR (.explain _ (hask _ _)) fun _ => ?_
  exact .bind hR (hlog _ _ _) fun _ => optimizeAll_along hR fun _ _ => hask _ _

theorem deployOne_along (hR : IsWay R)
    (hlog : ∀ level logger message, (log level logger message : Act σ Unit).Along R)
    (hdeploy : ∀ wasm profile identity, (ask p.client (.deploy wasm profile identity)).Along R)
    (request : DeploymentRequest) (live : List DeployedContract) (a : Artifact) :
    (p.deployOne request live a).Along R := by
  refine .bind hR (.of_reads hR (Files.isFile_reads _)) fun found => ?_
  split
  · refine .bind hR (hlog _ _ _) fun _ => .bind hR (.explain _ (hdeploy _ _ _)) fun answer => ?_
    split
    · exact .refuse hR _
    · exact .bind hR (hlog _ _ _) fun _ => .pure hR _
  · exact .refuse hR _

theorem deployFrom_along (hR : IsWay R)
    (hlog : ∀ level logger message, (log level logger message : Act σ Unit).Along R)
    (hdeploy : ∀ wasm profile identity, (ask p.client (.deploy wasm profile identity)).Along R)
    (request : DeploymentRequest) (live : List DeployedContract) (artifacts : List Artifact) :
    (p.deployFrom request live artifacts).Along R := by
  induction artifacts generalizing live with
  | nil => exact .pure hR _
  | cons a rest ih =>
    exact .bind hR (deployOne_along hR hlog hdeploy request live a) fun contract => ih _

theorem deployAll_along (hR : IsWay R)
    (hlog : ∀ level logger message, (log level logger message : Act σ Unit).Along R)
    (hdeploy : ∀ wasm profile identity, (ask p.client (.deploy wasm profile identity)).Along R)
    (request : DeploymentRequest) (artifacts : List Artifact) :
    (p.deployAll request artifacts).Along R :=
  .bind hR (hlog _ _ _) fun _ => deployFrom_along hR hlog hdeploy request [] artifacts

theorem initializeAdmin_along (hR : IsWay R)
    (hlog : ∀ level logger message, (log level logger message : Act σ Unit).Along R)
    (hinvoke : ∀ id function arguments profile identity,
      (ask p.client (.invoke id function arguments profile identity)).Along R)
    (request : DeploymentRequest) (admin : ResolvedIdentity) (deployed : List DeployedContract) :
    (p.initializeAdmin request admin deployed).Along R := by
  refine .bind hR (hlog _ _ _) fun _ => ?_
  split
  · exact .refuse hR _
  · split
    · exact .refuse hR _
    · exact .bind hR (.explain _ (hinvoke _ _ _ _ _)) fun _ => hlog _ _ _

/-- The check of the network, if there is one, is told and then asks its party. -/
theorem checkNetwork_along (hR : IsWay R) {profile : NetworkProfile}
    (hcheck : ∀ check ∈ p.check, ∀ s : Session σ, R s ⟨(check profile s.host).host,
      s.trace ++ .check profile :: (check profile s.host).notes.map .note⟩) :
    (p.checkNetwork profile).Along R := by
  unfold checkNetwork
  cases hp : p.check with
  | none => exact .pure hR _
  | some check =>
    intro s
    have hasked := hcheck check hp s
    rw [after_bind, result_emit, after_emit]
    simp only
    rw [after_bind, consult, after_host_bind, after_receive, result_host_bind]
    rw [List.append_assoc]
    cases (receive (check profile s.host)).result _ <;> exact hasked

theorem persist_along (hR : IsWay R)
    (hlog : ∀ level logger message, (log level logger message : Act σ Unit).Along R)
    (hset : ∀ t, (setTree t : Act σ Unit).Along R) (deployed : List DeployedContract) :
    (p.persist deployed).Along R :=
  .bind hR (hlog _ _ _) fun _ => .mapFailure _ (StateFile.upsert_along hR hset hlog _ _)

/-- What a run does before it builds anything. It ends with the address of the identity and with the
contracts directory. -/
def approach (p : Pipeline σ) (request : DeploymentRequest) : Act σ (ResolvedIdentity × Path) := do
  tell "Building and deploying InheritX contracts"
  tell ("Network: " ++ request.network.name.text ++ " (" ++ request.network.rpcUrl ++ ")")
  tell ("Admin identity: " ++ request.adminIdentity)
  p.reportPrevious
  let admin ← p.resolveIdentity request
  tell ("Admin address: " ++ admin.address)
  let _ ← p.fund request
  p.checkNetwork request.network
  let contracts ← Workspace.findContracts p.contractsRoot
  pure (admin, contracts)

/-- What a run does before it deploys anything. -/
def prepare (p : Pipeline σ) (request : DeploymentRequest) : Act σ (ResolvedIdentity × Path) := do
  let ready ← p.approach request
  Workspace.inDirectory ready.2 p.buildAll
  pure ready

/-- What a run does between the builds and the saving: it deploys all artifacts and initializes one
of the contracts. -/
def establish (p : Pipeline σ) (request : DeploymentRequest) (admin : ResolvedIdentity)
    (contracts : Path) : Act σ (List DeployedContract) := do
  let deployed ← p.deployAll request (p.artifacts.map (placed contracts))
  p.initializeAdmin request admin deployed
  pure deployed

/-- What a run does before it saves anything. -/
def goLive (p : Pipeline σ) (request : DeploymentRequest) :
    Act σ (ResolvedIdentity × List DeployedContract) := do
  let ready ← p.prepare request
  let deployed ← p.establish request ready.1 ready.2
  pure (ready.1, deployed)

/-- What a run does when everything is live: it saves the IDs and tells so. -/
def save (p : Pipeline σ) (request : DeploymentRequest) (admin : ResolvedIdentity)
    (deployed : List DeployedContract) : Act σ Deployment := do
  p.persist deployed
  tell ("Deployment complete. Contract IDs saved to " ++ p.statePath.text)
  pure ⟨request, admin, deployed, p.statePath⟩

/-- A run goes live and then saves the IDs. -/
theorem run_eq (p : Pipeline σ) (request : DeploymentRequest) :
    p.run request = p.goLive request >>= fun live => p.save request live.1 live.2 := by
  simp only [run, goLive, prepare, approach, establish, build, save, bind_assoc, pure_bind]

/-- What comes before the builds goes along every way that its requests go along. -/
theorem approach_along (hR : IsWay R)
    (hlog : ∀ level logger message, (log level logger message : Act σ Unit).Along R)
    (hcheck : ∀ profile, (p.checkNetwork profile).Along R) {request : DeploymentRequest}
    (hresolve : (ask p.client (.resolveAddress request.adminIdentity)).Along R)
    (hfund : ∀ network, (ask p.client (.fund request.adminIdentity network)).Along R) :
    (p.approach request).Along R := by
  refine .bind hR (hlog _ _ _) fun _ => .bind hR (hlog _ _ _) fun _ => ?_
  refine .bind hR (hlog _ _ _) fun _ => .bind hR (reportPrevious_along hR hlog) fun _ => ?_
  refine .bind hR (Identity.resolve_along hR hresolve) fun admin => ?_
  refine .bind hR (hlog _ _ _) fun _ => ?_
  refine .bind hR (Identity.ensureFunded_along hR hlog (hfund _)) fun _ => ?_
  refine .bind hR (hcheck _) fun _ => ?_
  exact .bind hR (.of_reads hR (Workspace.findContracts_reads _)) fun _ => .pure hR _

/-- The preparations go along every way that their requests go along. -/
theorem prepare_along (hR : IsWay R)
    (hlog : ∀ level logger message, (log level logger message : Act σ Unit).Along R)
    (hcwd : ∀ dir, (setCwd dir : Act σ Unit).Along R)
    (hask : ∀ call, (ask p.client call).Along R)
    (hcheck : ∀ profile, (p.checkNetwork profile).Along R) (request : DeploymentRequest) :
    (p.prepare request).Along R := by
  refine .bind hR (approach_along hR hlog hcheck (hask _) fun _ => hask _) fun ready => ?_
  refine .bind hR ?_ fun _ => .pure hR _
  exact Workspace.inDirectory_along hR hlog hcwd ready.2 (buildAll_along hR hlog fun _ _ => hask _)

theorem establish_along (hR : IsWay R)
    (hlog : ∀ level logger message, (log level logger message : Act σ Unit).Along R)
    (hdeploy : ∀ wasm profile identity, (ask p.client (.deploy wasm profile identity)).Along R)
    (hinvoke : ∀ id function arguments profile identity,
      (ask p.client (.invoke id function arguments profile identity)).Along R)
    (request : DeploymentRequest) (admin : ResolvedIdentity) (contracts : Path) :
    (p.establish request admin contracts).Along R := by
  refine .bind hR (deployAll_along hR hlog hdeploy request _) fun deployed => ?_
  exact .bind hR (initializeAdmin_along hR hlog hinvoke request _ deployed) fun _ => .pure hR _

/-- A run goes along every way that its requests go along, before it saves. -/
theorem goLive_along (hR : IsWay R)
    (hlog : ∀ level logger message, (log level logger message : Act σ Unit).Along R)
    (hcwd : ∀ dir, (setCwd dir : Act σ Unit).Along R)
    (hask : ∀ call, (ask p.client call).Along R)
    (hcheck : ∀ profile, (p.checkNetwork profile).Along R) (request : DeploymentRequest) :
    (p.goLive request).Along R := by
  refine .bind hR (prepare_along hR hlog hcwd hask hcheck request) fun ready => ?_
  refine .bind hR ?_ fun _ => .pure hR _
  exact establish_along hR hlog (fun _ _ _ => hask _) (fun _ _ _ _ _ => hask _) request _ _

/-- Saving goes along every way that log records and changes of the tree go along. -/
theorem save_along (hR : IsWay R)
    (hlog : ∀ level logger message, (log level logger message : Act σ Unit).Along R)
    (hset : ∀ t, (setTree t : Act σ Unit).Along R) (request : DeploymentRequest)
    (admin : ResolvedIdentity) (deployed : List DeployedContract) :
    (p.save request admin deployed).Along R :=
  .bind hR (persist_along hR hlog hset deployed) fun _ =>
    .bind hR (hlog _ _ _) fun _ => .pure hR _

end Pipeline

end SorobanDeploy
