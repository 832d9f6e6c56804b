import SorobanDeploy.Proofs.Host.Parallel
import SorobanDeploy.Proofs.Pipeline.OneProgram

/-!
# Pipelines side by side

Two pipelines for the same contracts are twins if their clients answer alike on hosts that match,
funding apart (`Pipeline.Twins`). What a run does is put together of a few stages, and each of them
is parallel for twins, as far as it sees the same on hosts that match: what comes before the check
of the network (`Twins.front`), the check itself (`ChecksAlike.checkNetwork`), the builds
(`Twins.buildAll`), the deployments with the initialization (`Twins.establish`), and the saving
(`Twins.save`).
-/

namespace SorobanDeploy

open Act Event

variable {σ α : Type}

/-- Hosts that differ in what is outside at most, and there by what `Q` allows. -/
structure Host.Alike (Q : σ → σ → Prop) (h k : Host σ) : Prop where
  tree : h.tree = k.tree
  cwd : h.cwd = k.cwd
  env : h.env = k.env
  renameFault : h.renameFault = k.renameFault
  outside : Q h.outside k.outside

theorem seesFiles_alike (Q : σ → σ → Prop) : SeesFiles (Host.Alike Q) where
  tree h := h.tree
  cwd h := h.cwd
  renameFault h := h.renameFault
  setTree _ _ _ h := { h with tree := rfl }
  setCwd _ _ _ h := { h with cwd := rfl }

namespace Pipeline

/-- Two pipelines for the same contracts whose clients answer all calls but those for funds alike on
hosts that match. -/
structure Twins (R : Host σ → Host σ → Prop) (p q : Pipeline σ) : Prop where
  statePath : p.statePath = q.statePath
  contractsRoot : p.contractsRoot = q.contractsRoot
  artifacts : p.artifacts = q.artifacts
  client : ∀ call, (∀ identity network, call ≠ .fund identity network) → ∀ h k, R h k →
    (p.client call h).answer = (q.client call k).answer ∧
      R (p.client call h).host (q.client call k).host

/-- Two pipelines with the same check of the network, if any, which answers alike on hosts that
match. -/
structure ChecksAlike (R : Host σ → Host σ → Prop) (p q : Pipeline σ) : Prop where
  same : p.check = q.check
  alike : ∀ check ∈ p.check, ∀ profile h k, R h k →
    (check profile h).answer = (check profile k).answer ∧
      R (check profile h).host (check profile k).host

variable {R : Host σ → Host σ → Prop} {p q : Pipeline σ} {request : DeploymentRequest}

/-! ## The stages of a run -/

/-- What a run does before it checks the network. -/
def front (p : Pipeline σ) (request : DeploymentRequest) : Act σ ResolvedIdentity := do
  p.announce request
  let admin ← p.resolveIdentity request
  tell ("Admin address: " ++ admin.address)
  let _ ← p.fund request
  pure admin

/-- What a run does after it checked the network. -/
def rear (p : Pipeline σ) (request : DeploymentRequest) (admin : ResolvedIdentity) :
    Act σ Deployment := do
  let artifacts ← p.build
  let deployed ← p.deployAll request artifacts
  p.initializeAdmin request admin deployed
  p.persist deployed
  tell ("Deployment complete. Contract IDs saved to " ++ p.statePath.text)
  pure ⟨request, admin, deployed, p.statePath⟩

theorem run_eq_front (p : Pipeline σ) (request : DeploymentRequest) :
    p.run request = p.front request >>= fun admin =>
      p.checkNetwork request.network >>= fun _ => p.rear request admin := by
  simp only [run, front, announce, bind_assoc, pure_bind]
  rfl

/-- Before the builds a run checks the network and looks for the contracts. -/
theorem approach_eq_front (p : Pipeline σ) (request : DeploymentRequest) :
    p.approach request = p.front request >>= fun admin =>
      p.checkNetwork request.network >>= fun _ =>
        Workspace.findContracts p.contractsRoot >>= fun contracts => pure (admin, contracts) := by
  simp only [approach, front, announce, bind_assoc, pure_bind]

/-- After the check a run looks for the contracts, builds, deploys and saves. -/
theorem rear_eq (p : Pipeline σ) (request : DeploymentRequest) (admin : ResolvedIdentity) :
    p.rear request admin = Workspace.findContracts p.contractsRoot >>= fun contracts =>
      Workspace.inDirectory contracts p.buildAll >>= fun _ =>
        p.establish request admin contracts >>= fun deployed => p.save request admin deployed := by
  simp only [rear, build, establish, save, bind_assoc, pure_bind]

theorem front_along {R : Session σ → Session σ → Prop} (hR : IsWay R)
    (hlog : ∀ level logger message, (log level logger message : Act σ Unit).Along R)
    (hresolve : (Act.ask p.client (.resolveAddress request.adminIdentity)).Along R)
    (hfund : ∀ network, (Act.ask p.client (.fund request.adminIdentity network)).Along R) :
    (p.front request).Along R := by
  refine .bind hR (announce_along hR hlog p request) fun _ => ?_
  refine .bind hR (Identity.resolve_along hR hresolve) fun admin => ?_
  refine .bind hR (hlog _ _ _) fun _ => ?_
  exact .bind hR (Identity.ensureFunded_along hR hlog (hfund _)) fun _ => .pure hR _

/-- A check that is made ends as its party answers, on the host that the party leaves. -/
theorem checkNetwork_of_some {check : Party σ NetworkProfile Rpc.NetworkInfo}
    (hcheck : p.check = some check) (profile : NetworkProfile) (t : Session σ) :
    (p.checkNetwork profile).result t = (check profile t.host).answer.map (fun _ => ()) ∧
      (p.checkNetwork profile).after t = ⟨(check profile t.host).host,
        t.trace ++ .check profile :: (check profile t.host).notes.map .note⟩ := by
  unfold checkNetwork
  rw [hcheck]
  dsimp only
  constructor
  · rw [result_bind, result_emit]
    simp only
    rw [after_emit, result_bind, consult, result_host_bind, result_receive]
    cases (check profile t.host).answer <;> rfl
  · rw [after_bind, result_emit]
    simp only
    rw [after_emit, after_bind, consult, after_host_bind, after_receive, result_host_bind,
      result_receive, List.append_assoc]
    cases (check profile t.host).answer <;> rfl

/-! ## The stages of twins -/

namespace Twins

variable (hpq : p.Twins R q)
include hpq

theorem ask {call : Call} (hcall : ∀ identity network, call ≠ .fund identity network) :
    Parallel R (Act.ask p.client call) (Act.ask q.client call) :=
  .ask (hpq.client call hcall)

theorem announce (hR : SeesFrom p.statePath.root R) (request : DeploymentRequest) :
    Parallel R (p.announce request) (q.announce request) := by
  have hreplaced : ∀ (previous : Pairs String String) (artifacts : List Artifact),
      (reportReplaced previous artifacts : Act σ Unit).Steady R := by
    intro previous artifacts
    induction artifacts with
    | nil => exact .pure _
    | cons a rest ih =>
      unfold reportReplaced
      split
      · exact .bind (.log _ _ _) fun _ => ih
      · exact ih
  refine .bind (.log _ _ _) fun _ => .bind (.log _ _ _) fun _ => .bind (.log _ _ _) fun _ => ?_
  unfold reportPrevious
  rw [← hpq.statePath, ← hpq.artifacts]
  exact .bind (StateFile.load_steady hR) fun previous => hreplaced previous _

theorem resolveIdentity (request : DeploymentRequest) :
    Parallel R (p.resolveIdentity request) (q.resolveIdentity request) := by
  refine .bind (.explain _ (hpq.ask (by simp))) fun raw => ?_
  dsimp only
  split
  · exact .refuse _
  · exact .pure _

/-- What comes before the check is parallel, if the requests for funds are as far as nobody looks at
what they end with. -/
theorem front (hR : SeesFrom p.statePath.root R)
    (hfund : Parallel R (p.fund request >>= fun _ => pure ())
      (q.fund request >>= fun _ => pure ())) :
    Parallel R (p.front request) (q.front request) := by
  refine .bind (hpq.announce hR request) fun _ => ?_
  refine .bind (hpq.resolveIdentity request) fun admin => .bind (.log _ _ _) fun _ => ?_
  have hfunded := hfund.bind fun _ => .pure admin
  simpa only [bind_assoc, pure_bind] using hfunded

theorem buildAll : Parallel R p.buildAll q.buildAll := by
  have hoptimize : ∀ artifacts : List Artifact,
      Parallel R (optimizeAll p.client artifacts) (optimizeAll q.client artifacts) := by
    intro artifacts
    induction artifacts with
    | nil => exact .pure _
    | cons a rest ih => exact .bind (.explain _ (hpq.ask (by simp))) fun _ => ih
  unfold Pipeline.buildAll
  rw [hpq.artifacts]
  refine .bind (.log _ _ _) fun _ => .bind (.explain _ (hpq.ask (by simp))) fun _ => ?_
  exact .bind (.log _ _ _) fun _ => hoptimize _

theorem deployFrom (request : DeploymentRequest) (live : List DeployedContract)
    {artifacts : List Artifact} (hR : ∀ a ∈ artifacts, SeesFrom (Path.ofText a.wasmPath).root R) :
    Parallel R (p.deployFrom request live artifacts) (q.deployFrom request live artifacts) := by
  induction artifacts generalizing live with
  | nil => exact .pure _
  | cons a rest ih =>
    refine .bind ?_ fun contract => ih _ fun b hb => hR b (List.mem_cons_of_mem _ hb)
    refine .bind (Files.isFile_steady (hR a List.mem_cons_self)) fun found => ?_
    split
    · refine .bind (.log _ _ _) fun _ => .bind (.explain _ (hpq.ask (by simp))) fun answer => ?_
      split
      · exact .refuse _
      · exact .bind (.log _ _ _) fun _ => .pure _
    · exact .refuse _

theorem initializeAdmin (request : DeploymentRequest) (admin : ResolvedIdentity)
    (deployed : List DeployedContract) :
    Parallel R (p.initializeAdmin request admin deployed)
      (q.initializeAdmin request admin deployed) := by
  refine .bind (.log _ _ _) fun _ => ?_
  split
  · exact .refuse _
  · split
    · exact .refuse _
    · exact .bind (.explain _ (hpq.ask (by simp))) fun _ => .log _ _ _

/-- The deployments are parallel, if the contracts are seen from where they were found. -/
theorem establish {contracts : Path} (request : DeploymentRequest) (admin : ResolvedIdentity)
    (hR : ∀ a : Artifact, SeesFrom (Path.ofText (placed contracts a).wasmPath).root R) :
    Parallel R (p.establish request admin contracts) (q.establish request admin contracts) := by
  unfold Pipeline.establish
  rw [hpq.artifacts]
  refine .bind (.bind (.log _ _ _) fun _ => hpq.deployFrom request [] ?_) fun deployed => ?_
  · intro a ha
    obtain ⟨b, -, rfl⟩ := List.mem_map.1 ha
    exact hR b
  · exact .bind (hpq.initializeAdmin request admin deployed) fun _ => .pure _

theorem save (hR : SeesFrom p.statePath.root R) (request : DeploymentRequest)
    (admin : ResolvedIdentity) (deployed : List DeployedContract) :
    Parallel R (p.save request admin deployed) (q.save request admin deployed) := by
  unfold Pipeline.save persist
  rw [← hpq.statePath]
  refine .bind (.bind (.log _ _ _) fun _ =>
    .mapFailure _ (StateFile.upsert_steady hR _)) fun _ => ?_
  exact .bind (.log _ _ _) fun _ => .pure _

/-- After the check twins run alike where hosts that match stand in the same directory. -/
theorem rear (hR : SeesFiles R) (request : DeploymentRequest) (admin : ResolvedIdentity) :
    Parallel R (p.rear request admin) (q.rear request admin) := by
  rw [rear_eq, rear_eq, ← hpq.contractsRoot]
  refine .bind (Workspace.findContracts_steady (hR.from _)) fun contracts => ?_
  refine .bind (Workspace.inDirectory_parallel hR contracts hpq.buildAll) fun _ => ?_
  refine .bind (hpq.establish request admin fun a => hR.from _) fun deployed => ?_
  exact hpq.save (hR.from _) request admin deployed

end Twins

/-- Checks that answer alike on hosts that match are parallel. -/
theorem ChecksAlike.checkNetwork (h : p.ChecksAlike R q) (profile : NetworkProfile) :
    Parallel R (p.checkNetwork profile) (q.checkNetwork profile) := by
  have halike := h.alike
  unfold Pipeline.checkNetwork
  rw [← h.same]
  cases hcheck : p.check with
  | none => exact .pure _
  | some check =>
    refine .bind (.emit rfl rfl) fun _ => .bind (.consult ?_) fun _ => .pure _
    exact halike check hcheck profile

end Pipeline

end SorobanDeploy
