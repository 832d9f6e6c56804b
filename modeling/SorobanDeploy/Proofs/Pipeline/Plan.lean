import SorobanDeploy.Proofs.Pipeline.Deployed

/-!
# The plan of a run

A run goes through a fixed plan of calls: the address of the identity, funds on a test network, the
check of the network if it is wanted, the builds, the deployments and one initialization. Whatever
the client answers, a run makes the calls of a beginning of the plan, and it succeeds only at the
end of the plan (`run_follows`).
-/

namespace SorobanDeploy

open Act Event

variable {σ : Type}

/-- A call for a deployment. -/
def Call.isDeploy : Call → Bool
  | .deploy .. => true
  | _ => false

/-- A call of a contract's function. -/
def Call.isInvoke : Call → Bool
  | .invoke .. => true
  | _ => false

/-- The exchanges on deployments among events. -/
def Event.deployments (es : List (Event σ)) : List (Exchange σ) :=
  (exchanges es).filter (·.call.isDeploy)

/-- The networks that fund accounts are the two test networks. -/
theorem isFundingNetwork_iff (name : NetworkName) :
    isFundingNetwork name.text = true ↔ name = .testnet ∨ name = .futurenet := by
  cases name <;> decide

namespace Pipeline

variable {p : Pipeline σ} {request : DeploymentRequest}

/-- The path of the file of an artifact, seen from the contracts directory. -/
def wasmAt (contracts : Path) (a : Artifact) : String :=
  (Path.ofText (placed contracts a).wasmPath).text

/-- The steps up to the last build. -/
def preparation (p : Pipeline σ) (request : DeploymentRequest) : List Step :=
  [.call (.resolveAddress request.adminIdentity)] ++
    ((if request.network.name = .testnet ∨ request.network.name = .futurenet then
      [.call (.fund request.adminIdentity request.network.name.text)] else []) ++
    ((if p.check.isSome then [.check request.network] else []) ++
    ([.call (.build none false)] ++
      p.artifacts.map fun a => .call (.build (some a.packageName) true))))

/-- The deployments of artifacts, in order. -/
def deployment (request : DeploymentRequest) (contracts : Path) (artifacts : List Artifact) :
    List Step :=
  artifacts.map fun a => .call (.deploy (wasmAt contracts a) request.network request.adminIdentity)

/-- The call that initializes the contract with an ID. -/
def adminCall (request : DeploymentRequest) (address id : String) : Call :=
  .invoke id initializeFunction [("admin", address)] request.network request.adminIdentity

/-- The plan of a run: what it asks for if nothing fails. -/
def plan (p : Pipeline σ) (request : DeploymentRequest) (contracts : Path) (address id : String) :
    List Step :=
  p.preparation request ++
    (deployment request contracts p.artifacts ++ [.call (adminCall request address id)])

/-- What is true of every exchange of a run: the address is the stripped answer of the client, it is
not empty where the initialization is asked for, the contracts directory was found on the host on
which the build is asked for, and each deployment is of a file that is there. -/
def Justified (p : Pipeline σ) (contracts : Path) (address : String) (x : Exchange σ) : Prop :=
  match x.call with
  | .resolveAddress _ => ∀ raw, x.answer = .ok raw → address = Text.strip (raw.getD "")
  | .build none _ => ∃ s : Session σ, x.host = { s.host with cwd := x.host.cwd } ∧
      (Workspace.findContracts p.contractsRoot).result s = .ok contracts
  | .deploy wasm _ _ => x.host.HasFile wasm
  | .invoke .. => address ≠ ""
  | _ => True

section Stages

variable {contracts : Path} {address : String} {s : Session σ}

/-- An identity is resolved to the stripped answer of the client. -/
theorem resolve_ok {client : Client σ} {identity : String} {admin : ResolvedIdentity}
    (h : (Identity.resolve client identity).result s = .ok admin) :
    ∃ raw, (client (.resolveAddress identity) s.host).answer = .ok raw ∧
      admin.address = Text.strip (raw.getD "") := by
  unfold Identity.resolve at h
  obtain ⟨raw, hask, h⟩ := result_bind_eq_ok h
  rw [result_explain_eq_ok_iff, result_ask] at hask
  refine ⟨raw, hask, ?_⟩
  dsimp only at h
  split at h
  · cases h
  · cases h; rfl

theorem resolve_takes
    (h : p.Justified contracts address ⟨.resolveAddress request.adminIdentity, s.host,
      (p.client (.resolveAddress request.adminIdentity) s.host).answer⟩) :
    (p.resolveIdentity request).Takes (p.Justified contracts address) s
      [.call (.resolveAddress request.adminIdentity)] := by
  refine .bind_silent (.explain _ (.ask h)) fun raw => ?_
  dsimp only
  split
  · exact .refuse isWay_silent _
  · exact .pure isWay_silent _

theorem fund_takes : (p.fund request).Takes (p.Justified contracts address) s
    (if request.network.name = .testnet ∨ request.network.name = .futurenet then
      [.call (.fund request.adminIdentity request.network.name.text)] else []) := by
  unfold fund Identity.ensureFunded
  simp only [isFundingNetwork_iff]
  split
  · refine .silent_bind (log_silent _ _ _) fun _ _ => ?_
    refine .bind_silent (.attempt_fund _ trivial) fun answer => ?_
    split
    · exact .pure isWay_silent _
    · exact .bind isWay_silent (log_silent _ _ _) fun _ => .pure isWay_silent _
  · refine .of_silent ?_ _
    exact .bind isWay_silent (log_silent _ _ _) fun _ => .pure isWay_silent _

theorem checkNetwork_takes :
    (p.checkNetwork request.network).Takes (p.Justified contracts address) s
      (if p.check.isSome then [.check request.network] else []) := by
  unfold checkNetwork
  cases p.check with
  | none => exact .of_silent (.pure isWay_silent _) _
  | some check =>
    refine .bind_silent (.emit_check _ _) fun _ => ?_
    refine .bind isWay_silent ?_ fun _ => .pure isWay_silent _
    exact .bind isWay_silent (.host isWay_silent) fun h => receive_silent _

theorem optimizeAll_takes (artifacts : List Artifact) :
    (optimizeAll p.client artifacts).Takes (p.Justified contracts address) s
      (artifacts.map fun a => .call (.build (some a.packageName) true)) := by
  induction artifacts generalizing s with
  | nil => exact .of_silent (.pure isWay_silent _) _
  | cons a rest ih => exact (Takes.explain _ (.ask trivial)).bind fun _ _ => ih

theorem buildAll_takes (h : ∀ a, p.Justified contracts address ⟨.build none false, s.host, a⟩) :
    p.buildAll.Takes (p.Justified contracts address) s ([.call (.build none false)] ++
      p.artifacts.map fun a => .call (.build (some a.packageName) true)) := by
  refine .silent_bind (log_silent _ _ _) fun _ _ => ?_
  refine .bind (.explain _ (.ask ?_)) fun _ _ => ?_
  · exact h _
  · exact .silent_bind (log_silent _ _ _) fun _ _ => optimizeAll_takes p.artifacts

/-- The contracts directory is entered on the host on which it was found. -/
theorem inDirectory_buildAll_takes
    (h : (Workspace.findContracts p.contractsRoot).result s = .ok contracts) :
    (Workspace.inDirectory contracts p.buildAll).Takes (p.Justified contracts address) s
      ([.call (.build none false)] ++
        p.artifacts.map fun a => .call (.build (some a.packageName) true)) := by
  unfold Workspace.inDirectory
  refine .silent_bind (.of_reads isWay_silent Files.workingDirectory_reads) fun previous _ => ?_
  rw [Files.workingDirectory_reads s]
  refine .silent_bind (.bind isWay_silent (.of_reads isWay_silent (Files.request_reads _ _))
    setCwd_silent) fun _ hmove => ?_
  obtain ⟨-, dir, -, hmoved⟩ := Files.changeDirectory_ok hmove
  rw [hmoved]
  refine .silent_bind (log_silent _ _ _) fun _ _ => ?_
  exact .andFinally (buildAll_takes fun a => ⟨s, rfl, h⟩)
    (Workspace.leaveTo_along isWay_silent log_silent setCwd_silent _)

theorem deployOne_takes {live : List DeployedContract} {a : Artifact} :
    (p.deployOne request live (placed contracts a)).Takes (p.Justified contracts address) s
      [.call (.deploy (wasmAt contracts a) request.network request.adminIdentity)] := by
  unfold deployOne
  refine .silent_bind (.of_reads isWay_silent (Files.isFile_reads _)) fun found hfound => ?_
  rw [Files.isFile_reads _ s]
  cases found with
  | false => exact .refuse _ _ _
  | true =>
    have hfile := (Files.result_isFile_eq_true_iff _ _).1 hfound
    refine .silent_bind (log_silent _ _ _) fun _ _ => ?_
    refine .bind_silent (.explain _ (.ask hfile)) fun answer => ?_
    split
    · exact .refuse isWay_silent _
    · exact .bind isWay_silent (log_silent _ _ _) fun _ => .pure isWay_silent _

theorem deployFrom_takes (live : List DeployedContract) (artifacts : List Artifact) :
    (p.deployFrom request live (artifacts.map (placed contracts))).Takes
      (p.Justified contracts address) s (deployment request contracts artifacts) := by
  induction artifacts generalizing live s with
  | nil => exact .of_silent (.pure isWay_silent _) _
  | cons a rest ih =>
    have hone : (p.deployOne request live (placed contracts a)).Takes
        (p.Justified contracts address) s
        [.call (.deploy (wasmAt contracts a) request.network request.adminIdentity)] :=
      deployOne_takes
    exact hone.bind fun contract _ => ih _

theorem deployAll_takes :
    (p.deployAll request (p.artifacts.map (placed contracts))).Takes
      (p.Justified contracts address) s (deployment request contracts p.artifacts) :=
  .silent_bind (log_silent _ _ _) fun _ _ => deployFrom_takes [] p.artifacts

/-- The contract that is initialized is the first one of its name, under an address that is not
empty. -/
theorem initializeAdmin_takes {admin : ResolvedIdentity} {deployed : List DeployedContract}
    {id : String} (haddress : address = admin.address)
    (hid : ∀ i, DeployedContract.contractNamed? deployed inheritanceKey = some i → id = i) :
    (p.initializeAdmin request admin deployed).Takes (p.Justified contracts address) s
      [.call (adminCall request address id)] := by
  unfold initializeAdmin
  refine .silent_bind (log_silent _ _ _) fun _ _ => ?_
  split
  · exact .refuse _ _ _
  · rename_i i hnamed
    obtain rfl := hid i hnamed
    split
    · exact .refuse _ _ _
    · rename_i hne
      refine .bind_silent (.explain _ ?_) fun _ => log_silent _ _ _
      rw [← haddress] at hne ⊢
      refine .ask ?_
      simpa [Justified, String.isEmpty_iff] using hne

/-- The preparations keep to their plan. The contracts directory and the address are what they end
with. -/
theorem prepare_takes (p : Pipeline σ) (request : DeploymentRequest) (s : Session σ) :
    TakesOne (fun c : Path × String => p.Justified c.1 c.2) (fun _ => True) (p.prepare request) s
      (fun _ => p.preparation request) fun c ready => ready.1.address = c.2 ∧ ready.2 = c.1 := by
  have some : ∃ c : Path × String, True := ⟨(.ofText "", ""), trivial⟩
  unfold prepare approach preparation
  simp only [bind_assoc, pure_bind]
  refine .silent_bind some (log_silent _ _ _) fun _ _ => ?_
  refine .silent_bind some (log_silent _ _ _) fun _ _ => ?_
  refine .silent_bind some (log_silent _ _ _) fun _ _ => ?_
  refine .silent_bind some (reportPrevious_along isWay_silent log_silent) fun _ _ => ?_
  -- From here on the address is the one that the client answers with.
  generalize (p.reportPrevious).after _ = t
  refine .mono (D := fun c => ∀ raw, (p.client (.resolveAddress request.adminIdentity)
    t.host).answer = .ok raw → c.2 = Text.strip (raw.getD "")) (fun _ _ => trivial) ?_
  have some : ∃ c : Path × String, ∀ raw, (p.client (.resolveAddress request.adminIdentity)
      t.host).answer = .ok raw → c.2 = Text.strip (raw.getD "") := by
    cases (p.client (.resolveAddress request.adminIdentity) t.host).answer with
    | error e => exact ⟨(.ofText "", ""), fun raw h => by cases h⟩
    | ok raw => exact ⟨(.ofText "", Text.strip (raw.getD "")), fun raw' h => by cases h; rfl⟩
  refine .bind some (fun c hc => resolve_takes hc) fun admin hadmin => ?_
  refine .silent_bind some (log_silent _ _ _) fun _ _ => ?_
  refine .bind some (fun c _ => fund_takes) fun _ _ => ?_
  refine .bind some (fun c _ => checkNetwork_takes) fun _ _ => ?_
  refine .silent_bind some (.of_reads isWay_silent (Workspace.findContracts_reads _))
    fun contracts hfound => ?_
  -- And from here on the contracts directory is the one that was found.
  obtain ⟨raw, hraw, haddress⟩ := resolve_ok hadmin
  refine ⟨(contracts, admin.address), fun raw' h => ?_, ?_, ?_⟩
  · rw [hraw] at h
    cases h
    exact haddress
  · rw [Workspace.findContracts_reads]
    exact .bind_silent (inDirectory_buildAll_takes hfound) fun _ => .pure isWay_silent _
  · intro ready hready
    obtain ⟨_, -, h⟩ := result_bind_eq_ok hready
    cases h
    exact ⟨rfl, rfl⟩

end Stages

/-- From the first deployment to the initialization a run keeps to its plan. -/
theorem establish_takes (p : Pipeline σ) (request : DeploymentRequest) (admin : ResolvedIdentity)
    (contracts : Path) (s : Session σ) :
    ∃ id, (p.establish request admin contracts).Takes (p.Justified contracts admin.address) s
      (deployment request contracts p.artifacts ++
        [.call (adminCall request admin.address id)]) := by
  cases hdeployed : (p.deployAll request (p.artifacts.map (placed contracts))).result s with
  | error e =>
    refine ⟨"", deployAll_takes.bind fun deployed h => ?_⟩
    rw [hdeployed] at h
    cases h
  | ok deployed =>
    refine ⟨(DeployedContract.contractNamed? deployed inheritanceKey).getD "",
      deployAll_takes.bind fun deployed' h => ?_⟩
    rw [hdeployed] at h
    cases h
    refine .bind_silent (initializeAdmin_takes rfl fun i hi => ?_) fun _ => .pure isWay_silent _
    rw [hi, Option.getD_some]

/-- A run keeps to its plan until it saves. -/
theorem goLive_takes (p : Pipeline σ) (request : DeploymentRequest) (s : Session σ) :
    ∃ contracts address id, (p.goLive request).Takes (p.Justified contracts address) s
      (p.plan request contracts address id) := by
  obtain ⟨⟨contracts, address⟩, -, hprepare, hfits⟩ := prepare_takes p request s
  cases hready : (p.prepare request).result s with
  | error e =>
    refine ⟨contracts, address, "", hprepare.bind fun ready h => ?_⟩
    rw [hready] at h
    cases h
  | ok ready =>
    obtain ⟨haddress, hcontracts⟩ := hfits ready hready
    obtain ⟨id, hestablish⟩ := establish_takes p request ready.1 ready.2
      ((p.prepare request).after s)
    simp only at haddress hcontracts
    rw [haddress, hcontracts] at hestablish
    refine ⟨contracts, address, id, hprepare.bind fun ready' h => ?_⟩
    rw [hready] at h
    cases h
    rw [hcontracts]
    exact hestablish.bind_silent fun _ => .pure isWay_silent _

/-- A run keeps to its plan. -/
theorem run_takes (p : Pipeline σ) (request : DeploymentRequest) (s : Session σ) :
    ∃ contracts address id, (p.run request).Takes (p.Justified contracts address) s
      (p.plan request contracts address id) := by
  obtain ⟨contracts, address, id, htakes⟩ := goLive_takes p request s
  refine ⟨contracts, address, id, ?_⟩
  rw [run_eq]
  exact htakes.bind_silent fun live =>
    save_along isWay_silent log_silent setTree_silent request live.1 live.2

/-- Nothing is deployed and nothing is initialized by the preparations. -/
theorem call_of_mem_preparation {call : Call} (h : .call call ∈ p.preparation request) :
    call.isDeploy = false ∧ call.isInvoke = false := by
  simp only [preparation, List.mem_append, List.mem_cons, List.not_mem_nil, or_false, List.mem_map,
    Step.call.injEq] at h
  rcases h with rfl | h | h | rfl | ⟨a, -, rfl⟩
  · exact ⟨rfl, rfl⟩
  · split at h
    · simp only [List.mem_singleton, Step.call.injEq] at h
      subst h; exact ⟨rfl, rfl⟩
    · cases h
  · split at h <;> simp at h
  · exact ⟨rfl, rfl⟩
  · exact ⟨rfl, rfl⟩

/-- Deployments are deployments, and no initialization. -/
theorem call_of_mem_deployment {contracts : Path} {artifacts : List Artifact} {call : Call}
    (h : .call call ∈ deployment request contracts artifacts) :
    call.isDeploy = true ∧ call.isInvoke = false := by
  obtain ⟨a, -, ha⟩ := List.mem_map.1 h
  cases ha
  exact ⟨rfl, rfl⟩

/-- An initialization calls the first contract of its name. -/
theorem mem_initializeAdmin {admin : ResolvedIdentity} {deployed : List DeployedContract}
    {s : Session σ} {x : Exchange σ}
    (hx : x ∈ exchanges ((p.initializeAdmin request admin deployed).events s)) :
    ∃ id, DeployedContract.contractNamed? deployed inheritanceKey = some id ∧
      x.call = adminCall request admin.address id := by
  cases hnamed : DeployedContract.contractNamed? deployed inheritanceKey with
  | none =>
    have htakes : (p.initializeAdmin request admin deployed).Takes (fun _ => True) s [] := by
      unfold initializeAdmin
      refine .silent_bind (log_silent _ _ _) fun _ _ => ?_
      rw [hnamed]
      exact .refuse _ _ _
    exact absurd (htakes.begins.subset (call_mem_steps hx)) List.not_mem_nil
  | some id =>
    have htakes : (p.initializeAdmin request admin deployed).Takes
        (p.Justified (.ofText "") admin.address) s [.call (adminCall request admin.address id)] :=
      initializeAdmin_takes rfl fun i hi => Option.some.inj (hnamed.symm.trans hi)
    have hcall := List.mem_singleton.1 (htakes.begins.subset (call_mem_steps hx))
    exact ⟨id, rfl, Step.call.inj hcall⟩

/-- The exchanges from the first deployment on are those on deployments and then the
initialization. -/
theorem exchanges_establish (p : Pipeline σ) (request : DeploymentRequest)
    (admin : ResolvedIdentity) (contracts : Path) (s : Session σ) :
    exchanges ((p.establish request admin contracts).events s) =
      exchanges ((p.deployAll request (p.artifacts.map (placed contracts))).events s) ++
        match (p.deployAll request (p.artifacts.map (placed contracts))).result s with
        | .ok deployed => exchanges ((p.initializeAdmin request admin deployed).events
            ((p.deployAll request (p.artifacts.map (placed contracts))).after s))
        | .error _ => [] := by
  have hinvoke : ∀ deployed, (p.initializeAdmin request admin deployed).Along Grows :=
    initializeAdmin_along isWay_grows log_grows (fun _ _ _ _ _ => ask_grows p.client _) request
      admin
  have htakes : (p.deployAll request (p.artifacts.map (placed contracts))).Takes
      (p.Justified contracts admin.address) s (deployment request contracts p.artifacts) :=
    deployAll_takes
  have hevents := events_bind htakes.grows fun deployed _ =>
    (Along.bind isWay_grows (hinvoke deployed) fun _ => .pure isWay_grows deployed) _
  change (p.establish request admin contracts).events s = _ at hevents
  rw [hevents, exchanges_append]
  cases (p.deployAll request (p.artifacts.map (placed contracts))).result s with
  | error e => rfl
  | ok deployed =>
    simp only
    rw [exchanges_bind_silent (hinvoke deployed) fun _ => .pure isWay_silent _]

/-- The deployment stage deploys, and initializes nothing. -/
theorem call_of_mem_deployAll {contracts : Path} {s : Session σ} {x : Exchange σ}
    (hx : x ∈ exchanges ((p.deployAll request (p.artifacts.map (placed contracts))).events s)) :
    x.call.isDeploy = true ∧ x.call.isInvoke = false := by
  have htakes : (p.deployAll request (p.artifacts.map (placed contracts))).Takes
      (p.Justified contracts "") s (deployment request contracts p.artifacts) := deployAll_takes
  exact call_of_mem_deployment (htakes.begins.subset (call_mem_steps hx))

/-- All deployments are made in the deployment stage. -/
theorem deployments_establish (p : Pipeline σ) (request : DeploymentRequest)
    (admin : ResolvedIdentity) (contracts : Path) (s : Session σ) :
    deployments ((p.establish request admin contracts).events s) =
      exchanges ((p.deployAll request (p.artifacts.map (placed contracts))).events s) := by
  rw [deployments, exchanges_establish, List.filter_append,
    List.filter_eq_self.2 fun x hx => (call_of_mem_deployAll hx).1]
  have hlast : ∀ deployed, ∀ x ∈ exchanges ((p.initializeAdmin request admin deployed).events
      ((p.deployAll request (p.artifacts.map (placed contracts))).after s)),
      ¬ x.call.isDeploy = true := by
    intro deployed x hx
    obtain ⟨id, -, hcall⟩ := mem_initializeAdmin hx
    rw [hcall]
    exact Bool.false_ne_true
  cases (p.deployAll request (p.artifacts.map (placed contracts))).result s with
  | error e => simp
  | ok deployed =>
    simp only
    rw [List.filter_eq_nil_iff.2 (hlast deployed), List.append_nil]

/-- The ID that is initialized is the answer to the deployment of the first artifact of the name. -/
theorem establish_initializes {admin : ResolvedIdentity} {contracts : Path} {s : Session σ}
    {x : Exchange σ} (hx : x ∈ exchanges ((p.establish request admin contracts).events s))
    (hinvoke : x.call.isInvoke = true) :
    ∃ id a y, x.call = adminCall request admin.address id ∧
      (p.artifacts.zip (deployments ((p.establish request admin contracts).events s))).find?
        (·.1.logicalName = inheritanceKey) = some (a, y) ∧ y.answer = .ok (some id) := by
  rw [deployments_establish]
  rw [exchanges_establish] at hx
  rcases List.mem_append.1 hx with hx | hx
  · rw [(call_of_mem_deployAll hx).2] at hinvoke
    cases hinvoke
  · cases hall : (p.deployAll request (p.artifacts.map (placed contracts))).result s with
    | error e =>
      rw [hall] at hx
      cases hx
    | ok deployed =>
      rw [hall] at hx
      obtain ⟨ids, -, -, rfl, hanswers⟩ := deployAll_ok hall
      obtain ⟨id, hnamed, hcall⟩ := mem_initializeAdmin hx
      obtain ⟨a, y, hfind, hy⟩ := find?_zip_answers hanswers hnamed
      exact ⟨id, a, y, hcall, hfind, hy⟩

/-- The exchanges until a run saves are those of its preparations, and behind them those on the
deployments and the initialization. -/
theorem exchanges_goLive (p : Pipeline σ) (request : DeploymentRequest) (s : Session σ) :
    exchanges ((p.goLive request).events s) = exchanges ((p.prepare request).events s) ++
      match (p.prepare request).result s with
      | .ok ready => exchanges ((p.establish request ready.1 ready.2).events
          ((p.prepare request).after s))
      | .error _ => [] := by
  have hestablish : ∀ ready : ResolvedIdentity × Path,
      (p.establish request ready.1 ready.2).Along Grows := fun ready =>
    establish_along isWay_grows log_grows (fun _ _ _ => ask_grows p.client _)
      (fun _ _ _ _ _ => ask_grows p.client _) request ready.1 ready.2
  obtain ⟨_, -, hprepare, -⟩ := prepare_takes p request s
  have hevents := events_bind hprepare.grows fun ready _ =>
    (Along.bind isWay_grows (hestablish ready) fun deployed =>
      .pure isWay_grows (ready.1, deployed)) _
  change (p.goLive request).events s = _ at hevents
  rw [hevents, exchanges_append]
  cases (p.prepare request).result s with
  | error e => rfl
  | ok ready =>
    simp only
    rw [exchanges_bind_silent (hestablish ready) fun _ => .pure isWay_silent _]

theorem goLive_grows (p : Pipeline σ) (request : DeploymentRequest) :
    (p.goLive request).Along Grows := by
  intro s
  obtain ⟨_, _, _, htakes⟩ := goLive_takes p request s
  exact htakes.grows

/-- What a run does: it goes live, and if that succeeds it saves. -/
theorem events_run (p : Pipeline σ) (request : DeploymentRequest) (s : Session σ) :
    (p.run request).events s = (p.goLive request).events s ++
      match (p.goLive request).result s with
      | .ok live => (p.save request live.1 live.2).events ((p.goLive request).after s)
      | .error _ => [] := by
  rw [run_eq, events_bind (goLive_grows p request s) fun live _ =>
    save_along isWay_grows log_grows setTree_grows request live.1 live.2 _]
  cases (p.goLive request).result s <;> rfl

/-- A run that saves asks the client for nothing. -/
theorem exchanges_run (p : Pipeline σ) (request : DeploymentRequest) (s : Session σ) :
    exchanges ((p.run request).events s) = exchanges ((p.goLive request).events s) := by
  rw [run_eq, exchanges_bind_silent (goLive_grows p request) fun live =>
    save_along isWay_silent log_silent setTree_silent request live.1 live.2]

/-- The preparations deploy nothing and initialize nothing. -/
theorem call_of_mem_prepare {s : Session σ} {x : Exchange σ}
    (hx : x ∈ exchanges ((p.prepare request).events s)) :
    x.call.isDeploy = false ∧ x.call.isInvoke = false := by
  obtain ⟨_, -, htakes, -⟩ := prepare_takes p request s
  exact call_of_mem_preparation (htakes.begins.subset (call_mem_steps hx))

/-- All deployments of a run come after its preparations. -/
theorem deployments_goLive (p : Pipeline σ) (request : DeploymentRequest) (s : Session σ) :
    deployments ((p.goLive request).events s) = match (p.prepare request).result s with
      | .ok ready => deployments ((p.establish request ready.1 ready.2).events
          ((p.prepare request).after s))
      | .error _ => [] := by
  rw [deployments, exchanges_goLive, List.filter_append, List.filter_eq_nil_iff.2 fun x hx => ?_,
    List.nil_append]
  · cases (p.prepare request).result s <;> rfl
  · rw [(call_of_mem_prepare hx).1]
    exact Bool.false_ne_true

/-- The ID that a run initializes is the answer to the deployment of the first artifact of the
name. -/
theorem goLive_initializes {s : Session σ} {x : Exchange σ}
    (hx : x ∈ exchanges ((p.goLive request).events s)) (hinvoke : x.call.isInvoke = true) :
    ∃ address id a y, x.call = adminCall request address id ∧
      (p.artifacts.zip (deployments ((p.goLive request).events s))).find?
        (·.1.logicalName = inheritanceKey) = some (a, y) ∧ y.answer = .ok (some id) := by
  rw [deployments_goLive]
  rw [exchanges_goLive] at hx
  rcases List.mem_append.1 hx with hx | hx
  · rw [(call_of_mem_prepare hx).2] at hinvoke
    cases hinvoke
  · cases hready : (p.prepare request).result s with
    | error e =>
      rw [hready] at hx
      cases hx
    | ok ready =>
      rw [hready] at hx
      obtain ⟨id, a, y, hcall, hfind, hy⟩ := establish_initializes hx hinvoke
      exact ⟨ready.1.address, id, a, y, hcall, hfind, hy⟩

/-- What the events of a run are. -/
structure Follows (p : Pipeline σ) (request : DeploymentRequest) (es : List (Event σ))
    (contracts : Path) (address id : String) : Prop where
  /-- The steps are the beginning of the plan. -/
  begins : steps es <+: p.plan request contracts address id
  /-- Each call has its reason in the host and in the answers. -/
  justified : ∀ x ∈ exchanges es, p.Justified contracts address x
  /-- If a contract is initialized, its ID is the answer to the deployment of the first artifact of
  the name. -/
  initializes : ∀ x ∈ exchanges es, x.call.isInvoke = true →
    ∃ a y, (p.artifacts.zip (deployments es)).find? (·.1.logicalName = inheritanceKey) =
      some (a, y) ∧ y.answer = .ok (some id)

/-- A run only adds to the trace. -/
theorem run_grows (p : Pipeline σ) (request : DeploymentRequest) : (p.run request).Along Grows :=
  fun s => by
    obtain ⟨contracts, address, id, htakes⟩ := run_takes p request s
    exact htakes.grows

/-- A run follows its plan, whatever the client answers: it makes the calls of a beginning of the
plan, and it succeeds only if it made all of them and each but the one for funds was answered. -/
theorem run_follows (p : Pipeline σ) (request : DeploymentRequest) (s : Session σ) :
    ((p.run request).after s).trace = s.trace ++ (p.run request).events s ∧
    ∃ contracts address id, p.Follows request ((p.run request).events s) contracts address id ∧
      ∀ d, (p.run request).result s = .ok d →
        steps ((p.run request).events s) = p.plan request contracts address id ∧
        ∀ x ∈ exchanges ((p.run request).events s), x.Answered ∨ x.IsFunding := by
  obtain ⟨contracts, address, id, htakes⟩ := run_takes p request s
  refine ⟨trace_after htakes.grows, contracts, address, id, ⟨htakes.begins, htakes.each, ?_⟩,
    htakes.ends⟩
  intro x hx hinvoke
  have hlive := hx
  rw [exchanges_run] at hlive
  obtain ⟨address', id', a, y, hcall, hfind, hy⟩ := goLive_initializes hlive hinvoke
  -- The only initialization in the plan is the one at its end.
  have hid : id' = id := by
    have hmem := htakes.begins.subset (call_mem_steps hx)
    rcases List.mem_append.1 hmem with h | h
    · rw [(call_of_mem_preparation h).2] at hinvoke
      cases hinvoke
    · rcases List.mem_append.1 h with h | h
      · rw [(call_of_mem_deployment h).2] at hinvoke
        cases hinvoke
      · have hlast := hcall.symm.trans (Step.call.inj (List.mem_singleton.1 h))
        injection hlast
  refine ⟨a, y, ?_, ?_⟩
  · rw [deployments, exchanges_run]
    exact hfind
  · rw [← hid]
    exact hy

end Pipeline

end SorobanDeploy
