import SorobanDeploy.Proofs.Pipeline.Plan
import SorobanDeploy.Proofs.Pipeline.Untouched

/-!
# Nothing is saved before everything is live

The first change that a run makes to the files comes after every deployment was answered with an
accepted ID and after the initialization was answered (`Pipeline.AllLive`). A run that fails before
that leaves the files as they were (`run_fails_fast`).
-/

namespace SorobanDeploy

open Act Event

variable {σ : Type}

namespace Pipeline

variable {p : Pipeline σ} {request : DeploymentRequest}

/-- Every artifact was deployed in order and answered with an accepted ID, and one contract was
initialized. -/
structure AllLive (p : Pipeline σ) (request : DeploymentRequest) (es : List (Event σ)) : Prop where
  /-- Each artifact was deployed once, in order. -/
  deployed : ∃ contracts, (deployments es).map (·.call) = p.artifacts.map fun a =>
    .deploy (wasmAt contracts a) request.network request.adminIdentity
  /-- Each deployment was answered with an accepted ID. -/
  accepted : ∀ x ∈ deployments es, ∃ id, AcceptedId id ∧ x.answer = .ok (some id)
  /-- There was one initialization, and it was answered. -/
  initialized : ∃ x address id, (exchanges es).filter (·.call.isInvoke) = [x] ∧
    x.call = adminCall request address id ∧ x.Answered

theorem mem_of_mem_calls {steps : List Step} {call : Call}
    (h : call ∈ steps.filterMap Step.call?) : .call call ∈ steps := by
  obtain ⟨step, hstep, heq⟩ := List.mem_filterMap.1 h
  cases step with
  | call c =>
    cases heq
    exact hstep
  | check profile => cases heq

/-- The calls of the deployments in a plan are the deployments. -/
theorem calls_deployment (request : DeploymentRequest) (contracts : Path)
    (artifacts : List Artifact) :
    (deployment request contracts artifacts).filterMap Step.call? = artifacts.map fun a =>
      .deploy (wasmAt contracts a) request.network request.adminIdentity := by
  unfold deployment
  rw [List.filterMap_map]
  exact congrFun List.filterMap_eq_map' artifacts

/-- What a plan deploys. -/
theorem deploys_plan (p : Pipeline σ) (request : DeploymentRequest) (contracts : Path)
    (address id : String) :
    ((p.plan request contracts address id).filterMap Step.call?).filter Call.isDeploy =
      p.artifacts.map fun a =>
        .deploy (wasmAt contracts a) request.network request.adminIdentity := by
  have hbefore : ((p.preparation request).filterMap Step.call?).filter Call.isDeploy = [] := by
    refine List.filter_eq_nil_iff.2 fun call hcall => ?_
    rw [(call_of_mem_preparation (mem_of_mem_calls hcall)).1]
    exact Bool.false_ne_true
  have hdeploys : ∀ call ∈ (deployment request contracts p.artifacts).filterMap Step.call?,
      call.isDeploy = true := fun call hcall =>
    (call_of_mem_deployment (mem_of_mem_calls hcall)).1
  unfold plan
  rw [List.filterMap_append, List.filter_append, hbefore, List.nil_append, List.filterMap_append,
    List.filter_append, List.filter_eq_self.2 hdeploys, calls_deployment]
  exact List.append_nil _

/-- What a plan initializes. -/
theorem invokes_plan (p : Pipeline σ) (request : DeploymentRequest) (contracts : Path)
    (address id : String) :
    ((p.plan request contracts address id).filterMap Step.call?).filter Call.isInvoke =
      [adminCall request address id] := by
  have hbefore : ((p.preparation request).filterMap Step.call?).filter Call.isInvoke = [] := by
    refine List.filter_eq_nil_iff.2 fun call hcall => ?_
    rw [(call_of_mem_preparation (mem_of_mem_calls hcall)).2]
    exact Bool.false_ne_true
  have hdeploys : ((deployment request contracts p.artifacts).filterMap Step.call?).filter
      Call.isInvoke = [] := by
    refine List.filter_eq_nil_iff.2 fun call hcall => ?_
    rw [(call_of_mem_deployment (mem_of_mem_calls hcall)).2]
    exact Bool.false_ne_true
  unfold plan
  rw [List.filterMap_append, List.filter_append, hbefore, List.nil_append, List.filterMap_append,
    List.filter_append, hdeploys]
  rfl

/-- Where a run goes live, each artifact has an accepted ID that the client answered with. -/
theorem goLive_ok {s : Session σ} {live : ResolvedIdentity × List DeployedContract}
    (h : (p.goLive request).result s = .ok live) :
    ∃ ids, ids.length = p.artifacts.length ∧ (∀ id ∈ ids, AcceptedId id) ∧
      live.2 = contractsUnder p.artifacts ids ∧
      (deployments ((p.goLive request).events s)).map (·.answer) =
        ids.map fun id => .ok (some id) := by
  rw [deployments_goLive]
  unfold goLive at h
  obtain ⟨ready, hready, h⟩ := result_bind_eq_ok h
  obtain ⟨deployed, hestablish, h⟩ := result_bind_eq_ok h
  cases h
  simp only [hready]
  rw [deployments_establish]
  unfold establish at hestablish
  obtain ⟨found, hall, h⟩ := result_bind_eq_ok hestablish
  obtain ⟨_, -, h⟩ := result_bind_eq_ok h
  cases h
  exact deployAll_ok hall

/-- A run that goes live leaves all artifacts live. -/
theorem goLive_allLive {s : Session σ} {live : ResolvedIdentity × List DeployedContract}
    (h : (p.goLive request).result s = .ok live) :
    p.AllLive request ((p.goLive request).events s) := by
  obtain ⟨contracts, address, id, htakes⟩ := goLive_takes p request s
  obtain ⟨hsteps, hanswered⟩ := htakes.ends live h
  obtain ⟨ids, -, hids, -, hanswers⟩ := goLive_ok h
  have hcalls := map_call_exchanges ((p.goLive request).events s)
  rw [hsteps] at hcalls
  refine ⟨⟨contracts, ?_⟩, fun x hx => ?_, ?_⟩
  · rw [← deploys_plan p request contracts address id, ← hcalls, List.filter_map]
    rfl
  · have hmem : x.answer ∈ ids.map fun id => Except.ok (some id) :=
      hanswers ▸ List.mem_map_of_mem hx
    obtain ⟨id, hid, heq⟩ := List.mem_map.1 hmem
    exact ⟨id, hids id hid, heq.symm⟩
  · have hinvokes := invokes_plan p request contracts address id
    rw [← hcalls, List.filter_map] at hinvokes
    obtain ⟨x, hx, hcall⟩ := List.map_eq_singleton_iff.1 hinvokes
    refine ⟨x, address, id, hx, hcall, ?_⟩
    have hmem : x ∈ exchanges ((p.goLive request).events s) :=
      (List.mem_filter.1 (hx ▸ List.mem_singleton.2 rfl)).1
    refine (hanswered x hmem).resolve_right ?_
    rintro ⟨identity, network, hfund⟩
    rw [hcall] at hfund
    cases hfund

/-- What is live is told by the exchanges alone. -/
theorem AllLive.congr {es fs : List (Event σ)} (h : p.AllLive request es)
    (hex : exchanges fs = exchanges es) : p.AllLive request fs := by
  have hdeploys : deployments fs = deployments es := by rw [deployments, hex, deployments]
  obtain ⟨hdeployed, haccepted, hinvoked⟩ := h
  exact ⟨hdeploys ▸ hdeployed, hdeploys ▸ haccepted, hex ▸ hinvoked⟩

/-- Until a run saves it changes nothing. -/
theorem change_not_mem_goLive (hp : p.LeavesFiles) (request : DeploymentRequest) (s : Session σ)
    (tree : Tree) : .change tree ∉ (p.goLive request).events s := by
  obtain ⟨-, es, hes, hduring⟩ := goLive_untouched hp request s
  rw [events_eq hes]
  exact fun hmem => hduring _ hmem

/-- Whatever a run asks for, it asks for on the files that it began with. -/
theorem tree_of_mem_run (hp : p.LeavesFiles) {s : Session σ} {x : Exchange σ}
    (hx : x ∈ exchanges ((p.run request).events s)) : x.host.tree = s.host.tree := by
  obtain ⟨-, es, hes, hduring⟩ := goLive_untouched hp request s
  rw [exchanges_run, events_eq hes] at hx
  obtain ⟨event, hevent, heq⟩ := List.mem_filterMap.1 hx
  cases event <;> cases heq
  exact hduring _ hevent

/-- A run that fails before it saves ends there. -/
theorem run_of_goLive_error {s : Session σ} {e : Failure}
    (he : (p.goLive request).result s = .error e) :
    (p.run request).result s = .error e ∧ (p.run request).after s = (p.goLive request).after s := by
  rw [run_eq, result_bind, after_bind, he]
  exact ⟨rfl, rfl⟩

/-- Before a run changes anything, it went live. -/
theorem goLive_before_change (hp : p.LeavesFiles) {s : Session σ} {before after : List (Event σ)}
    {tree : Tree} (h : (p.run request).events s = before ++ .change tree :: after) :
    ∃ live rest, (p.goLive request).result s = .ok live ∧
      before = (p.goLive request).events s ++ rest := by
  have hnone := change_not_mem_goLive hp request s
  rw [events_run] at h
  cases hlive : (p.goLive request).result s with
  | error e =>
    rw [hlive, List.append_nil] at h
    have hmem : .change tree ∈ (p.goLive request).events s := by rw [h]; simp
    exact absurd hmem (hnone tree)
  | ok live =>
    rw [hlive] at h
    -- The change stands behind the events of going live, since none of these is a change.
    rcases List.append_eq_append_iff.1 h with ⟨rest, hbefore, -⟩ | ⟨rest, hgoLive, hchange⟩
    · exact ⟨live, rest, rfl, hbefore⟩
    · cases rest with
      | nil => exact ⟨live, [], rfl, by rw [hgoLive]; simp⟩
      | cons e rest =>
        obtain ⟨rfl, -⟩ := List.cons.inj hchange
        have hmem : .change tree ∈ (p.goLive request).events s := by rw [hgoLive]; simp
        exact absurd hmem (hnone tree)

/-- A run changes nothing before everything is live. If it fails before it saves, it leaves the
files as they were, and it leaves the working directory exactly if the way back from the builds
leads there, as far as something was built at all. -/
theorem run_fails_fast (hp : p.LeavesFiles) (request : DeploymentRequest) (s : Session σ) :
    (∀ x ∈ exchanges ((p.run request).events s), x.host.tree = s.host.tree) ∧
    (∀ before tree after, (p.run request).events s = before ++ .change tree :: after →
      p.AllLive request before) ∧
    ((∀ tree, .change tree ∉ (p.run request).events s) →
      ((p.run request).after s).host.tree = s.host.tree) ∧
    ∀ e, (p.goLive request).result s = .error e →
      (p.run request).result s = .error e ∧
      (∀ tree, .change tree ∉ (p.run request).events s) ∧
      ((p.run request).after s).host.tree = s.host.tree ∧
      (((p.run request).after s).host.cwd = s.host.cwd ↔
        ∀ x ∈ exchanges ((p.run request).events s), x.call.isFirstBuild = true →
          s.host.wayBack x.host.cwd = s.host.cwd) := by
  have hnone := change_not_mem_goLive hp request s
  obtain ⟨htree, -⟩ := goLive_untouched hp request s
  refine ⟨fun x hx => ?_, fun before tree after h => ?_, fun h => ?_, fun e he => ?_⟩
  · exact tree_of_mem_run hp hx
  · obtain ⟨live, rest, hlive, hbefore⟩ := goLive_before_change hp h
    refine (goLive_allLive hlive).congr ?_
    -- All exchanges of a run are in its first part, so none is left for what comes after that.
    have hex := exchanges_run p request s
    rw [h, hbefore, List.append_assoc, exchanges_append, exchanges_append] at hex
    have hrest := (List.append_eq_nil_iff.1 (List.append_right_eq_self.1 hex)).1
    rw [hbefore, exchanges_append, hrest, List.append_nil]
  · obtain ⟨fs, hfs, htold⟩ := run_told hp request s
    rw [events_eq hfs] at h
    exact htold h
  · obtain ⟨hresult, hafter⟩ := run_of_goLive_error he
    have hevents : (p.run request).events s = (p.goLive request).events s := by
      rw [events_run, he, List.append_nil]
    refine ⟨hresult, by rw [hevents]; exact hnone, by rw [hafter, htree], ?_⟩
    obtain ⟨fs, hfs, hbuilt, hunbuilt⟩ := run_turned hp request s
    rw [events_eq hfs]
    constructor
    · intro hcwd x hx hbuild
      rw [← hbuilt x hx hbuild, hcwd]
    · intro hway
      by_cases hany : ∃ x ∈ exchanges fs, x.call.isFirstBuild = true
      · obtain ⟨x, hx, hbuild⟩ := hany
        rw [hbuilt x hx hbuild, hway x hx hbuild]
      · refine hunbuilt fun x hx => ?_
        exact Bool.eq_false_iff.2 fun hbuild => hany ⟨x, hx, hbuild⟩

/-- A request for a network that funds no accounts. -/
def mainnetRequest : DeploymentRequest :=
  ⟨⟨.mainnet, "http://localhost", "Public Global Stellar Network ; September 2015"⟩, "alice"⟩

/-- A pipeline whose client can resolve an identity but cannot build. -/
def unbuilt : Pipeline Unit where
  client := .answering fun call => match call with
    | .resolveAddress _ => .ok (some "GADMIN")
    | _ => .error (.plain .badValue "no compiler")
  statePath := .ofText "/state"
  contractsRoot := some "/"
  artifacts := Artifact.standard
  check := none

/-- A directory whose path is too long for the system. -/
def deepPlace : Place := List.replicate 4096 "d"

/-- A project beside the deep directory, which is the working directory. -/
def deepHost : Host Unit where
  tree := (["contracts"], .directory) :: (["state"], .file []) ::
    (List.range 4096).map fun n => (deepPlace.take (n + 1), .directory)
  cwd := .live deepPlace
  env := []
  renameFault := none
  outside := ()

/-- A run that cannot build leaves the tree of its host. -/
theorem unbuilt_leaves_tree :
    ((unbuilt.run mainnetRequest).after ⟨deepHost, []⟩).host.tree = deepHost.tree := by
  have hp : unbuilt.LeavesFiles := leavesFiles_answering rfl rfl
  cases hlive : (unbuilt.goLive mainnetRequest).result ⟨deepHost, []⟩ with
  | error e =>
    exact ((run_fails_fast hp mainnetRequest ⟨deepHost, []⟩).2.2.2 e hlive).2.2.1
  | ok live =>
    obtain ⟨h, a, ha⟩ := goLive_built hlive
    cases ha

/-- A run that cannot build fails before it saves, but it does not come back to a working directory
whose path is too long for the system. -/
theorem unbuilt_ends_elsewhere :
    unbuilt.LeavesFiles ∧
    (∃ e, (unbuilt.goLive mainnetRequest).result ⟨deepHost, []⟩ = .error e) ∧
    ((unbuilt.run mainnetRequest).after ⟨deepHost, []⟩).host.cwd ≠ deepHost.cwd := by
  have hp : unbuilt.LeavesFiles := leavesFiles_answering rfl rfl
  refine ⟨hp, ?_, ?_⟩
  · cases hlive : (unbuilt.goLive mainnetRequest).result ⟨deepHost, []⟩ with
    | error e => exact ⟨e, rfl⟩
    | ok live =>
      obtain ⟨h, a, ha⟩ := goLive_built hlive
      cases ha
  · have hfound : ((unbuilt.approach mainnetRequest).result ⟨deepHost, []⟩).toOption.map (·.2) =
        some ⟨.single, ["contracts"]⟩ := by decide +kernel
    obtain ⟨ready, hready, hcontracts⟩ := Option.map_eq_some_iff.1 hfound
    have hentered : (unbuilt.approach mainnetRequest).result ⟨deepHost, []⟩ = .ok ready := by
      cases h : (unbuilt.approach mainnetRequest).result ⟨deepHost, []⟩ with
      | error e => rw [h] at hready; cases hready
      | ok found => rw [h] at hready; cases hready; rfl
    have hstatus : deepHost.tree.status deepHost.cwd ready.2.text =
        .ok (.live ["contracts"], .directory) := by rw [hcontracts]; rfl
    have hcwd := run_cwd_of_entered hp hentered rfl (by rw [hcontracts]; decide) hstatus
    have hlong : Tree.pathLimit ≤ (Path.ofPlace deepHost.cwd.place).text.utf8ByteSize := by
      have hle := Path.length_le_ofPlace deepHost.cwd.place
      rw [show deepHost.cwd.place.length = 4096 from List.length_replicate] at hle
      exact hle
    rw [hcwd, Host.wayBack_of_long _ _ hlong]
    intro heq
    have hlength := congrArg (fun dir : Spot => dir.place.length) heq
    rw [show deepHost.cwd.place.length = 4096 from List.length_replicate] at hlength
    cases hlength

end Pipeline

end SorobanDeploy
