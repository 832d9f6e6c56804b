import SorobanDeploy.Proofs.Pairs.Assignment
import SorobanDeploy.Proofs.Pipeline.Redeploy

/-!
# The contract that is initialized and the one that is recorded

A run initializes the first contract of the name that stands for the initialized one, and it records
the last one of the name: in the IDs that it ends with and in the state file. These are the same
contract if no two artifacts have the name (`run_initializes_recorded`).
-/

namespace SorobanDeploy

open Act Event

variable {σ : Type}

/-- As many contracts as artifacts have a name. -/
theorem length_filter_contractsUnder {artifacts : List Artifact} {ids : List String}
    (h : ids.length = artifacts.length) (name : String) :
    ((contractsUnder artifacts ids).filter (·.logicalName = name)).length =
      (artifacts.filter (·.logicalName = name)).length := by
  have hnames : (artifacts.zip ids).map (·.1) = artifacts := List.map_fst_zip (Nat.le_of_eq h.symm)
  unfold contractsUnder
  rw [List.filter_map, List.length_map]
  conv_rhs => rw [← hnames, List.filter_map, List.length_map]
  rfl

namespace DeployedContract

/-- No key of recorded IDs begins with a key and an equals sign, if no name does. -/
theorem bindsKey_contractIds {cs : List DeployedContract} {key : String}
    (h : ∀ c ∈ cs, StateFile.bindsKey key c.logicalName.toList = false) :
    ∀ v ∈ contractIds cs, StateFile.bindsKey key v.1.toList = false := by
  intro v hv
  obtain ⟨c, hc, rfl⟩ := List.mem_map.1 (Pairs.mem_of_mem_ofList hv)
  exact h c hc

end DeployedContract

/-- Deployed contracts have the names of their artifacts. -/
theorem bindsKey_contractsUnder {artifacts : List Artifact} {key : String}
    (h : ∀ a ∈ artifacts, StateFile.bindsKey key a.logicalName.toList = false)
    (ids : List String) : ∀ c ∈ contractsUnder artifacts ids,
      StateFile.bindsKey key c.logicalName.toList = false := by
  intro c hc
  obtain ⟨⟨a, i⟩, hzip, rfl⟩ := List.mem_map.1 hc
  exact h a (List.of_mem_zip hzip).1

namespace Pipeline

variable {p : Pipeline σ} {request : DeploymentRequest} {s : Session σ} {d : Deployment}

/-- What goes live is initialized under its admin, as the first contract of its name. -/
theorem call_of_invoke {live : ResolvedIdentity × List DeployedContract} {x : Exchange σ}
    (h : (p.goLive request).result s = .ok live)
    (hx : x ∈ exchanges ((p.goLive request).events s)) (hinvoke : x.call.isInvoke = true) :
    ∃ id, DeployedContract.contractNamed? live.2 inheritanceKey = some id ∧
      x.call = adminCall request live.1.address id := by
  rw [exchanges_goLive] at hx
  unfold goLive at h
  obtain ⟨ready, hready, h⟩ := result_bind_eq_ok h
  obtain ⟨deployed, hestablish, h⟩ := result_bind_eq_ok h
  cases h
  simp only [hready] at hx
  rcases List.mem_append.1 hx with hx | hx
  · rw [(call_of_mem_prepare hx).2] at hinvoke
    cases hinvoke
  rw [exchanges_establish] at hx
  unfold establish at hestablish
  obtain ⟨found, hall, h⟩ := result_bind_eq_ok hestablish
  obtain ⟨_, -, h⟩ := result_bind_eq_ok h
  cases h
  simp only [hall] at hx
  rcases List.mem_append.1 hx with hx | hx
  · rw [(call_of_mem_deployAll hx).2] at hinvoke
    cases hinvoke
  · exact mem_initializeAdmin hx

/-- A run that succeeds initializes the first contract of the name, and records the last one in its
IDs and in the state file. If no name of an artifact begins with the key and an equals sign, the
file has one line of the key. Lines are those that were written, one for each name: a name with a
line break in it has one line here, which is read as several. Both are the same contract's ID
exactly if the first and the last contract of the name have the same, and they do if at most one
artifact has the name. -/
theorem run_initializes_recorded (hrun : (p.run request).result s = .ok d) :
    ∃ x initialized recorded ls,
      (exchanges ((p.run request).events s)).filter (·.call.isInvoke) = [x] ∧
      x.call = adminCall request d.admin.address initialized ∧
      Pairs.get? inheritanceKey (DeployedContract.contractIds d.contracts) = some recorded ∧
      ((p.run request).after s).host.contentAt p.statePath =
        .ok (Text.Utf8.encode (Text.unlines ls)) ∧
      ((∀ a ∈ p.artifacts, StateFile.bindsKey inheritanceKey a.logicalName.toList = false) →
        ls.filter (StateFile.bindsKey inheritanceKey) =
          [StateFile.line inheritanceKey recorded]) ∧
      (initialized = recorded ↔
        DeployedContract.contractNamed? d.contracts inheritanceKey =
          DeployedContract.lastNamed? d.contracts inheritanceKey) ∧
      ((p.artifacts.filter (·.logicalName = inheritanceKey)).length ≤ 1 →
        initialized = recorded) := by
  obtain ⟨t, ids, old, hsaves⟩ := run_saves hrun
  obtain ⟨live, -, hlive, hd, -⟩ := run_ok hrun
  obtain ⟨x, address, id, hx, hcall, -⟩ := (goLive_allLive hlive).initialized
  have hmem := List.mem_filter.1 (hx ▸ List.mem_singleton_self x)
  obtain ⟨initialized, hnamed, hcall⟩ := call_of_invoke hlive hmem.1 hmem.2
  have hcontracts : live.2 = d.contracts := by rw [hd]
  have hadmin : live.1 = d.admin := by rw [hd]
  rw [hcontracts] at hnamed
  rw [hadmin] at hcall
  -- A contract of the name was deployed, so the last one of the name exists as well.
  obtain ⟨recorded, hlast⟩ := DeployedContract.exists_lastNamed? hnamed
  have hrecorded := (DeployedContract.get?_contractIds d.contracts inheritanceKey).trans hlast
  obtain ⟨place, hfile⟩ := hsaves.file
  refine ⟨x, initialized, recorded,
    StateFile.putLines (Text.lines old) (DeployedContract.contractIds d.contracts), ?_, hcall,
    hrecorded, ?_, fun hplain => ?_, ?_, fun honce => ?_⟩
  · rw [exchanges_run]
    exact hx
  · unfold Host.contentAt
    rw [hsaves.cwd]
    exact Tree.contentOf_of_file hfile
  · have hnames := bindsKey_contractsUnder hplain ids
    rw [← hsaves.contracts] at hnames
    exact StateFile.filter_putLines (by simp [inheritanceKey]) (Pairs.distinct_ofList _)
      (Pairs.mem_of_get? hrecorded) (DeployedContract.bindsKey_contractIds hnames) _
  · rw [hnamed, hlast, Option.some.injEq]
  · have hle : (d.contracts.filter (·.logicalName = inheritanceKey)).length ≤ 1 := by
      rw [hsaves.contracts, length_filter_contractsUnder hsaves.length]
      exact honce
    have hsame := DeployedContract.lastNamed?_of_once hle
    rw [hnamed, hlast] at hsame
    exact (Option.some.inj hsame).symm

/-- The contracts of the project are initialized and recorded under one ID. -/
theorem standard_initializes_recorded :
    ∃ x id, (exchanges (((answeringWith "CAFE").run mainnetRequest).events ⟨builtHost, []⟩)).filter
        (·.call.isInvoke) = [x] ∧
      x.call = adminCall mainnetRequest "GADMIN" id ∧
      Pairs.get? inheritanceKey
        (DeployedContract.contractIds (deploymentUnder "CAFE").contracts) = some id := by
  have hrun : (((answeringWith "CAFE").run mainnetRequest).result ⟨builtHost, []⟩).toOption =
      some (deploymentUnder "CAFE") := by decide +kernel
  obtain ⟨x, initialized, recorded, ls, hx, hcall, hrecorded, -, -, -, honce⟩ :=
    run_initializes_recorded (result_eq_ok_of_toOption hrun)
  have hsame : initialized = recorded := honce (by decide)
  rw [← hsame] at hrecorded
  exact ⟨x, initialized, hx, hcall, hrecorded⟩

/-- A pipeline whose artifacts both have the name of the contract that is initialized. The ID of a
contract is the path of its file. -/
def namesakes : Pipeline Unit where
  client := .answering fun call => match call with
    | .resolveAddress _ => .ok (some "GADMIN")
    | .deploy wasm _ _ => .ok (some wasm)
    | _ => .ok none
  statePath := .ofText ".env"
  contractsRoot := none
  artifacts := Artifact.standard.map fun a => { a with logicalName := inheritanceKey }
  check := none

/-- Of two contracts of the name the run initializes one and records the other. -/
theorem namesakes_differ :
    ∃ d initialized recorded, (namesakes.run mainnetRequest).result ⟨builtHost, []⟩ = .ok d ∧
      adminCall mainnetRequest d.admin.address initialized ∈
        (exchanges ((namesakes.run mainnetRequest).events ⟨builtHost, []⟩)).map (·.call) ∧
      Pairs.get? inheritanceKey (DeployedContract.contractIds d.contracts) = some recorded ∧
      initialized ≠ recorded := by
  have hrun : ((namesakes.run mainnetRequest).result ⟨builtHost, []⟩).toOption =
      some ⟨mainnetRequest, ⟨"alice", "GADMIN"⟩,
        [⟨inheritanceKey, "/contracts/target/wasm32v1-none/release/example_contract.wasm"⟩,
          ⟨inheritanceKey, "/contracts/target/wasm32v1-none/release/inheritance_contract.wasm"⟩],
        .ofText ".env"⟩ := by decide +kernel
  have hcall : adminCall mainnetRequest "GADMIN"
      "/contracts/target/wasm32v1-none/release/example_contract.wasm" ∈
        (exchanges ((namesakes.run mainnetRequest).events ⟨builtHost, []⟩)).map (·.call) := by
    decide +kernel
  exact ⟨_, _, _, result_eq_ok_of_toOption hrun, hcall, rfl, by decide⟩

end Pipeline

end SorobanDeploy
