import Mathlib.Data.List.Basic
import SorobanDeploy.Proofs.Pipeline.Saved

/-!
# Deploying again under the same IDs

Two successful runs in a row whose clients answer with the same IDs should leave the same state
file. They do exactly if the IDs leave nothing over (`run_again`). An accepted ID has no newline and
no carriage return in it, but there are other characters that break a line, and what stands behind
one of these in an ID is taken for a line of its own by the second run, which then keeps it.
-/

namespace SorobanDeploy

open Act Event

variable {σ : Type}

/-- The content of the file at a path. -/
def Host.contentAt (h : Host σ) (path : Path) : Except Refusal Text.Octets :=
  h.tree.contentOf h.cwd path.text

/-- The IDs of the contracts of the project under their keys. -/
def standardIds (exampleId inheritanceId : String) : Pairs String String :=
  [("EXAMPLE_CONTRACT_ID", exampleId), (inheritanceKey, inheritanceId)]

/-- As many IDs as the project has contracts are saved under their keys. -/
theorem contractIds_standard {ids : List String} (h : ids.length = Artifact.standard.length) :
    ∃ exampleId inheritanceId, ids = [exampleId, inheritanceId] ∧
      DeployedContract.contractIds (contractsUnder Artifact.standard ids) =
        standardIds exampleId inheritanceId := by
  obtain ⟨exampleId, inheritanceId, rfl⟩ := List.length_eq_two.1 h
  exact ⟨exampleId, inheritanceId, rfl, rfl⟩

theorem mem_standardIds {exampleId inheritanceId : String} {v : String × String} :
    v ∈ standardIds exampleId inheritanceId ↔
      v = ("EXAMPLE_CONTRACT_ID", exampleId) ∨ v = (inheritanceKey, inheritanceId) := by
  simp [standardIds]

/-- The keys of the project can be written side by side. -/
theorem writable_standardIds (exampleId inheritanceId : String) :
    StateFile.Writable (standardIds exampleId inheritanceId) where
  some := by simp [standardIds]
  distinct := by simp [standardIds, inheritanceKey]
  plain := by
    intro p hp
    rcases mem_standardIds.1 hp with rfl | rfl
    · simp
    · simp [inheritanceKey]
  whole := by
    intro p hp
    rcases mem_standardIds.1 hp with rfl | rfl
    · simp [Text.isLineBreak]
    · simp [inheritanceKey, Text.isLineBreak]

namespace Pipeline

variable {p : Pipeline σ} {request : DeploymentRequest} {s t : Session σ} {d : Deployment}
  {ids : List String} {old : List Char}

/-- What a run saves for the contracts of the project. -/
theorem Saves.standard (h : p.Saves request s d t ids old) (hp : p.artifacts = Artifact.standard) :
    ∃ exampleId inheritanceId, ids = [exampleId, inheritanceId] ∧ AcceptedId exampleId ∧
      AcceptedId inheritanceId ∧
      DeployedContract.contractIds d.contracts = standardIds exampleId inheritanceId := by
  have hlength := h.length
  rw [hp] at hlength
  obtain ⟨exampleId, inheritanceId, rfl, hvalues⟩ := contractIds_standard hlength
  refine ⟨exampleId, inheritanceId, rfl, h.accepted _ (by simp), h.accepted _ (by simp), ?_⟩
  rw [h.contracts, hp]
  exact hvalues

/-- No accepted ID has a carriage return in it. -/
theorem carriageReturn_not_mem_standardIds {exampleId inheritanceId : String}
    (he : AcceptedId exampleId) (hi : AcceptedId inheritanceId) :
    ∀ v ∈ standardIds exampleId inheritanceId, '\r' ∉ v.2.toList := by
  intro v hv
  rcases mem_standardIds.1 hv with rfl | rfl
  · exact he.2.2
  · exact hi.2.2

/-- Two successful runs in a row, the second one under the IDs of the first one, leave the same
state file exactly if the IDs leave nothing over. They leave nothing over if no ID has a line break
in it. -/
theorem run_again {p₁ p₂ : Pipeline σ} {request₁ request₂ : DeploymentRequest}
    {s₁ s₂ : Session σ} {d₁ d₂ : Deployment} (hp₁ : p₁.artifacts = Artifact.standard)
    (hp₂ : p₂.artifacts = Artifact.standard) (hpath : p₂.statePath = p₁.statePath)
    (hrun₁ : (p₁.run request₁).result s₁ = .ok d₁)
    -- The second run begins on the files and in the directory that the first one left.
    (htree : s₂.host.tree = ((p₁.run request₁).after s₁).host.tree)
    (hcwd : s₂.host.cwd = ((p₁.run request₁).after s₁).host.cwd) (hstands : s₂.host.Stands)
    (hleaves : p₂.LeavesFiles) (hrun₂ : (p₂.run request₂).result s₂ = .ok d₂)
    (hanswers : (deployments ((p₂.run request₂).events s₂)).map (·.answer) =
      (deployments ((p₁.run request₁).events s₁)).map (·.answer)) :
    ∃ c₁ c₂, ((p₁.run request₁).after s₁).host.contentAt p₁.statePath = .ok c₁ ∧
      ((p₂.run request₂).after s₂).host.contentAt p₂.statePath = .ok c₂ ∧
      (c₂ = c₁ ↔ StateFile.leftovers (DeployedContract.contractIds d₁.contracts) = []) ∧
      ((∀ v ∈ DeployedContract.contractIds d₁.contracts, ∀ c ∈ v.2.toList,
        Text.isLineBreak c = false) → c₂ = c₁) := by
  obtain ⟨t₁, ids, old, h₁⟩ := run_saves hrun₁
  obtain ⟨t₂, ids₂, found, h₂⟩ := run_saves hrun₂
  obtain ⟨exampleId, inheritanceId, hids, he, hi, hvalues⟩ := h₁.standard hp₁
  have hw := writable_standardIds exampleId inheritanceId
  have hreturns := StateFile.carriageReturn_not_mem_updated hw.carriageReturn_not_mem
    (carriageReturn_not_mem_standardIds he hi) old
  rw [← hvalues] at hw hreturns
  -- The clients answered with the same IDs, so both runs write the same lines.
  have hsame : ids₂ = ids := by
    rw [h₂.answers, h₁.answers] at hanswers
    have hinjective : Function.Injective fun id : String =>
        (Except.ok (some id) : Except Failure (Option String)) := fun a b h => by simpa using h
    exact List.map_injective_iff.2 hinjective hanswers
  have hcontracts : d₂.contracts = d₁.contracts := by
    rw [h₂.contracts, hsame, hp₂, ← hp₁, ← h₁.contracts]
  obtain ⟨place₁, hfile₁⟩ := h₁.file
  obtain ⟨place₂, hfile₂⟩ := h₂.file
  rw [hcontracts, h₁.finds h₂ hpath htree hcwd hstands hleaves hreturns] at hfile₂
  have hiff := StateFile.updated_updated_eq_iff hw old
  refine ⟨_, _, ?_, ?_, Text.Utf8.encode_inj.trans hiff, fun hclean => ?_⟩
  · unfold Host.contentAt
    rw [h₁.cwd]
    exact Tree.contentOf_of_file hfile₁
  · unfold Host.contentAt
    rw [h₂.cwd]
    exact Tree.contentOf_of_file hfile₂
  · rw [hiff.2 (StateFile.leftovers_of_clean hclean)]

/-- What a failure tells, if one is what an action ends with. -/
def told? {α : Type} : Except Failure α → Option (FailureClass × String)
  | .ok _ => none
  | .error e => some (e.kind, e.message)

theorem told?_eq_some_iff {α : Type} {r : Except Failure α} {kind : FailureClass}
    {message : String} :
    told? r = some (kind, message) ↔ ∃ e, r = .error e ∧ e.kind = kind ∧ e.message = message := by
  cases r <;> simp [told?]

/-- A project whose contracts are built, and no state file. -/
def builtHost : Host Unit where
  tree :=
    let release : Place := ["contracts", "target", "wasm32v1-none", "release"]
    [(release.take 1, .directory), (release.take 2, .directory), (release.take 3, .directory),
      (release, .directory), (release ++ ["example_contract.wasm"], .file []),
      (release ++ ["inheritance_contract.wasm"], .file [])]
  cwd := .live []
  env := []
  renameFault := none
  outside := ()

/-- A pipeline whose client answers every deployment with one text. -/
def answeringWith (id : String) : Pipeline Unit where
  client := .answering fun call => match call with
    | .resolveAddress _ => .ok (some "GADMIN")
    | .deploy .. => .ok (some id)
    | _ => .ok none
  statePath := .ofText ".env"
  contractsRoot := none
  artifacts := Artifact.standard
  check := none

/-- What one run leaves of the built project. -/
def deployedOnce (id : String) : Session Unit :=
  ((answeringWith id).run mainnetRequest).after ⟨builtHost, []⟩

/-- What a second run leaves of it. -/
def deployedTwice (id : String) : Session Unit :=
  ((answeringWith id).run mainnetRequest).after (deployedOnce id)

/-- What a run with one ID for both contracts ends with. -/
def deploymentUnder (id : String) : Deployment :=
  ⟨mainnetRequest, ⟨"alice", "GADMIN"⟩, contractsUnder Artifact.standard [id, id], .ofText ".env"⟩

/-- An ID that is a word is saved twice as it is once. -/
theorem word_settles : (deployedTwice "CAFE").host.contentAt (.ofText ".env") =
    (deployedOnce "CAFE").host.contentAt (.ofText ".env") := by
  have hruns : (((answeringWith "CAFE").run mainnetRequest).result ⟨builtHost, []⟩).toOption =
      some (deploymentUnder "CAFE") ∧
      (((answeringWith "CAFE").run mainnetRequest).result (deployedOnce "CAFE")).toOption =
      some (deploymentUnder "CAFE") ∧ (deployedOnce "CAFE").host.cwd = .live [] := by
    decide +kernel
  obtain ⟨h₁, h₂, hcwd⟩ := hruns
  have hrun₁ := result_eq_ok_of_toOption h₁
  have hrun₂ := result_eq_ok_of_toOption h₂
  have hanswers := (run_answers hrun₂).trans (run_answers hrun₁).symm
  have hstands : (deployedOnce "CAFE").host.Stands := by
    constructor
    · simp [hcwd, Spot.live]
    · simp [hcwd, Spot.live]
  obtain ⟨c₁, c₂, hc₁, hc₂, -, hclean⟩ := run_again rfl rfl rfl hrun₁ rfl rfl hstands
    (leavesFiles_answering rfl rfl) hrun₂ hanswers
  have hsame : c₂ = c₁ := by
    refine hclean fun v hv => ?_
    rcases mem_standardIds.1 hv with rfl | rfl <;> simp [Text.isLineBreak]
  rw [hsame] at hc₂
  exact hc₂.trans hc₁.symm

/-- Two runs under an accepted ID with a vertical tab in it leave different state files. -/
theorem verticalTab_grows :
    AcceptedId "CA\x0bFE" ∧
    (((answeringWith "CA\x0bFE").run mainnetRequest).result ⟨builtHost, []⟩).toOption =
      some (deploymentUnder "CA\x0bFE") ∧
    (((answeringWith "CA\x0bFE").run mainnetRequest).result (deployedOnce "CA\x0bFE")).toOption =
      some (deploymentUnder "CA\x0bFE") ∧
    ((deployedTwice "CA\x0bFE").host.contentAt (.ofText ".env")).toOption ≠
      ((deployedOnce "CA\x0bFE").host.contentAt (.ofText ".env")).toOption := by
  decide +kernel

end Pipeline

end SorobanDeploy
