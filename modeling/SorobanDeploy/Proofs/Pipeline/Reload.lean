import SorobanDeploy.Proofs.Pipeline.Redeploy
import SorobanDeploy.Proofs.StateFile.Grammar

/-!
# Loading the IDs that a run saved

What a successful run saves should come back when the state file is loaded. For the contracts of the
project and a state file that was missing or empty, it does exactly if both IDs read back
(`run_reloads`). The IDs are written as they stand, but the reader takes quotes away, replaces
escapes between them, and cuts blanks and comments.
-/

namespace SorobanDeploy

open Act Event

variable {σ : Type}

/-- The keys of the project are read as they stand. -/
theorem plainKey_standard :
    StateFile.PlainKey "EXAMPLE_CONTRACT_ID".toList ∧ StateFile.PlainKey inheritanceKey.toList := by
  constructor
  · exact ⟨List.all_eq_true.1 (by decide), _, _, rfl, by decide⟩
  · exact ⟨List.all_eq_true.1 (by decide), _, _, rfl, by decide⟩

/-- A state file that was empty holds the lines of the IDs and nothing else. -/
theorem updated_nil_standardIds (exampleId inheritanceId : String) :
    StateFile.updated [] (standardIds exampleId inheritanceId) =
      Text.unlines [StateFile.line "EXAMPLE_CONTRACT_ID" exampleId,
        StateFile.line inheritanceKey inheritanceId] := by
  rw [StateFile.updated_eq (writable_standardIds exampleId inheritanceId)]
  rfl

namespace Pipeline

variable {p : Pipeline σ} {request : DeploymentRequest} {s : Session σ} {d : Deployment}

/-- A successful run over a missing or empty state file saves the IDs that the client answered with
and that it reports. The client has to leave the files, since the state file must be missing or
empty still when it is saved: what a client writes into it stays beside the IDs. Whoever loads the
state file next, on the files and in the directory that the run left, gets these IDs exactly if both
of them read back. -/
theorem run_reloads (hp : p.artifacts = Artifact.standard) (hleaves : p.LeavesFiles)
    (hstands : s.host.Stands) (hblank : StateFile.Blank p.statePath s.host)
    (hrun : (p.run request).result s = .ok d) :
    ∃ exampleId inheritanceId loaded,
      (deployments ((p.run request).events s)).map (·.answer) =
        [.ok (some exampleId), .ok (some inheritanceId)] ∧
      DeployedContract.contractIds d.contracts = standardIds exampleId inheritanceId ∧
      (∀ u : Session σ, u.host.tree = ((p.run request).after s).host.tree →
        u.host.cwd = ((p.run request).after s).host.cwd →
        (StateFile.load p.statePath).result u = .ok loaded) ∧
      ((Pairs.get? "EXAMPLE_CONTRACT_ID" loaded = some exampleId ∧
          Pairs.get? inheritanceKey loaded = some inheritanceId) ↔
        StateFile.ReadsBack exampleId.toList ∧ StateFile.ReadsBack inheritanceId.toList) := by
  obtain ⟨t, ids, old, hsaves⟩ := run_saves hrun
  obtain ⟨exampleId, inheritanceId, rfl, he, hi, hvalues⟩ := hsaves.standard hp
  -- The run saved over nothing.
  obtain ⟨htree, hcwd⟩ := hsaves.host_eq hleaves hstands
  have hold : old = [] := hblank.found_eq_nil htree hcwd hsaves.found
  obtain ⟨place, hfile⟩ := hsaves.file
  rw [hvalues, hold, updated_nil_standardIds] at hfile
  have hw := writable_standardIds exampleId inheritanceId
  have hfolded := StateFile.carriageReturn_not_mem_updated hw.carriageReturn_not_mem
    (carriageReturn_not_mem_standardIds he hi) []
  rw [updated_nil_standardIds] at hfolded
  obtain ⟨hkey₁, hkey₂⟩ := plainKey_standard
  have hiff := StateFile.reads_two_iff hkey₁ hkey₂ (by decide) he.2.1 hi.2.1
  refine ⟨exampleId, inheritanceId, _, hsaves.answers, hvalues, fun u hutree hucwd => ?_, hiff⟩
  refine StateFile.result_load_of_file hsaves.path (q := .live place) ?_ hfolded
  rw [hutree, hucwd, hsaves.cwd]
  exact hfile

/-- What loading gives after one run with one ID for both contracts. -/
def reloaded (id : String) : Option (Pairs String String) :=
  ((StateFile.load (.ofText ".env")).result (deployedOnce id)).toOption

/-- An ID that is a word comes back. -/
theorem word_comes_back : ∃ loaded, reloaded "CAFE" = some loaded ∧
    Pairs.get? "EXAMPLE_CONTRACT_ID" loaded = some "CAFE" ∧
    Pairs.get? inheritanceKey loaded = some "CAFE" := by
  have hruns : (((answeringWith "CAFE").run mainnetRequest).result ⟨builtHost, []⟩).toOption =
      some (deploymentUnder "CAFE") := by
    decide +kernel
  have hrun := result_eq_ok_of_toOption hruns
  have hstands : builtHost.Stands := by
    constructor
    · simp [builtHost, Spot.live]
    · simp [builtHost, Spot.live]
  have hblank : StateFile.Blank (answeringWith "CAFE").statePath builtHost :=
    .inl (StateFile.missing_of_directory (r := .noEntry) (q := .live []) (by decide +kernel)
      (by decide +kernel) (by decide +kernel))
  obtain ⟨exampleId, inheritanceId, loaded, hanswers, -, hload, hiff⟩ :=
    run_reloads (p := answeringWith "CAFE") (s := ⟨builtHost, []⟩) rfl
      (leavesFiles_answering rfl rfl) hstands hblank hrun
  rw [run_answers hrun] at hanswers
  obtain ⟨rfl, rfl⟩ : "CAFE" = exampleId ∧ "CAFE" = inheritanceId := by
    simpa [deploymentUnder, contractsUnder, Artifact.standard] using hanswers
  have hback : StateFile.ReadsBack "CAFE".toList :=
    { start := by simp; decide
      finish := by simp; decide
      whole := fun b _ hinside =>
        absurd (hinside.subset (List.mem_cons_of_mem b List.mem_cons_self)) (by decide) }
  obtain ⟨hexample, hinheritance⟩ := hiff.2 ⟨hback, hback⟩
  refine ⟨loaded, ?_, hexample, hinheritance⟩
  have hloaded : (StateFile.load (.ofText ".env")).result (deployedOnce "CAFE") = .ok loaded := by
    unfold deployedOnce
    exact hload _ rfl rfl
  unfold reloaded
  rw [hloaded]
  rfl

/-- An accepted ID in quotes loses them. -/
theorem quoted_comes_back_bare :
    AcceptedId "'CAFE'" ∧
    (((answeringWith "'CAFE'").run mainnetRequest).result ⟨builtHost, []⟩).toOption =
      some (deploymentUnder "'CAFE'") ∧
    reloaded "'CAFE'" = some (standardIds "CAFE" "CAFE") := by
  decide +kernel

end Pipeline

end SorobanDeploy
