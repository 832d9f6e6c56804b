import SorobanDeploy.Proofs.Host.Refusals
import SorobanDeploy.Proofs.Pipeline.Redeploy

/-!
# IDs that cannot be saved

When the IDs cannot be saved the contracts are live all the same, so the failure should tell the
lines that the state file lacks. `persist_accounts` says how saving ends: the IDs are in the state
file, or the failure names the file and ends with their lines, whatever the system refused. There is
one exception. A path with a NUL character is no path, which is a failure of another class than the
system's, and it tells no ID (`nul_path_tells_none`).
-/

namespace SorobanDeploy

open Act Event

variable {σ : Type}

namespace Pipeline

variable {p : Pipeline σ} {deployed : List DeployedContract} {s : Session σ}

/-- The message of a save that failed, up to the lines that it ends with. -/
def unsavedFront (path reason : String) : String :=
  "Contracts were deployed and initialized, but saving to " ++ path ++ " failed: " ++ reason ++
    ". Check the --state-file path and permissions, then record these IDs manually:\n"

/-- How saving the IDs of contracts ends. -/
inductive Accounts (p : Pipeline σ) (deployed : List DeployedContract) (s : Session σ) : Prop where
  /-- The state file has the lines of the IDs behind the lines that it had under other keys. -/
  | saved (t : Session σ) (old : List Char) (place : Place) (host : t.host = s.host)
      (found : (StateFile.found p.statePath).result t = .ok old)
      (result : (p.persist deployed).result s = .ok ())
      (path : Files.hasNul p.statePath.text = false)
      (file : ((p.persist deployed).after s).host.tree.status s.host.cwd p.statePath.text =
        .ok (.live place, .file (Text.Utf8.encode (Text.unlines
          ((Text.lines old).filter (StateFile.isKept (DeployedContract.contractIds deployed)) ++
            StateFile.remaining (DeployedContract.contractIds deployed))))))
  /-- The failure names the state file and ends with the lines of the IDs. -/
  | told (e : Failure) (reason : String) (rows : List String)
      (result : (p.persist deployed).result s = .error e) (kind : e.kind = .persistence)
      (message : e.message = unsavedFront p.statePath.text reason ++ "\n".intercalate rows)
      (complete : rows.map String.toList =
        StateFile.recorded (DeployedContract.contractIds deployed))
  /-- The path of the state file, or a name of the working directory, has a NUL character. -/
  | nul (result : (p.persist deployed).result s = .error Files.nulFailure)
      (unusable : Files.hasNul p.statePath.text = true ∨
        ∃ n ∈ s.host.cwd.place, Files.hasNul n = true)
  /-- The host has a failure of its own for every renaming, and it is not one of the system's. -/
  | fault (e : Failure) (result : (p.persist deployed).result s = .error e)
      (refused : s.host.renameFault = some e) (unlike : ¬e.IsOfFiles)

/-- Saving the IDs is the upsert of them, behind a log record. -/
theorem result_persist (p : Pipeline σ) (deployed : List DeployedContract) (s : Session σ) :
    ∃ t : Session σ, t.host = s.host ∧
      (p.persist deployed).result s =
        ((StateFile.upsert p.statePath (DeployedContract.contractIds deployed)).result t).mapError
          (unsaved p.statePath (DeployedContract.contractIds deployed)) ∧
      (p.persist deployed).after s =
        (StateFile.upsert p.statePath (DeployedContract.contractIds deployed)).after t := by
  refine ⟨(tell ("Saving contract IDs to " ++ p.statePath.text ++ "...")).after s, rfl, ?_, ?_⟩
  · unfold persist
    rw [result_bind_of_ok _ rfl, result_mapFailure]
  · unfold persist
    rw [after_bind_of_ok _ rfl, after_mapFailure]

/-- Saving the IDs of contracts leaves them in the state file, or fails with a message that names
the file and ends with their lines, unless there is a NUL character in the path or in the working
directory, or the host refuses to rename with a failure that is none of the system's. All lines of
the IDs are in the file if no name binds the line of an earlier one. -/
theorem persist_accounts (p : Pipeline σ) (deployed : List DeployedContract) (s : Session σ) :
    p.Accounts deployed s ∧
      (StateFile.remaining (DeployedContract.contractIds deployed) =
          StateFile.recorded (DeployedContract.contractIds deployed) ↔
        (DeployedContract.contractIds deployed).Pairwise fun c d =>
          StateFile.bindsKey d.1 (StateFile.line c.1 c.2) = false) := by
  refine ⟨?_, StateFile.remaining_eq_recorded_iff _⟩
  obtain ⟨t, hhost, hresult, hafter⟩ := result_persist p deployed s
  cases hupsert : (StateFile.upsert p.statePath
      (DeployedContract.contractIds deployed)).result t with
  | ok _ =>
    obtain ⟨old, hfound, hnul, -, -, place, hfile⟩ := StateFile.upsert_ok hupsert
    rw [hupsert] at hresult
    refine .saved t old place hhost hfound hresult hnul ?_
    rw [hafter, ← hhost, hfile, StateFile.updated, StateFile.putLines_eq_remaining]
  | error e =>
    rw [hupsert] at hresult
    simp only [Except.mapError] at hresult
    have hcases := StateFile.upsert_error hupsert
    rw [hhost] at hcases
    -- The lines are told for failures of files only; any other failure is passed on as it is.
    by_cases hfiles : e.IsOfFiles
    · have hunsaved : unsaved p.statePath (DeployedContract.contractIds deployed) e =
          (Problem.saveFailed p.statePath.text e.message
            (DeployedContract.contractIds deployed)).because e := by
        unfold unsaved
        exact if_pos hfiles
      rw [hunsaved] at hresult
      refine .told _ e.message _ hresult rfl rfl ?_
      simp [recordLines, StateFile.recorded, StateFile.line, String.toList_append]
    · have hunsaved : unsaved p.statePath (DeployedContract.contractIds deployed) e = e := by
        unfold unsaved
        exact if_neg hfiles
      rw [hunsaved] at hresult
      rcases hcases with h | ⟨rfl, hnul⟩ | hfault
      · exact absurd h hfiles
      · exact .nul hresult hnul
      · exact .fault e hresult hfault hfiles

/-- Saving to a path with a NUL character tells none of the IDs. -/
theorem nul_path_tells_none : ∃ e,
    ({ answeringWith "CAFE" with statePath := .ofText "a\x00b" }.persist
      (contractsUnder Artifact.standard ["CAFE", "CAFE"])).result ⟨builtHost, []⟩ = .error e ∧
    e.isA .persistence = false ∧ e.message = "embedded null byte" := by
  have htold : told? (({ answeringWith "CAFE" with statePath := .ofText "a\x00b" }.persist
      (contractsUnder Artifact.standard ["CAFE", "CAFE"])).result ⟨builtHost, []⟩) =
        some (.badValue, "embedded null byte") := by
    decide +kernel
  obtain ⟨e, he, hkind, hmessage⟩ := told?_eq_some_iff.1 htold
  refine ⟨e, he, ?_, hmessage⟩
  unfold Failure.isA
  rw [hkind]
  rfl

end Pipeline

end SorobanDeploy
