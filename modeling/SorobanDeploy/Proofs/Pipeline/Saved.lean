import SorobanDeploy.Proofs.Host.Standing
import SorobanDeploy.Proofs.Pipeline.FailFast
import SorobanDeploy.Proofs.StateFile.Store

/-!
# What a successful run saves

A run that succeeds went live and then saved the IDs that the client answered with, on the host that
it went live on (`run_saves`). If nobody else changes the files, and the working directory stands
where its path says, that is the host that the run began on, as far as its files and its working
directory are concerned (`goLive_leaves_host`).
-/

namespace SorobanDeploy

open Act Event

variable {σ : Type}

/-- A move to another directory for an action comes back by the path of the directory that it left,
if the action leaves the files. -/
theorem Workspace.inDirectory_back {α : Type} {path : Path} {body : Act σ α} {s : Session σ} {a : α}
    (hbody : body.Along Untouched) (h : (Workspace.inDirectory path body).result s = .ok a) :
    s.host.cwd.lost = 0 ∧ ∃ dir back,
      s.host.tree.status dir (Path.ofPlace s.host.cwd.place).text = .ok (back, .directory) ∧
      ((Workspace.inDirectory path body).after s).host.cwd = back := by
  obtain ⟨hlive, v, hv, -, hleave, hafter⟩ := Workspace.inDirectory_ok h
  refine ⟨hlive, ?_⟩
  rw [hafter]
  have htree : (body.after v).host.tree = s.host.tree := (hbody v).1.trans hv
  unfold Workspace.leaveTo at hleave ⊢
  obtain ⟨_, hback, hleave⟩ := result_bind_eq_ok hleave
  rw [after_bind_of_ok _ hback]
  obtain ⟨-, back, hstatus, hmoved⟩ := Files.changeDirectory_ok hback
  rw [htree] at hstatus
  refine ⟨_, back, hstatus, ?_⟩
  rw [hmoved]
  rfl

namespace Pipeline

variable {p : Pipeline σ} {request : DeploymentRequest} {s : Session σ}

/-- The preparations leave the working directory, if the client does and it stands where its path
says. -/
theorem prepare_cwd (hp : p.LeavesFiles) (hstands : s.host.Stands)
    {ready : ResolvedIdentity × Path} (h : (p.prepare request).result s = .ok ready) :
    ((p.prepare request).after s).host.cwd = s.host.cwd := by
  unfold prepare at h ⊢
  obtain ⟨found, hfound, h⟩ := result_bind_eq_ok h
  rw [after_bind_of_ok _ hfound]
  obtain ⟨hcwd, -⟩ := approach_apart hp request s
  obtain ⟨htree, -⟩ := approach_untouched hp request s
  generalize (p.approach request).after s = v at h hcwd htree ⊢
  -- Only the builds move the working directory, and they come back to where they left it.
  obtain ⟨_, hbuilt, h⟩ := result_bind_eq_ok h
  rw [after_bind_of_ok _ hbuilt, after_pure]
  have hbuilds : p.buildAll.Along Untouched :=
    buildAll_along isWay_untouched log_untouched fun _ _ => ask_untouched hp _
  obtain ⟨hlive, dir, back, hstatus, hback⟩ := Workspace.inDirectory_back hbuilds hbuilt
  rw [htree, hcwd] at hstatus
  obtain ⟨hplace, -⟩ := hstands.status_eq hstatus
  rw [hback, hplace, Spot.live, ← hcwd, ← hlive]

/-- Going live leaves the files and the working directory, if the client does and the working
directory stands where its path says. -/
theorem goLive_leaves_host (hp : p.LeavesFiles) (hstands : s.host.Stands)
    {live : ResolvedIdentity × List DeployedContract}
    (h : (p.goLive request).result s = .ok live) :
    ((p.goLive request).after s).host.tree = s.host.tree ∧
      ((p.goLive request).after s).host.cwd = s.host.cwd := by
  refine ⟨(goLive_untouched hp request s).1, ?_⟩
  unfold goLive at h ⊢
  obtain ⟨ready, hready, -⟩ := result_bind_eq_ok h
  rw [after_bind_of_ok _ hready]
  have hestablish : (p.establish request ready.1 ready.2 >>= fun deployed =>
      pure (ready.1, deployed)).Along Apart :=
    .bind isWay_apart (establish_along isWay_apart log_apart (fun _ _ _ => ask_apart hp rfl)
      (fun _ _ _ _ _ => ask_apart hp rfl) request _ _) fun _ => .pure isWay_apart _
  rw [(hestablish _).1, prepare_cwd hp hstands hready]

/-- A run that succeeds went live, and then saved the IDs of the contracts on the host that it went
live on. -/
theorem run_ok {d : Deployment} (h : (p.run request).result s = .ok d) :
    ∃ live t, (p.goLive request).result s = .ok live ∧
      d = ⟨request, live.1, live.2, p.statePath⟩ ∧
      t.host = ((p.goLive request).after s).host ∧
      (StateFile.upsert p.statePath (DeployedContract.contractIds live.2)).result t = .ok () ∧
      ((p.run request).after s).host =
        ((StateFile.upsert p.statePath (DeployedContract.contractIds live.2)).after t).host := by
  rw [run_eq] at h ⊢
  obtain ⟨live, hlive, h⟩ := result_bind_eq_ok h
  rw [after_bind_of_ok _ hlive]
  unfold save at h ⊢
  obtain ⟨_, hpersist, h⟩ := result_bind_eq_ok h
  rw [after_bind_of_ok _ hpersist]
  cases h
  -- What explains the failures of saving changes nothing about its success.
  unfold persist at hpersist ⊢
  obtain ⟨_, htell, hupsert⟩ := result_bind_eq_ok hpersist
  rw [after_bind_of_ok _ htell, after_mapFailure]
  rw [result_mapFailure] at hupsert
  refine ⟨live, (tell ("Saving contract IDs to " ++ p.statePath.text ++ "...")).after
    ((p.goLive request).after s), hlive, rfl, rfl, ?_, rfl⟩
  cases hresult : (StateFile.upsert p.statePath (DeployedContract.contractIds live.2)).result
      ((tell ("Saving contract IDs to " ++ p.statePath.text ++ "...")).after
        ((p.goLive request).after s)) with
  | ok _ => rfl
  | error e =>
    rw [hresult] at hupsert
    cases hupsert

/-- What a run that ended with a deployment did when it saved: on which session, which IDs, and over
which text. -/
structure Saves (p : Pipeline σ) (request : DeploymentRequest) (s : Session σ) (d : Deployment)
    (t : Session σ) (ids : List String) (old : List Char) : Prop where
  wentLive : ∃ live, (p.goLive request).result s = .ok live
  /-- The run saves on the host that it went live on. -/
  host : t.host = ((p.goLive request).after s).host
  length : ids.length = p.artifacts.length
  accepted : ∀ id ∈ ids, AcceptedId id
  contracts : d.contracts = contractsUnder p.artifacts ids
  /-- The client answered the deployments with the IDs. -/
  answers : (deployments ((p.run request).events s)).map (·.answer) =
    ids.map fun id => .ok (some id)
  path : Files.hasNul p.statePath.text = false
  found : (StateFile.found p.statePath).result t = .ok old
  folded : '\r' ∉ old
  cwd : ((p.run request).after s).host.cwd = t.host.cwd
  /-- The state file is the text with the IDs written. -/
  file : ∃ place, ((p.run request).after s).host.tree.status t.host.cwd p.statePath.text =
    .ok (.live place, .file (Text.Utf8.encode
      (StateFile.updated old (DeployedContract.contractIds d.contracts))))

/-- A run that succeeds saves the IDs that the client answered with. -/
theorem run_saves {d : Deployment} (h : (p.run request).result s = .ok d) :
    ∃ t ids old, p.Saves request s d t ids old := by
  obtain ⟨live, t, hlive, rfl, hhost, hupsert, hafter⟩ := run_ok h
  obtain ⟨ids, hlength, hids, hcontracts, hanswers⟩ := goLive_ok hlive
  obtain ⟨old, hfound, hnul, hfolded, hcwd, place, hplace⟩ := StateFile.upsert_ok hupsert
  have hdeployments : deployments ((p.run request).events s) =
      deployments ((p.goLive request).events s) := by
    rw [deployments, exchanges_run, deployments]
  exact ⟨t, ids, old,
    { wentLive := ⟨live, hlive⟩
      host := hhost
      length := hlength
      accepted := hids
      contracts := hcontracts
      answers := by rw [hdeployments, hanswers]
      path := hnul
      found := hfound
      folded := hfolded
      cwd := by rw [hafter, hcwd]
      file := ⟨place, by rw [hafter]; exact hplace⟩ }⟩

/-- The client answered the deployments of a run with the IDs that the run ends with. -/
theorem run_answers {d : Deployment} (h : (p.run request).result s = .ok d) :
    (deployments ((p.run request).events s)).map (·.answer) =
      d.contracts.map fun c => .ok (some c.contractId) := by
  obtain ⟨t, ids, old, hsaves⟩ := run_saves h
  have hids : (contractsUnder p.artifacts ids).map (·.contractId) = ids := by
    unfold contractsUnder
    rw [List.map_map]
    exact List.map_snd_zip (Nat.le_of_eq hsaves.length)
  calc (deployments ((p.run request).events s)).map (·.answer)
      = ids.map fun id => .ok (some id) := hsaves.answers
    _ = ((contractsUnder p.artifacts ids).map (·.contractId)).map fun id => .ok (some id) := by
        rw [hids]
    _ = d.contracts.map fun c => .ok (some c.contractId) := by
        rw [hsaves.contracts, List.map_map]
        rfl

/-- A run saves on the files and in the working directory that it began with, if the client leaves
them and the working directory stands where its path says. -/
theorem Saves.host_eq {d : Deployment} {t : Session σ} {ids : List String} {old : List Char}
    (h : p.Saves request s d t ids old) (hp : p.LeavesFiles) (hstands : s.host.Stands) :
    t.host.tree = s.host.tree ∧ t.host.cwd = s.host.cwd := by
  obtain ⟨live, hlive⟩ := h.wentLive
  rw [h.host]
  exact goLive_leaves_host hp hstands hlive

/-- A run over what another one left finds the text that the other one saved, if both have the same
state file. -/
theorem Saves.finds {p₁ p₂ : Pipeline σ} {request₁ request₂ : DeploymentRequest}
    {s₁ s₂ t₁ t₂ : Session σ} {d₁ d₂ : Deployment} {ids₁ ids₂ : List String} {old found : List Char}
    (h₁ : p₁.Saves request₁ s₁ d₁ t₁ ids₁ old) (h₂ : p₂.Saves request₂ s₂ d₂ t₂ ids₂ found)
    (hpath : p₂.statePath = p₁.statePath)
    (htree : s₂.host.tree = ((p₁.run request₁).after s₁).host.tree)
    (hcwd : s₂.host.cwd = ((p₁.run request₁).after s₁).host.cwd) (hstands : s₂.host.Stands)
    (hleaves : p₂.LeavesFiles)
    (hreturns : '\r' ∉ StateFile.updated old (DeployedContract.contractIds d₁.contracts)) :
    found = StateFile.updated old (DeployedContract.contractIds d₁.contracts) := by
  obtain ⟨hkeptTree, hkeptCwd⟩ := h₂.host_eq hleaves hstands
  obtain ⟨place, hfile⟩ := h₁.file
  have hleft : t₂.host.tree.status t₂.host.cwd p₂.statePath.text = .ok (.live place, .file
      (Text.Utf8.encode (StateFile.updated old (DeployedContract.contractIds d₁.contracts)))) := by
    rw [hkeptTree, hkeptCwd, htree, hcwd, h₁.cwd, hpath]
    exact hfile
  -- What was encoded is decoded, and no newline in it was folded.
  have hread := StateFile.result_found_of_content h₂.path (Tree.contentOf_of_file hleft)
    (Text.Utf8.decode_encode _)
  rw [Text.foldNewlines_of_not_mem hreturns] at hread
  exact Except.ok.inj (h₂.found.symm.trans hread)

end Pipeline

end SorobanDeploy
