import SorobanDeploy.Proofs.Pipeline.Attributed

/-!
# A run from elsewhere

A run whose contracts and state file are named from the root does not depend on the directory in
which it begins, nor on where its client moves to between the builds: it makes the same calls, its
builds in the same directory, ends with the same result and leaves the same files (`run_anywhere`).
It has to find its way back from the builds. From a directory whose path is too long for the system
it does not (`run_depends_on_start`).
-/

namespace SorobanDeploy

open Act Event

variable {σ α : Type}

/-! ## Hosts that stand apart -/

/-- Hosts that stand in any two directories and differ in what is outside besides, there by what `Q`
allows. -/
structure Host.Elsewhere (Q : σ → σ → Prop) (h k : Host σ) : Prop where
  tree : h.tree = k.tree
  env : h.env = k.env
  renameFault : h.renameFault = k.renameFault
  outside : Q h.outside k.outside

/-- The working directory is there, and the system finds it under its path. -/
structure Host.Settled (h : Host σ) : Prop where
  live : h.cwd.lost = 0
  found : h.HasDirectory (Path.ofPlace h.cwd.place).text

/-- Who stands at the root is settled. -/
theorem Host.Settled.of_root {h : Host σ} (hroot : h.cwd = .live []) : h.Settled := by
  have hpath : (Path.ofPlace (Spot.live []).place).text = "/" := rfl
  refine ⟨by rw [hroot]; rfl, ?_⟩
  rw [hroot, hpath]
  exact ⟨by decide, .live [], rfl⟩

/-- A directory that is named from the root is found from everywhere. -/
theorem Host.HasDirectory.of_absolute {h k : Host σ} {path : Path} (hroot : path.root ≠ .relative)
    (htree : k.tree = h.tree) (hdir : h.HasDirectory path.text) : k.HasDirectory path.text := by
  obtain ⟨hnul, dir, hstatus⟩ := hdir
  refine ⟨hnul, dir, ?_⟩
  rw [htree, ← hstatus]
  exact Tree.status_of_absolute (Path.head?_text hroot) _ _ _

variable {Q : σ → σ → Prop}

/-- From the root, hosts that stand apart see the same. -/
theorem seesFrom_elsewhere {root : PathRoot} (hroot : root ≠ .relative) :
    SeesFrom root (Host.Elsewhere Q) where
  tree h := h.tree
  cwd _ hrelative := absurd hrelative hroot
  renameFault h := h.renameFault
  setTree _ _ _ h := { h with tree := rfl }

namespace Workspace

/-- The search for the contracts begins at a path from the root. -/
theorem root_of_searchBase {start : Option String} {s : Session σ} {base : Path}
    (h : (searchBase start).result s = .ok base) : base.root ≠ .relative := by
  have hworking {t : Session σ} {dir : Path}
      (hdir : (Files.workingDirectory : Act σ Path).result t = .ok dir) : dir.root ≠ .relative := by
    rw [(Files.result_workingDirectory t hdir).2]
    simp [Path.ofPlace]
  cases start with
  | none => exact hworking h
  | some start =>
    change (Files.absolute (.ofText start)).result s = .ok base at h
    unfold Files.absolute at h
    by_cases habsolute : (Path.ofText start).isAbsolute = true
    · rw [if_pos habsolute] at h
      cases h
      simpa [Path.isAbsolute] using habsolute
    · rw [if_neg habsolute] at h
      obtain ⟨dir, hdir, h⟩ := result_bind_eq_ok h
      cases h
      have hdirectory : dir.root ≠ .relative := hworking hdir
      rwa [Path.join, if_neg habsolute]

/-- The contracts that are found are a directory at the end of a path from the root, by what that
path is resolved to. -/
theorem findContracts_resolved {start : Option String} {s : Session σ} {contracts : Path}
    (h : (findContracts start).result s = .ok contracts) :
    ∃ path q place, Path.root path ≠ .relative ∧ contracts = .ofPlace place ∧
      s.host.tree.resolved path.text = some place ∧
      s.host.tree.status s.host.cwd path.text = .ok (q, .directory) := by
  have hresolved {path : String} {found : Path}
      (hfound : (Files.resolvedDirectory? path).result s = .ok (some found)) :
      ∃ q place, found = .ofPlace place ∧ s.host.tree.resolved path = some place ∧
        s.host.tree.status s.host.cwd path = .ok (q, .directory) := by
    unfold Files.resolvedDirectory? at hfound
    split at hfound
    · cases hfound
    · rw [result_host_bind] at hfound
      split at hfound
      · rename_i q hstatus
        split at hfound
        · rename_i place hplace
          cases hfound
          exact ⟨q, place, rfl, hplace, hstatus⟩
        · cases hfound
      · cases hfound
      · split at hfound <;> cases hfound
  unfold findContracts at h
  obtain ⟨base, hbase, h⟩ := result_bind_eq_ok h
  have hroot := root_of_searchBase hbase
  rw [searchBase_reads] at h
  obtain ⟨inside, hinside, h⟩ := result_bind_eq_ok h
  rw [Files.resolvedDirectory?_reads] at h
  cases inside with
  | some found =>
    cases h
    obtain ⟨q, place, hfound⟩ := hresolved hinside
    exact ⟨base.join (.ofText contractsName), q, place, hroot, hfound⟩
  | none =>
    obtain ⟨beside, hbeside, h⟩ := result_bind_eq_ok h
    cases beside with
    | some found =>
      cases h
      obtain ⟨q, place, hfound⟩ := hresolved hbeside
      exact ⟨base.parent.join (.ofText contractsName), q, place, hroot, hfound⟩
    | none => cases h

/-- The contracts are found under a path from the root. -/
theorem root_of_findContracts {start : Option String} {s : Session σ} {contracts : Path}
    (h : (findContracts start).result s = .ok contracts) : contracts.root = .single := by
  obtain ⟨-, -, place, -, rfl, -⟩ := findContracts_resolved h
  rfl

/-- A move back to a directory that is found succeeds, and it changes the working directory only. -/
theorem leaveTo_of_directory {previous : Path} {s : Session σ}
    (h : s.host.HasDirectory previous.text) :
    ∃ dir n, leaveTo previous s =
      .ok () ⟨{ s.host with cwd := dir }, s.trace ++ [.note n]⟩ := by
  obtain ⟨hnul, dir, hdir⟩ := h
  have hmove := (Files.changeDirectory_eq_ok_iff previous.text s _).2 ⟨hnul, dir, hdir, rfl⟩
  exact ⟨dir, _, (bind_eq_ok_iff _ _ _ _ _).2 ⟨(), _, hmove, rfl⟩⟩

/-- Actions that agree still do if each of them moves back to a directory of its own. -/
theorem andFinally_leaveTo {x y : Act σ α} {s t : Session σ} {previous previous' : Path}
    (hxy : Agree (Host.Elsewhere Q) x y s t)
    (hback : (x.after s).host.HasDirectory previous.text)
    (hback' : (y.after t).host.HasDirectory previous'.text) :
    Agree (Host.Elsewhere Q) (andFinally x (leaveTo previous)) (andFinally y (leaveTo previous'))
      s t := by
  obtain ⟨dir, n, hleave⟩ := leaveTo_of_directory hback
  obtain ⟨dir', n', hleave'⟩ := leaveTo_of_directory hback'
  refine ⟨?_, ?_, ?_⟩
  · rw [result_andFinally, result_andFinally, result_of_ok hleave, result_of_ok hleave']
    exact hxy.result
  · rw [after_andFinally, after_andFinally, after_of_ok hleave, after_of_ok hleave']
    exact { hxy.after.host with }
  · rw [after_andFinally, after_andFinally, after_of_ok hleave, after_of_ok hleave', calls_append,
      calls_append, hxy.after.calls]
    rfl

/-- Actions that agree on hosts that stand apart agree in a directory that is named from the root,
if they leave the files and the hosts are settled. -/
theorem inDirectory_agree {path : Path} (hpath : path.root ≠ .relative) {x y : Act σ α}
    (hxy : Parallel (Host.Elsewhere Q) x y) (hx : ∀ v, (x.after v).host.tree = v.host.tree)
    (hy : ∀ v, (y.after v).host.tree = v.host.tree) {s t : Session σ}
    (hst : Matched (Host.Elsewhere Q) s t) (hs : s.host.Settled) (ht : t.host.Settled) :
    Agree (Host.Elsewhere Q) (inDirectory path x) (inDirectory path y) s t := by
  refine .congr (inDirectory_of_live path x hs.live) (inDirectory_of_live path y ht.live) ?_
  have hmoves : Agree (Host.Elsewhere Q) (Files.changeDirectory path.text)
      (Files.changeDirectory path.text) s t :=
    Files.changeDirectory_steady (seesFrom_elsewhere hpath) (fun _ _ _ h => { h with }) s t hst
  refine hmoves.bind fun u hmove => ?_
  -- Both moves lead into the directory and change nothing else.
  obtain ⟨-, dir, -, hafter⟩ := Files.changeDirectory_ok hmove
  obtain ⟨-, dir', -, hafter'⟩ := Files.changeDirectory_ok (hmoves.result.symm.trans hmove)
  have habsolute : ∀ place, (Path.ofPlace place).root ≠ .relative := fun _ => by simp [Path.ofPlace]
  have hlogged := Parallel.log Log.debug logger ("Entered " ++ path.text) _ _ hmoves.after
  refine hlogged.bind fun _ _ => andFinally_leaveTo (hxy _ _ hlogged.after) ?_ ?_
  · refine hs.found.of_absolute (habsolute _) ?_
    rw [hx, hafter]
    rfl
  · refine ht.found.of_absolute (habsolute _) ?_
    rw [hy, hafter']
    rfl

end Workspace

/-! ## Where builds are asked for -/

/-- A client that builds where it is asked to and leaves the files then. -/
def Client.BuildsInPlace (client : Client σ) : Prop :=
  ∀ package optimize h, (client (.build package optimize) h).host.tree = h.tree ∧
    (client (.build package optimize) h).host.cwd = h.cwd

/-- The calls among events, the builds with the directories in which they are asked for. -/
def Event.placedCalls (es : List (Event σ)) : List (Call × Option Spot) :=
  (exchanges es).map fun x => (x.call, if x.call.isBuild then some x.host.cwd else none)

/-- The same calls with the builds in one directory are the same calls in their places. -/
theorem Event.placedCalls_eq {es fs : List (Event σ)} (hcalls : calls es = calls fs)
    (hbuilds : ∀ x ∈ exchanges es, ∀ y ∈ exchanges fs, x.call.isBuild = true →
      y.call.isBuild = true → x.host.cwd = y.host.cwd) : placedCalls es = placedCalls fs := by
  unfold calls at hcalls
  unfold placedCalls
  generalize exchanges es = xs at *
  generalize exchanges fs = ys at *
  induction xs generalizing ys with
  | nil =>
    rw [List.map_nil, eq_comm, List.map_eq_nil_iff] at hcalls
    rw [hcalls]
  | cons x xs ih =>
    cases ys with
    | nil => cases hcalls
    | cons y ys =>
      obtain ⟨hhead, hrest⟩ := List.cons.inj hcalls
      have hcall : x.call = y.call := hhead
      rw [List.map_cons, List.map_cons, ih ys hrest fun z hz w hw =>
        hbuilds z (List.mem_cons_of_mem _ hz) w (List.mem_cons_of_mem _ hw), hcall]
      cases hbuild : y.call.isBuild with
      | false => rfl
      | true =>
        rw [hbuilds x List.mem_cons_self y List.mem_cons_self (by rw [hcall, hbuild]) hbuild]

namespace Pipeline

variable {p q : Pipeline σ} {request : DeploymentRequest} {s t : Session σ}

/-- Builds in place leave the files. -/
theorem buildAll_leaves (hbuilds : p.client.BuildsInPlace) (v : Session σ) :
    (p.buildAll.after v).host.tree = v.host.tree := by
  have huntouched : p.buildAll.Along Untouched :=
    buildAll_along isWay_untouched log_untouched fun package optimize =>
      ask_untouched_of fun h => (hbuilds package optimize h).1
  exact (huntouched v).1

/-- The contracts of a run are named from the root. -/
theorem root_of_approach {ready : ResolvedIdentity × Path}
    (h : (p.approach request).result s = .ok ready) : ready.2.root = .single := by
  rw [approach_eq_front] at h
  obtain ⟨admin, -, h⟩ := result_bind_eq_ok h
  obtain ⟨_, -, h⟩ := result_bind_eq_ok h
  obtain ⟨contracts, hfound, h⟩ := result_bind_eq_ok h
  cases h
  exact Workspace.root_of_findContracts hfound

/-- The artifacts of contracts that are named from the root are named from the root. -/
theorem root_of_placed {contracts : Path} (hroot : contracts.root ≠ .relative) (a : Artifact) :
    (Path.ofText (placed contracts a).wasmPath).root ≠ .relative := by
  refine Path.root_ofText (Path.head?_text ?_)
  unfold Path.join
  split
  · rename_i habsolute
    simpa [Path.isAbsolute] using habsolute
  · exact hroot

/-- Every build is asked for in the directory that the path of the contracts leads to. -/
theorem status_of_build (hbuilds : p.client.BuildsInPlace) {x : Exchange σ}
    (hx : x ∈ exchanges ((p.run request).events s)) (hbuild : x.call.isBuild = true) :
    ∃ ready, (p.approach request).result s = .ok ready ∧
      ((p.approach request).after s).host.tree.status ((p.approach request).after s).host.cwd
        ready.2.text = .ok (x.host.cwd, .directory) := by
  rw [exchanges_run] at hx
  obtain ⟨ready, hready⟩ := approach_ok_of_build hx hbuild
  refine ⟨ready, hready, ?_⟩
  have hstays : p.buildAll.Along Stays :=
    buildAll_along isWay_stays log_stays fun package optimize =>
      ask_stays_of fun h => (hbuilds package optimize h).2
  have hunbuilt : ∀ h : x.call.isBuild = false, False := by simp [hbuild]
  rw [exchanges_goLive, exchanges_prepare, hready] at hx
  rcases List.mem_append.1 hx with hx | hx
  · rcases List.mem_append.1 hx with hx | hx
    · exact (hunbuilt ((approach_unbuilt p request s).of_mem hx)).elim
    · rcases Workspace.exchanges_inDirectory (buildAll_grows p) ready.2
        ((p.approach request).after s) with hnone | ⟨dir, v, hdir, hv, hbody⟩
      · simp only [hnone] at hx
        cases hx
      · simp only [hbody] at hx
        obtain ⟨-, es, hes, hcwd⟩ := hstays v
        rw [events_eq hes] at hx
        rw [hdir, hcwd x hx, hv]
  · cases hprepared : (p.prepare request).result s with
    | error e => rw [hprepared] at hx; cases hx
    | ok found =>
      rw [hprepared] at hx
      exact (hunbuilt ((establish_unbuilt p request found.1 found.2 _).of_mem hx)).elim

/-! ## The run -/

/-- Two pipelines whose clients and checks answer alike wherever they stand, and move where they
like. Both build where they are asked to. -/
structure AnswersAnywhere (Q : σ → σ → Prop) (p q : Pipeline σ) : Prop where
  twins : p.Twins (Host.Elsewhere Q) q
  checks : p.ChecksAlike (Host.Elsewhere Q) q
  fund : ∀ identity network h k, Host.Elsewhere Q h k →
    (p.client (.fund identity network) h).answer = (q.client (.fund identity network) k).answer ∧
      Host.Elsewhere Q (p.client (.fund identity network) h).host
        (q.client (.fund identity network) k).host
  first : p.client.BuildsInPlace
  second : q.client.BuildsInPlace

namespace AnswersAnywhere

variable (hpq : p.AnswersAnywhere Q q)
include hpq

theorem fundParallel (request : DeploymentRequest) :
    Parallel (Host.Elsewhere Q) (p.fund request) (q.fund request) := by
  unfold Pipeline.fund Identity.ensureFunded
  split
  · refine .bind (.log _ _ _) fun _ => .bind (.attempt _ (.ask (hpq.fund _ _))) fun answer => ?_
    split
    · exact .pure _
    · exact .bind (.log _ _ _) fun _ => .pure _
  · exact .bind (.log _ _ _) fun _ => .pure _

variable {root : String} (hroot : p.contractsRoot = some root)
  (habsolute : (Path.ofText root).root ≠ .relative) (hstate : p.statePath.root ≠ .relative)
include hroot habsolute hstate

/-- Before the builds nothing depends on where the runs stand. -/
theorem approach (request : DeploymentRequest) :
    Parallel (Host.Elsewhere Q) (p.approach request) (q.approach request) := by
  rw [approach_eq_front, approach_eq_front, ← hpq.twins.contractsRoot, hroot]
  have hfund : Parallel (Host.Elsewhere Q) (p.fund request >>= fun _ => pure ())
      (q.fund request >>= fun _ => pure ()) := .bind (hpq.fundParallel request) fun _ => .pure _
  refine .bind (hpq.twins.front (seesFrom_elsewhere hstate) hfund) fun admin => ?_
  refine .bind (hpq.checks.checkNetwork _) fun _ => ?_
  refine .bind (Workspace.findContracts_steady (seesFrom_elsewhere habsolute)) fun _ => .pure _

/-- Nothing that goes live depends on where the runs stand, if they find their ways back from the
builds. -/
theorem goLive (request : DeploymentRequest) (hst : Matched (Host.Elsewhere Q) s t)
    (hs : ((p.approach request).after s).host.Settled)
    (ht : ((q.approach request).after t).host.Settled) :
    Agree (Host.Elsewhere Q) (p.goLive request) (q.goLive request) s t := by
  have happroach := hpq.approach hroot habsolute hstate request s t hst
  have hprepare : Agree (Host.Elsewhere Q) (p.prepare request) (q.prepare request) s t := by
    refine happroach.bind fun ready hready => ?_
    have hcontracts : ready.2.root ≠ .relative := by
      rw [root_of_approach hready]
      decide
    have hbuilds := Workspace.inDirectory_agree hcontracts hpq.twins.buildAll
      (buildAll_leaves hpq.first) (buildAll_leaves hpq.second) happroach.after hs ht
    exact hbuilds.bind fun _ _ => Parallel.pure ready _ _ hbuilds.after
  refine hprepare.bind fun ready hready => ?_
  obtain ⟨found, hfound, hbuilt⟩ := result_bind_eq_ok hready
  obtain ⟨_, -, hsame⟩ := result_bind_eq_ok hbuilt
  cases hsame
  have hcontracts : ready.2.root ≠ .relative := by
    rw [root_of_approach hfound]
    decide
  have hestablish := hpq.twins.establish request ready.1 fun a =>
    seesFrom_elsewhere (root_of_placed hcontracts a)
  exact hestablish.bind (fun deployed => .pure (ready.1, deployed)) _ _ hprepare.after

end AnswersAnywhere

/-- A run whose contracts and state file are named from the root makes the same calls, its builds in
the same directory, ends with the same result and leaves the same files wherever it begins and
wherever its client moves to, if the directory that it goes back to from the builds is there and
found under its path. -/
theorem run_anywhere (hpq : p.AnswersAnywhere Q q) {root : String}
    (hroot : p.contractsRoot = some root) (habsolute : (Path.ofText root).isAbsolute = true)
    (hstate : p.statePath.isAbsolute = true) (request : DeploymentRequest) {h k : Host σ}
    (hhk : Host.Elsewhere Q h k) (before : List (Event σ))
    (hs : ((p.approach request).after ⟨h, before⟩).host.Settled)
    (ht : ((q.approach request).after ⟨k, before⟩).host.Settled) :
    placedCalls ((p.run request).events ⟨h, before⟩) =
      placedCalls ((q.run request).events ⟨k, before⟩) ∧
    (p.run request).result ⟨h, before⟩ = (q.run request).result ⟨k, before⟩ ∧
    ((p.run request).after ⟨h, before⟩).host.tree =
      ((q.run request).after ⟨k, before⟩).host.tree := by
  have habsolute : (Path.ofText root).root ≠ .relative := by simpa [Path.isAbsolute] using habsolute
  have hstate : p.statePath.root ≠ .relative := by simpa [Path.isAbsolute] using hstate
  have hst : Matched (Host.Elsewhere Q) (σ := σ) ⟨h, before⟩ ⟨k, before⟩ := ⟨hhk, rfl⟩
  have happroach := hpq.approach hroot habsolute hstate request _ _ hst
  have hrun : Agree (Host.Elsewhere Q) (p.run request) (q.run request) ⟨h, before⟩ ⟨k, before⟩ := by
    have hgoLive := hpq.goLive hroot habsolute hstate request hst hs ht
    rw [run_eq, run_eq]
    exact hgoLive.bind fun live _ =>
      hpq.twins.save (seesFrom_elsewhere hstate) request live.1 live.2 _ _ hgoLive.after
  have hcalls := hrun.calls hst (run_grows p request) (run_grows q request)
  refine ⟨placedCalls_eq hcalls fun x hx y hy hbuild hbuild' => ?_, hrun.result,
    hrun.after.host.tree⟩
  -- Both runs found the same contracts on the same files, under a path from the root.
  obtain ⟨ready, hready, hdir⟩ := status_of_build hpq.first hx hbuild
  obtain ⟨ready', hready', hdir'⟩ := status_of_build hpq.second hy hbuild'
  obtain rfl : ready = ready' := Except.ok.inj (hready.symm.trans (happroach.result.trans hready'))
  have hcontracts : ready.2.root ≠ .relative := by
    rw [root_of_approach hready]
    decide
  rw [(seesFrom_elsewhere hcontracts).status happroach.after.host, hdir'] at hdir
  exact (Prod.mk.inj (Except.ok.inj hdir)).1.symm

/-- A run that begins settled is settled when it has found the contracts, if its client and its
check move to nowhere else. -/
theorem approach_settled
    (hclient : ∀ call h, h.Settled → (p.client call h).host.Settled)
    (hcheck : ∀ check ∈ p.check, ∀ profile h, h.Settled → (check profile h).host.Settled)
    (request : DeploymentRequest) (hs : s.host.Settled) :
    ((p.approach request).after s).host.Settled := by
  have hway : IsWay (σ := σ) fun s t => s.host.Settled → t.host.Settled :=
    ⟨fun _ h => h, fun h g hsettled => g (h hsettled)⟩
  have hask : ∀ call, (ask p.client call).Along fun s t => s.host.Settled → t.host.Settled :=
    fun call v hv => by
      rw [after_ask]
      exact hclient call v.host hv
  exact approach_along hway (fun _ _ _ _ h => h)
    (fun _ => checkNetwork_along hway fun check hmem v hv => hcheck check hmem _ v.host hv)
    (hask _) (fun _ => hask _) s hs

/-- The pipeline without a compiler, with a client that goes to the root whenever it is asked for
anything but a build. -/
def wandering : Pipeline Unit :=
  { compilerless with
    client := fun call h => ⟨(compilerless.client call h).answer,
      if call.isBuild then h else { h with cwd := .live [] }, []⟩ }

/-- A client that goes elsewhere before the builds leads to the same end. -/
theorem wandering_ends_alike :
    (compilerless.run mainnetRequest).result ⟨{ deepHost with cwd := .live ["contracts"] }, []⟩ =
      (wandering.run mainnetRequest).result ⟨{ deepHost with cwd := .live [] }, []⟩ := by
  have hpq : compilerless.AnswersAnywhere (fun _ _ => True) wandering :=
    { twins := ⟨rfl, rfl, rfl, fun call _ h k hk => ⟨rfl, by
        unfold wandering
        dsimp only
        split
        · exact hk
        · exact { hk with }⟩⟩
      checks := ⟨rfl, nofun⟩
      fund := fun _ _ h k hk => ⟨rfl, { hk with }⟩
      first := fun _ _ _ => ⟨rfl, rfl⟩
      second := fun _ _ _ => ⟨rfl, rfl⟩ }
  have hapart : Host.Elsewhere (fun _ _ => True) { deepHost with cwd := .live ["contracts"] }
      { deepHost with cwd := .live [] } := ⟨rfl, rfl, rfl, trivial⟩
  have hroot : compilerless.contractsRoot = some "/" := rfl
  refine (run_anywhere hpq hroot (by decide) (by decide) mainnetRequest hapart [] ?_ ?_).2.1
  · exact approach_settled (fun _ _ h => h) (fun _ hmem => by cases hmem) _
      ⟨rfl, by decide, .live ["contracts"], rfl⟩
  · refine approach_settled (fun call h hsettled => ?_) (fun _ hmem => by cases hmem) _
      (.of_root rfl)
    unfold wandering
    dsimp only
    split
    · exact hsettled
    · exact .of_root rfl

/-- A run without a compiler ends in one way from the root and in another one from a directory whose
path is too long for the system, though both stand, and the client answers anywhere and leaves
everything. -/
theorem run_depends_on_start :
    compilerless.AnswersAnywhere (fun _ _ => True) compilerless ∧ compilerless.LeavesFiles ∧
    deepHost.Stands ∧
    ¬ (compilerless.run mainnetRequest).result ⟨deepHost, []⟩ =
      (compilerless.run mainnetRequest).result ⟨{ deepHost with cwd := .live [] }, []⟩ := by
  have hp : compilerless.LeavesFiles := leavesFiles_answering rfl rfl
  refine ⟨⟨⟨rfl, rfl, rfl, fun _ _ _ _ hk => ⟨rfl, hk⟩⟩, ⟨rfl, nofun⟩, fun _ _ _ _ hk => ⟨rfl, hk⟩,
    fun _ _ _ => ⟨rfl, rfl⟩, fun _ _ _ => ⟨rfl, rfl⟩⟩, hp, deepHost_stands, fun hsame => ?_⟩
  obtain ⟨⟨ready, hready⟩, -⟩ := compilerless_builds (.inr rfl)
  obtain ⟨d, hd, hunstaged⟩ := run_of_long hready deepHost_home
  obtain ⟨-, x, hx, hbuild, hfails⟩ := compilerless_builds (.inl rfl)
  obtain ⟨g, hg, htold⟩ := run_ends_told hx hfails
  have hthere : (compilerless.client x.call x.host).host.HasDirectory
      (compilerless.home mainnetRequest ⟨{ deepHost with cwd := .live [] }, []⟩).text := by
    rw [home_eq hp]
    exact ⟨by decide, .live [], rfl⟩
  obtain ⟨hkind, -⟩ := (htold.told fun _ => hthere).of_build hbuild rfl
  -- The one failure is of the stage, and the other one of none.
  cases hd.symm.trans (hsame.trans hg)
  unfold Failure.isA at hunstaged
  rw [hkind] at hunstaged
  cases hunstaged

end Pipeline

end SorobanDeploy
