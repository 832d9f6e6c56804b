import SorobanDeploy.Proofs.Pipeline.Gate
import SorobanDeploy.Proofs.Session.Raised

/-!
# Failed calls end a run

Each stage of a run raises what its calls of the client fail with. A build that fails is told only
if the run then gets back from the contracts directory: a move back that fails hides the failure of
the build. So every call that fails is told by how the run ends, except for builds that fail while no
directory is found at home, where the run goes back to (`Pipeline.run_attributes`). The path of home
may be too long for the system although the directory stands (`Pipeline.compilerless_hidden`).

A run that looks for the contracts from its working directory gets back always, because it would not
have found them under a path that the system does not take (`Pipeline.approach_returns`). It ends in
the working directory that it began in (`Pipeline.run_cwd`), and raises what its calls fail with
(`Pipeline.goLive_raises_here`).
-/

namespace SorobanDeploy

open Act Event

variable {σ : Type}

/-! ## The way back -/

namespace Workspace

/-- The contracts are found from a working directory that is there, and whose path is not too long
for the system. -/
theorem findContracts_here {s : Session σ} {contracts : Path} (hnamed : s.host.Named)
    (h : (findContracts none).result s = .ok contracts) : s.host.cwd.lost = 0 ∧
      (Path.ofPlace s.host.cwd.place).text.utf8ByteSize < Tree.pathLimit := by
  unfold findContracts searchBase at h
  obtain ⟨base, hbase, h⟩ := result_bind_eq_ok h
  rw [Files.workingDirectory_reads] at h
  obtain ⟨hlive, rfl⟩ := Files.result_workingDirectory s hbase
  refine ⟨hlive, Nat.lt_of_not_le fun hlong => ?_⟩
  -- The path of a directory beside would not be looked up once this one is refused.
  obtain ⟨inside, hinside, -⟩ := result_bind_eq_ok h
  have hjoin : (Path.ofPlace s.host.cwd.place).join (.ofText contractsName) =
      .ofPlace (s.host.cwd.place ++ [contractsName]) := rfl
  rw [hjoin] at hinside
  have hclean : Files.hasNul (Path.ofPlace (s.host.cwd.place ++ [contractsName])).text = false := by
    refine Path.hasNul_ofPlace fun name hname => ?_
    rcases List.mem_append.1 hname with hname | hname
    · exact hnamed.clean name hname
    · rw [List.mem_singleton.1 hname]
      decide
  have hlonger : Tree.pathLimit ≤
      (Path.ofPlace (s.host.cwd.place ++ [contractsName])).text.utf8ByteSize :=
    Nat.le_trans hlong (Path.size_text_le (by decide) (List.sublist_append_left _ _))
  have hrefused := Tree.status_of_long s.host.tree s.host.cwd hlonger
  unfold Files.resolvedDirectory? at hinside
  rw [hclean, if_neg Bool.false_ne_true, result_host_bind] at hinside
  simp only [hrefused] at hinside
  cases hinside

end Workspace

/-- An expected failure of a build is the cause of the failure that it becomes. -/
theorem Failure.Becomes.of_build {e g : Failure} {call : Call} (h : e.Becomes call g)
    (hbuild : call.isBuild = true) (hexpected : e.isExpected = true) :
    g.kind = .build ∧ g.cause = some e := by
  cases call with
  | build package optimize =>
    simp only [Failure.Becomes, Call.stage?, hexpected, if_true] at h
    exact h
  | _ => cases hbuild

namespace Pipeline

variable {p : Pipeline σ} {request : DeploymentRequest} {s : Session σ}

/-- The contracts are looked for on the files and in the working directory that a run begins
with. -/
theorem approach_found (hp : p.LeavesFiles) {ready : ResolvedIdentity × Path}
    (h : (p.approach request).result s = .ok ready) :
    ∃ t : Session σ, t.host.tree = s.host.tree ∧ t.host.cwd = s.host.cwd ∧
      (Workspace.findContracts p.contractsRoot).result t = .ok ready.2 := by
  rw [approach_eq_front] at h
  obtain ⟨admin, hadmin, h⟩ := result_bind_eq_ok h
  obtain ⟨_, hcheck, h⟩ := result_bind_eq_ok h
  obtain ⟨contracts, hfound, h⟩ := result_bind_eq_ok h
  cases h
  obtain ⟨htree, -⟩ := front_untouched hp request s
  obtain ⟨hcwd, -⟩ := front_apart hp request s
  exact ⟨_, (checkNetwork_untouched hp _ _).1.trans htree,
    (checkNetwork_apart hp _ _).1.trans hcwd, hfound⟩

/-- Whoever finds the contracts from a working directory that stands where its path says finds the
way back to it. -/
theorem approach_returns (hp : p.LeavesFiles) (hroot : p.contractsRoot = none)
    (hstands : s.host.Stands) (hnamed : s.host.Named) {ready : ResolvedIdentity × Path}
    (h : (p.approach request).result s = .ok ready) : s.host.cwd.lost = 0 ∧
      ∀ dir, s.host.tree.status dir (Path.ofPlace s.host.cwd.place).text =
        .ok (.live s.host.cwd.place, .directory) := by
  obtain ⟨t, -, hcwd, hfound⟩ := approach_found hp h
  rw [hroot] at hfound
  obtain ⟨hlive, hpath⟩ := Workspace.findContracts_here
    ⟨by rw [hcwd]; exact hnamed.short, by rw [hcwd]; exact hnamed.clean⟩ hfound
  rw [hcwd] at hlive hpath
  exact ⟨hlive, hstands.status hnamed hpath⟩

/-- A run that looks for the contracts from its working directory ends there, whether it succeeds or
not. -/
theorem run_cwd (hp : p.LeavesFiles) (hroot : p.contractsRoot = none) (hstands : s.host.Stands)
    (hnamed : s.host.Named) (request : DeploymentRequest) :
    ((p.run request).after s).host.cwd = s.host.cwd := by
  cases hready : (p.approach request).result s with
  | error e =>
    rw [after_run_of_unready hready]
    exact (approach_apart hp request s).1
  | ok ready =>
    obtain ⟨hlive, hback⟩ := approach_returns hp hroot hstands hnamed hready
    have hway : ∀ dir, s.host.wayBack dir = s.host.cwd := by
      intro dir
      unfold Host.wayBack
      dsimp only
      rw [Path.hasNul_ofPlace hnamed.clean, if_neg Bool.false_ne_true, hback dir]
      simp only
      rw [Spot.live, ← hlive]
    obtain ⟨es, -, hbuilt, hunbuilt⟩ := run_turned hp request s
    by_cases hany : ∃ x ∈ exchanges es, x.call.isFirstBuild = true
    · obtain ⟨x, hx, hbuild⟩ := hany
      rw [hbuilt x hx hbuild, hway]
    · exact hunbuilt fun x hx => Bool.eq_false_iff.2 fun hbuild => hany ⟨x, hx, hbuild⟩

/-! ## What the stages raise -/

theorem resolveIdentity_raises (p : Pipeline σ) (request : DeploymentRequest) (s : Session σ) :
    (p.resolveIdentity request).Raises s := by
  refine .bind_silent (Raises.explain_ask (fun _ => by rfl) s) fun raw => ?_
  dsimp only
  split
  · exact .refuse isWay_silent _
  · exact .pure isWay_silent _

theorem fund_raises (p : Pipeline σ) (request : DeploymentRequest) (s : Session σ) :
    (p.fund request).Raises s := by
  unfold fund Identity.ensureFunded
  split
  · refine .silent_bind (log_silent _ _ _) fun _ _ => ?_
    refine .bind_silent (Raises.attempt_fund _ _ _ _) fun answer => ?_
    split
    · exact .pure isWay_silent _
    · exact .bind isWay_silent (log_silent _ _ _) fun _ => .pure isWay_silent _
  · exact .of_silent (.bind isWay_silent (log_silent _ _ _) fun _ => .pure isWay_silent _) s

theorem checkNetwork_raises (p : Pipeline σ) (profile : NetworkProfile) (s : Session σ) :
    (p.checkNetwork profile).Raises s :=
  .of_asks_nothing (checkNetwork_along (isWay_asks _) fun _ _ _ => ⟨_, rfl, by simp⟩) s

theorem approach_raises (p : Pipeline σ) (request : DeploymentRequest) (s : Session σ) :
    (p.approach request).Raises s := by
  rw [approach_eq]
  refine .silent_bind (announce_silent p request) fun _ _ => ?_
  refine .bind (resolveIdentity_raises p request _) fun admin _ => ?_
  refine .silent_bind (log_silent _ _ _) fun _ _ => ?_
  refine .bind (fund_raises p request _) fun _ _ => ?_
  refine .bind_silent (checkNetwork_raises p _ _) fun _ => ?_
  exact .bind isWay_silent (.of_reads isWay_silent (Workspace.findContracts_reads _)) fun _ =>
    .pure isWay_silent _

theorem optimizeAll_ends (client : Client σ) (artifacts : List Artifact) (s : Session σ) :
    (optimizeAll client artifacts).Ends
      (fun y e g h => e.Becomes y.call g ∧ h = (client y.call y.host).host) s := by
  induction artifacts generalizing s with
  | nil => exact .of_silent (.pure isWay_silent _) s
  | cons a rest ih => exact (Ends.explain_ask (fun _ => by rfl) s).bind fun _ _ => ih _

/-- The builds raise what one of them fails with, on the host that it leaves. -/
theorem buildAll_ends (p : Pipeline σ) (s : Session σ) :
    p.buildAll.Ends (fun y e g h => e.Becomes y.call g ∧ h = (p.client y.call y.host).host) s := by
  refine .silent_bind (log_silent _ _ _) fun _ _ => ?_
  refine .bind (Ends.explain_ask (fun _ => by rfl) _) fun _ _ => ?_
  exact .silent_bind (log_silent _ _ _) fun _ _ => optimizeAll_ends _ _ _

/-! ## How a run ends with what failed -/

/-- How the failure of a call is told at the end of a run that goes home from the builds. A build
that fails on the way is told if there is a directory at home when it has failed, and otherwise the
failure of the move home is told in its place. -/
structure ToldFrom (p : Pipeline σ) (home : Path) (y : Exchange σ) (e g : Failure) : Prop where
  told : (y.call.isBuild = true → (p.client y.call y.host).host.HasDirectory home.text) →
    e.Becomes y.call g
  hidden : y.call.isBuild = true → ¬ (p.client y.call y.host).host.HasDirectory home.text →
    (Files.changeDirectory home.text).result ⟨(p.client y.call y.host).host, []⟩ = .error g

/-- Whatever is no build is told. -/
theorem ToldFrom.of_unbuilt {home : Path} {y : Exchange σ} {e g : Failure}
    (hunbuilt : y.call.isBuild = false) (hbecomes : e.Becomes y.call g) :
    p.ToldFrom home y e g where
  told _ := hbecomes
  hidden hbuild := by
    rw [hunbuilt] at hbuild
    cases hbuild

/-- What fails in another directory is told from the directory that the move back leads to. -/
theorem inDirectory_ends (p : Pipeline σ) (path : Path) (s : Session σ) :
    (Workspace.inDirectory path p.buildAll).Ends
      (fun y e g _ => p.ToldFrom (.ofPlace s.host.cwd.place) y e g) s := by
  have hbuilds (v : Session σ) : p.buildAll.Ends (fun y e g h => y.call.isBuild = true ∧
      e.Becomes y.call g ∧ h = (p.client y.call y.host).host) v :=
    (buildAll_ends p v).mono fun y hy _ _ _ h => ⟨(buildAll_builds p v).of_mem hy, h⟩
  by_cases hlive : s.host.cwd.lost = 0
  · refine .congr (Workspace.inDirectory_of_live path p.buildAll hlive) ?_
    refine .silent_bind (.bind isWay_silent (.of_reads isWay_silent (Files.request_reads _ _))
      setCwd_silent) fun _ _ => ?_
    refine .silent_bind (log_silent _ _ _) fun _ _ => ?_
    refine (hbuilds _).andFinally
      (Workspace.leaveTo_along isWay_silent log_silent setCwd_silent _) ?_ ?_
    · -- The move back succeeded, so there is a directory to go back to.
      rintro y e g ⟨-, hbecomes, hhost⟩ hback
      rw [Workspace.result_leaveTo, Files.result_changeDirectory_eq_ok_iff, hhost] at hback
      exact ⟨fun _ => hbecomes, fun _ hnone => absurd hback hnone⟩
    · -- The move back failed, and with the failure that it has on the host of the failed build.
      rintro y e g d ⟨hbuild, -, hhost⟩ hback
      rw [Workspace.result_leaveTo,
        Files.result_changeDirectory_congr (t := ⟨(p.client y.call y.host).host, []⟩) hhost]
        at hback
      refine ⟨fun hthere => ?_, fun _ _ => hback⟩
      cases hback.symm.trans (Files.result_changeDirectory_eq_ok_iff.2 (hthere hbuild))
  · have hfails := Workspace.inDirectory_of_lost path p.buildAll hlive
    exact .congr (y := Act.fail _) hfails (.of_silent (.fail isWay_silent _) s)

theorem deployOne_raises (p : Pipeline σ) (request : DeploymentRequest)
    (live : List DeployedContract) (a : Artifact) (s : Session σ) :
    (p.deployOne request live a).Raises s := by
  refine .silent_bind (.of_reads isWay_silent (Files.isFile_reads _)) fun found _ => ?_
  split
  · refine .silent_bind (log_silent _ _ _) fun _ _ => ?_
    refine .bind_silent (Raises.explain_ask (fun _ => by rfl) _) fun answer => ?_
    split
    · exact .refuse isWay_silent _
    · exact .bind isWay_silent (log_silent _ _ _) fun _ => .pure isWay_silent _
  · exact .of_silent (.refuse isWay_silent _) _

theorem deployFrom_raises (p : Pipeline σ) (request : DeploymentRequest)
    (live : List DeployedContract) (artifacts : List Artifact) (s : Session σ) :
    (p.deployFrom request live artifacts).Raises s := by
  induction artifacts generalizing live s with
  | nil => exact .of_silent (.pure isWay_silent _) s
  | cons a rest ih => exact (deployOne_raises p request live a s).bind fun contract _ => ih _ _

theorem initializeAdmin_raises (p : Pipeline σ) (request : DeploymentRequest)
    (admin : ResolvedIdentity) (deployed : List DeployedContract) (s : Session σ) :
    (p.initializeAdmin request admin deployed).Raises s := by
  refine .silent_bind (log_silent _ _ _) fun _ _ => ?_
  split
  · exact .of_silent (.refuse isWay_silent _) _
  · split
    · exact .of_silent (.refuse isWay_silent _) _
    · exact .bind_silent (Raises.explain_ask (fun _ => by rfl) _) fun _ => log_silent _ _ _

theorem establish_raises (p : Pipeline σ) (request : DeploymentRequest) (admin : ResolvedIdentity)
    (contracts : Path) (s : Session σ) : (p.establish request admin contracts).Raises s := by
  refine .bind (.silent_bind (log_silent _ _ _) fun _ _ => deployFrom_raises p request [] _ _)
    fun deployed _ => ?_
  exact .bind_silent (initializeAdmin_raises p request admin deployed _) fun _ =>
    .pure isWay_silent _

/-- The path that a run goes back to from the builds: that of its working directory when it looks
for the contracts. -/
def home (p : Pipeline σ) (request : DeploymentRequest) (s : Session σ) : Path :=
  .ofPlace ((p.approach request).after s).host.cwd.place

/-- A client that leaves the working directory leaves the home of a run where it begins. -/
theorem home_eq (hp : p.LeavesFiles) (request : DeploymentRequest) (s : Session σ) :
    p.home request s = .ofPlace s.host.cwd.place := by
  unfold home
  rw [(approach_apart hp request s).1]

/-- Before it saves, a run tells what its calls fail with from where it goes back to. -/
theorem goLive_ends (p : Pipeline σ) (request : DeploymentRequest) (s : Session σ) :
    (p.goLive request).Ends (fun y e g _ => p.ToldFrom (p.home request s) y e g) s := by
  refine .bind (.bind ?_ fun ready _ => ?_) fun ready _ => ?_
  · exact (approach_raises p request s).mono fun y hy _ _ _ hbecomes =>
      .of_unbuilt ((approach_unbuilt p request s).of_mem hy) hbecomes
  · exact .bind_silent (inDirectory_ends p ready.2 _) fun _ => .pure isWay_silent _
  · refine .bind_silent ?_ fun _ => .pure isWay_silent _
    exact (establish_raises p request ready.1 ready.2 _).mono fun y hy _ _ _ hbecomes =>
      .of_unbuilt ((establish_unbuilt p request ready.1 ready.2 _).of_mem hy) hbecomes

/-- A run asks for a build only after it has found the contracts. -/
theorem approach_ok_of_build {x : Exchange σ} (hx : x ∈ exchanges ((p.goLive request).events s))
    (hbuild : x.call.isBuild = true) : ∃ ready, (p.approach request).result s = .ok ready := by
  cases hready : (p.approach request).result s with
  | ok ready => exact ⟨ready, rfl⟩
  | error e =>
    have hgoLive : (p.goLive request).after s = (p.approach request).after s := by
      unfold goLive prepare
      rw [after_bind, result_bind, hready]
      simp only
      rw [after_bind, hready]
    have hsame : (p.goLive request).events s = (p.approach request).events s := by
      unfold events
      rw [hgoLive]
    rw [hsame] at hx
    rw [(approach_unbuilt p request s).of_mem hx] at hbuild
    cases hbuild

/-- A run ends with what is told of every call in it that fails. -/
theorem run_ends_told {x : Exchange σ} {e : Failure} (hx : x ∈ exchanges ((p.run request).events s))
    (hfails : x.Fails e) :
    ∃ g, (p.run request).result s = .error g ∧ p.ToldFrom (p.home request s) x e g := by
  rw [exchanges_run] at hx
  obtain ⟨g, hg, htold⟩ := (goLive_ends p request s).each x hx e hfails
  exact ⟨g, (run_of_goLive_error hg).1, htold⟩

/-- Every call of the client that fails is told by how the run ends, if it is no build, or if it is
one and there is still a directory at home, where the run goes back to: an expected failure of the
client as the cause of a failure of the stage of the call, any other one as it is. A build that
fails when there is none is hidden by the failure to go home. -/
theorem run_attributes {x : Exchange σ} {e : Failure}
    (hx : x ∈ exchanges ((p.run request).events s)) (hfails : x.Fails e) :
    ∃ g, (p.run request).result s = .error g ∧
      ((x.call.isBuild = true →
          (p.client x.call x.host).host.HasDirectory (p.home request s).text) →
        e.Becomes x.call g) ∧
      (x.call.isBuild = true →
        ¬ (p.client x.call x.host).host.HasDirectory (p.home request s).text →
        (Files.changeDirectory (p.home request s).text).result
          ⟨(p.client x.call x.host).host, []⟩ = .error g) := by
  obtain ⟨g, hg, htold, hhidden⟩ := run_ends_told hx hfails
  exact ⟨g, hg, htold, hhidden⟩

/-- A run that looks for the contracts from its working directory raises what its calls fail
with. -/
theorem goLive_raises_here (hp : p.LeavesFiles) (hroot : p.contractsRoot = none)
    (hstands : s.host.Stands) (hnamed : s.host.Named) (request : DeploymentRequest) :
    (p.goLive request).Raises s := by
  refine (goLive_ends p request s).mono fun y hy e g _ htold => htold.told fun hbuild => ?_
  -- The way home was found when the contracts were, and no call has changed the files since.
  obtain ⟨ready, hready⟩ := approach_ok_of_build hy hbuild
  obtain ⟨-, hback⟩ := approach_returns hp hroot hstands hnamed hready
  have htree : (p.client y.call y.host).host.tree = s.host.tree :=
    (hp.client _ _).1.trans (tree_of_mem_run hp (by rwa [exchanges_run]))
  rw [home_eq hp]
  exact ⟨Path.hasNul_ofPlace hnamed.clean, _, by rw [htree]; exact hback _⟩

/-- A run that has found the contracts ends with a refusal of the system if the path that it goes
back to is too long for the system, whatever the client answers. -/
theorem run_of_long {ready : ResolvedIdentity × Path}
    (hready : (p.approach request).result s = .ok ready)
    (hlong : Tree.pathLimit ≤ (p.home request s).text.utf8ByteSize) :
    ∃ g, (p.run request).result s = .error g ∧ g.isA .pipeline = false := by
  obtain ⟨g, hg, hunstaged⟩ := Workspace.inDirectory_of_long ready.2 p.buildAll hlong
  refine ⟨g, ?_, hunstaged⟩
  rw [run_eq, goLive, prepare, result_bind, result_bind, result_bind_of_ok _ hready, result_bind,
    hg]

/-- A run that enters the contracts directory asks for the first build. -/
theorem exists_firstBuild (hp : p.LeavesFiles) {ready : ResolvedIdentity × Path} {dir : Spot}
    (hready : (p.approach request).result s = .ok ready) (hlive : s.host.cwd.lost = 0)
    (hnul : Files.hasNul ready.2.text = false)
    (hdir : s.host.tree.status s.host.cwd ready.2.text = .ok (dir, .directory)) :
    ∃ x ∈ exchanges ((p.run request).events s), x.call.isFirstBuild = true := by
  obtain ⟨hcwd, -⟩ := approach_apart hp request s
  obtain ⟨htree, -⟩ := approach_untouched hp request s
  obtain ⟨v, n, fs, -, -, htrace, -⟩ := inDirectory_entered (p := p) hp
    (s := (p.approach request).after s) (by rw [hcwd]; exact hlive) hnul
    (by rw [htree, hcwd]; exact hdir)
  obtain ⟨x, hx, hfirst⟩ := exchanges_buildAll p v
  refine ⟨x, ?_, hfirst⟩
  rw [exchanges_run, exchanges_goLive, exchanges_prepare, hready]
  refine List.mem_append_left _ (List.mem_append_right _ ?_)
  simp only
  rw [events_eq htrace, exchanges_append, exchanges_note_cons]
  exact List.mem_append_left _ hx

/-- Each call of a run is answered by its client. -/
theorem run_answered (p : Pipeline σ) (request : DeploymentRequest) :
    (p.run request).Along (Asks fun x => x.answer = (p.client x.call x.host).answer) := by
  have hlog : ∀ level logger message, (log level logger message : Act σ Unit).Along
      (Asks fun x => x.answer = (p.client x.call x.host).answer) :=
    fun _ _ _ => (log_silent _ _ _).asks _
  rw [run_eq]
  refine .bind (isWay_asks _) ?_ fun live => ?_
  · refine goLive_along (isWay_asks _) hlog (fun dir => (setCwd_silent dir).asks _)
      (fun _ => ask_asks fun _ => rfl) (fun _ => ?_) request
    exact checkNetwork_along (isWay_asks _) fun _ _ _ => ⟨_, rfl, by simp⟩
  · exact save_along (isWay_asks _) hlog (fun t => (setTree_silent t).asks _) request _ _

/-! ## A failure that is hidden -/

/-- A pipeline whose client can resolve an identity, but has no compiler to build with. -/
def compilerless : Pipeline Unit where
  client := .answering fun call => match call with
    | .resolveAddress _ => .ok (some "GADMIN")
    | _ => .error (.plain .system "no compiler")
  statePath := .ofText "/state"
  contractsRoot := some "/"
  artifacts := Artifact.standard
  check := none

/-- The deep directory stands where its path says. -/
theorem deepHost_stands : deepHost.Stands where
  names name hname := by
    rw [List.eq_of_mem_replicate hname]
    exact ⟨by decide, by decide, by decide⟩
  directories k name hk := by
    have hd : ∀ m ∈ k ++ [name], m = "d" := fun m hm =>
      List.eq_of_mem_replicate (hk.subset hm)
    have hne : ∀ m : String, m ≠ "d" → [m] ≠ k ++ [name] := by
      rintro m hm heq
      exact hm (hd m (heq ▸ List.mem_singleton_self m))
    have hlength := hk.length_le
    have htake := List.prefix_iff_eq_take.1 hk
    rw [List.length_append, List.length_singleton] at hlength htake
    rw [show deepHost.cwd.place.length = 4096 from List.length_replicate] at hlength
    unfold deepHost
    rw [Pairs.get?, if_neg (hne _ (by decide)), Pairs.get?, if_neg (hne _ (by decide))]
    exact Pairs.get?_map_of_mem ⟨k.length, List.mem_range.2 hlength, htake.symm⟩

/-- A run without a compiler comes to its first build, from the root and from the deep directory. -/
theorem compilerless_builds {dir : Spot} (hdir : dir = .live [] ∨ dir = .live deepPlace) :
    (∃ ready, (compilerless.approach mainnetRequest).result ⟨{ deepHost with cwd := dir }, []⟩ =
      .ok ready) ∧
    ∃ x ∈ exchanges ((compilerless.run mainnetRequest).events ⟨{ deepHost with cwd := dir }, []⟩),
      x.call.isBuild = true ∧ x.Fails (.plain .system "no compiler") := by
  have hp : compilerless.LeavesFiles := leavesFiles_answering rfl rfl
  have hfound : ((compilerless.approach mainnetRequest).result
      ⟨{ deepHost with cwd := dir }, []⟩).toOption.map (·.2) = some ⟨.single, ["contracts"]⟩ := by
    rcases hdir with rfl | rfl <;> decide +kernel
  obtain ⟨ready, hready, hcontracts⟩ := Option.map_eq_some_iff.1 hfound
  have hready := result_eq_ok_of_toOption hready
  have hstatus : deepHost.tree.status dir ready.2.text = .ok (.live ["contracts"], .directory) := by
    rw [hcontracts]
    rfl
  have hlive : dir.lost = 0 := by rcases hdir with rfl | rfl <;> rfl
  obtain ⟨x, hx, hfirst⟩ := exists_firstBuild hp hready hlive (by rw [hcontracts]; decide) hstatus
  have hbuild := Call.isBuild_of_isFirstBuild hfirst
  refine ⟨⟨ready, hready⟩, x, hx, hbuild, ?_, ?_⟩
  · rw [(run_answered compilerless mainnetRequest _).of_mem hx]
    cases hcall : x.call with
    | build package optimize => rfl
    | _ => rw [hcall] at hbuild; cases hbuild
  · rintro ⟨identity, network, hcall⟩
    rw [hcall] at hbuild
    cases hbuild

/-- The path of the deep directory is too long for the system. -/
theorem deepHost_home : Tree.pathLimit ≤
    (compilerless.home mainnetRequest ⟨deepHost, []⟩).text.utf8ByteSize := by
  rw [home_eq (leavesFiles_answering rfl rfl)]
  have hle := Path.length_le_ofPlace deepPlace
  rwa [show deepPlace.length = 4096 from List.length_replicate] at hle

/-- A run without a compiler tells so if it begins at the root, where it finds its way back. -/
theorem compilerless_told : ∃ g,
    (compilerless.run mainnetRequest).result ⟨{ deepHost with cwd := .live [] }, []⟩ = .error g ∧
      g.kind = .build ∧ g.cause = some (.plain .system "no compiler") := by
  have hp : compilerless.LeavesFiles := leavesFiles_answering rfl rfl
  obtain ⟨-, x, hx, hbuild, hfails⟩ := compilerless_builds (.inl rfl)
  obtain ⟨g, hg, htold, -⟩ := run_attributes hx hfails
  have hbecomes := htold fun _ => by
    rw [home_eq hp]
    exact ⟨by decide, .live [], rfl⟩
  exact ⟨g, hg, hbecomes.of_build hbuild rfl⟩

/-- A run without a compiler from a directory whose path is too long for the system does not tell
so, though the directory stands there all the time. -/
theorem compilerless_hidden :
    compilerless.LeavesFiles ∧ deepHost.Stands ∧
    (∃ x ∈ exchanges ((compilerless.run mainnetRequest).events ⟨deepHost, []⟩),
      x.call.isBuild = true ∧ x.Fails (.plain .system "no compiler")) ∧
    ¬ ∃ g, (compilerless.run mainnetRequest).result ⟨deepHost, []⟩ = .error g ∧
      g.kind = .build ∧ g.cause = some (.plain .system "no compiler") := by
  have hp : compilerless.LeavesFiles := leavesFiles_answering rfl rfl
  obtain ⟨⟨ready, hready⟩, hbuilds⟩ := compilerless_builds (.inr rfl)
  refine ⟨hp, deepHost_stands, hbuilds, ?_⟩
  rintro ⟨g, hg, hkind, -⟩
  obtain ⟨d, hd, hunstaged⟩ := run_of_long hready deepHost_home
  cases hg.symm.trans hd
  unfold Failure.isA at hunstaged
  rw [hkind] at hunstaged
  cases hunstaged

end Pipeline

end SorobanDeploy
