import SorobanDeploy.Proofs.Client.Launching
import SorobanDeploy.Proofs.Pipeline.Recorded

/-!
# The program of a run

A run builds in the contracts directory and does everything else in its own working directory
(`run_places`). A client that runs a program looks its name up for each command, so the commands of
a run execute one file exactly if the name leads from the contracts directory, as far as it leads
anywhere from there, to the file that it leads to from the working directory
(`run_one_program_iff`).
-/

namespace SorobanDeploy

open Act Event StellarCli

variable {σ : Type}

/-- A call for a build. -/
def Call.isBuild : Call → Bool
  | .build .. => true
  | _ => false

theorem Call.isBuild_of_isFirstBuild {call : Call} (h : call.isFirstBuild = true) :
    call.isBuild = true := by
  cases call with
  | build => rfl
  | _ => cases h

/-- What the parties start, among events. -/
def Event.launches (es : List (Event σ)) : List Launch :=
  es.filterMap fun e => match e with
    | .note (.launch l) => some l
    | _ => none

/-- The exchanges among events execute one program file. -/
def OneProgram (binary : String) (es : List (Event σ)) : Prop :=
  ∀ x ∈ exchanges es, ∀ y ∈ exchanges es, ∀ a b,
    executed binary x.call x.host = some a → executed binary y.call y.host = some b → a = b

/-- The words of the first build can be written down if the name of the program can. -/
theorem executed_firstBuild {binary : String} {call : Call} {h : Host σ}
    (hnul : Files.hasNul binary = false) (hfirst : call.isFirstBuild = true) :
    executed binary call h = programAt h binary := by
  have hwords : (commandWords call).any Files.hasNul = false := by
    match call, hfirst with
    | .build none false, _ => decide
    | .build none true, _ => decide
  rw [executed_eq, List.any_cons, hnul, hwords]
  rfl

section

variable {binary : String} {es : List (Event σ)} {h : Host σ} {dir : Spot}
  (hplaced : ∀ x ∈ exchanges es, x.host.tree = h.tree ∧ x.host.env = h.env ∧
    x.host.cwd = if x.call.isBuild = true then dir else h.cwd)

include hplaced

/-- On the same files and in the same environment a name is looked up from the place of the call. -/
theorem programAt_of_placed {x : Exchange σ} (hx : x ∈ exchanges es) :
    programAt x.host binary =
      programAt { h with cwd := if x.call.isBuild = true then dir else h.cwd } binary := by
  obtain ⟨htree, henv, hcwd⟩ := hplaced x hx
  refine programAt_congr henv fun path _ => ?_
  rw [htree, hcwd]

/-- The calls execute one file if the name leads from the directory of the builds to where it leads
from the directory of the other calls. -/
theorem oneProgram_of_placed (hsame : (∃ x ∈ exchanges es, x.call.isBuild = true) →
      ∀ place, programAt { h with cwd := dir } binary = some place →
        programAt h binary = some place) : OneProgram binary es := by
  have hwhere : ∀ z ∈ exchanges es, ∀ c,
      executed binary z.call z.host = some c → programAt h binary = some c := by
    intro z hz c hc
    have hexecuted := (programAt_of_placed hplaced hz).symm.trans (programAt_of_executed hc)
    by_cases hbuild : z.call.isBuild = true
    · rw [if_pos hbuild] at hexecuted
      exact hsame ⟨z, hz, hbuild⟩ c hexecuted
    · rw [if_neg hbuild] at hexecuted
      exact hexecuted
  intro x hx y hy a b ha hb
  exact Option.some.inj ((hwhere x hx a ha).symm.trans (hwhere y hy b hb))

/-- If the first build executes the file that another call executes, the name leads there from the
directories of both. -/
theorem programAt_of_oneProgram (hone : OneProgram binary es) {z y : Exchange σ}
    (hz : z ∈ exchanges es) (hfirst : z.call.isFirstBuild = true) (hy : y ∈ exchanges es)
    (hother : y.call.isBuild = false) {l : Launch} (hl : launchFor binary y.call y.host = some l)
    {place : Spot} (hplace : programAt { h with cwd := dir } binary = some place) :
    programAt h binary = some place := by
  obtain ⟨b, hb⟩ := executed_of_launchFor hl
  have hfrom := (programAt_of_placed hplaced hy).symm.trans (programAt_of_executed hb)
  rw [hother, if_neg Bool.false_ne_true] at hfrom
  have hbuild : executed binary z.call z.host = some place := by
    rw [executed_firstBuild (hasNul_of_launchFor hl) hfirst, programAt_of_placed hplaced hz,
      if_pos (Call.isBuild_of_isFirstBuild hfirst)]
    exact hplace
  rw [hone z hz y hy place b hbuild hb]
  exact hfrom

end

/-- A way on which nothing is started but by the commands of a client. -/
def Launches (binary : String) (s t : Session σ) : Prop :=
  ∃ es, t.trace = s.trace ++ es ∧
    launches es = (exchanges es).filterMap fun x => launchFor binary x.call x.host

theorem isWay_launches (binary : String) : IsWay (Launches (σ := σ) binary) :=
  isWay_added rfl fun {es fs} hes hfs => by
    have happend : launches (es ++ fs) = launches es ++ launches fs := List.filterMap_append
    rw [happend, hes, hfs, exchanges_append, List.filterMap_append]

theorem log_launches (binary : String) (level : Log.Level) (logger message : String) :
    (log level logger message : Act σ Unit).Along (Launches binary) := fun _ => ⟨_, rfl, rfl⟩

theorem setTree_launches (binary : String) (t : Tree) :
    (setTree t : Act σ Unit).Along (Launches binary) := fun _ => ⟨_, rfl, rfl⟩

theorem setCwd_launches (binary : String) (dir : Spot) :
    (setCwd dir : Act σ Unit).Along (Launches binary) :=
  fun s => ⟨[], by simp [after, setCwd], rfl⟩

/-- A way on which the environment stays the same, also for the client. -/
def KeepsEnv (s t : Session σ) : Prop :=
  t.host.env = s.host.env ∧
    ∃ es, t.trace = s.trace ++ es ∧ ∀ x ∈ exchanges es, x.host.env = s.host.env

theorem isWay_keepsEnv : IsWay (σ := σ) KeepsEnv :=
  isWay_kept (·.env) (fun env es => ∀ x ∈ exchanges es, x.host.env = env) (by simp)
    fun hes hfs => forall_exchanges_append.2 ⟨hes, hfs⟩

theorem log_keepsEnv (level : Log.Level) (logger message : String) :
    (log level logger message : Act σ Unit).Along KeepsEnv := fun _ => ⟨rfl, [_], rfl, by simp⟩

theorem setCwd_keepsEnv (dir : Spot) : (setCwd dir : Act σ Unit).Along KeepsEnv :=
  fun s => ⟨rfl, [], by simp [after, setCwd], by simp⟩

namespace Pipeline

variable {p : Pipeline σ} {request : DeploymentRequest} {s : Session σ}
  {programs : Programs σ} {binary : String}

/-- A pipeline whose client runs a program. Its check, if there is one, starts nothing and leaves
the host as it is, but for what is outside. -/
structure RunsProgram (p : Pipeline σ) (programs : Programs σ) (binary : String) : Prop where
  client : p.client = StellarCli.client programs binary
  check : ∀ check ∈ p.check, ∀ profile h,
    (∃ outside, (check profile h).host = { h with outside := outside }) ∧
      ∀ l, .launch l ∉ (check profile h).notes

theorem RunsProgram.leavesFiles (hp : p.RunsProgram programs binary) : p.LeavesFiles where
  client call h := by
    obtain ⟨outside, houtside⟩ := client_host programs binary call h
    rw [hp.client, houtside]
    exact ⟨rfl, rfl⟩
  check check hcheck profile h := by
    obtain ⟨outside, houtside⟩ := (hp.check check hcheck profile h).1
    rw [houtside]
    exact ⟨rfl, rfl⟩

/-! ## Where a run asks its client -/

/-- The exchanges of the preparations are those before the builds, and then the builds. -/
theorem exchanges_prepare (p : Pipeline σ) (request : DeploymentRequest) (s : Session σ) :
    exchanges ((p.prepare request).events s) = exchanges ((p.approach request).events s) ++
      match (p.approach request).result s with
      | .ok ready => exchanges ((Workspace.inDirectory ready.2 p.buildAll).events
          ((p.approach request).after s))
      | .error _ => [] := by
  have hcheck : ∀ profile, (p.checkNetwork profile).Along Grows := fun profile =>
    checkNetwork_along isWay_grows fun _ _ _ => List.prefix_append _ _
  have happroach : (p.approach request).Along Grows :=
    approach_along isWay_grows log_grows hcheck (ask_grows _ _) fun _ => ask_grows _ _
  have hcwd : ∀ dir, (setCwd dir : Act σ Unit).Along Grows := fun dir => (setCwd_silent dir).grows
  have hbuild : ∀ path, (Workspace.inDirectory path p.buildAll).Along Grows := fun path =>
    Workspace.inDirectory_along isWay_grows log_grows hcwd path (buildAll_grows p)
  have hevents := events_bind (happroach s) fun ready _ =>
    (Along.bind isWay_grows (hbuild ready.2) fun _ => .pure isWay_grows ready) _
  change (p.prepare request).events s = _ at hevents
  rw [hevents, exchanges_append]
  cases (p.approach request).result s with
  | error e => rfl
  | ok ready =>
    simp only
    rw [exchanges_bind_silent (hbuild ready.2) fun _ => .pure isWay_silent _]

/-- Before the builds a run asks for no build. -/
theorem approach_unbuilt (p : Pipeline σ) (request : DeploymentRequest) :
    (p.approach request).Along (Asks fun x => x.call.isBuild = false) :=
  approach_along (isWay_asks _) (fun _ _ _ => (log_silent _ _ _).asks _)
    (fun _ => checkNetwork_along (isWay_asks _) fun _ _ _ => ⟨_, rfl, by simp⟩)
    (ask_asks fun _ => rfl) fun _ => ask_asks fun _ => rfl

/-- From the first deployment on a run asks for no build. -/
theorem establish_unbuilt (p : Pipeline σ) (request : DeploymentRequest) (admin : ResolvedIdentity)
    (contracts : Path) :
    (p.establish request admin contracts).Along (Asks fun x => x.call.isBuild = false) :=
  establish_along (isWay_asks _) (fun _ _ _ => (log_silent _ _ _).asks _)
    (fun _ _ _ => ask_asks fun _ => rfl) (fun _ _ _ _ _ => ask_asks fun _ => rfl) request admin
    contracts

/-- The builds are builds. -/
theorem buildAll_builds (p : Pipeline σ) :
    p.buildAll.Along (Asks fun x => x.call.isBuild = true) := by
  refine .bind (isWay_asks _) ((log_silent _ _ _).asks _) fun _ => ?_
  refine .bind (isWay_asks _) (.explain _ (ask_asks fun _ => rfl)) fun _ => ?_
  refine .bind (isWay_asks _) ((log_silent _ _ _).asks _) fun _ => ?_
  exact optimizeAll_along (isWay_asks _) fun _ _ => ask_asks fun _ => rfl

/-- Before the builds a run asks for no build, and it asks in its working directory. -/
theorem mem_approach (hp : p.LeavesFiles) {x : Exchange σ}
    (hx : x ∈ exchanges ((p.approach request).events s)) :
    x.host.cwd = s.host.cwd ∧ x.call.isBuild = false := by
  have hstay : ∀ profile, (p.checkNetwork profile).Along Stays := fun profile =>
    checkNetwork_along isWay_stays fun check hmem s =>
      ⟨(hp.check check hmem profile s.host).2, _, rfl, by simp⟩
  have hstays : (p.approach request).Along Stays :=
    approach_along isWay_stays log_stays hstay (ask_stays hp _) fun _ => ask_stays hp _
  obtain ⟨-, es, hes, hcwd⟩ := hstays s
  refine ⟨hcwd x ?_, (approach_unbuilt p request s).of_mem hx⟩
  rw [events_eq hes] at hx
  exact hx

/-- From the first deployment on a run asks for no build, and it asks in its working directory. -/
theorem mem_establish (hp : p.LeavesFiles) {admin : ResolvedIdentity} {contracts : Path}
    {x : Exchange σ} (hx : x ∈ exchanges ((p.establish request admin contracts).events s)) :
    x.host.cwd = s.host.cwd ∧ x.call.isBuild = false := by
  have hstays : (p.establish request admin contracts).Along Stays :=
    establish_along isWay_stays log_stays (fun _ _ _ => ask_stays hp _)
      (fun _ _ _ _ _ => ask_stays hp _) request admin contracts
  obtain ⟨-, es, hes, hcwd⟩ := hstays s
  refine ⟨hcwd x ?_, (establish_unbuilt p request admin contracts s).of_mem hx⟩
  rw [events_eq hes] at hx
  exact hx

/-- The builds are asked for in one directory, the first one among them. -/
theorem inDirectory_exchanges (hp : p.LeavesFiles) (path : Path) (s : Session σ) :
    exchanges ((Workspace.inDirectory path p.buildAll).events s) = [] ∨
      ∃ dir, (∀ x ∈ exchanges ((Workspace.inDirectory path p.buildAll).events s),
          x.host.cwd = dir ∧ x.call.isBuild = true) ∧
        ∃ x ∈ exchanges ((Workspace.inDirectory path p.buildAll).events s),
          x.call.isFirstBuild = true := by
  rcases Workspace.exchanges_inDirectory (buildAll_grows p) path s with hnone | ⟨dir, v, -, hv, hex⟩
  · exact .inl hnone
  · obtain ⟨-, es, hes, hcwd⟩ := buildAll_stays hp v
    rw [hex]
    refine .inr ⟨dir, fun x hx => ⟨?_, (buildAll_builds p v).of_mem hx⟩, exchanges_buildAll p v⟩
    rw [events_eq hes] at hx
    rw [hcwd x hx, hv]

/-- What a run does before it asks its client for anything. -/
def announce (p : Pipeline σ) (request : DeploymentRequest) : Act σ Unit := do
  tell "Building and deploying InheritX contracts"
  tell ("Network: " ++ request.network.name.text ++ " (" ++ request.network.rpcUrl ++ ")")
  tell ("Admin identity: " ++ request.adminIdentity)
  p.reportPrevious

/-- What a run does between the address of the identity and the builds. -/
def proceed (p : Pipeline σ) (request : DeploymentRequest) (admin : ResolvedIdentity) :
    Act σ (ResolvedIdentity × Path) := do
  tell ("Admin address: " ++ admin.address)
  let _ ← p.fund request
  p.checkNetwork request.network
  let contracts ← Workspace.findContracts p.contractsRoot
  pure (admin, contracts)

theorem approach_eq (p : Pipeline σ) (request : DeploymentRequest) :
    p.approach request = p.announce request >>= fun _ =>
      p.resolveIdentity request >>= p.proceed request := by
  simp only [approach, announce, bind_assoc]
  rfl

theorem announce_along {R : Session σ → Session σ → Prop} (hR : IsWay R)
    (hlog : ∀ level logger message, (log level logger message : Act σ Unit).Along R)
    (p : Pipeline σ) (request : DeploymentRequest) : (p.announce request).Along R := by
  refine .bind hR (hlog _ _ _) fun _ => .bind hR (hlog _ _ _) fun _ => ?_
  exact .bind hR (hlog _ _ _) fun _ => reportPrevious_along hR hlog

theorem announce_silent (p : Pipeline σ) (request : DeploymentRequest) :
    (p.announce request).Along Silent :=
  announce_along isWay_silent log_silent p request

/-- The first messages of a run leave the host. -/
theorem host_after_announce (p : Pipeline σ) (request : DeploymentRequest) (s : Session σ) :
    ((p.announce request).after s).host = s.host := by
  have hway : IsWay (σ := σ) fun s t => t.host = s.host := ⟨fun _ => rfl, fun h g => g.trans h⟩
  exact announce_along hway (fun _ _ _ _ => rfl) p request s

theorem proceed_grows (p : Pipeline σ) (request : DeploymentRequest) (admin : ResolvedIdentity) :
    (p.proceed request admin).Along Grows := by
  refine .bind isWay_grows (log_grows _ _ _) fun _ => ?_
  refine .bind isWay_grows (Identity.ensureFunded_along isWay_grows log_grows (ask_grows _ _))
    fun _ => .bind isWay_grows ?_ fun _ => ?_
  · exact checkNetwork_along isWay_grows fun _ _ _ => List.prefix_append _ _
  · exact .bind isWay_grows (.of_reads isWay_grows (Workspace.findContracts_reads _)) fun _ =>
      .pure isWay_grows _

/-- To resolve the identity, the client is asked for its address once. -/
theorem exchanges_resolveIdentity (p : Pipeline σ) (request : DeploymentRequest) (s : Session σ) :
    exchanges ((p.resolveIdentity request).events s) =
      [⟨.resolveAddress request.adminIdentity, s.host,
        (p.client (.resolveAddress request.adminIdentity) s.host).answer⟩] := by
  have hsilent : ∀ raw : Option String, (if (Text.strip (raw.getD "")).isEmpty = true then
      refuse (.emptyAddress request.adminIdentity)
      else pure ⟨request.adminIdentity, Text.strip (raw.getD "")⟩ :
      Act σ ResolvedIdentity).Along Silent := fun raw => by
    split
    · exact .refuse isWay_silent _
    · exact .pure isWay_silent _
  have hask : (explain (fun _ => .unknownIdentity request.adminIdentity)
      (ask p.client (.resolveAddress request.adminIdentity))).Along Grows :=
    .explain _ (ask_grows _ _)
  unfold resolveIdentity Identity.resolve
  rw [exchanges_bind_silent hask hsilent, events_explain, exchanges_ask]

/-- Behind its first messages a run asks for the address of the identity. -/
theorem exchanges_approach (h : (p.announce request).result s = .ok ()) :
    ∃ rest, exchanges ((p.approach request).events s) =
      ⟨.resolveAddress request.adminIdentity, s.host,
        (p.client (.resolveAddress request.adminIdentity) s.host).answer⟩ :: rest := by
  have hresolve : (p.resolveIdentity request).Along Grows :=
    Identity.resolve_along isWay_grows (ask_grows _ _)
  have hproceed := proceed_grows p request
  rw [approach_eq, exchanges_silent_bind (announce_silent p request) h
    (.bind isWay_grows hresolve hproceed), events_bind (hresolve _) fun admin _ => hproceed admin _,
    exchanges_append, exchanges_resolveIdentity, host_after_announce]
  exact ⟨_, rfl⟩

/-- What comes before the builds succeeds only if the identity was resolved. -/
theorem approach_resolves {ready : ResolvedIdentity × Path}
    (h : (p.approach request).result s = .ok ready) :
    ∃ x ∈ exchanges ((p.approach request).events s),
      x.call = .resolveAddress request.adminIdentity ∧
        ∃ a, (p.client x.call x.host).answer = .ok a := by
  rw [approach_eq] at h
  obtain ⟨_, hannounced, h⟩ := result_bind_eq_ok h
  obtain ⟨rest, hrest⟩ := exchanges_approach hannounced
  obtain ⟨admin, hadmin, -⟩ := result_bind_eq_ok h
  obtain ⟨raw, hraw, -⟩ := resolve_ok hadmin
  rw [host_after_announce] at hraw
  rw [hrest]
  exact ⟨_, List.mem_cons_self, rfl, raw, hraw⟩

/-- What a run asks for behind the builds is no build, and it asks where it began. -/
theorem mem_establish_prepared (hp : p.LeavesFiles) (hstands : s.host.Stands) {x : Exchange σ}
    (hx : x ∈ match (p.prepare request).result s with
      | .ok ready => exchanges ((p.establish request ready.1 ready.2).events
          ((p.prepare request).after s))
      | .error _ => []) : x.host.cwd = s.host.cwd ∧ x.call.isBuild = false := by
  cases hready : (p.prepare request).result s with
  | error e =>
    rw [hready] at hx
    cases hx
  | ok ready =>
    rw [hready] at hx
    obtain ⟨hcwd, hbuild⟩ := mem_establish hp hx
    exact ⟨hcwd.trans (prepare_cwd hp hstands hready), hbuild⟩

/-- The exchanges of a run are those before the builds, the builds, and those behind them. The
builds are asked for in one directory, and the first one is among them, behind the resolved
identity. The others are no builds, and they are asked for in the working directory. -/
theorem run_parts (hp : p.LeavesFiles) (request : DeploymentRequest) (hstands : s.host.Stands) :
    ∃ before builds behind, exchanges ((p.run request).events s) = before ++ builds ++ behind ∧
      (∀ x ∈ before, x.host.cwd = s.host.cwd ∧ x.call.isBuild = false) ∧
      (∀ x ∈ behind, x.host.cwd = s.host.cwd ∧ x.call.isBuild = false) ∧
      (builds = [] ∨ (∃ dir, (∀ x ∈ builds, x.host.cwd = dir ∧ x.call.isBuild = true) ∧
          ∃ x ∈ builds, x.call.isFirstBuild = true) ∧
        ∃ x ∈ before, x.call = .resolveAddress request.adminIdentity ∧
          ∃ a, (p.client x.call x.host).answer = .ok a) := by
  rw [exchanges_run, exchanges_goLive, exchanges_prepare]
  refine ⟨_, _, _, rfl, fun x hx => mem_approach hp hx,
    fun x hx => mem_establish_prepared hp hstands hx, ?_⟩
  cases hfound : (p.approach request).result s with
  | error e => exact .inl rfl
  | ok found =>
    exact (inDirectory_exchanges hp found.2 _).imp_right fun hbuilds =>
      ⟨hbuilds, approach_resolves hfound⟩

/-- A run asks for builds in one directory and for everything else in its working directory, if that
stands where its path says. If it asks for any build, it asks for the first one, and the identity
was resolved before. -/
theorem run_places (hp : p.LeavesFiles) (request : DeploymentRequest) (hstands : s.host.Stands) :
    ∃ dir, (∀ x ∈ exchanges ((p.run request).events s),
        x.host.cwd = if x.call.isBuild = true then dir else s.host.cwd) ∧
      ((∃ x ∈ exchanges ((p.run request).events s), x.call.isBuild = true) →
        (∃ x ∈ exchanges ((p.run request).events s), x.call.isFirstBuild = true) ∧
        ∃ x ∈ exchanges ((p.run request).events s),
          x.call = .resolveAddress request.adminIdentity ∧
            ∃ a, (p.client x.call x.host).answer = .ok a) := by
  obtain ⟨before, builds, behind, hparts, hbefore, hbehind, hbuilds⟩ := run_parts hp request hstands
  rw [hparts]
  rcases hbuilds with rfl | ⟨⟨dir, hdir, z, hz, hfirst⟩, y, hy, hresolved⟩
  · have hothers : ∀ x ∈ before ++ [] ++ behind,
        x.host.cwd = s.host.cwd ∧ x.call.isBuild = false := by
      rw [List.append_nil]
      exact List.forall_mem_append.2 ⟨hbefore, hbehind⟩
    refine ⟨s.host.cwd, fun x hx => by rw [(hothers x hx).1, ite_self], ?_⟩
    rintro ⟨x, hx, hbuild⟩
    rw [(hothers x hx).2] at hbuild
    cases hbuild
  · refine ⟨dir, fun x hx => ?_, fun _ => ⟨⟨z, ?_, hfirst⟩, y, ?_, hresolved⟩⟩
    · rcases List.mem_append.1 hx with hx | hx
      · rcases List.mem_append.1 hx with hx | hx
        · obtain ⟨hcwd, hother⟩ := hbefore x hx
          rw [hcwd, hother, if_neg Bool.false_ne_true]
        · obtain ⟨hcwd, hbuild⟩ := hdir x hx
          rw [hcwd, if_pos hbuild]
      · obtain ⟨hcwd, hother⟩ := hbehind x hx
        rw [hcwd, hother, if_neg Bool.false_ne_true]
    · exact List.mem_append_left _ (List.mem_append_right _ hz)
    · exact List.mem_append_left _ (List.mem_append_left _ hy)

theorem RunsProgram.ask_launches (hp : p.RunsProgram programs binary) (call : Call) :
    (ask p.client call).Along (Launches binary) := by
  intro s
  obtain ⟨r, hnotes⟩ := client_notes programs binary call s.host
  rw [after_ask, hp.client, hnotes]
  refine ⟨_, rfl, ?_⟩
  cases hlaunch : launchFor binary call s.host <;>
    simp [launches, exchanges, exchange?, hlaunch]

theorem RunsProgram.checkNetwork_launches (hp : p.RunsProgram programs binary)
    (profile : NetworkProfile) : (p.checkNetwork profile).Along (Launches binary) := by
  refine checkNetwork_along (isWay_launches binary) fun check hmem s => ⟨_, rfl, ?_⟩
  rw [exchanges_check_cons, exchanges_notes, List.filterMap_nil]
  refine List.filterMap_eq_nil_iff.2 fun e he => ?_
  rcases List.mem_cons.1 he with rfl | he
  · rfl
  · obtain ⟨n, hn, rfl⟩ := List.mem_map.1 he
    cases n with
    | launch l => exact absurd hn ((hp.check check hmem profile s.host).2 l)
    | record r => rfl
    | request r => rfl

/-- The client of a run starts what the run starts. -/
theorem run_launches (hp : p.RunsProgram programs binary) (request : DeploymentRequest) :
    (p.run request).Along (Launches binary) := by
  rw [run_eq]
  refine .bind (isWay_launches binary) ?_ fun live => ?_
  · exact goLive_along (isWay_launches binary) (log_launches binary) (setCwd_launches binary)
      hp.ask_launches hp.checkNetwork_launches request
  · exact save_along (isWay_launches binary) (log_launches binary) (setTree_launches binary)
      request live.1 live.2

theorem RunsProgram.ask_keepsEnv (hp : p.RunsProgram programs binary) (call : Call) :
    (ask p.client call).Along KeepsEnv := by
  intro s
  obtain ⟨outside, houtside⟩ := client_host programs binary call s.host
  rw [after_ask]
  exact ⟨by rw [hp.client, houtside], _, rfl, forall_exchanges_asked.2 rfl⟩

theorem RunsProgram.checkNetwork_keepsEnv (hp : p.RunsProgram programs binary)
    (profile : NetworkProfile) : (p.checkNetwork profile).Along KeepsEnv := by
  refine checkNetwork_along isWay_keepsEnv fun check hmem s => ?_
  obtain ⟨outside, houtside⟩ := (hp.check check hmem profile s.host).1
  exact ⟨by rw [houtside], _, rfl, by simp⟩

/-- Before a run saves anything, it leaves the environment. -/
theorem goLive_keepsEnv (hp : p.RunsProgram programs binary) (request : DeploymentRequest) :
    (p.goLive request).Along KeepsEnv :=
  goLive_along isWay_keepsEnv log_keepsEnv setCwd_keepsEnv hp.ask_keepsEnv
    hp.checkNetwork_keepsEnv request

/-- What a run starts is what its calls start, each on the files and in the environment that the run
began with, the builds in one directory and the other calls in the working directory. So all
commands execute one file exactly if the name of the program leads from the directory of the builds,
if it leads to a program from there and anything is built, to the file that it leads to from the
working directory. For a name that is fixed it does. -/
theorem run_one_program_iff (hp : p.RunsProgram programs binary) (request : DeploymentRequest)
    (hstands : s.host.Stands) :
    launches ((p.run request).events s) = (exchanges ((p.run request).events s)).filterMap
      (fun x => launchFor binary x.call x.host) ∧
    ∃ dir, (∀ x ∈ exchanges ((p.run request).events s), x.host.tree = s.host.tree ∧
        x.host.env = s.host.env ∧
        x.host.cwd = if x.call.isBuild = true then dir else s.host.cwd) ∧
      (OneProgram binary ((p.run request).events s) ↔
        ((∃ x ∈ exchanges ((p.run request).events s), x.call.isBuild = true) →
          ∀ place, programAt { s.host with cwd := dir } binary = some place →
            programAt s.host binary = some place)) ∧
      (Fixed s.host.env binary → OneProgram binary ((p.run request).events s)) := by
  obtain ⟨es, hes, hstarted⟩ := run_launches hp request s
  obtain ⟨-, fs, hfs, henv⟩ := goLive_keepsEnv hp request s
  obtain ⟨dir, hplaces, hbuilt⟩ := run_places hp.leavesFiles request hstands
  have hplaced : ∀ x ∈ exchanges ((p.run request).events s), x.host.tree = s.host.tree ∧
      x.host.env = s.host.env ∧
      x.host.cwd = if x.call.isBuild = true then dir else s.host.cwd := by
    intro x hx
    refine ⟨tree_of_mem_run hp.leavesFiles hx, ?_, hplaces x hx⟩
    rw [exchanges_run, events_eq hfs] at hx
    exact henv x hx
  refine ⟨by rw [events_eq hes]; exact hstarted, dir, hplaced,
    ⟨fun hone hany place hplace => ?_, oneProgram_of_placed hplaced⟩, fun hfixed => ?_⟩
  · -- The identity was resolved, so its command was started in the working directory.
    obtain ⟨⟨z, hz, hfirst⟩, y, hy, hresolves, a, ha⟩ := hbuilt hany
    rw [hp.client] at ha
    obtain ⟨l, hl⟩ := launchFor_of_answered ha
    exact programAt_of_oneProgram hplaced hone hz hfirst hy (by rw [hresolves]; rfl) hl hplace
  · refine oneProgram_of_placed hplaced fun _ place hplace => ?_
    rw [← hplace]
    exact (programAt_of_fixed hfixed dir).symm

/-- A program that prints one text, whatever it is asked for. -/
def printing (text : String) : Programs Unit :=
  fun _ outside => (⟨Text.Utf8.encode text.toList, [], 0⟩, outside)

/-- A project with a program beside the contracts and another one among them. -/
def twinHost : Host Unit :=
  { builtHost with
    tree := (["stellar"], .program []) :: (["contracts", "stellar"], .program []) ::
      builtHost.tree }

/-- A pipeline whose client runs the program of a name. -/
def running (binary : String) : Pipeline Unit :=
  { answeringWith "" with client := StellarCli.client (printing "CAFE") binary }

theorem runsProgram_running (binary : String) :
    (running binary).RunsProgram (printing "CAFE") binary where
  client := rfl
  check check hcheck := by cases hcheck

/-- Under its path from the root a run starts one program. -/
theorem rooted_one_program :
    twinHost.Stands ∧
      OneProgram "/stellar" (((running "/stellar").run mainnetRequest).events ⟨twinHost, []⟩) := by
  have hstands : twinHost.Stands := by
    constructor
    · simp [twinHost, builtHost, Spot.live]
    · simp [twinHost, builtHost, Spot.live]
  obtain ⟨-, dir, -, -, hfixed⟩ := run_one_program_iff (s := ⟨twinHost, []⟩)
    (runsProgram_running "/stellar") mainnetRequest hstands
  exact ⟨hstands, hfixed (.inl rfl)⟩

/-- Under a path from the working directory a run starts two programs. -/
theorem beside_two_programs :
    ¬ OneProgram "./stellar"
      (((running "./stellar").run mainnetRequest).events ⟨twinHost, []⟩) := by
  have hexecuted : (exchanges (((running "./stellar").run mainnetRequest).events
      ⟨twinHost, []⟩)).map (fun x => executed "./stellar" x.call x.host) =
      [some (.live ["stellar"]), some (.live ["contracts", "stellar"]),
        some (.live ["contracts", "stellar"]), some (.live ["contracts", "stellar"]),
        some (.live ["stellar"]), some (.live ["stellar"]), some (.live ["stellar"])] := by
    decide +kernel
  intro hone
  have hfirst : some (.live ["stellar"]) ∈ (exchanges (((running "./stellar").run
      mainnetRequest).events ⟨twinHost, []⟩)).map fun x => executed "./stellar" x.call x.host := by
    rw [hexecuted]
    exact List.mem_cons_self
  have hsecond : some (.live ["contracts", "stellar"]) ∈ (exchanges (((running "./stellar").run
      mainnetRequest).events ⟨twinHost, []⟩)).map fun x => executed "./stellar" x.call x.host := by
    rw [hexecuted]
    exact List.mem_cons_of_mem _ List.mem_cons_self
  obtain ⟨x, hx, hxfile⟩ := List.mem_map.1 hfirst
  obtain ⟨y, hy, hyfile⟩ := List.mem_map.1 hsecond
  have hsame := hone x hx y hy _ _ hxfile hyfile
  revert hsame
  decide

end Pipeline

end SorobanDeploy
