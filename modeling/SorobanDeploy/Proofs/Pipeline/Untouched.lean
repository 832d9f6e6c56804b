import SorobanDeploy.Proofs.Pipeline.Stages
import SorobanDeploy.Proofs.Session.Steps

/-!
# What a run leaves untouched

A client and a check of the network that leave the files and the working directory alone
(`Pipeline.LeavesFiles`) leave every change to the run itself. The run changes no file before it
saves, and it comes back from the contracts directory to where the path of its first working
directory leads (`Host.wayBack`).
-/

namespace SorobanDeploy

open Act Event

variable {σ : Type}

/-- A pipeline whose client and check change no file and stay in the working directory. -/
structure Pipeline.LeavesFiles (p : Pipeline σ) : Prop where
  /-- The client leaves the files and the working directory. -/
  client : ∀ call h, (p.client call h).host.tree = h.tree ∧ (p.client call h).host.cwd = h.cwd
  /-- The check, if there is one, leaves the files and the working directory. -/
  check : ∀ check ∈ p.check, ∀ profile h,
    (check profile h).host.tree = h.tree ∧ (check profile h).host.cwd = h.cwd

/-- A client that answers by the call alone and does nothing besides. -/
def Client.answering (answer : Call → Except Failure (Option String)) : Client σ :=
  fun call h => ⟨answer call, h, []⟩

/-- A client that only answers leaves the files. -/
theorem Pipeline.leavesFiles_answering {p : Pipeline σ}
    {answer : Call → Except Failure (Option String)} (hclient : p.client = .answering answer)
    (hcheck : p.check = none) : p.LeavesFiles where
  client call h := by rw [hclient]; exact ⟨rfl, rfl⟩
  check check hmem := by rw [hcheck] at hmem; cases hmem

/-! ## The files -/

/-- An event that happens while the files are as a tree tells. -/
def Event.During (tree : Tree) : Event σ → Prop
  | .exchange x => x.host.tree = tree
  | .change _ => False
  | _ => True

/-- A way on which the files stay the same all the time. -/
def Untouched (s t : Session σ) : Prop :=
  t.host.tree = s.host.tree ∧ ∃ es, t.trace = s.trace ++ es ∧ ∀ e ∈ es, e.During s.host.tree

theorem isWay_untouched : IsWay (σ := σ) Untouched :=
  isWay_kept (·.tree) (fun tree es => ∀ e ∈ es, e.During tree) (by simp)
    fun hes hfs => List.forall_mem_append.2 ⟨hes, hfs⟩

theorem log_untouched (level : Log.Level) (logger message : String) :
    (log level logger message : Act σ Unit).Along Untouched := by
  intro s
  refine ⟨rfl, [_], rfl, fun e he => ?_⟩
  rw [List.mem_singleton.1 he]
  trivial

theorem setCwd_untouched (dir : Spot) : (setCwd dir : Act σ Unit).Along Untouched :=
  fun s => ⟨rfl, [], by simp [after, setCwd], by simp⟩

theorem notes_during (tree : Tree) (ns : List Note) :
    ∀ e ∈ ns.map (Event.note (σ := σ)), e.During tree := by
  intro e he
  obtain ⟨n, -, rfl⟩ := List.mem_map.1 he
  trivial

/-- A call leaves the files if the client does then. -/
theorem ask_untouched_of {client : Client σ} {call : Call}
    (htree : ∀ h, (client call h).host.tree = h.tree) : (ask client call).Along Untouched := by
  intro s
  rw [after_ask]
  refine ⟨htree s.host, _, rfl, fun e he => ?_⟩
  rcases List.mem_cons.1 he with rfl | he
  · exact rfl
  · exact notes_during _ _ e he

namespace Pipeline

variable {p : Pipeline σ} {request : DeploymentRequest}

theorem ask_untouched (hp : p.LeavesFiles) (call : Call) : (ask p.client call).Along Untouched :=
  ask_untouched_of fun h => (hp.client call h).1

theorem checkNetwork_untouched (hp : p.LeavesFiles) (profile : NetworkProfile) :
    (p.checkNetwork profile).Along Untouched := by
  refine checkNetwork_along isWay_untouched fun check hcheck s => ?_
  refine ⟨(hp.check check hcheck profile s.host).1, _, rfl, fun e he => ?_⟩
  rcases List.mem_cons.1 he with rfl | he
  · trivial
  · exact notes_during _ _ e he

/-- Before a run saves anything, the files stay as they are. -/
theorem goLive_untouched (hp : p.LeavesFiles) (request : DeploymentRequest) :
    (p.goLive request).Along Untouched :=
  goLive_along isWay_untouched log_untouched setCwd_untouched (ask_untouched hp)
    (checkNetwork_untouched hp) request

end Pipeline

/-- A way on which every change of the files is told. -/
def Told (s t : Session σ) : Prop :=
  ∃ es, t.trace = s.trace ++ es ∧ ((∀ tree, .change tree ∉ es) → t.host.tree = s.host.tree)

theorem isWay_told : IsWay (σ := σ) Told where
  refl s := ⟨[], by simp, fun _ => rfl⟩
  trans := by
    rintro s t u ⟨es, ht, hes⟩ ⟨fs, hu, hfs⟩
    refine ⟨es ++ fs, by rw [hu, ht, List.append_assoc], fun h => ?_⟩
    rw [hfs fun tree hmem => h tree (List.mem_append_right _ hmem),
      hes fun tree hmem => h tree (List.mem_append_left _ hmem)]

theorem log_told (level : Log.Level) (logger message : String) :
    (log level logger message : Act σ Unit).Along Told := fun _ => ⟨[_], rfl, fun _ => rfl⟩

theorem setTree_told (t : Tree) : (setTree t : Act σ Unit).Along Told :=
  fun _ => ⟨[_], rfl, fun h => absurd (List.mem_singleton.2 rfl) (h t)⟩

/-- Where the files stay the same, there is nothing to tell. -/
theorem Untouched.told {s t : Session σ} (h : Untouched s t) : Told s t := by
  obtain ⟨htree, es, ht, -⟩ := h
  exact ⟨es, ht, fun _ => htree⟩

/-- Every change that a run makes to the files is told. -/
theorem Pipeline.run_told {p : Pipeline σ} (hp : p.LeavesFiles) (request : DeploymentRequest) :
    (p.run request).Along Told := by
  rw [run_eq]
  refine .bind isWay_told (fun s => (goLive_untouched hp request s).told) fun live => ?_
  exact save_along isWay_told log_told setTree_told request live.1 live.2

/-! ## The working directory -/

/-- Where a move from a directory to the path of the working directory of a host ends. It ends in
the directory itself if the system refuses the path. -/
def Host.wayBack (h : Host σ) (dir : Spot) : Spot :=
  let path := (Path.ofPlace h.cwd.place).text
  if Files.hasNul path then dir
  else match h.tree.status dir path with
    | .ok (s, .directory) => s
    | _ => dir

/-- A move back ends where the way back leads. -/
theorem Workspace.leaveTo_cwd (h : Host σ) (s : Session σ) (htree : s.host.tree = h.tree) :
    ((Workspace.leaveTo (.ofPlace h.cwd.place)).after s).host.cwd = h.wayBack s.host.cwd := by
  unfold Workspace.leaveTo
  rw [after_bind]
  cases hmove : (Files.changeDirectory (Path.ofPlace h.cwd.place).text).result s with
  | error e =>
    simp only
    rw [Files.after_changeDirectory_of_error hmove]
    unfold Host.wayBack
    dsimp only
    split
    · rfl
    · rename_i hnul
      split
      · rename_i dir hdir
        have hok := (Files.changeDirectory_eq_ok_iff _ s _).2
          ⟨by simpa using hnul, dir, htree ▸ hdir, rfl⟩
        rw [result_of_ok hok] at hmove
        cases hmove
      · rfl
  | ok u =>
    obtain ⟨hnul, dir, hdir, hafter⟩ := Files.changeDirectory_ok hmove
    rw [hafter]
    unfold Host.wayBack
    rw [htree] at hdir
    simp [log, hnul, hdir]

/-- An action in another directory succeeds only if it succeeds there and the move back does. -/
theorem Workspace.inDirectory_ok {α : Type} {path : Path} {body : Act σ α} {s : Session σ} {a : α}
    (h : (Workspace.inDirectory path body).result s = .ok a) :
    s.host.cwd.lost = 0 ∧ ∃ v, v.host.tree = s.host.tree ∧ body.result v = .ok a ∧
      (Workspace.leaveTo (.ofPlace s.host.cwd.place)).result (body.after v) = .ok () ∧
      (Workspace.inDirectory path body).after s =
        (Workspace.leaveTo (.ofPlace s.host.cwd.place)).after (body.after v) := by
  rcases Workspace.inDirectory_entry path body s with
    ⟨-, e, hfails⟩ | ⟨dir, v, n, hlive, -, -, hv, -, hruns⟩
  · rw [((eq_error_iff _ _ _ _).1 hfails).1] at h
    cases h
  · obtain ⟨hresult, hafter⟩ := outcome_of_apply hruns
    rw [hresult] at h
    rw [hafter, after_andFinally]
    obtain ⟨hbody, hleave⟩ := (result_andFinally_eq_ok_iff _ _ _ _).1 h
    exact ⟨hlive, v, by rw [hv], hbody, hleave, rfl⟩

/-- What is asked for around an action in another directory is asked for by the action itself, in
the directory that was entered. -/
theorem Workspace.exchanges_inDirectory {α : Type} {body : Act σ α} (hbody : body.Along Grows)
    (path : Path) (s : Session σ) :
    exchanges ((Workspace.inDirectory path body).events s) = [] ∨
      ∃ dir v, s.host.tree.status s.host.cwd path.text = .ok (dir, .directory) ∧
        v.host = { s.host with cwd := dir } ∧
        exchanges ((Workspace.inDirectory path body).events s) = exchanges (body.events v) := by
  rcases Workspace.inDirectory_entry path body s with
    ⟨-, e, hfails⟩ | ⟨dir, v, n, -, -, hdir, hv, hnote, hruns⟩
  · exact .inl (by rw [events_of_fails hfails]; rfl)
  · have hback : (Workspace.leaveTo (.ofPlace s.host.cwd.place) : Act σ Unit).Along Silent :=
      Workspace.leaveTo_along isWay_silent log_silent setCwd_silent _
    refine .inr ⟨dir, v, hdir, hv, ?_⟩
    rw [exchanges_noted hnote hruns (.andFinally isWay_grows hbody hback.grows),
      exchanges_andFinally_silent hbody hback]

/-! ## Going to the contracts directory and back -/

/-- A way on which the working directory stays the same, also for the client. -/
def Stays (s t : Session σ) : Prop :=
  t.host.cwd = s.host.cwd ∧
    ∃ es, t.trace = s.trace ++ es ∧ ∀ x ∈ exchanges es, x.host.cwd = s.host.cwd

theorem isWay_stays : IsWay (σ := σ) Stays :=
  isWay_kept (·.cwd) (fun cwd es => ∀ x ∈ exchanges es, x.host.cwd = cwd) (by simp)
    fun hes hfs => forall_exchanges_append.2 ⟨hes, hfs⟩

theorem log_stays (level : Log.Level) (logger message : String) :
    (log level logger message : Act σ Unit).Along Stays :=
  fun _ => ⟨rfl, [_], rfl, by simp⟩

/-- A call stays in the working directory if the client does then. -/
theorem ask_stays_of {client : Client σ} {call : Call}
    (hcwd : ∀ h, (client call h).host.cwd = h.cwd) : (ask client call).Along Stays := by
  intro s
  rw [after_ask]
  exact ⟨hcwd s.host, _, rfl, forall_exchanges_asked.2 rfl⟩

/-- A call for the first build, which builds all packages. -/
def Call.isFirstBuild : Call → Bool
  | .build none _ => true
  | _ => false

/-- A way on which the working directory stays the same and nothing is built. -/
def Apart (s t : Session σ) : Prop :=
  t.host.cwd = s.host.cwd ∧
    ∃ es, t.trace = s.trace ++ es ∧ ∀ x ∈ exchanges es, x.call.isFirstBuild = false

theorem isWay_apart : IsWay (σ := σ) Apart :=
  isWay_kept (·.cwd) (fun _ es => ∀ x ∈ exchanges es, x.call.isFirstBuild = false) (by simp)
    fun hes hfs => forall_exchanges_append.2 ⟨hes, hfs⟩

theorem log_apart (level : Log.Level) (logger message : String) :
    (log level logger message : Act σ Unit).Along Apart :=
  fun _ => ⟨rfl, [_], rfl, by simp⟩

theorem setTree_apart (t : Tree) : (setTree t : Act σ Unit).Along Apart :=
  fun _ => ⟨rfl, [.change t], rfl, by simp [exchanges, exchange?]⟩

/-- A way to the first build and back: if something was built, it ends where the way back from there
leads, and otherwise where it began. -/
def Turned (s t : Session σ) : Prop :=
  ∃ es, t.trace = s.trace ++ es ∧
    (∀ x ∈ exchanges es, x.call.isFirstBuild = true → t.host.cwd = s.host.wayBack x.host.cwd) ∧
    ((∀ x ∈ exchanges es, x.call.isFirstBuild = false) → t.host.cwd = s.host.cwd)

/-- Nothing built is a way to the first build that was not gone. -/
theorem Apart.turned {s t : Session σ} (h : Apart s t) : Turned s t := by
  obtain ⟨hcwd, es, ht, hes⟩ := h
  refine ⟨es, ht, fun x hx hbuild => ?_, fun _ => hcwd⟩
  rw [hes x hx] at hbuild
  cases hbuild

/-- What comes before the turn may leave the files and the working directory. -/
theorem Apart.trans_turned {s t u : Session σ} (h : Apart s t) (htree : t.host.tree = s.host.tree)
    (hu : Turned t u) : Turned s u := by
  obtain ⟨hcwd, es, ht, hes⟩ := h
  obtain ⟨fs, hu, hbuilt, hunbuilt⟩ := hu
  -- The way back is told by the files and the working directory alone.
  have hway : t.host.wayBack = s.host.wayBack := by
    unfold Host.wayBack
    rw [htree, hcwd]
  refine ⟨es ++ fs, by rw [hu, ht, List.append_assoc], fun x hx hbuild => ?_, fun hnone => ?_⟩
  · rw [exchanges_append] at hx
    rcases List.mem_append.1 hx with hx | hx
    · rw [hes x hx] at hbuild
      cases hbuild
    · rw [hbuilt x hx hbuild, hway]
  · rw [hunbuilt fun x hx => hnone x (by rw [exchanges_append]; exact List.mem_append_right _ hx),
      hcwd]

/-- What comes after the turn may leave the working directory. -/
theorem Turned.trans_apart {s t u : Session σ} (h : Turned s t) (hu : Apart t u) : Turned s u := by
  obtain ⟨es, ht, hbuilt, hunbuilt⟩ := h
  obtain ⟨hcwd, fs, hu, hfs⟩ := hu
  refine ⟨es ++ fs, by rw [hu, ht, List.append_assoc], fun x hx hbuild => ?_, fun hnone => ?_⟩
  · rw [exchanges_append] at hx
    rcases List.mem_append.1 hx with hx | hx
    · rw [hcwd, hbuilt x hx hbuild]
    · rw [hfs x hx] at hbuild
      cases hbuild
  · rw [hcwd, hunbuilt fun x hx => hnone x (by
      rw [exchanges_append]; exact List.mem_append_left _ hx)]

/-- The text of a place has an octet for each name at least. -/
theorem Path.length_le_ofPlace (place : Place) :
    place.length ≤ (Path.ofPlace place).text.utf8ByteSize := by
  have hjoined : place.length ≤ ("/".intercalate place).utf8ByteSize + 1 := by
    induction place with
    | nil => exact Nat.zero_le _
    | cons a rest ih =>
      cases rest with
      | nil => simp
      | cons b rest =>
        have hslash : "/".utf8ByteSize = 1 := rfl
        rw [String.intercalate_cons_cons, String.utf8ByteSize_append, String.utf8ByteSize_append,
          hslash, List.length_cons]
        omega
  have hroot : PathRoot.single.text.utf8ByteSize = 1 := rfl
  unfold Path.ofPlace Path.text
  rw [if_neg (by simp), String.utf8ByteSize_append, hroot]
  change place.length ≤ 1 + ("/".intercalate place).utf8ByteSize
  omega

/-- A path that is too long for the system leads nowhere, and so there is no way back. -/
theorem Host.wayBack_of_long (h : Host σ) (dir : Spot)
    (hlong : Tree.pathLimit ≤ (Path.ofPlace h.cwd.place).text.utf8ByteSize) :
    h.wayBack dir = dir := by
  unfold Host.wayBack
  dsimp only
  rw [Tree.status_of_long h.tree dir hlong]
  split <;> rfl

namespace Pipeline

variable {p : Pipeline σ} {request : DeploymentRequest}

theorem ask_stays (hp : p.LeavesFiles) (call : Call) : (ask p.client call).Along Stays :=
  ask_stays_of fun h => (hp.client call h).2

theorem ask_apart (hp : p.LeavesFiles) {call : Call} (hcall : call.isFirstBuild = false) :
    (ask p.client call).Along Apart := by
  intro s
  rw [after_ask]
  exact ⟨(hp.client call s.host).2, _, rfl, forall_exchanges_asked.2 hcall⟩

theorem checkNetwork_apart (hp : p.LeavesFiles) (profile : NetworkProfile) :
    (p.checkNetwork profile).Along Apart :=
  checkNetwork_along isWay_apart fun check hcheck s =>
    ⟨(hp.check check hcheck profile s.host).2, _, rfl, by simp⟩

theorem approach_apart (hp : p.LeavesFiles) (request : DeploymentRequest) :
    (p.approach request).Along Apart :=
  approach_along isWay_apart log_apart (checkNetwork_apart hp) (ask_apart hp rfl)
    fun _ => ask_apart hp rfl

theorem approach_untouched (hp : p.LeavesFiles) (request : DeploymentRequest) :
    (p.approach request).Along Untouched :=
  approach_along isWay_untouched log_untouched (checkNetwork_untouched hp) (ask_untouched hp _)
    fun _ => ask_untouched hp _

theorem buildAll_grows (p : Pipeline σ) : p.buildAll.Along Grows :=
  buildAll_along isWay_grows log_grows fun _ _ => ask_grows p.client _

theorem buildAll_stays (hp : p.LeavesFiles) : p.buildAll.Along Stays :=
  buildAll_along isWay_stays log_stays fun _ _ => ask_stays hp _

/-- Before anything else the first build is asked for, where the builds begin. -/
theorem exchanges_buildAll_cons (p : Pipeline σ) (s : Session σ) :
    ∃ rest, exchanges (p.buildAll.events s) =
      ⟨.build none false, s.host, (p.client (.build none false) s.host).answer⟩ :: rest := by
  have hrest : (tell "[2/4] Optimizing contracts..." >>= fun _ =>
      optimizeAll p.client p.artifacts).Along Grows :=
    .bind isWay_grows (log_grows _ _ _) fun _ =>
      optimizeAll_along isWay_grows fun _ _ => ask_grows p.client _
  have hask : (explain (fun e => .buildFailed e.message)
      (ask p.client (.build none false))).Along Grows := .explain _ (ask_grows p.client _)
  have htell : (tell "[1/4] Building contracts..." : Act σ Unit).Along Silent := log_silent _ _ _
  unfold buildAll
  rw [exchanges_silent_bind htell rfl (.bind isWay_grows hask fun _ => hrest),
    events_bind (hask _) fun _ _ => hrest _, exchanges_append, events_explain, exchanges_ask]
  exact ⟨_, rfl⟩

/-- The first build is asked for. -/
theorem exchanges_buildAll (p : Pipeline σ) (s : Session σ) :
    ∃ x ∈ exchanges (p.buildAll.events s), x.call.isFirstBuild = true := by
  obtain ⟨rest, hbuilds⟩ := exchanges_buildAll_cons p s
  rw [hbuilds]
  exact ⟨_, List.mem_cons_self, rfl⟩

/-- A run that enters a directory builds there and then goes the way back. -/
theorem inDirectory_entered (hp : p.LeavesFiles) {path : Path} {s : Session σ} {dir : Spot}
    (hlive : s.host.cwd.lost = 0) (hnul : Files.hasNul path.text = false)
    (hdir : s.host.tree.status s.host.cwd path.text = .ok (dir, .directory)) :
    ∃ v n fs, v.host.cwd = dir ∧ exchanges fs = [] ∧
      ((Workspace.inDirectory path p.buildAll).after s).trace =
        s.trace ++ (.note n :: p.buildAll.events v ++ fs) ∧
      ((Workspace.inDirectory path p.buildAll).after s).host.cwd = s.host.wayBack dir := by
  rcases Workspace.inDirectory_entry path p.buildAll s with
    ⟨hnone, -⟩ | ⟨dir', v, n, -, -, hdir', hv, hnote, hruns⟩
  · exact absurd ⟨hnul, dir, hdir⟩ (hnone hlive)
  have hsame : dir' = dir := by
    cases hdir.symm.trans hdir'
    rfl
  rw [hsame] at hv
  rw [(outcome_of_apply hruns).2, after_andFinally]
  -- From here the builds stay in the entered directory, and then the run moves back.
  obtain ⟨htree, es, hes, -⟩ := buildAll_along isWay_untouched log_untouched
    (fun _ _ => ask_untouched hp _) v
  obtain ⟨hcwd, -⟩ := buildAll_stays hp v
  obtain ⟨fs, hfs, hsilent⟩ := Workspace.leaveTo_along isWay_silent log_silent setCwd_silent
    (.ofPlace s.host.cwd.place) (p.buildAll.after v)
  refine ⟨v, n, fs, by rw [hv], exchanges_eq_nil hsilent, ?_, ?_⟩
  · rw [hfs, hes, hnote, events_eq hes]
    simp
  · rw [Workspace.leaveTo_cwd s.host (p.buildAll.after v) (htree.trans (by rw [hv])), hcwd, hv]

/-- A directory that is not entered leaves the session as it is. -/
theorem inDirectory_cases (p : Pipeline σ) (path : Path) (s : Session σ) :
    (Workspace.inDirectory path p.buildAll).after s = s ∨
      s.host.cwd.lost = 0 ∧ Files.hasNul path.text = false ∧
        ∃ dir, s.host.tree.status s.host.cwd path.text = .ok (dir, .directory) := by
  rcases Workspace.inDirectory_entry path p.buildAll s with
    ⟨-, e, hfails⟩ | ⟨dir, v, n, hlive, hnul, hdir, -, -, -⟩
  · exact .inl ((eq_error_iff _ _ _ _).1 hfails).2
  · exact .inr ⟨hlive, hnul, dir, hdir⟩

/-- The builds are made in the contracts directory, and then the way back is gone. -/
theorem inDirectory_buildAll_turned (hp : p.LeavesFiles) (path : Path) :
    (Workspace.inDirectory path p.buildAll).Along Turned := by
  intro s
  rcases inDirectory_cases p path s with hsame | ⟨hlive, hnul, dir, hdir⟩
  · rw [hsame]
    exact (isWay_apart.refl s).turned
  · obtain ⟨v, n, fs, hv, hfs, htrace, hback⟩ := inDirectory_entered hp hlive hnul hdir
    obtain ⟨-, es, hes, hstays⟩ := buildAll_stays hp v
    have hex : exchanges (.note n :: p.buildAll.events v ++ fs) = exchanges es := by
      rw [exchanges_append, hfs, List.append_nil, exchanges_note_cons, events_eq hes]
    refine ⟨_, htrace, fun x hx _ => ?_, fun hunbuilt => ?_⟩
    · rw [hex] at hx
      rw [hback, hstays x hx, hv]
    · obtain ⟨x, hx, hbuild⟩ := exchanges_buildAll p v
      rw [events_eq hes, ← hex] at hx
      rw [hunbuilt x hx] at hbuild
      cases hbuild

/-- When the builds are over, nothing more is built and the working directory stays. -/
theorem run_after_builds (hp : p.LeavesFiles) {s : Session σ} {ready : ResolvedIdentity × Path}
    (hready : (p.approach request).result s = .ok ready) :
    Apart ((Workspace.inDirectory ready.2 p.buildAll).after ((p.approach request).after s))
      ((p.run request).after s) := by
  have hestablish : (p.establish request ready.1 ready.2).Along Apart :=
    establish_along isWay_apart log_apart (fun _ _ _ => ask_apart hp rfl)
      (fun _ _ _ _ _ => ask_apart hp rfl) request ready.1 ready.2
  have hsave : ∀ deployed, (p.save request ready.1 deployed).Along Apart := fun deployed =>
    save_along isWay_apart log_apart setTree_apart request ready.1 deployed
  rw [run_eq, goLive, prepare]
  simp only [bind_assoc, pure_bind]
  rw [after_bind, hready]
  simp only
  rw [after_bind]
  cases (Workspace.inDirectory ready.2 p.buildAll).result ((p.approach request).after s) with
  | error e => exact isWay_apart.refl _
  | ok _ => exact Along.bind isWay_apart hestablish hsave _

/-- A run that fails before the builds ends there. -/
theorem after_run_of_unready {s : Session σ} {e : Failure}
    (h : (p.approach request).result s = .error e) :
    (p.run request).after s = (p.approach request).after s := by
  rw [run_eq, goLive, prepare]
  simp only [bind_assoc]
  rw [after_bind, h]

/-- A run comes back from its first build by the way back. -/
theorem run_turned (hp : p.LeavesFiles) (request : DeploymentRequest) :
    (p.run request).Along Turned := by
  intro s
  have hfirst := approach_apart hp request s
  cases hready : (p.approach request).result s with
  | error e =>
    rw [after_run_of_unready hready]
    exact hfirst.turned
  | ok ready =>
    refine hfirst.trans_turned (approach_untouched hp request s).1 ?_
    exact (inDirectory_buildAll_turned hp ready.2 _).trans_apart (run_after_builds hp hready)

/-- A run that enters the contracts directory ends where the way back from there leads. -/
theorem run_cwd_of_entered (hp : p.LeavesFiles) {s : Session σ} {ready : ResolvedIdentity × Path}
    {dir : Spot} (hready : (p.approach request).result s = .ok ready)
    (hlive : s.host.cwd.lost = 0) (hnul : Files.hasNul ready.2.text = false)
    (hdir : s.host.tree.status s.host.cwd ready.2.text = .ok (dir, .directory)) :
    ((p.run request).after s).host.cwd = s.host.wayBack dir := by
  obtain ⟨hcwd, -⟩ := approach_apart hp request s
  obtain ⟨htree, -⟩ := approach_untouched hp request s
  have hway : ((p.approach request).after s).host.wayBack = s.host.wayBack := by
    unfold Host.wayBack
    rw [htree, hcwd]
  obtain ⟨v, n, fs, -, -, -, hback⟩ := inDirectory_entered (p := p) hp
    (s := (p.approach request).after s) (by rw [hcwd]; exact hlive) hnul
    (by rw [htree, hcwd]; exact hdir)
  rw [(run_after_builds hp hready).1, hback, hway]

/-- The builds succeed only if the first one does. -/
theorem buildAll_ok {s : Session σ} (h : p.buildAll.result s = .ok ()) :
    ∃ a, (p.client (.build none false) s.host).answer = .ok a := by
  unfold buildAll at h
  obtain ⟨_, -, h⟩ := result_bind_eq_ok h
  obtain ⟨a, ha, -⟩ := result_bind_eq_ok h
  rw [result_explain_eq_ok_iff, result_ask] at ha
  exact ⟨a, ha⟩

/-- Nothing goes live unless the first build is answered. -/
theorem goLive_built {s : Session σ} {live : ResolvedIdentity × List DeployedContract}
    (h : (p.goLive request).result s = .ok live) :
    ∃ host a, (p.client (.build none false) host).answer = .ok a := by
  unfold goLive prepare at h
  obtain ⟨ready, h, -⟩ := result_bind_eq_ok h
  obtain ⟨ready, -, h⟩ := result_bind_eq_ok h
  obtain ⟨_, h, -⟩ := result_bind_eq_ok h
  obtain ⟨-, v, -, hbuilt, -⟩ := Workspace.inDirectory_ok h
  exact ⟨v.host, buildAll_ok hbuilt⟩

end Pipeline

end SorobanDeploy
