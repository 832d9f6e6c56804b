import SorobanDeploy.Proofs.Host.Resolved
import SorobanDeploy.Proofs.Pipeline.Elsewhere

/-!
# The builds and the way back

Whatever the client does while it builds, a build ends on the host that the client leaves after its
last call, but for a move back to the path of the directory that the build began in. The first call
is made in the directory of the contracts, and so are all others if the client does not move
(`Pipeline.build_comes_back`).

The move back leads to that directory if it is still there and the system takes its path. It may be
there under a path that the system does not take; then the build stays where the client left it, and
the failure to move hides the failure of the client (`Pipeline.compilerless_stranded`).
-/

namespace SorobanDeploy

open Act Event

variable {σ : Type}

/-- A host as it is seen from another working directory. -/
def Host.seenFrom (h : Host σ) (dir : Spot) : Host σ := { h with cwd := dir }

/-- A directory that stands where its path says, and is found there, is where the way back leads. -/
theorem Host.wayBack_eq {h : Host σ} (hstands : h.Stands) (hsettled : h.Settled) (dir : Spot) :
    h.wayBack dir = h.cwd := by
  obtain ⟨hlive, hnul, spot, hfound⟩ := hsettled
  have hroot := Path.head?_ofPlace h.cwd.place
  have hstatus : h.tree.status dir (Path.ofPlace h.cwd.place).text = .ok (spot, .directory) := by
    rw [Tree.status_of_absolute hroot h.tree dir h.cwd]
    exact hfound
  obtain ⟨hspot, -⟩ := hstands.status_eq hstatus
  unfold Host.wayBack
  dsimp only
  rw [hnul, if_neg Bool.false_ne_true, hstatus, hspot, Spot.live, ← hlive]

/-! ## The last call -/

/-- The host that a client leaves when it has answered a call. -/
def Exchange.leaves (x : Exchange σ) (client : Client σ) : Host σ := (client x.call x.host).host

/-- A way on which nobody but the client changes the host, so that it is as the client leaves it
after the last call. -/
def LeftBy (client : Client σ) (s t : Session σ) : Prop :=
  ∃ es, t.trace = s.trace ++ es ∧
    t.host = (exchanges es).getLast?.elim s.host fun x => x.leaves client

theorem isWay_leftBy (client : Client σ) : IsWay (LeftBy client) where
  refl s := ⟨[], by simp, rfl⟩
  trans := by
    rintro s t u ⟨es, ht, htleft⟩ ⟨fs, hu, huleft⟩
    refine ⟨es ++ fs, by rw [hu, ht, List.append_assoc], ?_⟩
    rw [huleft, exchanges_append, List.getLast?_append]
    cases (exchanges fs).getLast? with
    | some x => rfl
    | none => exact htleft

theorem log_leftBy (client : Client σ) (level : Log.Level) (logger message : String) :
    (log level logger message : Act σ Unit).Along (LeftBy client) := fun _ => ⟨[_], rfl, rfl⟩

theorem ask_leftBy (client : Client σ) (call : Call) :
    (ask client call).Along (LeftBy client) := by
  intro s
  rw [after_ask]
  refine ⟨_, rfl, ?_⟩
  rw [exchanges_exchange_cons, exchanges_notes]
  rfl

/-- A way on which nothing of the host changes but the working directory. -/
theorem isWay_cwdOnly :
    IsWay (σ := σ) fun s t => t.host = { s.host with cwd := t.host.cwd } where
  refl s := rfl
  trans h g := by
    rw [h] at g
    exact g

/-- A move back leaves the host but for the working directory, which is where the way back leads. -/
theorem Workspace.leaveTo_host (home : Spot) (s : Session σ) :
    ((Workspace.leaveTo (.ofPlace home.place)).after s).host =
      s.host.seenFrom ((s.host.seenFrom home).wayBack s.host.cwd) := by
  have honly := Workspace.leaveTo_along isWay_cwdOnly (fun _ _ _ _ => rfl) (fun _ _ => rfl)
    (.ofPlace home.place) s
  have hcwd := Workspace.leaveTo_cwd (s.host.seenFrom home) s rfl
  rw [honly]
  exact congrArg s.host.seenFrom hcwd

/-! ## The directory of the contracts -/

namespace Workspace

/-- The contracts that are found are entered at their place. -/
theorem eq_of_entered {start : Option String} {s : Session σ} {contracts : Path} {dir : Spot}
    (hfound : (findContracts start).result s = .ok contracts)
    (hdir : s.host.tree.status s.host.cwd contracts.text = .ok (dir, .directory)) :
    dir = .live contracts.names := by
  obtain ⟨path, q, place, -, rfl, hresolved, -⟩ := findContracts_resolved hfound
  exact (Tree.linkFree_of_resolved hresolved).status_eq hdir

end Workspace

namespace Pipeline

variable {p : Pipeline σ} {s : Session σ}

/-- A build goes through the builds in the directory of the contracts and then moves back, or it
does nothing. -/
theorem build_entry (p : Pipeline σ) (s : Session σ) :
    ((s.host.cwd.lost = 0 → ∀ contracts,
          (Workspace.findContracts p.contractsRoot).result s = .ok contracts →
            ¬s.host.HasDirectory contracts.text) ∧
        ∃ e, p.build s = .error e s) ∨
      ∃ contracts v n, (Workspace.findContracts p.contractsRoot).result s = .ok contracts ∧
        v.host = s.host.seenFrom (.live contracts.names) ∧
        v.trace = s.trace ++ [.note n] ∧
        p.build s = (andFinally p.buildAll (Workspace.leaveTo (.ofPlace s.host.cwd.place)) >>=
          fun _ => pure (p.artifacts.map (placed contracts))) v := by
  unfold build
  cases hfound : Workspace.findContracts p.contractsRoot s with
  | error e t =>
    obtain rfl := ((eq_error_iff _ _ _ _).1 hfound).2.symm.trans
      (Workspace.findContracts_reads p.contractsRoot s)
    refine .inl ⟨fun _ contracts hcontracts => ?_, e, by rw [bind_apply, hfound]⟩
    cases ((eq_error_iff _ _ _ _).1 hfound).1.symm.trans hcontracts
  | ok contracts t =>
    obtain ⟨hresult, ht⟩ := (eq_ok_iff _ _ _ _).1 hfound
    obtain rfl := ht.symm.trans (Workspace.findContracts_reads p.contractsRoot s)
    rcases Workspace.inDirectory_entry contracts p.buildAll t with
      ⟨hnone, e, hfails⟩ | ⟨dir, v, n, -, -, hdir, hv, hnote, hruns⟩
    · refine .inl ⟨fun hlive contracts' hcontracts => ?_, e, ?_⟩
      · cases hresult.symm.trans hcontracts
        exact hnone hlive
      · rw [bind_apply, hfound]
        simp only
        rw [bind_apply, hfails]
    · obtain rfl := Workspace.eq_of_entered hresult hdir
      refine .inr ⟨contracts, v, n, hresult, hv, hnote, ?_⟩
      rw [bind_apply, hfound]
      simp only
      rw [bind_apply, hruns, ← bind_apply]

/-- Behind the builds nothing more is asked for. -/
theorem leaveTo_silent (home : Spot) :
    (Workspace.leaveTo (.ofPlace home.place) : Act σ Unit).Along Silent :=
  Workspace.leaveTo_along isWay_silent log_silent setCwd_silent _

/-- What a build that goes through the builds asks for, and what it leaves. -/
theorem build_entered {contracts : Path} {v : Session σ} {n : Note}
    (hnote : v.trace = s.trace ++ [.note n])
    (hruns : p.build s = (andFinally p.buildAll (Workspace.leaveTo (.ofPlace s.host.cwd.place)) >>=
      fun _ => pure (p.artifacts.map (placed contracts))) v) :
    exchanges (p.build.events s) = exchanges (p.buildAll.events v) ∧
      (p.build.after s).host = (p.buildAll.after v).host.seenFrom
        (((p.buildAll.after v).host.seenFrom s.host.cwd).wayBack
          (p.buildAll.after v).host.cwd) := by
  have hback := leaveTo_silent (σ := σ) s.host.cwd
  have hgrows : (andFinally p.buildAll (Workspace.leaveTo (.ofPlace s.host.cwd.place))).Along
      Grows := .andFinally isWay_grows (buildAll_grows p) hback.grows
  constructor
  · rw [exchanges_noted hnote hruns (.bind isWay_grows hgrows fun _ => .pure isWay_grows _),
      exchanges_bind_silent hgrows fun _ => .pure isWay_silent _,
      exchanges_andFinally_silent (buildAll_grows p) hback]
  · rw [(outcome_of_apply hruns).2, after_bind, after_andFinally,
      ← Workspace.leaveTo_host s.host.cwd (p.buildAll.after v)]
    split <;> rfl

/-- Each call of a build that fails is told from where the build goes back to. -/
theorem build_ends (p : Pipeline σ) (s : Session σ) :
    p.build.Ends (fun y e g _ => p.ToldFrom (.ofPlace s.host.cwd.place) y e g) s := by
  have hreads := Workspace.findContracts_reads (σ := σ) p.contractsRoot
  refine .silent_bind (.of_reads isWay_silent hreads) fun contracts _ => ?_
  rw [hreads s]
  exact .bind_silent (inDirectory_ends p contracts s) fun _ => .pure isWay_silent _

/-- Whatever the client does, a build asks for the first build in the directory of the contracts,
and for all others there too if the client does not move. It ends on the host that the client leaves
after the last call, but for the way back to the directory that it began in; that leads there if the
directory is there and found under its path. A call that fails is told, if there is a directory to
go back to, and is hidden by the failure to go back if there is none. -/
theorem build_comes_back (p : Pipeline σ) (s : Session σ) :
    (exchanges (p.build.events s) = [] → (p.build.after s).host = s.host) ∧
    (∀ x ∈ (exchanges (p.build.events s)).head?, x.call = .build none false ∧
      ∃ contracts, (Workspace.findContracts p.contractsRoot).result s = .ok contracts ∧
        x.host = s.host.seenFrom (.live contracts.names) ∧
        ((∀ package optimize h, (p.client (.build package optimize) h).host.cwd = h.cwd) →
          ∀ y ∈ exchanges (p.build.events s), y.host.cwd = .live contracts.names)) ∧
    (∀ x ∈ (exchanges (p.build.events s)).getLast?,
      (p.build.after s).host = (x.leaves p.client).seenFrom
        (((x.leaves p.client).seenFrom s.host.cwd).wayBack (x.leaves p.client).cwd) ∧
      (((x.leaves p.client).seenFrom s.host.cwd).Stands →
        ((x.leaves p.client).seenFrom s.host.cwd).Settled →
        (p.build.after s).host.cwd = s.host.cwd)) ∧
    (∀ x ∈ exchanges (p.build.events s), ∀ e, x.answer = .error e →
      ∃ g, p.build.result s = .error g ∧
        ((x.leaves p.client).HasDirectory (Path.ofPlace s.host.cwd.place).text →
          e.Becomes x.call g) ∧
        (¬(x.leaves p.client).HasDirectory (Path.ofPlace s.host.cwd.place).text →
          (Files.changeDirectory (Path.ofPlace s.host.cwd.place).text).result
            ⟨x.leaves p.client, []⟩ = .error g)) := by
  rcases build_entry p s with ⟨-, e, hfails⟩ | ⟨contracts, v, n, hfound, hv, hnote, hruns⟩
  · have hnone : exchanges (p.build.events s) = [] := by rw [events_of_fails hfails]; rfl
    rw [hnone]
    exact ⟨fun _ => by rw [((eq_error_iff _ _ _ _).1 hfails).2], by simp, by simp, by simp⟩
  obtain ⟨hasked, hafter⟩ := build_entered hnote hruns
  obtain ⟨rest, hfirst⟩ := exchanges_buildAll_cons p v
  have hbuilds : ∀ x ∈ exchanges (p.build.events s), x.call.isBuild = true := by
    rw [hasked]
    exact fun x hx => (buildAll_builds p v).of_mem hx
  refine ⟨fun hnone => ?_, fun x hx => ?_, fun x hx => ?_, fun x hx e he => ?_⟩
  · rw [hasked, hfirst] at hnone
    cases hnone
  · rw [hasked, hfirst] at hx
    cases hx
    refine ⟨rfl, contracts, hfound, hv, fun hmoves y hy => ?_⟩
    obtain ⟨-, es, hes, hstays⟩ := buildAll_along isWay_stays log_stays
      (fun package optimize => ask_stays_of (hmoves package optimize)) v
    rw [hasked, events_eq hes] at hy
    rw [hstays y hy, hv]
    rfl
  · obtain ⟨es, hes, hleft⟩ := buildAll_along (isWay_leftBy p.client) (log_leftBy p.client)
      (fun _ _ => ask_leftBy p.client _) v
    rw [hasked, events_eq hes] at hx
    rw [Option.mem_def.1 hx] at hleft
    have hhost : (p.buildAll.after v).host = x.leaves p.client := hleft
    rw [hhost] at hafter
    refine ⟨hafter, fun hstands hsettled => ?_⟩
    rw [hafter]
    exact Host.wayBack_eq hstands hsettled _
  · have hbuild := hbuilds x hx
    have hunfunded : x.IsFunding → e.isA .ordinary = false := by
      rintro ⟨identity, network, hcall⟩
      rw [hcall] at hbuild
      cases hbuild
    obtain ⟨g, hg, htold, hhidden⟩ := (build_ends p s).each x hx e ⟨he, hunfunded⟩
    exact ⟨g, hg, fun hthere => htold fun _ => hthere, hhidden hbuild⟩

end Pipeline

/-! ## A directory that is there and not gone back to -/

/-- A move along a path that is too long for the system fails with its refusal. -/
theorem Files.result_changeDirectory_of_long {path : String} {s : Session σ}
    (hnul : hasNul path = false) (hlong : Tree.pathLimit ≤ path.utf8ByteSize) :
    (changeDirectory path).result s = .error (refusalAt .nameTooLong path) := by
  have hrefused : (changeDirectory path) s = .error (refusalAt .nameTooLong path) s := by
    unfold changeDirectory
    rw [bind_apply, request_of_refused hnul (by rw [Tree.status_of_long _ _ hlong])]
  exact ((eq_error_iff _ _ _ _).1 hrefused).1

namespace Pipeline

/-- The project without a compiler asks for its first build, from the root and from the deep
directory. Its client leaves the host as it is. -/
theorem compilerless_asks {dir : Spot} (hdir : dir = .live [] ∨ dir = .live deepPlace) :
    ∃ x ∈ exchanges (compilerless.build.events ⟨deepHost.seenFrom dir, []⟩),
      x.call = .build none false ∧ x.answer = .error (.plain .system "no compiler") ∧
      (compilerless.build.after ⟨deepHost.seenFrom dir, []⟩).host =
        deepHost.seenFrom ((deepHost.seenFrom dir).wayBack (.live ["contracts"])) := by
  have hfound : (Workspace.findContracts compilerless.contractsRoot).result
      ⟨deepHost.seenFrom dir, []⟩ = .ok ⟨.single, ["contracts"]⟩ := by
    refine result_eq_ok_of_toOption ?_
    rcases hdir with rfl | rfl <;> decide +kernel
  have hthere : (deepHost.seenFrom dir).HasDirectory (Path.mk .single ["contracts"]).text :=
    ⟨by decide, .live ["contracts"], rfl⟩
  have hlive : dir.lost = 0 := by rcases hdir with rfl | rfl <;> rfl
  rcases build_entry compilerless ⟨deepHost.seenFrom dir, []⟩ with
    ⟨hnone, -⟩ | ⟨contracts, v, n, hcontracts, hv, hnote, hruns⟩
  · exact absurd hthere (hnone hlive _ hfound)
  cases hfound.symm.trans hcontracts
  obtain ⟨hasked, hafter⟩ := build_entered hnote hruns
  obtain ⟨rest, hfirst⟩ := exchanges_buildAll_cons compilerless v
  have hbuilt : (compilerless.buildAll.after v).host = v.host := by
    obtain ⟨g, -, -, hleft⟩ := (buildAll_ends compilerless v).each _ (hfirst ▸ List.mem_cons_self)
      (.plain .system "no compiler") ⟨rfl, by rintro ⟨_, _, hcall⟩; cases hcall⟩
    exact hleft
  rw [hasked, hfirst]
  refine ⟨_, List.mem_cons_self, rfl, rfl, ?_⟩
  rw [hafter, hbuilt, hv]
  rfl

/-- From the root the project without a compiler fails to build, with the failure of its client as
the cause, and stays at the root. -/
theorem compilerless_returns : ∃ g,
    compilerless.build.result ⟨deepHost.seenFrom (.live []), []⟩ = .error g ∧
      g.kind = .build ∧ g.cause = some (.plain .system "no compiler") ∧
      (compilerless.build.after ⟨deepHost.seenFrom (.live []), []⟩).host.cwd = .live [] := by
  obtain ⟨x, hx, hcall, hanswer, -⟩ := compilerless_asks (.inl rfl)
  obtain ⟨-, -, hlast, htold⟩ := build_comes_back compilerless ⟨deepHost.seenFrom (.live []), []⟩
  obtain ⟨g, hg, hbecomes, -⟩ := htold x hx _ hanswer
  have hbuild : x.call.isBuild = true := by rw [hcall]; rfl
  obtain ⟨hkind, hcause⟩ := (hbecomes ⟨by decide, .live [], rfl⟩).of_build hbuild rfl
  refine ⟨g, hg, hkind, hcause, ?_⟩
  -- The root is there, whatever the client leaves.
  obtain ⟨last, hlast'⟩ := Option.isSome_iff_exists.1
    (List.getLast?_isSome.2 (List.ne_nil_of_mem hx))
  obtain ⟨-, hback⟩ := hlast last hlast'
  have hroot := Tree.stands_nil (last.leaves compilerless.client).tree
  exact hback ⟨hroot.names, hroot.directories⟩ (.of_root rfl)

/-- From the deep directory the project without a compiler ends in the directory of the contracts,
and neither the failure of its client nor one of the build is told, though the deep directory stands
there all the time. -/
theorem compilerless_stranded :
    (∃ x ∈ exchanges (compilerless.build.events ⟨deepHost, []⟩),
      x.answer = .error (.plain .system "no compiler")) ∧
    ((compilerless.build.after ⟨deepHost, []⟩).host.seenFrom deepHost.cwd).Stands ∧
    (compilerless.build.after ⟨deepHost, []⟩).host.cwd ≠ deepHost.cwd ∧
    ¬∃ g, compilerless.build.result ⟨deepHost, []⟩ = .error g ∧
      (g.kind = .build ∨ g = .plain .system "no compiler") := by
  obtain ⟨x, hx, hcall, hanswer, hhost⟩ := compilerless_asks (.inr rfl)
  change x ∈ exchanges (compilerless.build.events ⟨deepHost, []⟩) at hx
  change (compilerless.build.after ⟨deepHost, []⟩).host =
    deepHost.seenFrom (deepHost.wayBack (.live ["contracts"])) at hhost
  have hlong : Tree.pathLimit ≤ (Path.ofPlace deepHost.cwd.place).text.utf8ByteSize := by
    have hle := Path.length_le_ofPlace deepPlace
    rwa [show deepPlace.length = 4096 from List.length_replicate] at hle
  rw [Host.wayBack_of_long _ _ hlong] at hhost
  refine ⟨⟨x, hx, hanswer⟩, ?_, ?_, ?_⟩
  · rw [hhost]
    exact deepHost_stands
  · rw [hhost]
    intro heq
    have hlength := congrArg (fun dir : Spot => dir.place.length) heq
    rw [show deepHost.cwd.place.length = 4096 from List.length_replicate] at hlength
    cases hlength
  · rintro ⟨g, hg, hown⟩
    have hunfunded : x.IsFunding → (Failure.plain .system "no compiler").isA .ordinary = false := by
      rintro ⟨identity, network, hfunding⟩
      rw [hcall] at hfunding
      cases hfunding
    obtain ⟨d, hd, -, hhidden⟩ := (build_ends compilerless ⟨deepHost, []⟩).each x hx _
      ⟨hanswer, hunfunded⟩
    cases hg.symm.trans hd
    -- What is told is the refusal of the path, and that is neither.
    have hrefused : g = Files.refusalAt .nameTooLong (Path.ofPlace deepPlace).text := by
      have hmove := hhidden (by rw [hcall]; rfl) fun ⟨_, dir, hdir⟩ => by
        rw [Tree.status_of_long _ _ hlong] at hdir
        cases hdir
      rw [Files.result_changeDirectory_of_long (Path.hasNul_ofPlace ?_) hlong] at hmove
      · exact (Except.error.inj hmove).symm
      · intro name hname
        rw [List.eq_of_mem_replicate hname]
        decide
    rw [hrefused] at hown
    rcases hown with hkind | hsame
    · have hsystem : FailureClass.ofErrorNumber Refusal.nameTooLong.number ≠ .build := by decide
      exact hsystem hkind
    · have hfirst := congrArg (fun e : Failure => e.message.toList.head?) hsame
      simp [Files.refusalAt, Failure.plain, Failure.message, String.toList_append] at hfirst

end Pipeline

end SorobanDeploy
