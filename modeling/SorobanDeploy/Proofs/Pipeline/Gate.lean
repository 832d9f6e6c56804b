import SorobanDeploy.Proofs.Pipeline.Twins
import SorobanDeploy.Proofs.Rpc.Served

/-!
# The check of the network is a gate

A run asks for the network between the funds and the builds. If the server answers that it serves
the network of the profile, the run goes on as if it had not asked; otherwise it fails there, before
anything is built (`run_gate`).
-/

namespace SorobanDeploy

open Act Event

variable {σ α : Type}

namespace Pipeline

variable {p : Pipeline σ} {request : DeploymentRequest}

/-- Before the check no contract is built, deployed or called. -/
theorem front_asks (p : Pipeline σ) (request : DeploymentRequest) :
    (p.front request).Along (Asks fun x => x.call.isBuild = false ∧ x.call.isDeploy = false ∧
      x.call.isInvoke = false) :=
  front_along (isWay_asks _) (fun _ _ _ => (log_silent _ _ _).asks _)
    (ask_asks fun _ => ⟨rfl, rfl, rfl⟩) fun _ => ask_asks fun _ => ⟨rfl, rfl, rfl⟩

theorem front_untouched (hp : p.LeavesFiles) (request : DeploymentRequest) :
    (p.front request).Along Untouched :=
  front_along isWay_untouched log_untouched (ask_untouched hp _) fun _ => ask_untouched hp _

theorem front_apart (hp : p.LeavesFiles) (request : DeploymentRequest) :
    (p.front request).Along Apart :=
  front_along isWay_apart log_apart (ask_apart hp rfl) fun _ => ask_apart hp rfl

/-- A run whose check fails ends there. -/
theorem run_of_unchecked {R : Session σ → Session σ → Prop} {s : Session σ} (hR : IsWay R)
    (hfront : (p.front request).Along R) (hcheck : (p.checkNetwork request.network).Along R)
    (hfails : ∃ e, (p.checkNetwork request.network).result ((p.front request).after s) = .error e) :
    (∃ e, (p.run request).result s = .error e) ∧ R s ((p.run request).after s) := by
  rw [run_eq_front]
  obtain ⟨e, he⟩ := hfails
  cases hadmin : (p.front request).result s with
  | error d =>
    refine ⟨⟨d, by rw [result_bind, hadmin]⟩, ?_⟩
    rw [after_bind, hadmin]
    exact hfront s
  | ok admin =>
    rw [result_bind_of_ok _ hadmin, after_bind_of_ok _ hadmin]
    refine ⟨⟨e, by rw [result_bind, he]⟩, ?_⟩
    rw [after_bind, he]
    exact hR.trans (hfront s) (hcheck _)

/-- What a client cannot tell: whether requests were sent. What requests do outside is among what
`Q` allows, and the client answers alike, and leaves hosts alike, that differ by what `Q` allows. -/
structure Unseen (client : Client σ) (transport : Rpc.Transport σ) (Q : σ → σ → Prop) : Prop where
  refl : ∀ o, Q o o
  sent : ∀ request o, Q (transport request o).2 o
  client : ∀ call h k, Host.Alike Q h k → (client call h).answer = (client call k).answer ∧
    Host.Alike Q (client call h).host (client call k).host

/-- The pipeline without a check of the network. -/
def unchecked (p : Pipeline σ) : Pipeline σ := { p with check := none }

theorem Unseen.alike_refl {client : Client σ} {transport : Rpc.Transport σ} {Q : σ → σ → Prop}
    (h : Unseen client transport Q) (host : Host σ) : Host.Alike Q host host :=
  ⟨rfl, rfl, rfl, rfl, h.refl _⟩

/-- A check by asking a server leaves the files, if the client does. -/
theorem leavesFiles_of_verifies {transport : Rpc.Transport σ}
    (hcheck : ∀ check ∈ p.check, check = Rpc.verifyNetwork transport)
    (hleaves : ∀ call h,
      (p.client call h).host.tree = h.tree ∧ (p.client call h).host.cwd = h.cwd) :
    p.LeavesFiles where
  client := hleaves
  check check hmem profile h := by
    rw [hcheck check hmem]
    rcases Rpc.verifyNetwork_host transport profile h with hsame | ⟨sent, hsent⟩
    · rw [hsame]
      exact ⟨rfl, rfl⟩
    · rw [hsent]
      exact ⟨rfl, rfl⟩

/-- The check fails exactly if the server does not serve the network. -/
theorem checkNetwork_fails_iff {transport : Rpc.Transport σ}
    (hcheck : p.check = some (Rpc.verifyNetwork transport)) (profile : NetworkProfile)
    (t : Session σ) : (∃ e, (p.checkNetwork profile).result t = .error e) ↔
      ¬ Rpc.Served transport profile t.host := by
  rw [(checkNetwork_of_some hcheck profile t).1, ← Rpc.verifyNetwork_ok_iff]
  cases (Rpc.verifyNetwork transport profile t.host).answer with
  | error e => exact ⟨fun _ => nofun, fun _ => ⟨e, rfl⟩⟩
  | ok info => exact ⟨nofun, fun h => absurd ⟨info, rfl⟩ h⟩

/-- A run whose server serves the network agrees with the run without the check. -/
theorem run_agrees {transport : Rpc.Transport σ} {Q : σ → σ → Prop} {s : Session σ}
    (hcheck : p.check = some (Rpc.verifyNetwork transport))
    (hunseen : Unseen p.client transport Q)
    (hserved : Rpc.Served transport request.network ((p.front request).after s).host) :
    Agree (Host.Alike Q) (p.run request) (p.unchecked.run request) s s := by
  have hfront : p.unchecked.front request = p.front request := rfl
  have htwins : p.Twins (Host.Alike Q) p.unchecked :=
    ⟨rfl, rfl, rfl, fun call _ h k hk => hunseen.client call h k hk⟩
  rw [run_eq_front, run_eq_front, hfront]
  have hsame : Agree (Host.Alike Q) (p.front request) (p.front request) s s :=
    ⟨rfl, hunseen.alike_refl _, rfl⟩
  refine hsame.bind fun admin _ => ?_
  generalize (p.front request).after s = t at hserved
  obtain ⟨hresult, hafter⟩ := checkNetwork_of_some hcheck request.network t
  obtain ⟨info, hinfo⟩ := (Rpc.verifyNetwork_ok_iff transport request.network t.host).2 hserved
  -- The check succeeds, and what it leaves differs by a sent request at most.
  have hchecked : Agree (Host.Alike Q) (p.checkNetwork request.network)
      (p.unchecked.checkNetwork request.network) t t := by
    refine ⟨by rw [hresult, hinfo]; rfl, ?_, ?_⟩
    · change Host.Alike Q _ t.host
      rw [hafter]
      rcases Rpc.verifyNetwork_host transport request.network t.host with hkept | ⟨sent, hsent⟩
      · rw [hkept]
        exact hunseen.alike_refl _
      · rw [hsent]
        exact ⟨rfl, rfl, rfl, rfl, hunseen.sent _ _⟩
    · change _ = calls t.trace
      rw [hafter, calls_append]
      simp [calls]
  exact hchecked.bind fun _ _ =>
    htwins.rear (seesFiles_alike Q) request admin _ _ hchecked.after

/-- The check of the network is a gate. If the server answers that it serves the network, the run
makes the same calls, ends with the same result and leaves the same files as without the check, as
far as the client cannot tell whether requests were sent. Otherwise it fails, builds, deploys and
initializes nothing, and leaves the files and the working directory. -/
theorem run_gate {transport : Rpc.Transport σ}
    (hcheck : p.check = some (Rpc.verifyNetwork transport))
    (hleaves : ∀ call h, (p.client call h).host.tree = h.tree ∧ (p.client call h).host.cwd = h.cwd)
    (request : DeploymentRequest) (s : Session σ) :
    (∀ Q, Unseen p.client transport Q →
      Rpc.Served transport request.network ((p.front request).after s).host →
      calls ((p.run request).events s) = calls ((p.unchecked.run request).events s) ∧
      (p.run request).result s = (p.unchecked.run request).result s ∧
      ((p.run request).after s).host.tree = ((p.unchecked.run request).after s).host.tree ∧
      ((p.run request).after s).host.cwd = ((p.unchecked.run request).after s).host.cwd) ∧
    (¬ Rpc.Served transport request.network ((p.front request).after s).host →
      (∃ e, (p.run request).result s = .error e) ∧
      (∀ call ∈ calls ((p.run request).events s), call.isBuild = false ∧
        call.isDeploy = false ∧ call.isInvoke = false) ∧
      ((p.run request).after s).host.tree = s.host.tree ∧
      ((p.run request).after s).host.cwd = s.host.cwd) := by
  constructor
  · intro Q hunseen hserved
    have hagree := run_agrees hcheck hunseen hserved
    have hcalls := hagree.calls ⟨hunseen.alike_refl _, rfl⟩ (run_grows p request)
      (run_grows p.unchecked request)
    exact ⟨hcalls, hagree.result, hagree.after.host.tree, hagree.after.host.cwd⟩
  · intro hunserved
    have honly : ∀ check ∈ p.check, check = Rpc.verifyNetwork transport := by simp [hcheck]
    have hp := leavesFiles_of_verifies honly hleaves
    have hfails := (checkNetwork_fails_iff hcheck request.network _).2 hunserved
    -- The run ends with the check, so what both respect the whole run respects.
    obtain ⟨hraises, hasked⟩ := run_of_unchecked (isWay_asks _) (front_asks p request)
      (checkNetwork_along (isWay_asks _) fun _ _ _ => ⟨_, rfl, by simp⟩) hfails
    obtain ⟨-, htree, -⟩ := run_of_unchecked isWay_untouched (front_untouched hp request)
      (checkNetwork_untouched hp request.network) hfails
    obtain ⟨-, hcwd, -⟩ := run_of_unchecked isWay_apart (front_apart hp request)
      (checkNetwork_apart hp request.network) hfails
    refine ⟨hraises, fun call hcall => ?_, htree, hcwd⟩
    obtain ⟨x, hx, rfl⟩ := List.mem_map.1 hcall
    exact hasked.of_mem hx

/-- A server that names a passphrase, whatever it is asked. What is outside counts the requests. -/
def naming (passphrase : String) : Rpc.Transport Nat := fun _ sent =>
  let body := "\x7b\"result\":\x7b\"passphrase\":\"" ++ passphrase ++ "\"\x7d\x7d"
  (.ok ⟨200, none, Text.Utf8.encode body.toList⟩, sent + 1)

/-- The built project, before any request was sent. -/
def unaskedHost : Host Nat := { builtHost with outside := 0 }

/-- A pipeline that asks a server which names a passphrase. -/
def asking (passphrase : String) : Pipeline Nat where
  client := .answering fun call => match call with
    | .resolveAddress _ => .ok (some "GADMIN")
    | .deploy .. => .ok (some "CAFE")
    | _ => .ok none
  statePath := .ofText ".env"
  contractsRoot := none
  artifacts := Artifact.standard
  check := some (Rpc.verifyNetwork (naming passphrase))

/-- The client of such a pipeline does not look at the requests that were sent. -/
theorem unseen_asking (passphrase : String) :
    Unseen (asking passphrase).client (naming passphrase) fun _ _ => True where
  refl _ := trivial
  sent _ _ := trivial
  client _ _ _ hk := ⟨rfl, hk⟩

/-- The gate opens for the server of the network, and shuts for another one. -/
theorem gate_opens_and_shuts :
    ((asking mainnetRequest.network.passphrase).run mainnetRequest).result ⟨unaskedHost, []⟩ =
      ((asking mainnetRequest.network.passphrase).unchecked.run mainnetRequest).result
        ⟨unaskedHost, []⟩ ∧
    ∃ e, ((asking "elsewhere").run mainnetRequest).result ⟨unaskedHost, []⟩ = .error e := by
  have hgate : ∀ passphrase, _ := fun passphrase => run_gate (p := asking passphrase) rfl
    (fun _ _ => ⟨rfl, rfl⟩) mainnetRequest ⟨unaskedHost, []⟩
  have hanswers : ∀ passphrase, Rpc.Served (naming passphrase) mainnetRequest.network
      (((asking passphrase).front mainnetRequest).after ⟨unaskedHost, []⟩).host ↔
      (Rpc.verifyNetwork (naming passphrase) mainnetRequest.network
        unaskedHost).answer.toOption.isSome = true := by
    intro passphrase
    -- The client only answers, so the host is still the one that the run began on.
    have hway : IsWay (σ := Nat) fun s t => t.host = s.host :=
      ⟨fun _ => rfl, fun h g => g.trans h⟩
    have hask : ∀ call, (Act.ask (asking passphrase).client call).Along fun s t =>
        t.host = s.host := fun call s => by rw [after_ask]; rfl
    have hkept : (((asking passphrase).front mainnetRequest).after ⟨unaskedHost, []⟩).host =
        unaskedHost :=
      front_along hway (fun _ _ _ _ => rfl) (hask _) (fun _ => hask _) ⟨unaskedHost, []⟩
    rw [hkept, ← Rpc.verifyNetwork_ok_iff]
    cases (Rpc.verifyNetwork (naming passphrase) mainnetRequest.network unaskedHost).answer with
    | error e =>
      constructor
      · rintro ⟨info, h⟩; cases h
      · intro h; cases h
    | ok info => exact ⟨fun _ => rfl, fun _ => ⟨info, rfl⟩⟩
  constructor
  · refine ((hgate _).1 _ (unseen_asking _) ((hanswers _).2 ?_)).2.1
    decide +kernel
  · refine ((hgate _).2 fun hserved => ?_).1
    have hsome := (hanswers _).1 hserved
    revert hsome
    decide +kernel

end Pipeline

end SorobanDeploy
