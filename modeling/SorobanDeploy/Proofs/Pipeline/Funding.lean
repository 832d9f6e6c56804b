import SorobanDeploy.Proofs.Pipeline.Twins

/-!
# Funding moves nothing

Whatever becomes of a request for funds, a run goes on, and it never looks at what became of it. So
two clients that answer every other call alike lead to the same calls, the same end and the same
files, though one of them gets funds and the other one fails to (`run_unmoved_by_funds`).
-/

namespace SorobanDeploy

open Act Event

variable {σ α : Type}

/-- A client whose failures to get funds are ordinary ones. -/
def Client.FundsOrdinarily (client : Client σ) : Prop :=
  ∀ identity network h e, (client (.fund identity network) h).answer = .error e →
    e.isA .ordinary = true

/-- A request for funds that fails ordinarily is an attempt that succeeds. -/
theorem Client.FundsOrdinarily.attempt {client : Client σ} (h : client.FundsOrdinarily)
    (identity network : String) (s : Session σ) :
    ∃ a, (attempt .ordinary (ask client (.fund identity network))).result s = .ok a := by
  rw [result_attempt, result_ask]
  cases hanswer : (client (.fund identity network) s.host).answer with
  | ok a => exact ⟨_, rfl⟩
  | error e => exact ⟨.error e, by simp only [h identity network s.host e hanswer, if_true]⟩

namespace Pipeline

/-- Two pipelines that differ in what becomes of their requests for funds. Each request succeeds or
fails ordinarily, and it leaves nothing but what `Q` allows outside. -/
structure FundsApart (Q : σ → σ → Prop) (p q : Pipeline σ) : Prop where
  twins : p.Twins (Host.Alike Q) q
  checks : p.ChecksAlike (Host.Alike Q) q
  first : p.client.FundsOrdinarily
  second : q.client.FundsOrdinarily
  leaves : ∀ identity network h k, Host.Alike Q h k →
    Host.Alike Q (p.client (.fund identity network) h).host
      (q.client (.fund identity network) k).host

variable {Q : σ → σ → Prop} {p q : Pipeline σ}

/-- Whatever becomes of the requests for funds, both runs go on, on hosts that match. -/
theorem FundsApart.fund (hpq : p.FundsApart Q q) (request : DeploymentRequest) :
    Succeed (Host.Alike Q) (p.fund request) (q.fund request) := by
  have hattempt (identity network : String) : Succeed (Host.Alike Q)
      (attempt .ordinary (ask p.client (.fund identity network)))
      (attempt .ordinary (ask q.client (.fund identity network))) := by
    intro s t h
    refine ⟨hpq.first.attempt identity network s, hpq.second.attempt identity network t, ?_⟩
    rw [after_attempt, after_attempt]
    exact h.ask (hpq.leaves identity network _ _ h.host)
  unfold Pipeline.fund Identity.ensureFunded
  split
  · refine .log_left (.log_right ((hattempt _ _).bind fun a b => ?_))
    -- Each of the two values may be a failure, which is logged then.
    cases a <;> cases b
    · exact .log_left (.log_right (.pure _ _))
    · exact .log_left (.pure _ _)
    · exact .log_right (.pure _ _)
    · exact .pure _ _
  · exact .log_left (.log_right (.pure _ _))

/-- Whatever becomes of a request for funds, a run makes the same calls, ends with the same result,
and leaves the same files and the same working directory. -/
theorem run_unmoved_by_funds (hpq : p.FundsApart Q q) (request : DeploymentRequest)
    {h k : Host σ} (hhk : Host.Alike Q h k) (before : List (Event σ)) :
    calls ((p.run request).events ⟨h, before⟩) = calls ((q.run request).events ⟨k, before⟩) ∧
    (p.run request).result ⟨h, before⟩ = (q.run request).result ⟨k, before⟩ ∧
    ((p.run request).after ⟨h, before⟩).host.tree = ((q.run request).after ⟨k, before⟩).host.tree ∧
    ((p.run request).after ⟨h, before⟩).host.cwd = ((q.run request).after ⟨k, before⟩).host.cwd := by
  have hR := seesFiles_alike Q
  have hrun : Parallel (Host.Alike Q) (p.run request) (q.run request) := by
    rw [run_eq_front, run_eq_front]
    refine .bind (hpq.twins.front (hR.from _) ?_) fun admin => ?_
    · exact (hpq.fund request).parallel (.pure ())
    · exact .bind (hpq.checks.checkNetwork _) fun _ => hpq.twins.rear hR request admin
  have hmatched : Matched (Host.Alike Q) (σ := σ) ⟨h, before⟩ ⟨k, before⟩ := ⟨hhk, rfl⟩
  have hagree := hrun _ _ hmatched
  exact ⟨hagree.calls hmatched (run_grows p request) (run_grows q request), hagree.result,
    hagree.after.host.tree, hagree.after.host.cwd⟩

/-- A request for a network that funds accounts. -/
def testnetRequest : DeploymentRequest :=
  ⟨⟨.testnet, "http://localhost", "Test SDF Network ; September 2015"⟩, "alice"⟩

/-- A pipeline whose client answers requests for funds in one way. -/
def fundedBy (answer : Except Failure (Option String)) : Pipeline Unit where
  client := .answering fun call => match call with
    | .resolveAddress _ => .ok (some "GADMIN")
    | .fund .. => answer
    | .deploy .. => .ok (some "CAFE")
    | _ => .ok none
  statePath := .ofText ".env"
  contractsRoot := none
  artifacts := Artifact.standard
  check := none

/-- A run of the built project ends alike with funds and without them. -/
theorem funds_do_not_matter :
    calls (((fundedBy (.ok none)).run testnetRequest).events ⟨builtHost, []⟩) =
      calls (((fundedBy (.error (.plain .badValue "no account"))).run testnetRequest).events
        ⟨builtHost, []⟩) ∧
    ((fundedBy (.ok none)).run testnetRequest).result ⟨builtHost, []⟩ =
      ((fundedBy (.error (.plain .badValue "no account"))).run testnetRequest).result
        ⟨builtHost, []⟩ := by
  have hpq : (fundedBy (.ok none)).FundsApart (fun _ _ => True)
      (fundedBy (.error (.plain .badValue "no account"))) :=
    { twins := ⟨rfl, rfl, rfl, fun call hcall h k hk => by
        cases call with
        | fund identity network => exact absurd rfl (hcall identity network)
        | _ => exact ⟨rfl, hk⟩⟩
      checks := ⟨rfl, nofun⟩
      first := fun _ _ _ _ hanswer => by cases hanswer
      second := fun _ _ _ _ hanswer => by cases hanswer; rfl
      leaves := fun _ _ _ _ hk => hk }
  obtain ⟨hcalls, hresult, -⟩ :=
    run_unmoved_by_funds hpq testnetRequest (h := builtHost) ⟨rfl, rfl, rfl, rfl, trivial⟩ []
  exact ⟨hcalls, hresult⟩

end Pipeline

end SorobanDeploy
