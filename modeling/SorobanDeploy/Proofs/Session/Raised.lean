import SorobanDeploy.Proofs.Session.Steps

/-!
# Calls that fail

A call of the client that fails ends the action that made it, unless it asked for funds and the
failure is an ordinary one. An expected failure becomes the cause of a failure of the stage that the
call belongs to, and any other one stays as it is (`Failure.Becomes`). `Raises` says that this is so
for every call that an action makes. It is a case of `Ends`, which also tells the host that is left;
actions one after another end as each of them does (`Ends.bind`).
-/

namespace SorobanDeploy

variable {σ α β : Type}

/-- The class of the failures of the stage that a call belongs to. A request for funds ends no
stage. -/
def Call.stage? : Call → Option FailureClass
  | .resolveAddress _ => some .identity
  | .fund .. => none
  | .build .. => some .build
  | .deploy .. => some .deployment
  | .invoke .. => some .initialization

/-- What the failure of a call becomes when it ends a stage. -/
def Failure.Becomes (e : Failure) (call : Call) (g : Failure) : Prop :=
  match call.stage? with
  | some c => if e.isExpected then g.kind = c ∧ g.cause = some e else g = e
  | none => g = e

/-- A failure that no stage expects stays as it is. -/
theorem Failure.Becomes.eq {e g : Failure} {call : Call} (h : e.Becomes call g)
    (hexpected : e.isExpected = false) : g = e := by
  unfold Failure.Becomes at h
  split at h
  · rwa [hexpected, if_neg Bool.false_ne_true] at h
  · exact h

/-- A failure that the stage of its call expects is told as the cause of a failure of the stage. -/
theorem Failure.Becomes.staged {e g : Failure} {call : Call} {c : FailureClass}
    (h : e.Becomes call g) (hstage : call.stage? = some c) (hexpected : e.isExpected = true) :
    g.kind = c ∧ g.cause = some e := by
  unfold Failure.Becomes at h
  rw [hstage] at h
  dsimp only at h
  rwa [if_pos hexpected] at h

/-- The class of a failure tells whether it is expected. -/
theorem Failure.isExpected_eq {e : Failure} {c : FailureClass} (h : e.kind = c) :
    e.isExpected = (c.isA .pipeline || c.isA .system) := by
  rw [isExpected, isA, isA, h]

/-- A call that fails and is not forgiven. Only ordinary failures to get funds are forgiven. -/
def Exchange.Fails (x : Exchange σ) (e : Failure) : Prop :=
  x.answer = .error e ∧ (x.IsFunding → e.isA .ordinary = false)

namespace Act

open Event

/-- An action ends as `P` says of every call in it that fails. `P` tells the call, its failure, the
failure that the action ends with, and the host that it leaves. -/
structure Ends (P : Exchange σ → Failure → Failure → Host σ → Prop) (x : Act σ α) (s : Session σ) :
    Prop where
  grows : s.trace <+: (x.after s).trace
  each : ∀ y ∈ exchanges (x.events s), ∀ e, y.Fails e →
    ∃ g, x.result s = .error g ∧ P y e g (x.after s).host

/-- An action ends with what the failure of a call becomes, for every call in it that fails. -/
abbrev Raises (x : Act σ α) (s : Session σ) : Prop := x.Ends (fun y e g _ => e.Becomes y.call g) s

namespace Ends

variable {P Q : Exchange σ → Failure → Failure → Host σ → Prop} {x y : Act σ α} {f : α → Act σ β}
  {s : Session σ}

/-- Of the calls in an action less may be said. -/
theorem mono (hx : x.Ends P s)
    (hPQ : ∀ z ∈ exchanges (x.events s), ∀ e g h, P z e g h → Q z e g h) : x.Ends Q s := by
  refine ⟨hx.grows, fun z hz e hfails => ?_⟩
  obtain ⟨g, hg, hends⟩ := hx.each z hz e hfails
  exact ⟨g, hg, hPQ z hz e g _ hends⟩

/-- Actions that do the same in a session end alike there. -/
theorem congr (h : x s = y s) (hy : y.Ends P s) : x.Ends P s := by
  obtain ⟨hresult, hafter, hevents⟩ := congr_of_apply h
  refine ⟨by rw [hafter]; exact hy.grows, ?_⟩
  rw [hresult, hafter, hevents]
  exact hy.each

/-- An action that asks for nothing ends as anything says of its calls. -/
theorem of_asks_nothing (h : x.Along (Asks fun _ => False)) (s : Session σ) : x.Ends P s := by
  obtain ⟨es, ht, hes⟩ := h s
  refine ⟨⟨es, ht.symm⟩, fun z hz => ?_⟩
  rw [events_eq ht] at hz
  exact (hes z hz).elim

theorem of_silent (h : x.Along Silent) (s : Session σ) : x.Ends P s :=
  of_asks_nothing (h.asks _) s

/-- If a call of the first action fails, the second one is not reached. -/
theorem bind (hx : x.Ends P s) (hf : ∀ a, x.result s = .ok a → (f a).Ends P (x.after s)) :
    (x >>= f).Ends P s := by
  have he := events_bind hx.grows fun a ha => (hf a ha).grows
  cases hr : x.result s with
  | error d =>
    -- The second action is not reached, and both end as the first one does.
    have hafter : (x >>= f).after s = x.after s := by rw [after_bind, hr]
    simp only [hr, List.append_nil] at he
    refine ⟨by rw [hafter]; exact hx.grows, fun z hz e hfails => ?_⟩
    rw [he] at hz
    obtain ⟨g, hg, hends⟩ := hx.each z hz e hfails
    exact ⟨g, by rw [result_bind, hg], by rw [hafter]; exact hends⟩
  | ok a =>
    have hafter : (x >>= f).after s = (f a).after (x.after s) := after_bind_of_ok _ hr
    simp only [hr] at he
    have hfa := hf a hr
    refine ⟨by rw [hafter]; exact hx.grows.trans hfa.grows, fun z hz e hfails => ?_⟩
    rw [he, exchanges_append] at hz
    rcases List.mem_append.1 hz with hz | hz
    · -- The first action succeeded, so no call of it failed.
      obtain ⟨g, hg, -⟩ := hx.each z hz e hfails
      cases hr.symm.trans hg
    · rw [result_bind_of_ok _ hr, hafter]
      exact hfa.each z hz e hfails

theorem silent_bind (hx : x.Along Silent)
    (hf : ∀ a, x.result s = .ok a → (f a).Ends P (x.after s)) : (x >>= f).Ends P s :=
  (of_silent hx s).bind hf

theorem bind_silent (hx : x.Ends P s) (hf : ∀ a, (f a).Along Silent) : (x >>= f).Ends P s :=
  hx.bind fun a _ => of_silent (hf a) _

/-- A question to the client ends with a failure of its stage, on the host that the client
leaves. -/
theorem explain_ask {client : Client σ} {call : Call} {problem : Failure → Problem}
    (hstage : ∀ e, call.stage? = some (problem e).kind) (s : Session σ) :
    (explain problem (ask client call)).Ends
      (fun y e g h => e.Becomes y.call g ∧ h = (client y.call y.host).host) s := by
  refine ⟨by rw [after_explain]; exact ask_grows client call s, fun y hy e hfails => ?_⟩
  rw [events_explain, exchanges_ask, List.mem_singleton] at hy
  have hanswer : (client call s.host).answer = .error e := by rw [hy] at hfails; exact hfails.1
  have hresult : (explain problem (ask client call)).result s =
      .error (if e.isExpected then (problem e).because e else e) := by
    rw [explain, result_mapFailure, result_ask, hanswer]
    rfl
  refine ⟨_, hresult, ?_, by rw [after_explain, after_ask, hy]⟩
  rw [hy, Failure.Becomes, hstage e]
  cases e.isExpected with
  | true => exact ⟨rfl, rfl⟩
  | false => rfl

/-- A last action that succeeds lets the failure of a call be, and one that fails hides it. -/
theorem andFinally {last : Act σ Unit} (hx : x.Ends P s) (hl : last.Along Silent)
    (hok : ∀ z e g, P z e g (x.after s).host → last.result (x.after s) = .ok () →
      Q z e g (last.after (x.after s)).host)
    (herror : ∀ z e g d, P z e g (x.after s).host → last.result (x.after s) = .error d →
      Q z e d (last.after (x.after s)).host) : (Act.andFinally x last).Ends Q s := by
  obtain ⟨fs, ht, hfs⟩ := hl (x.after s)
  have he : (Act.andFinally x last).events s = x.events s ++ fs := by
    apply events_eq
    rw [after_andFinally, ht, trace_after hx.grows, List.append_assoc]
  refine ⟨?_, fun z hz e hfails => ?_⟩
  · rw [after_andFinally, ht]
    exact hx.grows.trans (List.prefix_append _ _)
  · rw [he, exchanges_append, exchanges_eq_nil hfs, List.append_nil] at hz
    obtain ⟨g, hg, hends⟩ := hx.each z hz e hfails
    rw [result_andFinally, after_andFinally]
    cases hlast : last.result (x.after s) with
    | ok _ => exact ⟨g, hg, hok z e g hends hlast⟩
    | error d => exact ⟨d, rfl, herror z e g d hends hlast⟩

end Ends

namespace Raises

/-- A question to the client raises a failure of its stage. -/
theorem explain_ask {client : Client σ} {call : Call} {problem : Failure → Problem}
    (hstage : ∀ e, call.stage? = some (problem e).kind) (s : Session σ) :
    (explain problem (ask client call)).Raises s :=
  (Ends.explain_ask hstage s).mono fun _ _ _ _ _ h => h.1

/-- A request for funds raises what is not ordinary. -/
theorem attempt_fund (client : Client σ) (identity network : String) (s : Session σ) :
    (attempt .ordinary (ask client (.fund identity network))).Raises s := by
  have hafter := after_attempt .ordinary (ask client (.fund identity network)) s
  have he : (attempt .ordinary (ask client (.fund identity network))).events s =
      (ask client (.fund identity network)).events s := by
    unfold events
    rw [hafter]
  refine ⟨by rw [hafter]; exact ask_grows client _ s, fun y hy e hfails => ?_⟩
  rw [he, exchanges_ask, List.mem_singleton] at hy
  obtain ⟨hanswer, hfund⟩ := hfails
  have hextraordinary := hfund ⟨identity, network, by rw [hy]⟩
  have hasked : (client (.fund identity network) s.host).answer = .error e := by
    rw [hy] at hanswer
    exact hanswer
  refine ⟨e, ?_, by rw [hy]; exact rfl⟩
  rw [result_attempt, result_ask, hasked]
  simp only [hextraordinary, Bool.false_eq_true, if_false]

end Raises

end Act

end SorobanDeploy
