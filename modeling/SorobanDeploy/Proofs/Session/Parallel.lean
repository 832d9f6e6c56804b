import SorobanDeploy.Proofs.Session.Steps

/-!
# Two sessions side by side

Two actions in two sessions agree if they end alike, leave hosts that match again, and ask their
clients for the same calls (`Agree`). What matches is told by a relation of hosts. Composed actions
agree as soon as their parts do, so actions that agree wherever the sessions match (`Parallel`) can
be put together without looking at sessions again. Actions that succeed wherever the sessions match
need not end with the same value (`Succeed`), if nothing that follows looks at it.
-/

namespace SorobanDeploy

open Event

variable {σ α β : Type}

/-- The calls that the client is asked for, among events. -/
def Event.calls (es : List (Event σ)) : List Call := (exchanges es).map (·.call)

@[simp] theorem Event.calls_append (es fs : List (Event σ)) :
    calls (es ++ fs) = calls es ++ calls fs := by
  unfold calls
  rw [exchanges_append, List.map_append]

namespace Act

variable {R : Host σ → Host σ → Prop}

/-- The hosts of two sessions match, and the same calls were made in both. -/
structure Matched (R : Host σ → Host σ → Prop) (s t : Session σ) : Prop where
  host : R s.host t.host
  calls : calls s.trace = calls t.trace

/-- Two actions end alike in two sessions and leave them matched. -/
structure Agree (R : Host σ → Host σ → Prop) (x y : Act σ α) (s t : Session σ) : Prop where
  result : x.result s = y.result t
  after : Matched R (x.after s) (y.after t)

/-- Two actions that agree in all sessions that match. -/
def Parallel (R : Host σ → Host σ → Prop) (x y : Act σ α) : Prop :=
  ∀ s t, Matched R s t → Agree R x y s t

/-- The same call is made in both sessions. -/
theorem Matched.ask {c d : Client σ} {call : Call} {s t : Session σ} (h : Matched R s t)
    (hhost : R (c call s.host).host (d call t.host).host) :
    Matched R ((Act.ask c call).after s) ((Act.ask d call).after t) := by
  have hcall : ∀ (x : Exchange σ) (ns : List Note),
      Event.calls (.exchange x :: ns.map .note) = [x.call] := fun x ns => by
    unfold Event.calls
    rw [exchanges_exchange_cons, exchanges_notes]
    rfl
  rw [after_ask, after_ask]
  refine ⟨hhost, ?_⟩
  rw [calls_append, calls_append, hcall, hcall, h.calls]

/-! ## Agreement of composed actions -/

theorem Agree.bind {x y : Act σ α} {f g : α → Act σ β} {s t : Session σ}
    (hx : Agree R x y s t)
    (hf : ∀ a, x.result s = .ok a → Agree R (f a) (g a) (x.after s) (y.after t)) :
    Agree R (x >>= f) (y >>= g) s t := by
  cases hr : x.result s with
  | error e =>
    have hy : y.result t = .error e := by rw [← hx.result, hr]
    refine ⟨?_, ?_⟩
    · rw [result_bind, result_bind, hr, hy]
    · rw [after_bind, after_bind, hr, hy]
      exact hx.after
  | ok a =>
    have hy : y.result t = .ok a := by rw [← hx.result, hr]
    refine ⟨?_, ?_⟩
    · rw [result_bind_of_ok _ hr, result_bind_of_ok _ hy]
      exact (hf a hr).result
    · rw [after_bind_of_ok _ hr, after_bind_of_ok _ hy]
      exact (hf a hr).after

/-- Actions agree where others do that do the same there. -/
theorem Agree.congr {x y x' y' : Act σ α} {s t : Session σ} (hx : x s = x' s) (hy : y t = y' t)
    (h : Agree R x' y' s t) : Agree R x y s t := by
  obtain ⟨hresult, hafter, -⟩ := congr_of_apply hx
  obtain ⟨hresult', hafter', -⟩ := congr_of_apply hy
  exact ⟨by rw [hresult, hresult', h.result], by rw [hafter, hafter']; exact h.after⟩

/-- Actions that agree make the same calls. -/
theorem Agree.calls {x y : Act σ α} {s t : Session σ} (h : Agree R x y s t) (hst : Matched R s t)
    (hx : x.Along Grows) (hy : y.Along Grows) :
    Event.calls (x.events s) = Event.calls (y.events t) := by
  have hcalls := h.after.calls
  rw [trace_after (hx s), trace_after (hy t), calls_append, calls_append, hst.calls] at hcalls
  exact List.append_cancel_left hcalls

namespace Parallel

variable {x y : Act σ α} {f g : α → Act σ β}

theorem pure (a : α) : Parallel R (Pure.pure a : Act σ α) (Pure.pure a) :=
  fun _ _ h => ⟨rfl, h⟩

theorem fail (e : Failure) : Parallel R (Act.fail e : Act σ α) (Act.fail e) :=
  fun _ _ h => ⟨rfl, h⟩

theorem refuse (p : Problem) : Parallel R (Act.refuse p : Act σ α) (Act.refuse p) := fail p.failure

theorem bind (hx : Parallel R x y) (hf : ∀ a, Parallel R (f a) (g a)) :
    Parallel R (x >>= f) (y >>= g) :=
  fun s t h => (hx s t h).bind fun a _ => hf a _ _ (hx s t h).after

/-- What follows may rely on what the first action can end with. -/
theorem bind_ok (hx : Parallel R x y)
    (hf : ∀ s a, x.result s = .ok a → Parallel R (f a) (g a)) : Parallel R (x >>= f) (y >>= g) :=
  fun s t h => (hx s t h).bind fun a ha => hf s a ha _ _ (hx s t h).after

/-- What looks at the host goes on with hosts that match. -/
theorem host_bind {f g : Host σ → Act σ α} (hf : ∀ h k, R h k → Parallel R (f h) (g k)) :
    Parallel R (Act.host >>= f) (Act.host >>= g) := by
  intro s t h
  have hagree := hf s.host t.host h.host s t h
  exact ⟨hagree.result, hagree.after⟩

/-- An event that is no exchange is told in both sessions. -/
theorem emit {e d : Event σ} (he : exchange? e = none) (hd : exchange? d = none) :
    Parallel R (Act.emit e) (Act.emit d) := by
  intro s t h
  have hnone : ∀ c : Event σ, exchange? c = none → calls [c] = [] := fun c hc => by
    unfold calls exchanges
    rw [List.filterMap_cons_none hc]
    rfl
  refine ⟨rfl, h.host, ?_⟩
  rw [after_emit, after_emit, calls_append, calls_append, hnone e he, hnone d hd, h.calls]

theorem log (level : Log.Level) (logger message : String) :
    Parallel R (Act.log level logger message : Act σ Unit) (Act.log level logger message) :=
  emit rfl rfl

theorem setTree (hR : ∀ h k t, R h k → R { h with tree := t } { k with tree := t }) (t : Tree) :
    Parallel R (Act.setTree t : Act σ Unit) (Act.setTree t) := by
  intro s u h
  refine ⟨rfl, hR _ _ t h.host, ?_⟩
  change calls (s.trace ++ [.change t]) = calls (u.trace ++ [.change t])
  rw [calls_append, calls_append, h.calls]

theorem setCwd (hR : ∀ h k dir, R h k → R { h with cwd := dir } { k with cwd := dir })
    (dir : Spot) : Parallel R (Act.setCwd dir : Act σ Unit) (Act.setCwd dir) :=
  fun _ _ h => ⟨rfl, hR _ _ dir h.host, h.calls⟩

/-- Clients that answer a call alike on hosts that match are asked alike. -/
theorem ask {c d : Client σ} {call : Call}
    (hanswers : ∀ h k, R h k → (c call h).answer = (d call k).answer ∧
      R (c call h).host (d call k).host) :
    Parallel R (Act.ask c call) (Act.ask d call) := by
  intro s t h
  obtain ⟨hanswer, hhost⟩ := hanswers s.host t.host h.host
  exact ⟨by rw [result_ask, result_ask, hanswer], h.ask hhost⟩

/-- Parties that answer a question alike on hosts that match are asked alike. -/
theorem consult {ι : Type} {c d : Party σ ι α} {question : ι}
    (hanswers : ∀ h k, R h k → (c question h).answer = (d question k).answer ∧
      R (c question h).host (d question k).host) :
    Parallel R (Act.consult c question) (Act.consult d question) := by
  intro s t h
  obtain ⟨hanswer, hhost⟩ := hanswers s.host t.host h.host
  have hsilent : ∀ ns : List Note, calls (ns.map (Event.note (σ := σ))) = [] := fun ns => by
    unfold calls
    rw [exchanges_notes]
    rfl
  unfold Act.consult
  refine ⟨?_, ?_, ?_⟩
  · rw [result_host_bind, result_host_bind, result_receive, result_receive, hanswer]
  · rw [after_host_bind, after_host_bind, after_receive, after_receive]
    exact hhost
  · rw [after_host_bind, after_host_bind, after_receive, after_receive, calls_append, calls_append,
      hsilent, hsilent, h.calls]

theorem mapFailure (f : Failure → Failure) (hx : Parallel R x y) :
    Parallel R (Act.mapFailure f x) (Act.mapFailure f y) := by
  intro s t h
  have hagree := hx s t h
  refine ⟨?_, ?_⟩
  · rw [result_mapFailure, result_mapFailure, hagree.result]
  · rw [after_mapFailure, after_mapFailure]
    exact hagree.after

theorem explain (problem : Failure → Problem) (hx : Parallel R x y) :
    Parallel R (Act.explain problem x) (Act.explain problem y) := hx.mapFailure _

theorem attempt (c : FailureClass) (hx : Parallel R x y) :
    Parallel R (Act.attempt c x) (Act.attempt c y) := by
  intro s t h
  have hagree := hx s t h
  refine ⟨?_, ?_⟩
  · rw [result_attempt, result_attempt, hagree.result]
  · rw [after_attempt, after_attempt]
    exact hagree.after

theorem andFinally {last last' : Act σ Unit} (hx : Parallel R x y) (hl : Parallel R last last') :
    Parallel R (Act.andFinally x last) (Act.andFinally y last') := by
  intro s t h
  have hagree := hx s t h
  have hlast := hl _ _ hagree.after
  refine ⟨?_, ?_⟩
  · rw [result_andFinally, result_andFinally, hagree.result, hlast.result]
  · rw [after_andFinally, after_andFinally]
    exact hlast.after

theorem recover {other other' : Failure → Act σ α} (hx : Parallel R x y)
    (ho : ∀ e, Parallel R (other e) (other' e)) :
    Parallel R (Act.recover x other) (Act.recover y other') := by
  intro s t h
  have hagree := hx s t h
  refine ⟨?_, ?_⟩
  · rw [result_recover, result_recover, ← hagree.result]
    cases x.result s with
    | ok a => rfl
    | error e => exact (ho e _ _ hagree.after).result
  · rw [after_recover, after_recover, ← hagree.result]
    cases x.result s with
    | ok a => exact hagree.after
    | error e => exact (ho e _ _ hagree.after).after

theorem onFailure {undo undo' : Act σ Unit} (hx : Parallel R x y) (hu : Parallel R undo undo') :
    Parallel R (Act.onFailure x undo) (Act.onFailure y undo') := by
  intro s t h
  have hagree := hx s t h
  have hundone := hu _ _ hagree.after
  refine ⟨?_, ?_⟩
  · rw [result_onFailure, result_onFailure, ← hagree.result, ← hundone.result]
  · rw [after_onFailure, after_onFailure, ← hagree.result]
    cases x.result s with
    | ok a => exact hagree.after
    | error e => exact hundone.after

end Parallel

/-! ## Actions whose values are not looked at -/

/-- Two actions that succeed in all sessions that match, with whatever values, and leave them
matched. -/
def Succeed (R : Host σ → Host σ → Prop) (x : Act σ α) (y : Act σ β) : Prop :=
  ∀ s t, Matched R s t → (∃ a, x.result s = .ok a) ∧ (∃ b, y.result t = .ok b) ∧
    Matched R (x.after s) (y.after t)

namespace Succeed

variable {γ δ : Type} {x : Act σ α} {y : Act σ β}

theorem pure (a : α) (b : β) : Succeed R (Pure.pure a : Act σ α) (Pure.pure b : Act σ β) :=
  fun _ _ h => ⟨⟨a, rfl⟩, ⟨b, rfl⟩, h⟩

theorem bind {f : α → Act σ γ} {g : β → Act σ δ} (hx : Succeed R x y)
    (hf : ∀ a b, Succeed R (f a) (g b)) : Succeed R (x >>= f) (y >>= g) := by
  intro s t h
  obtain ⟨⟨a, ha⟩, ⟨b, hb⟩, hafter⟩ := hx s t h
  rw [result_bind_of_ok _ ha, result_bind_of_ok _ hb, after_bind_of_ok _ ha, after_bind_of_ok _ hb]
  exact hf a b _ _ hafter

/-- A log record in one of the sessions changes nothing. -/
theorem log_left {level : Log.Level} {logger message : String} (hx : Succeed R x y) :
    Succeed R (Act.log level logger message >>= fun _ => x) y := by
  intro s t h
  refine hx ((Act.log level logger message).after s) t ⟨h.host, ?_⟩
  rw [← h.calls, Act.log, after_emit, calls_append]
  exact List.append_nil _

theorem log_right {level : Log.Level} {logger message : String} (hx : Succeed R x y) :
    Succeed R x (Act.log level logger message >>= fun _ => y) := by
  intro s t h
  refine hx s ((Act.log level logger message).after t) ⟨h.host, ?_⟩
  rw [h.calls, Act.log, after_emit, calls_append]
  exact (List.append_nil _).symm

/-- What follows is parallel if it does not look at the values. -/
theorem parallel {f g : Act σ γ} (hx : Succeed R x y) (hf : Parallel R f g) :
    Parallel R (x >>= fun _ => f) (y >>= fun _ => g) := by
  intro s t h
  obtain ⟨⟨a, ha⟩, ⟨b, hb⟩, hafter⟩ := hx s t h
  have hagree := hf _ _ hafter
  refine ⟨?_, ?_⟩
  · rw [result_bind_of_ok _ ha, result_bind_of_ok _ hb, hagree.result]
  · rw [after_bind_of_ok _ ha, after_bind_of_ok _ hb]
    exact hagree.after

end Succeed

end Act

end SorobanDeploy
