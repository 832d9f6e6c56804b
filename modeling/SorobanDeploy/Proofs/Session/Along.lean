import SorobanDeploy.Host.Session

/-!
# What an action does to a session

An action leaves a session (`after`), ends with a value or a failure (`result`), and adds events to
the trace (`events`). What every step of an action respects, the whole action respects: `Along R`
says that an action leads from each session to one that stands in the relation `R` to it, and if `R`
is reflexive and transitive, a composed action goes along `R` as soon as its parts do.
-/

namespace SorobanDeploy.Act

variable {σ α β ι : Type}

/-- The session that an action leaves. -/
def after (x : Act σ α) (s : Session σ) : Session σ :=
  match x s with
  | .ok _ t => t
  | .error _ t => t

/-- The value or the failure that an action ends with. -/
def result (x : Act σ α) (s : Session σ) : Except Failure α :=
  match x s with
  | .ok a _ => .ok a
  | .error e _ => .error e

/-- The events that an action adds to the trace. -/
def events (x : Act σ α) (s : Session σ) : List (Event σ) :=
  (x.after s).trace.drop s.trace.length

/-- An action succeeds with a value and a session exactly if these are its result and what it
leaves. -/
theorem eq_ok_iff (x : Act σ α) (s t : Session σ) (a : α) :
    x s = .ok a t ↔ x.result s = .ok a ∧ x.after s = t := by
  unfold result after
  cases x s <;> simp

/-- An action fails with a failure and a session exactly if these are its result and what it
leaves. -/
theorem eq_error_iff (x : Act σ α) (s t : Session σ) (e : Failure) :
    x s = .error e t ↔ x.result s = .error e ∧ x.after s = t := by
  unfold result after
  cases x s <;> simp

/-- Actions that come to the same in two sessions end with the same and leave the same. -/
theorem outcome_of_apply {x y : Act σ α} {s t : Session σ} (h : x s = y t) :
    x.result s = y.result t ∧ x.after s = y.after t := by
  unfold result after
  rw [h]
  exact ⟨rfl, rfl⟩

/-- What an action does to a session is told by what it is there. -/
theorem congr_of_apply {x y : Act σ α} {s : Session σ} (h : x s = y s) :
    x.result s = y.result s ∧ x.after s = y.after s ∧ x.events s = y.events s := by
  obtain ⟨hresult, hafter⟩ := outcome_of_apply h
  exact ⟨hresult, hafter, by rw [events, hafter, events]⟩

theorem after_of_ok {x : Act σ α} {s t : Session σ} {a : α} (h : x s = .ok a t) :
    x.after s = t := ((eq_ok_iff x s t a).1 h).2

theorem result_of_ok {x : Act σ α} {s t : Session σ} {a : α} (h : x s = .ok a t) :
    x.result s = .ok a := ((eq_ok_iff x s t a).1 h).1

theorem result_of_error {x : Act σ α} {s t : Session σ} {e : Failure} (h : x s = .error e t) :
    x.result s = .error e := by
  unfold result
  rw [h]

theorem result_eq_ok_of_toOption {x : Except Failure α} {a : α} (h : x.toOption = some a) :
    x = .ok a := by
  cases x with
  | error e => cases h
  | ok b => rw [Option.some.inj h]

/-- What two actions leave: the second one starts from what the first one leaves, if that
succeeds. -/
theorem after_bind (x : Act σ α) (f : α → Act σ β) (s : Session σ) :
    (x >>= f).after s = match x.result s with
      | .ok a => (f a).after (x.after s)
      | .error _ => x.after s := by
  unfold after result
  rw [bind_apply]
  cases x s <;> rfl

/-- What two actions end with. -/
theorem result_bind (x : Act σ α) (f : α → Act σ β) (s : Session σ) :
    (x >>= f).result s = match x.result s with
      | .ok a => (f a).result (x.after s)
      | .error e => .error e := by
  unfold after result
  rw [bind_apply]
  cases x s <;> rfl

theorem after_bind_of_ok {x : Act σ α} {s : Session σ} {a : α} (f : α → Act σ β)
    (h : x.result s = .ok a) : (x >>= f).after s = (f a).after (x.after s) := by
  rw [after_bind, h]

theorem result_bind_of_ok {x : Act σ α} {s : Session σ} {a : α} (f : α → Act σ β)
    (h : x.result s = .ok a) : (x >>= f).result s = (f a).result (x.after s) := by
  rw [result_bind, h]

/-- Two actions succeed only if the first one does and then the second one. -/
theorem result_bind_eq_ok {x : Act σ α} {f : α → Act σ β} {s : Session σ} {b : β}
    (h : (x >>= f).result s = .ok b) :
    ∃ a, x.result s = .ok a ∧ (f a).result (x.after s) = .ok b := by
  rw [result_bind] at h
  cases hx : x.result s with
  | error e => rw [hx] at h; cases h
  | ok a => exact ⟨a, rfl, by rw [hx] at h; exact h⟩

@[simp] theorem after_pure (a : α) (s : Session σ) : (pure a : Act σ α).after s = s := rfl

@[simp] theorem result_pure (a : α) (s : Session σ) : (pure a : Act σ α).result s = .ok a := rfl

@[simp] theorem after_fail (e : Failure) (s : Session σ) : (fail e : Act σ α).after s = s := rfl

@[simp] theorem result_fail (e : Failure) (s : Session σ) :
    (fail e : Act σ α).result s = .error e := rfl

/-- What looks at the host first goes on with the host as it is. -/
theorem host_bind_apply (f : Host σ → Act σ α) (s : Session σ) :
    (host >>= f) s = f s.host s := rfl

theorem after_host_bind (f : Host σ → Act σ α) (s : Session σ) :
    (host >>= f).after s = (f s.host).after s := rfl

theorem result_host_bind (f : Host σ → Act σ α) (s : Session σ) :
    (host >>= f).result s = (f s.host).result s := rfl

@[simp] theorem after_emit (e : Event σ) (s : Session σ) :
    (emit e).after s = ⟨s.host, s.trace ++ [e]⟩ := rfl

@[simp] theorem result_emit (e : Event σ) (s : Session σ) : (emit e).result s = .ok () := rfl

@[simp] theorem after_receive (reply : Reply σ α) (s : Session σ) :
    (receive reply).after s = ⟨reply.host, s.trace ++ reply.notes.map .note⟩ := by
  unfold after receive
  cases reply.answer <;> rfl

@[simp] theorem result_receive (reply : Reply σ α) (s : Session σ) :
    (receive reply).result s = reply.answer := by
  unfold result receive
  cases reply.answer <;> rfl

/-- A question to the client leaves the host that the client leaves. The trace tells of the call
first and then of what the client shows. -/
@[simp] theorem after_ask (client : Client σ) (call : Call) (s : Session σ) :
    (ask client call).after s =
      ⟨(client call s.host).host,
        s.trace ++ .exchange ⟨call, s.host, (client call s.host).answer⟩
          :: (client call s.host).notes.map .note⟩ := by
  change (receive (client call s.host)).after ⟨s.host, s.trace ++ [_]⟩ = _
  simp

/-- A question to the client ends with the client's answer. -/
@[simp] theorem result_ask (client : Client σ) (call : Call) (s : Session σ) :
    (ask client call).result s = (client call s.host).answer := by
  change (receive (client call s.host)).result _ = _
  simp

@[simp] theorem after_mapFailure (f : Failure → Failure) (body : Act σ α) (s : Session σ) :
    (mapFailure f body).after s = body.after s := by
  unfold after mapFailure
  cases body s <;> rfl

@[simp] theorem result_mapFailure (f : Failure → Failure) (body : Act σ α) (s : Session σ) :
    (mapFailure f body).result s = (body.result s).mapError f := by
  unfold result mapFailure
  cases body s <;> rfl

@[simp] theorem after_explain (problem : Failure → Problem) (body : Act σ α) (s : Session σ) :
    (explain problem body).after s = body.after s := after_mapFailure _ _ _

@[simp] theorem after_attempt (c : FailureClass) (body : Act σ α) (s : Session σ) :
    (attempt c body).after s = body.after s := by
  unfold after attempt
  cases body s with
  | ok a t => rfl
  | error e t => cases h : e.isA c <;> simp [h]

/-- An explained action succeeds exactly as the action itself does. -/
theorem explain_eq_ok_iff (problem : Failure → Problem) (body : Act σ α) (s t : Session σ)
    (a : α) : explain problem body s = .ok a t ↔ body s = .ok a t := by
  unfold explain mapFailure
  cases body s <;> simp

/-- The client's answer is a value exactly if the question succeeds with it. -/
theorem ask_eq_ok_iff (client : Client σ) (call : Call) (s t : Session σ) (a : Option String) :
    ask client call s = .ok a t ↔
      (client call s.host).answer = .ok a ∧ (ask client call).after s = t := by
  rw [eq_ok_iff, result_ask]

/-- The last action starts from what the action leaves, whether that fails or not. -/
@[simp] theorem after_andFinally (body : Act σ α) (last : Act σ Unit) (s : Session σ) :
    (andFinally body last).after s = last.after (body.after s) := by
  unfold after andFinally
  cases body s with
  | ok a t => cases hl : last t <;> simp [hl]
  | error e t => cases hl : last t <;> simp [hl]

/-- An action with a last one succeeds exactly with the value of the action, and if the last one
succeeds. -/
theorem result_andFinally_eq_ok_iff (body : Act σ α) (last : Act σ Unit) (s : Session σ) (a : α) :
    (andFinally body last).result s = .ok a ↔
      body.result s = .ok a ∧ last.result (body.after s) = .ok () := by
  unfold result after andFinally
  cases body s with
  | ok b t => cases hl : last t <;> simp [hl]
  | error e t => cases hl : last t <;> simp [hl]

/-- An explained action succeeds exactly with the value of the action itself. -/
theorem result_explain_eq_ok_iff (problem : Failure → Problem) (body : Act σ α) (s : Session σ)
    (a : α) : (explain problem body).result s = .ok a ↔ body.result s = .ok a := by
  unfold explain
  rw [result_mapFailure]
  cases body.result s with
  | ok b => exact Iff.rfl
  | error e => exact ⟨nofun, nofun⟩

theorem result_attempt (c : FailureClass) (body : Act σ α) (s : Session σ) :
    (attempt c body).result s = match body.result s with
      | .ok a => .ok (.ok a)
      | .error e => if e.isA c then .ok (.error e) else .error e := by
  unfold result attempt
  cases body s with
  | ok a t => rfl
  | error e t => cases h : e.isA c <;> simp [h]

theorem result_andFinally (body : Act σ α) (last : Act σ Unit) (s : Session σ) :
    (andFinally body last).result s = match last.result (body.after s) with
      | .ok _ => body.result s
      | .error e => .error e := by
  unfold result after andFinally
  cases body s with
  | ok a t => cases hl : last t <;> simp [hl]
  | error e t => cases hl : last t <;> simp [hl]

theorem result_recover (body : Act σ α) (other : Failure → Act σ α) (s : Session σ) :
    (recover body other).result s = match body.result s with
      | .ok a => .ok a
      | .error e => (other e).result (body.after s) := by
  unfold result after recover
  cases body s <;> rfl

theorem after_recover (body : Act σ α) (other : Failure → Act σ α) (s : Session σ) :
    (recover body other).after s = match body.result s with
      | .ok _ => body.after s
      | .error e => (other e).after (body.after s) := by
  unfold result after recover
  cases body s <;> rfl

theorem result_onFailure (body : Act σ α) (undo : Act σ Unit) (s : Session σ) :
    (onFailure body undo).result s = match body.result s with
      | .ok a => .ok a
      | .error e => match undo.result (body.after s) with
        | .ok _ => .error e
        | .error f => .error f := by
  unfold result after onFailure
  cases body s with
  | ok a t => rfl
  | error e t => cases hu : undo t <;> simp [hu]

theorem after_onFailure (body : Act σ α) (undo : Act σ Unit) (s : Session σ) :
    (onFailure body undo).after s = match body.result s with
      | .ok _ => body.after s
      | .error _ => undo.after (body.after s) := by
  unfold result after onFailure
  cases body s with
  | ok a t => rfl
  | error e t => cases hu : undo t <;> simp [hu]

/-! ## Actions that respect a relation -/

/-- An action that leads from each session to one that stands in a relation to it. -/
def Along (R : Session σ → Session σ → Prop) (x : Act σ α) : Prop := ∀ s, R s (x.after s)

/-- An action that leaves the session as it is. -/
abbrev Reads (x : Act σ α) : Prop := x.Along fun s t => t = s

/-- A relation that can be followed step by step. -/
structure IsWay (R : Session σ → Session σ → Prop) : Prop where
  refl : ∀ s, R s s
  trans : ∀ {s t u}, R s t → R t u → R s u

theorem isWay_reads : IsWay (σ := σ) fun s t => t = s :=
  ⟨fun _ => rfl, fun h g => g.trans h⟩

/-- What holds of no events, and of two lists of events together if it holds of each, can be
followed by adding events. -/
theorem isWay_added {E : List (Event σ) → Prop} (hnil : E [])
    (happend : ∀ {es fs}, E es → E fs → E (es ++ fs)) :
    IsWay fun s t : Session σ => ∃ es, t.trace = s.trace ++ es ∧ E es where
  refl s := ⟨[], by simp, hnil⟩
  trans := by
    rintro s t u ⟨es, ht, hes⟩ ⟨fs, hu, hfs⟩
    exact ⟨es ++ fs, by rw [hu, ht, List.append_assoc], happend hes hfs⟩

/-- Such a property may speak of a part of the host if the way keeps that part. -/
theorem isWay_kept {κ : Type} (part : Host σ → κ) (E : κ → List (Event σ) → Prop)
    (hnil : ∀ k, E k []) (happend : ∀ {k es fs}, E k es → E k fs → E k (es ++ fs)) :
    IsWay fun s t : Session σ =>
      part t.host = part s.host ∧ ∃ es, t.trace = s.trace ++ es ∧ E (part s.host) es where
  refl s := ⟨rfl, [], by simp, hnil _⟩
  trans := by
    rintro s t u ⟨hpart, es, ht, hes⟩ ⟨hupart, fs, hu, hfs⟩
    rw [hpart] at hupart hfs
    exact ⟨hupart, es ++ fs, by rw [hu, ht, List.append_assoc], happend hes hfs⟩

namespace Along

variable {R : Session σ → Session σ → Prop}

/-- What leaves the session as it is goes every way. -/
theorem of_reads (hR : IsWay R) {x : Act σ α} (h : x.Reads) : x.Along R := by
  intro s
  rw [h s]
  exact hR.refl s

theorem pure (hR : IsWay R) (a : α) : (Pure.pure a : Act σ α).Along R := fun s => hR.refl s

theorem fail (hR : IsWay R) (e : Failure) : (Act.fail e : Act σ α).Along R := fun s => hR.refl s

theorem refuse (hR : IsWay R) (p : Problem) : (Act.refuse p : Act σ α).Along R :=
  fail hR p.failure

theorem host (hR : IsWay R) : (Act.host : Act σ (Host σ)).Along R := fun s => hR.refl s

/-- One action after another goes along what both go along. -/
theorem bind (hR : IsWay R) {x : Act σ α} {f : α → Act σ β} (hx : x.Along R)
    (hf : ∀ a, (f a).Along R) : (x >>= f).Along R := by
  intro s
  rw [after_bind]
  cases x.result s with
  | ok a => exact hR.trans (hx s) (hf a _)
  | error e => exact hx s

theorem mapFailure {x : Act σ α} (f : Failure → Failure) (hx : x.Along R) :
    (Act.mapFailure f x).Along R := by
  intro s
  rw [after_mapFailure]
  exact hx s

theorem explain {x : Act σ α} (problem : Failure → Problem) (hx : x.Along R) :
    (Act.explain problem x).Along R := hx.mapFailure _

theorem attempt {x : Act σ α} (c : FailureClass) (hx : x.Along R) :
    (Act.attempt c x).Along R := by
  intro s
  rw [after_attempt]
  exact hx s

/-- The other action starts from what the failed one leaves. -/
theorem recover (hR : IsWay R) {x : Act σ α} {other : Failure → Act σ α} (hx : x.Along R)
    (ho : ∀ e, (other e).Along R) : (Act.recover x other).Along R := by
  intro s
  have h := hx s
  unfold after Act.recover at *
  cases hs : x s with
  | ok a t => rw [hs] at h; exact h
  | error e t => rw [hs] at h; exact hR.trans h (ho e t)

theorem andFinally (hR : IsWay R) {x : Act σ α} {last : Act σ Unit} (hx : x.Along R)
    (hl : last.Along R) : (Act.andFinally x last).Along R := by
  intro s
  rw [after_andFinally]
  exact hR.trans (hx s) (hl _)

theorem onFailure (hR : IsWay R) {x : Act σ α} {undo : Act σ Unit} (hx : x.Along R)
    (hu : undo.Along R) : (Act.onFailure x undo).Along R := by
  intro s
  have h := hx s
  unfold after Act.onFailure at *
  cases hs : x s with
  | ok a t => rw [hs] at h; exact h
  | error e t =>
    have hut := hR.trans h (hu (x.after s))
    unfold after at hut
    rw [hs] at hut
    cases hg : undo t <;> simpa [hg] using hut

end Along

end SorobanDeploy.Act
