import SorobanDeploy.Proofs.Session.Along

/-!
# The steps of a run

What others see of a run are its steps: the calls of the client and the checks of the network, in
order. `Takes` says that an action keeps to a plan of steps: what it does begins the plan, and it
succeeds only if it went through all of it and every call was answered. Actions one after another
keep to their plans one after another (`Takes.bind`).
-/

namespace SorobanDeploy

variable {σ α β : Type}

/-- A step of a run: a call of the client, or a check of the network. -/
inductive Step where
  | call (c : Call)
  | check (profile : NetworkProfile)
  deriving DecidableEq, Repr

/-- The call of a step, if it is one. -/
def Step.call? : Step → Option Call
  | .call c => some c
  | .check _ => none

namespace Event

/-- The step that an event tells of. -/
def step? : Event σ → Option Step
  | .exchange x => some (.call x.call)
  | .check profile => some (.check profile)
  | _ => none

/-- The exchange with the client that an event tells of. -/
def exchange? : Event σ → Option (Exchange σ)
  | .exchange x => some x
  | _ => none

/-- The steps among events. -/
def steps (es : List (Event σ)) : List Step := es.filterMap step?

/-- The exchanges with the client among events. -/
def exchanges (es : List (Event σ)) : List (Exchange σ) := es.filterMap exchange?

@[simp] theorem steps_nil : steps ([] : List (Event σ)) = [] := rfl

@[simp] theorem exchanges_nil : exchanges ([] : List (Event σ)) = [] := rfl

@[simp] theorem steps_exchange_cons (x : Exchange σ) (es : List (Event σ)) :
    steps (.exchange x :: es) = .call x.call :: steps es := rfl

@[simp] theorem exchanges_exchange_cons (x : Exchange σ) (es : List (Event σ)) :
    exchanges (.exchange x :: es) = x :: exchanges es := rfl

@[simp] theorem steps_check_cons (profile : NetworkProfile) (es : List (Event σ)) :
    steps (.check profile :: es) = .check profile :: steps es := rfl

@[simp] theorem exchanges_check_cons (profile : NetworkProfile) (es : List (Event σ)) :
    exchanges (.check profile :: es) = exchanges es := rfl

@[simp] theorem steps_note_cons (n : Note) (es : List (Event σ)) :
    steps (.note n :: es) = steps es := rfl

@[simp] theorem exchanges_note_cons (n : Note) (es : List (Event σ)) :
    exchanges (.note n :: es) = exchanges es := rfl

@[simp] theorem steps_append (es fs : List (Event σ)) : steps (es ++ fs) = steps es ++ steps fs :=
  List.filterMap_append

@[simp] theorem exchanges_append (es fs : List (Event σ)) :
    exchanges (es ++ fs) = exchanges es ++ exchanges fs := List.filterMap_append

@[simp] theorem steps_notes (ns : List Note) :
    steps (ns.map .note : List (Event σ)) = [] := by
  simp [steps, step?]

@[simp] theorem exchanges_notes (ns : List Note) :
    exchanges (ns.map .note : List (Event σ)) = [] := by
  simp [exchanges, exchange?]

/-- What holds of the exchanges among events holds of those among each part. -/
theorem forall_exchanges_append {P : Exchange σ → Prop} {es fs : List (Event σ)} :
    (∀ x ∈ exchanges (es ++ fs), P x) ↔
      (∀ x ∈ exchanges es, P x) ∧ ∀ x ∈ exchanges fs, P x := by
  rw [exchanges_append, List.forall_mem_append]

/-- Of a question to the client and what the client shows, the question is the one exchange. -/
theorem forall_exchanges_asked {P : Exchange σ → Prop} {x : Exchange σ} {ns : List Note} :
    (∀ y ∈ exchanges (.exchange x :: ns.map .note), P y) ↔ P x := by
  rw [exchanges_exchange_cons, exchanges_notes, List.forall_mem_singleton]

/-- The calls of the exchanges are the calls among the steps. -/
theorem map_call_exchanges (es : List (Event σ)) :
    (exchanges es).map (·.call) = (steps es).filterMap Step.call? := by
  unfold exchanges steps
  rw [List.map_filterMap, List.filterMap_filterMap]
  congr 1
  funext e
  cases e <;> rfl

/-- The call of an exchange is a step. -/
theorem call_mem_steps {es : List (Event σ)} {x : Exchange σ} (h : x ∈ exchanges es) :
    .call x.call ∈ steps es := by
  obtain ⟨e, he, hex⟩ := List.mem_filterMap.1 h
  refine List.mem_filterMap.2 ⟨e, he, ?_⟩
  cases e <;> simp_all [exchange?, step?]

/-- Where no step is, no exchange is. -/
theorem exchanges_eq_nil {es : List (Event σ)} (h : steps es = []) : exchanges es = [] := by
  have hc := map_call_exchanges es
  rw [h] at hc
  simpa using hc

end Event

open Event

/-- A call that the client answered. -/
def Exchange.Answered (x : Exchange σ) : Prop := ∃ a, x.answer = .ok a

/-- A call that asks for funds. -/
def Exchange.IsFunding (x : Exchange σ) : Prop :=
  ∃ identity network, x.call = .fund identity network

namespace Act

/-- What an action leaves of the trace, if it only adds to it. -/
theorem trace_after {x : Act σ α} {s : Session σ} (h : s.trace <+: (x.after s).trace) :
    (x.after s).trace = s.trace ++ x.events s :=
  (List.prefix_iff_eq_append.1 h).symm

/-- The events of an action, read off the trace that it leaves. -/
theorem events_eq {x : Act σ α} {s : Session σ} {es : List (Event σ)}
    (h : (x.after s).trace = s.trace ++ es) : x.events s = es := by
  unfold events
  rw [h, List.drop_left]

/-- What fails at once does nothing. -/
theorem events_of_fails {x : Act σ α} {s : Session σ} {e : Failure} (h : x s = .error e s) :
    x.events s = [] :=
  events_eq (by rw [((eq_error_iff x s s e).1 h).2, List.append_nil])

/-- What two actions do: the events of the first, and those of the second if the first succeeds. -/
theorem events_bind {x : Act σ α} {f : α → Act σ β} {s : Session σ}
    (hx : s.trace <+: (x.after s).trace)
    (hf : ∀ a, x.result s = .ok a → (x.after s).trace <+: ((f a).after (x.after s)).trace) :
    (x >>= f).events s = x.events s ++ match x.result s with
      | .ok a => (f a).events (x.after s)
      | .error _ => [] := by
  apply events_eq
  rw [after_bind]
  cases hr : x.result s with
  | error e => simpa using trace_after hx
  | ok a =>
    simp only
    rw [trace_after (hf a hr), trace_after hx, List.append_assoc]

/-- The events of a question to the client: the exchange, and what the client shows. -/
theorem events_ask (client : Client σ) (call : Call) (s : Session σ) :
    (ask client call).events s =
      .exchange ⟨call, s.host, (client call s.host).answer⟩
        :: (client call s.host).notes.map .note := events_eq (by rw [after_ask])

@[simp] theorem steps_ask (client : Client σ) (call : Call) (s : Session σ) :
    steps ((ask client call).events s) = [.call call] := by
  rw [events_ask]
  simp

@[simp] theorem exchanges_ask (client : Client σ) (call : Call) (s : Session σ) :
    exchanges ((ask client call).events s) =
      [⟨call, s.host, (client call s.host).answer⟩] := by
  rw [events_ask]
  simp

theorem events_explain (problem : Failure → Problem) (x : Act σ α) (s : Session σ) :
    (explain problem x).events s = x.events s := by
  unfold events
  rw [after_explain]

/-- A way on which the trace only grows. -/
def Grows (s t : Session σ) : Prop := s.trace <+: t.trace

theorem isWay_grows : IsWay (σ := σ) Grows := ⟨fun _ => List.prefix_rfl, fun h g => h.trans g⟩

theorem log_grows (level : Log.Level) (logger message : String) :
    (log level logger message : Act σ Unit).Along Grows := fun _ => List.prefix_append _ _

theorem setTree_grows (t : Tree) : (setTree t : Act σ Unit).Along Grows :=
  fun _ => List.prefix_append _ _

theorem ask_grows (client : Client σ) (call : Call) : (ask client call).Along Grows := by
  intro s
  rw [after_ask]
  exact List.prefix_append _ _

/-- An action keeps to a plan: its steps begin the plan, each of its exchanges satisfies `P`, and if
it succeeds, it went through the whole plan and every call but those for funds was answered. -/
structure Takes (P : Exchange σ → Prop) (x : Act σ α) (s : Session σ) (plan : List Step) :
    Prop where
  grows : s.trace <+: (x.after s).trace
  begins : steps (x.events s) <+: plan
  each : ∀ y ∈ exchanges (x.events s), P y
  ends : ∀ a, x.result s = .ok a →
    steps (x.events s) = plan ∧ ∀ y ∈ exchanges (x.events s), y.Answered ∨ y.IsFunding

/-- A way on which the trace only grows, and by events that are no steps. -/
def Silent (s t : Session σ) : Prop := ∃ es, t.trace = s.trace ++ es ∧ steps es = []

theorem isWay_silent : IsWay (σ := σ) Silent :=
  isWay_added rfl fun hes hfs => by rw [steps_append, hes, hfs, List.append_nil]

/-- A silent action only adds to the trace. -/
theorem Along.grows {x : Act σ α} (h : x.Along Silent) : x.Along Grows := by
  intro s
  obtain ⟨es, ht, -⟩ := h s
  exact ⟨es, ht.symm⟩

theorem log_silent (level : Log.Level) (logger message : String) :
    (log level logger message : Act σ Unit).Along Silent := fun _ => ⟨_, rfl, rfl⟩

theorem setTree_silent (t : Tree) : (setTree t : Act σ Unit).Along Silent := fun _ => ⟨_, rfl, rfl⟩

theorem setCwd_silent (dir : Spot) : (setCwd dir : Act σ Unit).Along Silent :=
  fun s => ⟨[], by simp [after, setCwd], rfl⟩

theorem receive_silent (reply : Reply σ α) : (receive reply).Along Silent := by
  intro s
  exact ⟨reply.notes.map .note, by rw [after_receive], steps_notes _⟩

/-- A way on which the client is asked for nothing but what `P` takes. -/
def Asks (P : Exchange σ → Prop) (s t : Session σ) : Prop :=
  ∃ es, t.trace = s.trace ++ es ∧ ∀ x ∈ exchanges es, P x

theorem isWay_asks (P : Exchange σ → Prop) : IsWay (Asks P) :=
  isWay_added (by simp) fun hes hfs => forall_exchanges_append.2 ⟨hes, hfs⟩

/-- Silent actions ask for nothing. -/
theorem Along.asks {x : Act σ α} (h : x.Along Silent) (P : Exchange σ → Prop) :
    x.Along (Asks P) := by
  intro s
  obtain ⟨es, ht, hes⟩ := h s
  refine ⟨es, ht, fun y hy => ?_⟩
  rw [exchanges_eq_nil hes] at hy
  cases hy

/-- A question to the client asks for its call. -/
theorem ask_asks {P : Exchange σ → Prop} {client : Client σ} {call : Call}
    (hP : ∀ h, P ⟨call, h, (client call h).answer⟩) : (ask client call).Along (Asks P) := by
  intro s
  rw [after_ask]
  exact ⟨_, rfl, forall_exchanges_asked.2 (hP s.host)⟩

/-- What is asked for on a way is among the exchanges of the action. -/
theorem Asks.of_mem {P : Exchange σ → Prop} {x : Act σ α} {s : Session σ}
    (h : Asks P s (x.after s)) {y : Exchange σ} (hy : y ∈ exchanges (x.events s)) : P y := by
  obtain ⟨es, ht, hes⟩ := h
  rw [events_eq ht] at hy
  exact hes y hy

/-- The exchanges of a silent action that succeeds and of what follows are those of what follows. -/
theorem exchanges_silent_bind {x : Act σ α} {f : α → Act σ β} {s : Session σ} {a : α}
    (hx : x.Along Silent) (ha : x.result s = .ok a) (hf : (f a).Along Grows) :
    exchanges ((x >>= f).events s) = exchanges ((f a).events (x.after s)) := by
  obtain ⟨es, ht, hes⟩ := hx s
  have hfa := trace_after (hf (x.after s))
  have he : (x >>= f).events s = es ++ (f a).events (x.after s) := by
    apply events_eq
    rw [after_bind, ha]
    simp only
    rw [hfa, ht, List.append_assoc]
  rw [he, exchanges_append, exchanges_eq_nil hes, List.nil_append]

/-- Behind a note an action asks for the same as without it. -/
theorem exchanges_noted {x y : Act σ α} {s v : Session σ} {n : Note}
    (hv : v.trace = s.trace ++ [.note n]) (h : x s = y v) (hy : y.Along Grows) :
    exchanges (x.events s) = exchanges (y.events v) := by
  have he : x.events s = .note n :: y.events v := by
    apply events_eq
    rw [(outcome_of_apply h).2, trace_after (hy v), hv, List.append_assoc, List.singleton_append]
  rw [he, exchanges_note_cons]

/-- A silent last action adds no exchange. -/
theorem exchanges_andFinally_silent {x : Act σ α} {last : Act σ Unit} (hx : x.Along Grows)
    (hl : last.Along Silent) (s : Session σ) :
    exchanges ((Act.andFinally x last).events s) = exchanges (x.events s) := by
  obtain ⟨fs, ht, hfs⟩ := hl (x.after s)
  have he : (Act.andFinally x last).events s = x.events s ++ fs := by
    apply events_eq
    rw [after_andFinally, ht, trace_after (hx s), List.append_assoc]
  rw [he, exchanges_append, exchanges_eq_nil hfs, List.append_nil]

/-- A silent action behind others adds no exchange. -/
theorem exchanges_bind_silent {x : Act σ α} {f : α → Act σ β} {s : Session σ}
    (hx : x.Along Grows) (hf : ∀ a, (f a).Along Silent) :
    exchanges ((x >>= f).events s) = exchanges (x.events s) := by
  have he := events_bind (f := f) (hx s) fun a _ => (hf a).grows _
  rw [he, exchanges_append]
  cases x.result s with
  | error e => simp
  | ok a =>
    obtain ⟨es, ht, hes⟩ := hf a (x.after s)
    simp only
    rw [events_eq ht, exchanges_eq_nil hes, List.append_nil]

namespace Takes

variable {P : Exchange σ → Prop} {x : Act σ α} {f : α → Act σ β} {s : Session σ}
  {plan rest : List Step}

/-- A silent action keeps to the empty plan. -/
theorem of_silent (h : x.Along Silent) (s : Session σ) : x.Takes P s [] := by
  obtain ⟨es, ht, hes⟩ := h s
  have he := events_eq ht
  have hsteps : steps (x.events s) = [] := by rw [he, hes]
  have hex : exchanges (x.events s) = [] := exchanges_eq_nil hsteps
  refine ⟨⟨es, ht.symm⟩, hsteps.symm ▸ List.prefix_rfl, ?_, fun a _ => ⟨hsteps, ?_⟩⟩
  · rw [hex]; simp
  · rw [hex]; simp

/-- Actions one after another keep to their plans one after another. -/
theorem bind (hx : x.Takes P s plan)
    (hf : ∀ a, x.result s = .ok a → (f a).Takes P (x.after s) rest) :
    (x >>= f).Takes P s (plan ++ rest) := by
  have he := events_bind hx.grows fun a ha => (hf a ha).grows
  cases hr : x.result s with
  | error e =>
    -- The second action is not reached, and what begins the first plan begins both.
    simp only [hr, List.append_nil] at he
    refine ⟨?_, ?_, ?_, fun b hb => ?_⟩
    · rw [after_bind, hr]; exact hx.grows
    · rw [he]; exact hx.begins.trans (List.prefix_append _ _)
    · rw [he]; exact hx.each
    · rw [result_bind, hr] at hb; cases hb
  | ok a =>
    simp only [hr] at he
    have hfa := hf a hr
    obtain ⟨hsteps, hans⟩ := hx.ends a hr
    refine ⟨?_, ?_, ?_, fun b hb => ?_⟩
    · rw [after_bind, hr]; exact hx.grows.trans hfa.grows
    · rw [he, steps_append, hsteps, List.prefix_append_right_inj]; exact hfa.begins
    · rw [he, exchanges_append]
      intro y hy
      exact (List.mem_append.1 hy).elim (hx.each y) (hfa.each y)
    · rw [result_bind, hr] at hb
      obtain ⟨hsteps', hans'⟩ := hfa.ends b hb
      rw [he, steps_append, exchanges_append, hsteps, hsteps']
      exact ⟨rfl, fun y hy => (List.mem_append.1 hy).elim (hans y) (hans' y)⟩

/-- A silent action in front changes no plan. -/
theorem silent_bind (hx : x.Along Silent)
    (hf : ∀ a, x.result s = .ok a → (f a).Takes P (x.after s) plan) :
    (x >>= f).Takes P s plan := (of_silent hx s).bind hf

/-- A silent action behind changes no plan. -/
theorem bind_silent (hx : x.Takes P s plan) (hf : ∀ a, (f a).Along Silent) :
    (x >>= f).Takes P s plan := by
  simpa using hx.bind fun a _ => of_silent (hf a) (x.after s)

/-- A question to the client is one step. -/
theorem ask {client : Client σ} {call : Call}
    (hP : P ⟨call, s.host, (client call s.host).answer⟩) :
    (Act.ask client call).Takes P s [.call call] := by
  refine ⟨?_, ?_, ?_, fun a ha => ⟨steps_ask client call s, ?_⟩⟩
  · rw [after_ask]; exact List.prefix_append _ _
  · exact (steps_ask client call s).symm ▸ List.prefix_rfl
  · rw [exchanges_ask]; simpa using hP
  · rw [result_ask] at ha
    rw [exchanges_ask]
    exact fun y hy => Or.inl ⟨a, by rw [List.mem_singleton.1 hy]; exact ha⟩

/-- A question for funds is one step, and it may fail. -/
theorem attempt_fund {client : Client σ} {identity network : String} (c : FailureClass)
    (hP : P ⟨.fund identity network, s.host, (client (.fund identity network) s.host).answer⟩) :
    (attempt c (Act.ask client (.fund identity network))).Takes P s
      [.call (.fund identity network)] := by
  have hask := ask (s := s) hP
  have he : (attempt c (Act.ask client (.fund identity network))).events s =
      (Act.ask client (.fund identity network)).events s := by
    unfold events; rw [after_attempt]
  -- The failure that the attempt forgives is why this call may stay without an answer.
  refine ⟨?_, ?_, ?_, fun a ha => ⟨?_, ?_⟩⟩
  · rw [after_attempt]; exact hask.grows
  · rw [he]; exact hask.begins
  · rw [he]; exact hask.each
  · rw [he, steps_ask]
  · rw [he, exchanges_ask]
    exact fun y hy => Or.inr ⟨identity, network, by rw [List.mem_singleton.1 hy]⟩

/-- The mark of a check is one step. -/
theorem emit_check (profile : NetworkProfile) (s : Session σ) :
    (emit (.check profile)).Takes P s [.check profile] := by
  have he : (emit (.check profile)).events s = [.check profile] := events_eq rfl
  refine ⟨List.prefix_append _ _, ?_, ?_, fun a _ => ⟨?_, ?_⟩⟩ <;> rw [he]
  · exact List.prefix_rfl
  · simp
  · rfl
  · simp

/-- An action that is refused keeps to every plan. -/
theorem refuse (problem : Problem) (s : Session σ) (plan : List Step) :
    (Act.refuse problem : Act σ α).Takes P s plan := by
  have he : (Act.refuse problem : Act σ α).events s = [] := events_eq (by simp [Act.refuse])
  refine ⟨List.prefix_rfl, ?_, ?_, fun a ha => ?_⟩
  · rw [he]; exact List.nil_prefix
  · rw [he]; simp
  · simp [Act.refuse] at ha

/-- A silent last action changes no plan. -/
theorem andFinally {last : Act σ Unit} (hx : x.Takes P s plan) (hl : last.Along Silent) :
    (Act.andFinally x last).Takes P s plan := by
  obtain ⟨fs, ht, hfs⟩ := hl (x.after s)
  have he : (Act.andFinally x last).events s = x.events s ++ fs := by
    apply events_eq
    rw [after_andFinally, ht, trace_after hx.grows, List.append_assoc]
  have hsteps : steps ((Act.andFinally x last).events s) = steps (x.events s) := by
    rw [he, steps_append, hfs, List.append_nil]
  have hex : exchanges ((Act.andFinally x last).events s) = exchanges (x.events s) := by
    rw [he, exchanges_append, exchanges_eq_nil hfs, List.append_nil]
  refine ⟨?_, ?_, ?_, fun a ha => ?_⟩
  · rw [after_andFinally, ht]; exact hx.grows.trans (List.prefix_append _ _)
  · rw [hsteps]; exact hx.begins
  · rw [hex]; exact hx.each
  · rw [hsteps, hex]
    exact hx.ends a ((result_andFinally_eq_ok_iff _ _ _ _).1 ha).1

theorem explain (problem : Failure → Problem) (hx : x.Takes P s plan) :
    (Act.explain problem x).Takes P s plan := by
  have he := events_explain problem x s
  refine ⟨?_, ?_, ?_, fun a ha => ?_⟩
  · rw [after_explain]; exact hx.grows
  · rw [he]; exact hx.begins
  · rw [he]; exact hx.each
  · rw [he]; exact hx.ends a ((result_explain_eq_ok_iff _ _ _ _).1 ha)

end Takes

/-! ## Plans that depend on answers -/

/-- An action keeps to one plan of several. The choice is among those that are left by `C`, and what
the action ends with fits the choice. -/
def TakesOne {ι : Type} (P : ι → Exchange σ → Prop) (C : ι → Prop) (x : Act σ α) (s : Session σ)
    (plan : ι → List Step) (Q : ι → α → Prop) : Prop :=
  ∃ i, C i ∧ x.Takes (P i) s (plan i) ∧ ∀ a, x.result s = .ok a → Q i a

namespace TakesOne

variable {ι : Type} {P : ι → Exchange σ → Prop} {C D : ι → Prop} {x : Act σ α} {f : α → Act σ β}
  {s : Session σ} {plan rest : ι → List Step} {Q : ι → β → Prop}

/-- What is chosen among fewer is chosen among more. -/
theorem mono (hDC : ∀ i, D i → C i) {y : Act σ β} (h : TakesOne P D y s plan Q) :
    TakesOne P C y s plan Q := by
  obtain ⟨i, hi, htakes, hfits⟩ := h
  exact ⟨i, hDC i hi, htakes, hfits⟩

/-- The first action keeps to its plan under every choice that is left, and the choice falls in the
second one. -/
theorem bind (hC : ∃ i, C i) (hx : ∀ i, C i → x.Takes (P i) s (plan i))
    (hf : ∀ a, x.result s = .ok a → TakesOne P C (f a) (x.after s) rest Q) :
    TakesOne P C (x >>= f) s (fun i => plan i ++ rest i) Q := by
  cases hr : x.result s with
  | error e =>
    obtain ⟨i, hi⟩ := hC
    refine ⟨i, hi, (hx i hi).bind fun a ha => ?_, fun b hb => ?_⟩
    · rw [hr] at ha; cases ha
    · rw [result_bind, hr] at hb; cases hb
  | ok a =>
    obtain ⟨i, hi, htakes, hfits⟩ := hf a hr
    refine ⟨i, hi, (hx i hi).bind fun b hb => ?_, fun b hb => ?_⟩
    · rw [hr] at hb
      cases hb
      exact htakes
    · rw [result_bind, hr] at hb
      exact hfits b hb

/-- A silent action in front leaves every choice. -/
theorem silent_bind (hC : ∃ i, C i) (hx : x.Along Silent)
    (hf : ∀ a, x.result s = .ok a → TakesOne P C (f a) (x.after s) rest Q) :
    TakesOne P C (x >>= f) s rest Q := by
  have hsilent : ∀ i, C i → x.Takes (P i) s [] := fun _ _ => .of_silent hx s
  exact bind hC hsilent hf

end TakesOne

end Act

end SorobanDeploy
