-- Access under audit, call by call. The sink may do what it likes: it has a
-- state of its own and refuses what it wants. A decision is given out only
-- when the sink took its event, so the events it took tell every decision that
-- was given out, in order.
import ReplayEvidence.Access.Audited
import ReplayEvidence.Proofs.Access.Decisions

namespace ReplayEvidence

/-! ## Calls in a row -/

namespace AuditedAccess

variable {σ : Type}

/-- The event of the decision on a request. -/
def event (s : AuditedAccess σ) (now : Millis) (r : AccessRequest) : AuditEvent :=
  ⟨now, r, s.policy.authorize r⟩

/-- The answer to a request, from what the sink says about its event. -/
def answer (s : AuditedAccess σ) (r : AccessRequest) :
    Taken → Except AuditFailure AccessDecision
  | .ok () => .ok (s.policy.authorize r)
  | .error e => .error ⟨.denyFor .auditWriteFailed, e⟩

/-- Why no sink is asked, when none is. -/
def silence (s : AuditedAccess σ) (now : Millis) (r : AccessRequest) : AuditError :=
  match (s.event now r).validate with
  | .error e => .invalidEvent e
  | .ok () => .sinkUnset

/-- Requests in a row, each at its own time. -/
def authorizeAll (s : AuditedAccess σ) :
    List (Millis × AccessRequest) → StateM σ (List (Except AuditFailure AccessDecision))
  | [] => return []
  | (now, r) :: calls => do
    let answer ← s.authorize now r
    let answers ← s.authorizeAll calls
    return answer :: answers

end AuditedAccess

/-! ## A sink under watch -/

/-- An event that a sink was handed, with what the sink said. -/
abbrev Handing := AuditEvent × Taken

/-- The sink that also keeps what it is handed and what it says, in order. -/
def Sink.watched {σ : Type} (sink : Sink σ) : Sink (σ × List Handing) where
  append event := do
    let (st, handings) ← get
    let (taken, after) := (sink.append event).run st
    set (after, handings ++ [(event, taken)])
    return taken

/-- The same access with its sink under watch. -/
def AuditedAccess.watched {σ : Type} (s : AuditedAccess σ) : AuditedAccess (σ × List Handing) :=
  ⟨s.policy, s.sink.map Sink.watched⟩

/-- One call as it is seen from outside: the state of the sink before it, what
the sink was handed meanwhile, and the answer. -/
structure Exchange (σ : Type) where
  before : σ
  now : Millis
  request : AccessRequest
  handings : List Handing
  answer : Except AuditFailure AccessDecision

namespace Exchange

variable {σ : Type}

/-- The events that the sink took. -/
def taken (x : Exchange σ) : List AuditEvent :=
  x.handings.filterMap fun (event, said) =>
    match said with
    | .ok () => some event
    | .error _ => none

/-- The time and the request of the call with the decision that it gave out, when
it gave out one. -/
def released (x : Exchange σ) : Option AuditEvent :=
  match x.answer with
  | .ok decision => some ⟨x.now, x.request, decision⟩
  | .error _ => none

end Exchange

namespace AuditedAccess

variable {σ : Type}

/-- One call, seen from outside. -/
def observe (s : AuditedAccess σ) (now : Millis) (r : AccessRequest) : StateM σ (Exchange σ) := do
  let st ← get
  let (answer, after, handings) := (s.watched.authorize now r).run (st, [])
  set after
  return ⟨st, now, r, handings, answer⟩

/-- Requests in a row, each seen from outside. -/
def observeAll (s : AuditedAccess σ) :
    List (Millis × AccessRequest) → StateM σ (List (Exchange σ))
  | [] => return []
  | (now, r) :: calls => do
    let exchange ← s.observe now r
    let exchanges ← s.observeAll calls
    return exchange :: exchanges

theorem audit_of_sink {s : AuditedAccess σ} {sink : Sink σ} {now : Millis} (hnow : 0 ≤ now)
    (hsink : s.sink = some sink) (r : AccessRequest) :
    s.audit now r (s.policy.authorize r) = sink.append (s.event now r) := by
  have hvalid := AuditEvent.validate_of_authorize (p := s.policy) (r := r).2 hnow
  unfold audit AuditEvent.ofDecision
  simp only [hvalid, hsink]
  rfl

theorem audit_of_silence {s : AuditedAccess σ} {now : Millis}
    (h : ¬ (0 ≤ now ∧ s.sink.isSome = true)) (r : AccessRequest) :
    s.audit now r (s.policy.authorize r) = return .error (s.silence now r) := by
  unfold audit AuditEvent.ofDecision silence event
  rcases hv : (⟨now, r, s.policy.authorize r⟩ : AuditEvent).validate with e | _
  · simp only [hv]
    rfl
  · have hnow := AuditEvent.validate_of_authorize.1 hv
    rcases hsink : s.sink with _ | sink
    · simp only [hv]
      rfl
    · simp [hnow, hsink] at h

theorem run_authorize (s : AuditedAccess σ) (now : Millis) (r : AccessRequest) (st : σ) :
    (s.authorize now r).run st =
      (s.answer r ((s.audit now r (s.policy.authorize r)).run st).1,
        ((s.audit now r (s.policy.authorize r)).run st).2) := by
  unfold authorize answer
  rw [StateT.run_bind]
  rcases (s.audit now r (s.policy.authorize r)).run st with ⟨taken, after⟩
  cases taken <;> rfl

/-! ## One call -/

theorem run_observe (s : AuditedAccess σ) (now : Millis) (r : AccessRequest) (st : σ) :
    (s.observe now r).run st =
      (⟨st, now, r, ((s.watched.authorize now r).run (st, [])).2.2,
          ((s.watched.authorize now r).run (st, [])).1⟩,
        ((s.watched.authorize now r).run (st, [])).2.1) := rfl

/-- A call whose event is valid asks the sink once, about that event. -/
theorem observe_of_sink {s : AuditedAccess σ} {sink : Sink σ} {now : Millis} (hnow : 0 ≤ now)
    (hsink : s.sink = some sink) (r : AccessRequest) (st : σ) :
    (s.observe now r).run st =
      (⟨st, now, r, [(s.event now r, ((sink.append (s.event now r)).run st).1)],
          s.answer r ((sink.append (s.event now r)).run st).1⟩,
        ((sink.append (s.event now r)).run st).2) := by
  have hwatched : s.watched.sink = some sink.watched := by
    unfold watched
    rw [hsink]
    rfl
  rw [run_observe, run_authorize, audit_of_sink hnow hwatched]
  rfl

/-- Any other call leaves the sink alone. -/
theorem observe_of_silence {s : AuditedAccess σ} {now : Millis}
    (h : ¬ (0 ≤ now ∧ s.sink.isSome = true)) (r : AccessRequest) (st : σ) :
    (s.observe now r).run st = (⟨st, now, r, [], s.answer r (.error (s.silence now r))⟩, st) := by
  have hwatched : ¬ (0 ≤ now ∧ s.watched.sink.isSome = true) := by
    unfold watched
    rw [Option.isSome_map]
    exact h
  rw [run_observe, run_authorize, audit_of_silence hwatched]
  rfl

/-- Watching the sink changes neither the answer nor what the sink does. -/
theorem observe_answer (s : AuditedAccess σ) (now : Millis) (r : AccessRequest) (st : σ) :
    (((s.observe now r).run st).1.answer, ((s.observe now r).run st).2) =
      (s.authorize now r).run st := by
  rw [run_authorize]
  by_cases h : 0 ≤ now ∧ s.sink.isSome = true
  · obtain ⟨sink, hsink⟩ := Option.isSome_iff_exists.1 h.2
    rw [observe_of_sink h.1 hsink, audit_of_sink h.1 hsink]
  · rw [observe_of_silence h, audit_of_silence h]
    rfl

/-- What holds of every call. Its decision is given out exactly when the sink
takes the event of it; the sink is asked at most once, about that event, which is
valid; and in any other case the answer is a denial. -/
structure Closed (s : AuditedAccess σ) (x : Exchange σ) : Prop where
  released : ∀ d, x.answer = .ok d ↔
    0 ≤ x.now ∧
      (∃ sink, s.sink = some sink ∧
        ((sink.append (s.event x.now x.request)).run x.before).1 = .ok ()) ∧
      d = (s.event x.now x.request).decision
  handed : ∀ h ∈ x.handings, h.1 = s.event x.now x.request ∧ h.1.validate = .ok () ∧
    ∃ sink, s.sink = some sink ∧ h.2 = ((sink.append h.1).run x.before).1
  asked : x.handings.length = if 0 ≤ x.now ∧ s.sink.isSome then 1 else 0
  denied : ∀ f, x.answer = .error f → f.decision.validate = .ok () ∧
    f.decision.allowed = false ∧ f.decision.denyReason = "audit_write_failed"

theorem answer_eq_ok {s : AuditedAccess σ} {r : AccessRequest} {said : Taken}
    {d : AccessDecision} :
    s.answer r said = .ok d ↔ said = .ok () ∧ d = s.policy.authorize r := by
  unfold answer
  rcases said with e | _
  · exact ⟨nofun, nofun⟩
  · exact ⟨fun h => ⟨rfl, (Except.ok.inj h).symm⟩, fun h => congrArg Except.ok h.2.symm⟩

theorem denied_of_answer {s : AuditedAccess σ} {r : AccessRequest} {said : Taken}
    {f : AuditFailure} (h : s.answer r said = .error f) :
    f.decision.validate = .ok () ∧ f.decision.allowed = false ∧
      f.decision.denyReason = "audit_write_failed" := by
  unfold answer at h
  rcases said with e | _
  · cases h
    exact ⟨AccessDecision.validate_denyFor _, rfl, rfl⟩
  · cases h

theorem closed_observe (s : AuditedAccess σ) (now : Millis) (r : AccessRequest) (st : σ) :
    s.Closed ((s.observe now r).run st).1 := by
  by_cases h : 0 ≤ now ∧ s.sink.isSome = true
  · obtain ⟨sink, hsink⟩ := Option.isSome_iff_exists.1 h.2
    rw [observe_of_sink h.1 hsink]
    refine ⟨?_, ?_, (if_pos h).symm, fun f hf => denied_of_answer hf⟩
    · intro d
      simp only [answer_eq_ok, hsink, Option.some.injEq, exists_eq_left', h.1, true_and]
      rfl
    · intro handing hmem
      rw [List.mem_singleton.1 hmem]
      exact ⟨rfl, AuditEvent.validate_of_authorize.2 h.1, sink, hsink, rfl⟩
  · rw [observe_of_silence h]
    refine ⟨?_, nofun, (if_neg h).symm, ?_⟩
    · intro d
      rw [answer_eq_ok]
      constructor
      · rintro ⟨hsaid, _⟩
        cases hsaid
      · rintro ⟨hnow, ⟨sink, hsink, _⟩, _⟩
        exact absurd ⟨hnow, Option.isSome_of_eq_some hsink⟩ h
    · intro f hf
      exact denied_of_answer (show s.answer r (.error (s.silence now r)) = .error f from hf)

theorem taken_observe (s : AuditedAccess σ) (now : Millis) (r : AccessRequest) (st : σ) :
    ((s.observe now r).run st).1.taken = ((s.observe now r).run st).1.released.toList := by
  by_cases h : 0 ≤ now ∧ s.sink.isSome = true
  · obtain ⟨sink, hsink⟩ := Option.isSome_iff_exists.1 h.2
    rw [observe_of_sink h.1 hsink]
    generalize ((sink.append (s.event now r)).run st).1 = said
    rcases said with e | _
    · rfl
    · rfl
  · rw [observe_of_silence h]
    rfl

/-! ## Calls in a row -/

theorem run_observeAll_cons (s : AuditedAccess σ) (now : Millis) (r : AccessRequest)
    (calls : List (Millis × AccessRequest)) (st : σ) :
    (s.observeAll ((now, r) :: calls)).run st =
      (((s.observe now r).run st).1 ::
          ((s.observeAll calls).run ((s.observe now r).run st).2).1,
        ((s.observeAll calls).run ((s.observe now r).run st).2).2) := rfl

theorem run_authorizeAll_cons (s : AuditedAccess σ) (now : Millis) (r : AccessRequest)
    (calls : List (Millis × AccessRequest)) (st : σ) :
    (s.authorizeAll ((now, r) :: calls)).run st =
      (((s.authorize now r).run st).1 ::
          ((s.authorizeAll calls).run ((s.authorize now r).run st).2).1,
        ((s.authorizeAll calls).run ((s.authorize now r).run st).2).2) := rfl

theorem observeAll_answers (s : AuditedAccess σ) (calls : List (Millis × AccessRequest)) (st : σ) :
    (((s.observeAll calls).run st).1.map Exchange.answer, ((s.observeAll calls).run st).2) =
      (s.authorizeAll calls).run st := by
  induction calls generalizing st with
  | nil => rfl
  | cons call calls ih =>
    obtain ⟨now, r⟩ := call
    rw [run_observeAll_cons, run_authorizeAll_cons, ← observe_answer, ← ih]
    rfl

/-- Take any policy, any sink and any requests in a row, at any times. Watching
the sink changes no answer; every call is closed; and the events that the sink
took are those of the decisions that were given out, in the same order. -/
theorem nothing_is_given_out_unaudited (s : AuditedAccess σ)
    (calls : List (Millis × AccessRequest)) (st : σ) :
    (((s.observeAll calls).run st).1.map Exchange.answer, ((s.observeAll calls).run st).2) =
        (s.authorizeAll calls).run st ∧
      ((s.observeAll calls).run st).1.map (fun x => (x.now, x.request)) = calls ∧
      (∀ x ∈ ((s.observeAll calls).run st).1, s.Closed x) ∧
      ((s.observeAll calls).run st).1.flatMap Exchange.taken =
        ((s.observeAll calls).run st).1.filterMap Exchange.released := by
  refine ⟨s.observeAll_answers calls st, ?_⟩
  induction calls generalizing st with
  | nil => exact ⟨rfl, nofun, rfl⟩
  | cons call calls ih =>
    obtain ⟨now, r⟩ := call
    obtain ⟨hcalls, hclosed, htaken⟩ := ih ((s.observe now r).run st).2
    rw [run_observeAll_cons]
    refine ⟨?_, ?_, ?_⟩
    · rw [List.map_cons, hcalls]
      rfl
    · intro x hx
      rcases List.mem_cons.1 hx with rfl | hx
      · exact s.closed_observe now r st
      · exact hclosed x hx
    · rw [List.flatMap_cons, htaken, taken_observe, List.filterMap_cons]
      cases ((s.observe now r).run st).1.released <;> rfl

end AuditedAccess

end ReplayEvidence
