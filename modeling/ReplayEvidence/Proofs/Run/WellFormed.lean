-- The law of what is reported. Whatever is compared, valid or not, each divergence says
-- where it is and what it is, and carries a length of time exactly when it is one in
-- timing; that length is beyond the tolerance. So no run is refused for what it found.
import ReplayEvidence.Proofs.Run.Resumed

namespace ReplayEvidence

/-! ## Divergences -/

namespace Divergence

theorem validate_eq_ok {d : Divergence} :
    d.validate = .ok () ↔ Text.isBlank d.scope = false ∧ Text.isBlank d.message = false ∧
      (d.drift.isSome = true ↔ d.kind = .timing) ∧ ∀ drift, d.drift = some drift → 0 ≤ drift := by
  unfold validate
  rw [Validity.bind_eq_ok, Validity.bind_eq_ok, Validity.require_eq_ok, Validity.require_eq_ok]
  refine and_congr_right fun _ => and_congr_right fun _ => ?_
  rcases d with ⟨kind, scope, message, _ | drift⟩
  · cases kind <;> simp
  · cases kind <;> simp

/-- What can be relied on in a divergence that is reported under a tolerance. -/
structure WellFormed (tolerance : Tolerance) (d : Divergence) : Prop where
  valid : d.validate = .ok ()
  scope : Text.isBlank d.scope = false
  message : Text.isBlank d.message = false
  timed : d.drift.isSome = true ↔ d.kind = .timing
  beyond : ∀ drift, d.drift = some drift → 0 ≤ drift ∧ tolerance.effective < drift

theorem WellFormed.of_valid {tolerance : Tolerance} {d : Divergence} (h : d.validate = .ok ())
    (hbeyond : ∀ drift, d.drift = some drift → tolerance.effective < drift) :
    d.WellFormed tolerance := by
  obtain ⟨hscope, hmessage, htimed, hnonneg⟩ := validate_eq_ok.1 h
  exact ⟨h, hscope, hmessage, htimed, fun drift hd => ⟨hnonneg drift hd, hbeyond drift hd⟩⟩

/-- No tolerance is asked of a divergence that is not in timing. -/
theorem WellFormed.of_untimed {tolerance : Tolerance} {d : Divergence} (h : d.validate = .ok ())
    (hdrift : d.drift = none) : d.WellFormed tolerance :=
  .of_valid h fun _ hd => nomatch hdrift.symm.trans hd

end Divergence

theorem Finding.drift_diverge {f : Finding} (h : f.kind ≠ .timing) (scope : String) :
    (f.diverge scope).drift = none := by
  cases f with
  | drift => exact absurd rfl h
  | _ => rfl

/-! ## Comparisons -/

theorem Decision.wellFormed_of_mem_compareAll {baseline candidate : List Decision}
    {d : Divergence} (h : d ∈ compareAll baseline candidate) (tolerance : Tolerance) :
    d.WellFormed tolerance := by
  have huntimed : d.drift = none := by
    refine of_mem_comparison (P := fun d => d.drift = none) isBlank_divergenceScope
      (fun _ => rfl) (fun hd => ?_) h
    obtain ⟨_, rfl⟩ := mem_whenever.1 hd
    rfl
  exact .of_untimed (validate_of_mem_compareAll h) huntimed

namespace TracePoint

/-- A drift is found where two points lie further apart than the tolerance, and is how far. -/
theorem of_drift_mem_findings {tolerance length allowed : Millis} {place i : Nat}
    {b c : TracePoint} (h : .drift i length allowed ∈ b.findings tolerance place c) :
    length = Millis.distance b.runtimeAt c.runtimeAt ∧ tolerance < length := by
  unfold findings at h
  simp only [List.mem_append, mem_whenever, reduceCtorEq, and_false, or_false, false_or] at h
  obtain ⟨hbeyond, heq⟩ := h
  cases heq
  exact ⟨rfl, of_decide_eq_true hbeyond⟩

/-- How far two points lie apart has no sign to lose. -/
theorem magnitude_distance (b c : TracePoint) :
    Millis.magnitude (Millis.distance b.runtimeAt c.runtimeAt) =
      Millis.distance b.runtimeAt c.runtimeAt := by
  rw [← Int64.toInt_inj, toInt_magnitude_distance, toInt_distance]

theorem beyond_of_mem_compareAt {tolerance : Millis} {place : Nat} {b c : TracePoint}
    {d : Divergence} (h : d ∈ compareAt tolerance place b c) {drift : Millis}
    (hdrift : d.drift = some drift) : tolerance < drift := by
  obtain ⟨f, hf, rfl⟩ := List.mem_map.1 h
  cases f with
  | drift i length allowed =>
    obtain ⟨rfl, hbeyond⟩ := of_drift_mem_findings hf
    cases hdrift
    rwa [magnitude_distance]
  | _ => cases hdrift

theorem wellFormed_of_mem_compareAll {tolerance : Tolerance} {baseline candidate : List TracePoint}
    {d : Divergence} (h : d ∈ compareAll tolerance baseline candidate) :
    d.WellFormed tolerance := by
  refine of_mem_comparison isBlank_divergenceScope (fun hscope => ?lengths) (fun hd => ?place) h
  case lengths => exact .of_untimed (Finding.validate_diverge _ hscope) rfl
  case place =>
    exact .of_valid (validate_of_mem_compareAt hd)
      fun _ hdrift => beyond_of_mem_compareAt hd hdrift

end TracePoint

namespace LineageRecord

theorem kind_of_mem_findings {b : LineageRecord} {c : Option LineageRecord} {f : Finding}
    (h : f ∈ b.findings c) : f.kind = .outcome := by
  rcases c with _ | c
  · rw [List.mem_singleton.1 h]
    rfl
  · rcases List.mem_append.1 h with h | h
    · obtain ⟨_, rfl⟩ := mem_whenever.1 h
      rfl
    · obtain ⟨_, rfl⟩ := mem_whenever.1 h
      rfl

theorem wellFormed_of_mem_compareAll {baseline candidate : List LineageRecord} {d : Divergence}
    (h : d ∈ compareAll baseline candidate) (tolerance : Tolerance) : d.WellFormed tolerance := by
  refine .of_untimed (validate_of_mem_compareAll h) ?_
  obtain ⟨b, _, hd⟩ := List.mem_flatMap.1 h
  obtain ⟨f, hf, rfl⟩ := List.mem_map.1 hd
  apply Finding.drift_diverge
  rw [kind_of_mem_findings hf]
  nofun

end LineageRecord

/-! ## Runs -/

theorem rephrase_eq_error {ε δ α : Type} {f : ε → δ} {x : Except ε α} {e : δ} :
    rephrase f x = .error e ↔ ∃ d, x = .error d ∧ f d = e := by
  cases x <;> simp [rephrase]

theorem ReplayMode.wellFormed_of_mem_compare {mode : ReplayMode} {tolerance : Tolerance}
    {baseline candidate : List PlacedPoint} {d : Divergence}
    (h : d ∈ mode.compare tolerance baseline candidate) : d.WellFormed tolerance := by
  cases mode with
  | replayDecisions => exact Decision.wellFormed_of_mem_compareAll h tolerance
  | _ => exact TracePoint.wellFormed_of_mem_compareAll h

/-- Going to a cursor finds at most that the candidate does not have it. -/
theorem Resumption.wellFormed_of_find {baseline candidate : List PlacedPoint}
    {cursor : Option Cursor} {start : Resumption} (h : find baseline candidate cursor = .ok start)
    {d : Divergence} (hd : d ∈ start.divergences) (tolerance : Tolerance) :
    d.WellFormed tolerance := by
  rcases cursor with _ | c
  · cases h
    cases hd
  · rcases hb : PlacedPoint.find? baseline c with _ | i
    · simp only [find, hb] at h
      cases h
    · rcases hc : PlacedPoint.find? candidate c with _ | j
      · simp only [find, hb, hc] at h
        cases h
        cases List.mem_singleton.1 hd
        refine .of_untimed (validate_missing c i candidate.length) ?_
        unfold missing
        split <;> rfl
      · simp only [find, hb, hc] at h
        cases h
        cases hd

theorem Resumption.find_ne_invalidResult {baseline candidate : List PlacedPoint}
    {cursor : Option Cursor} {err : ValidationError} :
    find baseline candidate cursor ≠ .error (.invalidResult err) := by
  rcases cursor with _ | c
  · nofun
  · rcases hb : PlacedPoint.find? baseline c with _ | i
    · simp [find, hb]
    · rcases hc : PlacedPoint.find? candidate c with _ | j <;> simp [find, hb, hc]

theorem RunSettings.wellFormed_of_compareEvidence {s : RunSettings} {r : RunRequest}
    {baseline candidate : Evidence} {o : RunOutcome}
    (h : s.compareEvidence r baseline candidate = .ok o) {d : Divergence}
    (hd : d ∈ o.divergences) : d.WellFormed s.compare := by
  unfold compareEvidence at h
  obtain ⟨start, hstart, ho⟩ := bind_eq_ok.1 h
  cases ho
  rcases List.mem_append.1 hd with hd | hd
  · rcases List.mem_append.1 hd with hd | hd
    · exact Resumption.wellFormed_of_find hstart hd s.compare
    · exact ReplayMode.wellFormed_of_mem_compare hd
  · exact LineageRecord.wellFormed_of_mem_compareAll hd s.compare

namespace Replayer

variable {σ : Type} {e : Replayer σ} {r : RunRequest}

theorem wellFormed_of_outcome {o : RunOutcome} (h : e.outcome r = .ok o) {d : Divergence}
    (hd : d ∈ o.divergences) : d.WellFormed e.settings.compare := by
  obtain ⟨-, _, -, _, -, hcompare⟩ := outcome_eq_ok.1 h
  exact RunSettings.wellFormed_of_compareEvidence hcompare hd

/-- What keeps a run from an outcome is never its result. -/
theorem outcome_ne_invalidResult (err : ValidationError) :
    e.outcome r ≠ .error (.invalidResult err) := by
  intro h
  rw [outcome_eq] at h
  unfold Side.accept RunSettings.compareEvidence at h
  simp only [bind_eq_error, rephrase_eq_error, reduceCtorEq, and_false, exists_false, false_or,
    or_false, pure, Except.pure] at h
  obtain ⟨-, -, b, -, c, -, h⟩ := h
  exact Resumption.find_ne_invalidResult h

/-- With divergences that are valid, all that keeps an outcome from being a result is the
identity of the run, or else its cursor. -/
theorem conclude_eq_error {o : RunOutcome} {runId : String} {err : ValidationError}
    (h : ∀ d ∈ o.divergences, d.validate = .ok ()) :
    conclude r o runId = .error (.invalidResult err) ↔
      (Text.isBlank runId = true ∧ err = .missing "replay_run_result" "run_id") ∨
        (Text.isBlank runId = false ∧ Cursor.validateSome o.cursor = .error err) := by
  rcases hid : Text.isBlank runId with _ | _
  · rw [conclude_of_valid hid h]
    cases Cursor.validateSome o.cursor <;> simp [Except.map, rephrase]
  · have hvalid : RunResult.validate ⟨runId, r.mode, o.divergences, o.cursor⟩ =
        .error (.missing "replay_run_result" "run_id") := by
      unfold RunResult.validate Validity.require
      rw [if_pos hid]
      rfl
    simp [conclude, hvalid, Except.map, rephrase, eq_comm]

end Replayer

/-! ## The law -/

/-- Every divergence that is reported is well formed. Compare any two lists of decisions, traces
or lineages, valid or not, or go to any cursor in any two traces: each divergence has a scope and a
message that say something, and carries a length of time exactly when it is one in timing, a length
that is not negative and beyond the tolerance. So a run is never refused for its divergences: those
of an outcome are all well formed, and the run answers that its result is invalid exactly when it
was given no identity, or its cursor is not valid. -/
theorem every_divergence_is_well_formed (tolerance : Tolerance) :
    (∀ baseline candidate : List Decision, ∀ d ∈ Decision.compareAll baseline candidate,
        d.WellFormed tolerance) ∧
      (∀ baseline candidate : List TracePoint,
        ∀ d ∈ TracePoint.compareAll tolerance baseline candidate, d.WellFormed tolerance) ∧
      (∀ baseline candidate : List LineageRecord,
        ∀ d ∈ LineageRecord.compareAll baseline candidate, d.WellFormed tolerance) ∧
      (∀ (baseline candidate : List PlacedPoint) (cursor : Option Cursor) (start : Resumption),
        Resumption.find baseline candidate cursor = .ok start →
        ∀ d ∈ start.divergences, d.WellFormed tolerance) ∧
      ∀ {σ : Type} (e : Replayer σ) (r : RunRequest) (st : σ),
        (∀ o, e.outcome r = .ok o → ∀ d ∈ o.divergences, d.WellFormed e.settings.compare) ∧
        ∀ err, ((e.run r).run st).1 = .error (.invalidResult err) ↔
          ∃ o, e.outcome r = .ok o ∧
            ((Text.isBlank (e.runId.run st).1 = true ∧
                err = .missing "replay_run_result" "run_id") ∨
              (Text.isBlank (e.runId.run st).1 = false ∧
                Cursor.validateSome o.cursor = .error err)) := by
  refine ⟨?decisions, ?traces, ?lineages, ?cursors, ?runs⟩
  case decisions => exact fun _ _ d hd => Decision.wellFormed_of_mem_compareAll hd tolerance
  case traces => exact fun _ _ d hd => TracePoint.wellFormed_of_mem_compareAll hd
  case lineages => exact fun _ _ d hd => LineageRecord.wellFormed_of_mem_compareAll hd tolerance
  case cursors => exact fun _ _ _ _ h d hd => Resumption.wellFormed_of_find h hd tolerance
  case runs =>
    intro σ e r st
    refine ⟨fun o ho d hd => Replayer.wellFormed_of_outcome ho hd, ?_⟩
    intro err
    rcases ho : e.outcome r with source | o
    · rw [Replayer.run_of_error ho]
      constructor
      · intro h
        cases h
        exact absurd ho (Replayer.outcome_ne_invalidResult err)
      · rintro ⟨_, h, _⟩
        cases h
    · rw [Replayer.run_of_ok ho, Replayer.conclude_eq_error
        fun d hd => (Replayer.wellFormed_of_outcome ho hd).valid]
      simp only [Except.ok.injEq, exists_eq_left']

/-- A decision that names nothing, taken before all time. -/
def namelessDecision : Decision :=
  { (TracePoint.pointAt (-1)).decision with session := "", turn := some " ", event := "" }

/-- Two points at the two ends of time lie apart by what fits, an empty list of decisions differs
from one without names, and an event without a name is absent. The candidate does not have the
cursor that the baseline has, and a run whose divergences are well formed is refused for its
turn. -/
theorem a_drift_over_all_of_time_is_well_formed :
    (∃ d ∈ TracePoint.compareAll .standard [TracePoint.pointAt Int64.minValue]
          [TracePoint.pointAt Int64.maxValue, TracePoint.pointAt 0],
        d.drift = some Int64.maxValue ∧ d.WellFormed .standard) ∧
      (∃ d ∈ Decision.compareAll [] [namelessDecision],
        d.scope = "session:" ∧ d.WellFormed .standard) ∧
      (∃ d ∈ LineageRecord.compareAll [⟨"", "", none, true, none⟩] [],
        d.scope = "session:" ∧ d.WellFormed .standard) ∧
      (∃ start, Resumption.find [.ofPoint .data 0 (TracePoint.pointAt 0)] []
          (some (PlacedPoint.ofPoint .data 0 (TracePoint.pointAt 0)).cursor) = .ok start ∧
        ∃ d ∈ start.divergences, d.kind = .ordering ∧ d.WellFormed .standard) ∧
      (((Replayer.replaysSessionOf (some " ")).run (Replayer.replayFrom none)).run 1000).1 =
        .error (.invalidResult (.missing "replay_cursor" "turn_id")) := by
  obtain ⟨hdecisions, htraces, hlineages, hcursors, hruns⟩ :=
    every_divergence_is_well_formed .standard
  refine ⟨?_, ?_, ?_, ?_, ?_⟩
  · obtain ⟨d, hd, hdrift⟩ : ∃ d ∈ TracePoint.compareAll .standard
        [TracePoint.pointAt Int64.minValue]
        [TracePoint.pointAt Int64.maxValue, TracePoint.pointAt 0],
        d.drift = some Int64.maxValue := by decide
    exact ⟨d, hd, hdrift, htraces _ _ d hd⟩
  · obtain ⟨d, hd, hscope⟩ : ∃ d ∈ Decision.compareAll [] [namelessDecision],
        d.scope = "session:" := by decide
    exact ⟨d, hd, hscope, hdecisions _ _ d hd⟩
  · obtain ⟨d, hd, hscope⟩ : ∃ d ∈ LineageRecord.compareAll [⟨"", "", none, true, none⟩] [],
        d.scope = "session:" := by decide
    exact ⟨d, hd, hscope, hlineages _ _ d hd⟩
  · have hfind : Resumption.find [.ofPoint .data 0 (TracePoint.pointAt 0)] []
        (some (PlacedPoint.ofPoint .data 0 (TracePoint.pointAt 0)).cursor) = .ok ⟨0, 0, [_]⟩ := rfl
    exact ⟨_, hfind, _, List.mem_singleton_self _, rfl,
      hcursors _ _ _ _ hfind _ (List.mem_singleton_self _)⟩
  · obtain ⟨-, hrefused⟩ :=
      hruns (Replayer.replaysSessionOf (some " ")) (Replayer.replayFrom none) 1000
    exact (hrefused _).2 ⟨_, rfl, .inr ⟨Replayer.isBlank_timedRunId 1000, rfl⟩⟩

end ReplayEvidence
