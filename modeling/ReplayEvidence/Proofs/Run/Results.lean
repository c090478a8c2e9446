-- When a run has a result. Evidence that is valid gives valid divergences, and
-- an ending cursor that is valid but for its turn: a decision that is not about
-- a turn may name a blank one. So a run of valid evidence has a result exactly
-- when its last point names no such turn.
import ReplayEvidence.Proofs.Run.Findings
import ReplayEvidence.Proofs.Trace.Markers

namespace ReplayEvidence

/-- Of a field that may be absent, only a blank value is refused. -/
theorem Validity.requireSome_cases (schema field : String) (value : Option String) :
    requireSome schema field value = .ok () ∨
      requireSome schema field value = .error (.missing schema field) := by
  rcases value with _ | s
  · exact .inl rfl
  · unfold requireSome require
    by_cases hs : Text.isBlank s = true
    · exact .inr (if_pos hs)
    · exact .inl (if_neg hs)

/-! ## Cursors of a trace -/

namespace PlacedPoint

theorem sequenceAt_nonneg (place : Nat) : 0 ≤ sequenceAt place := by
  rw [Millis.nonneg_iff, sequenceAt, Millis.toInt_clamp]
  omega

theorem sequence_ofPoint_nonneg (lane : Lane) (place : Nat) (p : TracePoint) :
    0 ≤ (ofPoint lane place p).sequence := by
  unfold ofPoint
  split
  · exact sequenceAt_nonneg place
  · rcases hm : Marker.sequence? p.marker with _ | n
    · exact sequenceAt_nonneg place
    · exact Marker.sequence?_nonneg hm

/-- The cursor of a valid point is valid but for its turn. -/
theorem validate_cursor_ofPoint (lane : Lane) (place : Nat) {p : TracePoint}
    (h : p.validate = .ok ()) :
    (ofPoint lane place p).cursor.validate =
      Validity.requireSome "replay_cursor" "turn_id" p.decision.turn := by
  unfold TracePoint.validate at h
  simp only [Validity.bind_eq_ok] at h
  obtain ⟨_, _, hdecision, _⟩ := h
  unfold Decision.validate at hdecision
  simp only [Validity.bind_eq_ok, Validity.require_eq_ok] at hdecision
  obtain ⟨hsession, hevent, _⟩ := hdecision
  have hsequence := sequence_ofPoint_nonneg lane place p
  unfold Cursor.validate cursor
  simp only [decision_ofPoint]
  rw [Validity.require_eq_ok.2 hsession, Validity.require_eq_ok.2 hevent,
    Validity.requireNonNegative_eq_ok.2 hsequence]
  cases Validity.requireSome "replay_cursor" "turn_id" p.decision.turn <;> rfl

theorem getLast?_ofTrace (lane : Lane) (trace : List TracePoint) :
    (ofTrace lane trace).getLast? = trace.getLast?.map (ofPoint lane (trace.length - 1)) := by
  rw [List.getLast?_eq_getElem?, List.getLast?_eq_getElem?, getElem?_ofTrace, length_ofTrace]

end PlacedPoint

/-! ## Outcomes -/

/-- The turn that the last point of a trace names. -/
def Evidence.lastTurn? (e : Evidence) : Option String :=
  e.trace.getLast?.bind fun p => p.decision.turn

/-- The request starts at the first point, or at a point of the baseline. -/
def RunRequest.StartsIn (r : RunRequest) (baseline : List PlacedPoint) : Prop :=
  ∀ c, r.cursor = some c → ∃ p ∈ baseline, p.cursor = c

theorem PlacedPoint.find?_of_mem {points : List PlacedPoint} {p : PlacedPoint} (h : p ∈ points) :
    ∃ i, find? points p.cursor = some i ∧ i < points.length := by
  have hfound : (find? points p.cursor).isSome = true := by
    unfold find?
    rw [List.findIdx?_isSome, List.any_eq_true]
    exact ⟨p, h, decide_eq_true rfl⟩
  obtain ⟨i, hi⟩ := Option.isSome_iff_exists.1 hfound
  have hlt := (List.findIdx?_eq_some_iff_findIdx_eq.1 hi).1
  exact ⟨i, hi, hlt⟩

/-- A window that starts before the end of the baseline ends where it ends. -/
theorem getLast?_window {baseline : List PlacedPoint} {start : Nat} (h : start < baseline.length)
    (given : Option Cursor) :
    ((baseline.drop start).getLast?.map PlacedPoint.cursor).or given =
      baseline.getLast?.map PlacedPoint.cursor := by
  rw [List.getLast?_drop, if_neg (Nat.not_le_of_lt h)]
  rcases hlast : baseline.getLast? with _ | p
  · rw [List.getLast?_eq_none_iff] at hlast
    simp [hlast] at h
  · rfl

/-- A request that starts in the baseline is taken up there. What is found on
the way is valid, and the run ends at the last point of the baseline. -/
theorem Resumption.find_of_startsIn {r : RunRequest} {baseline : List PlacedPoint}
    (h : r.StartsIn baseline) (candidate : List PlacedPoint) :
    ∃ start, find baseline candidate r.cursor = .ok start ∧
      (∀ d ∈ start.divergences, d.validate = .ok ()) ∧
      ((baseline.drop start.baseline).getLast?.map PlacedPoint.cursor).or r.cursor =
        baseline.getLast?.map PlacedPoint.cursor := by
  rcases hr : r.cursor with _ | c
  · exact ⟨⟨0, 0, []⟩, rfl, nofun, by simp⟩
  · obtain ⟨p, hp, rfl⟩ := h c hr
    obtain ⟨i, hi, hlt⟩ := PlacedPoint.find?_of_mem hp
    have hend := getLast?_window hlt (some p.cursor)
    unfold find
    simp only [hi]
    rcases PlacedPoint.find? candidate p.cursor with _ | j
    · refine ⟨_, rfl, ?_, hend⟩
      intro d hd
      rw [List.mem_singleton.1 hd]
      exact validate_missing _ _ _
    · exact ⟨_, rfl, nofun, hend⟩

/-- Two sides are compared from any start in the baseline, whatever they hold:
every divergence is valid, and the cursor is that of the last point of the
baseline. -/
theorem RunSettings.compareEvidence_of_startsIn (s : RunSettings) {r : RunRequest}
    {baseline : Evidence} (h : r.StartsIn (PlacedPoint.ofTrace s.defaultLane baseline.trace))
    (candidate : Evidence) :
    ∃ o, s.compareEvidence r baseline candidate = .ok o ∧
      (∀ d ∈ o.divergences, d.validate = .ok ()) ∧
      o.cursor = (PlacedPoint.ofTrace s.defaultLane baseline.trace).getLast?.map
        PlacedPoint.cursor := by
  obtain ⟨start, hstart, hfound, hend⟩ := Resumption.find_of_startsIn h
    (PlacedPoint.ofTrace s.defaultLane candidate.trace)
  unfold compareEvidence
  simp only [hstart]
  refine ⟨_, rfl, ?_, hend⟩
  intro d hd
  rcases List.mem_append.1 hd with hd | hd
  · rcases List.mem_append.1 hd with hd | hd
    · exact hfound d hd
    · exact ReplayMode.validate_of_mem_compare hd
  · exact LineageRecord.validate_of_mem_compareAll hd

/-- The cursor of the last point of valid evidence is valid but for its turn. -/
theorem Evidence.validateSome_lastCursor {e : Evidence} (h : e.validate = .ok ()) (lane : Lane) :
    Cursor.validateSome ((PlacedPoint.ofTrace lane e.trace).getLast?.map PlacedPoint.cursor) =
      Validity.requireSome "replay_cursor" "turn_id" e.lastTurn? := by
  unfold Evidence.validate at h
  rw [Validity.bind_eq_ok, Validity.all_eq_ok] at h
  rw [PlacedPoint.getLast?_ofTrace]
  unfold lastTurn?
  rcases hlast : e.trace.getLast? with _ | p
  · rfl
  · exact PlacedPoint.validate_cursor_ofPoint lane _ (h.1 p (List.mem_of_getLast? hlast))

/-! ## Outcomes -/

namespace Replayer

variable {σ : Type}

theorem outcome_of_valid {e : Replayer σ} {r : RunRequest} {b c : Evidence}
    (hr : r.validate = .ok ()) (hb : e.source r.baseline = .ok b)
    (hc : e.source r.candidate = .ok c) (hbv : b.validate = .ok ()) (hcv : c.validate = .ok ()) :
    e.outcome r = e.settings.compareEvidence r b c := by
  rw [outcome_eq, hr, hb, hc]
  unfold Side.accept
  simp only [rephrase, hbv, hcv, bind, Except.bind, pure, Except.pure]

/-- A run with a result had an outcome, from which the result was concluded. -/
theorem outcome_of_run {e : Replayer σ} {r : RunRequest} {st : σ} {result : RunResult}
    (h : ((e.run r).run st).1 = .ok result) :
    ∃ o, e.outcome r = .ok o ∧ conclude r o (e.runId.run st).1 = .ok result := by
  rcases ho : e.outcome r with err | o
  · rw [run_of_error ho] at h
    cases h
  · rw [run_of_ok ho] at h
    exact ⟨o, rfl, h⟩

/-! ## Sources with a state -/

theorem run_bind_of_eq {α β : Type} {op : StateM σ α} {st st' : σ} {a : α}
    (h : op.run st = (a, st')) (next : α → StateM σ β) :
    (op >>= next).run st = (next a).run st' := by
  rw [StateT.run_bind, h]
  rfl

section Asking

variable {e : Replayer σ} {ask : EvidenceSource.Stateful σ} {r : RunRequest} {st between after : σ}

/-- A source that is asked for one side and then for the other, and gives for
each what the replayer's own source gives, lets a run find the same. It is asked
for both sides, for the first, or for none. -/
theorem outcome_asking (hbaseline : (ask r.baseline).run st = (e.source r.baseline, between))
    (hcandidate : (ask r.candidate).run between = (e.source r.candidate, after)) :
    ∃ last ∈ [st, between, after], (e.settings.outcome ask r).run st = (e.outcome r, last) := by
  rw [outcome_eq]
  unfold RunSettings.outcome
  rcases rephrase RunError.invalidRequest r.validate with err | _
  · exact ⟨st, by simp, rfl⟩
  · simp only [run_bind_of_eq hbaseline]
    rcases Side.baseline.accept r.baseline (e.source r.baseline) with err | b
    · exact ⟨between, by simp, rfl⟩
    · simp only [run_bind_of_eq hcandidate]
      rcases Side.candidate.accept r.candidate (e.source r.candidate) with err | c <;>
        exact ⟨after, by simp, rfl⟩

/-- So a run on a source with a state comes to what a run on its answers comes
to, from the state that asking left. -/
theorem run_asking (hbaseline : (ask r.baseline).run st = (e.source r.baseline, between))
    (hcandidate : (ask r.candidate).run between = (e.source r.candidate, after)) :
    ∃ last ∈ [st, between, after], (e.runAsking ask r).run st = (e.run r).run last := by
  obtain ⟨last, hlast, houtcome⟩ := outcome_asking hbaseline hcandidate
  refine ⟨last, hlast, ?_⟩
  unfold runAsking
  rw [run_bind_of_eq houtcome]
  rcases ho : e.outcome r with err | o
  · rw [run_of_error ho]
    rfl
  · rw [run_of_ok ho]
    rfl

end Asking

/-! ## Results -/

/-- With an identity and valid divergences, all that can keep a result from
being valid is its cursor. -/
theorem conclude_of_valid {r : RunRequest} {o : RunOutcome} {runId : String}
    (hid : Text.isBlank runId = false) (h : ∀ d ∈ o.divergences, d.validate = .ok ()) :
    conclude r o runId = rephrase .invalidResult
      ((Cursor.validateSome o.cursor).map fun _ => ⟨runId, r.mode, o.divergences, o.cursor⟩) := by
  unfold conclude RunResult.validate
  simp only [Validity.require_eq_ok.2 hid, Validity.all_eq_ok.2 h]
  rfl

theorem isBlank_timedRunId (now : Millis) : Text.isBlank (timedRunId now) = false :=
  Text.isBlank_append_of_left (by decide) _

/-- Take any request that is valid, from its first point or from a point of the
baseline, and any evidence of both sides that is valid. The run has a result
exactly when the last point of the baseline names no turn, or one that says
something; otherwise its error is the missing turn of the ending cursor. -/
theorem a_run_has_a_result_unless_its_last_turn_is_blank {e : Replayer σ} {r : RunRequest}
    {b c : Evidence} (hid : ∀ st, Text.isBlank (e.runId.run st).1 = false)
    (hr : r.validate = .ok ()) (hb : e.source r.baseline = .ok b)
    (hc : e.source r.candidate = .ok c) (hbv : b.validate = .ok ()) (hcv : c.validate = .ok ())
    (hstart : r.StartsIn (PlacedPoint.ofTrace e.settings.defaultLane b.trace)) (st : σ) :
    ((∃ result, ((e.run r).run st).1 = .ok result) ↔
        ∀ turn, b.lastTurn? = some turn → Text.isBlank turn = false) ∧
      ∀ err, ((e.run r).run st).1 = .error err →
        err = .invalidResult (.missing "replay_cursor" "turn_id") := by
  obtain ⟨o, ho, hdivergences, hcursor⟩ :=
    RunSettings.compareEvidence_of_startsIn e.settings hstart c
  rw [← outcome_of_valid hr hb hc hbv hcv] at ho
  rw [run_of_ok ho, conclude_of_valid (hid st) hdivergences, hcursor,
    Evidence.validateSome_lastCursor hbv,
    ← @Validity.requireSome_eq_ok "replay_cursor" "turn_id"]
  -- of all that a result must satisfy, only the turn of its cursor is left open
  rcases Validity.requireSome_cases "replay_cursor" "turn_id" b.lastTurn? with h | h
  · rw [h]
    exact ⟨⟨fun _ => rfl, fun _ => ⟨_, rfl⟩⟩, nofun⟩
  · rw [h]
    refine ⟨⟨nofun, nofun⟩, ?_⟩
    intro err herr
    cases herr
    rfl

/-- A session of one point, whose decision may name a turn. -/
def sessionOf (turn : Option String) : Evidence where
  trace := [{
    planHash := "plan-a"
    provenance := ⟨"routing/1", "admission/1", "abi/1", "version/1", "policy/1", "health/1"⟩
    decision := {
      kind := .admitted, phase := .preTurn, scope := .session, session := "sess-1", turn := turn
      event := "evt-1", runtimeAt := 100, wallClockAt := 1700000000000
      emitter := "turn_arbiter", reason := "admitted", epoch := none }
    marker := "runtime_sequence:10"
    epoch := 3
    provider := ⟨"stt-a", "model-1"⟩
    runtimeAt := 100
    lane := some .control }]
  lineage := []

/-- Replays a session of one point against itself. -/
def replaysSessionOf (turn : Option String) : Replayer Millis where
  source := fun _ => .ok (sessionOf turn)
  settings := .standard
  runId := do return timedRunId (← get)
  now := get

/-- A replay of recorded decisions, from their start or from a cursor. -/
def replayFrom (cursor : Option Cursor) : RunRequest :=
  ⟨"base", "cand", .replayDecisions, cursor⟩

theorem a_session_in_a_named_turn_has_a_result :
    ∃ result, (((replaysSessionOf (some "turn-1")).run
      (replayFrom (some ⟨"sess-1", some "turn-1", .control, 10, "evt-1"⟩))).run 1000).1 =
        .ok result := by
  refine (a_run_has_a_result_unless_its_last_turn_is_blank (b := sessionOf (some "turn-1"))
    (c := sessionOf (some "turn-1")) ?_ ?_ rfl rfl ?_ ?_ ?_ 1000).1.2 ?_
  · exact fun now => isBlank_timedRunId now
  · rfl
  · rfl
  · rfl
  · intro cursor hcursor
    cases hcursor
    exact ⟨_, List.mem_singleton_self _, rfl⟩
  · intro turn hturn
    cases hturn
    decide

/-- The turn of the ending cursor can be missing: a decision about a session is
valid with a blank turn, which no cursor may name. -/
theorem a_session_in_a_blank_turn_has_no_result :
    (∀ now, Text.isBlank ((replaysSessionOf (some " ")).runId.run now).1 = false) ∧
      (replayFrom none).validate = .ok () ∧ (replayFrom none).cursor = none ∧
      (∀ reference, (replaysSessionOf (some " ")).source reference =
        .ok (sessionOf (some " "))) ∧
      (sessionOf (some " ")).validate = .ok () ∧
      (((replaysSessionOf (some " ")).run (replayFrom none)).run 1000).1 =
        .error (.invalidResult (.missing "replay_cursor" "turn_id")) :=
  ⟨isBlank_timedRunId, rfl, rfl, fun _ => rfl, rfl, rfl⟩

end Replayer

end ReplayEvidence
