-- The laws of the cursor at which a run ends. It is that of the last point of the
-- baseline, whatever else is asked for, so a run can be taken up where another one
-- ended, and ends there again. A cursor made from a point is found at the first point
-- that it fits.
import Mathlib.Order.Bounds.Defs
import ReplayEvidence.Proofs.Run.Resumed

namespace ReplayEvidence

namespace PlacedPoint

/-! ## Looking a cursor up -/

/-- Two points have one session, turn, lane, sequence and event. -/
structure SamePlace (p q : PlacedPoint) : Prop where
  session : p.point.decision.session = q.point.decision.session
  turn : p.point.decision.turn = q.point.decision.turn
  lane : p.lane = q.lane
  sequence : p.sequence = q.sequence
  event : p.point.decision.event = q.point.decision.event

theorem cursor_eq_iff {p q : PlacedPoint} : p.cursor = q.cursor ↔ p.SamePlace q := by
  unfold cursor
  rw [Cursor.mk.injEq]
  constructor
  · rintro ⟨hsession, hturn, hlane, hsequence, hevent⟩
    exact ⟨hsession, hturn, hlane, hsequence, hevent⟩
  · intro h
    exact ⟨h.session, h.turn, h.lane, h.sequence, h.event⟩

/-- A cursor is found where the first point has it. -/
theorem find?_eq_some_iff {points : List PlacedPoint} {c : Cursor} {i : Nat} :
    find? points c = some i ↔
      (∃ p, points[i]? = some p ∧ p.cursor = c) ∧
        ∀ j p, j < i → points[j]? = some p → p.cursor ≠ c := by
  unfold find?
  rw [List.findIdx?_eq_some_iff_getElem]
  simp only [decide_eq_true_eq]
  constructor
  · rintro ⟨hlt, hfound, hfirst⟩
    refine ⟨⟨_, List.getElem?_eq_getElem hlt, hfound⟩, ?_⟩
    intro j p hji hp
    obtain ⟨_, rfl⟩ := List.getElem?_eq_some_iff.1 hp
    exact hfirst j hji
  · rintro ⟨⟨p, hp, hfound⟩, hfirst⟩
    obtain ⟨hlt, rfl⟩ := List.getElem?_eq_some_iff.1 hp
    exact ⟨hlt, hfound, fun j hji => hfirst j _ hji (List.getElem?_eq_getElem _)⟩

/-- The cursor of a point is found, and at the first point that has its place. -/
theorem isLeast_find?_cursor {points : List PlacedPoint} {i : Nat} {p : PlacedPoint}
    (h : points[i]? = some p) :
    ∃ j, find? points p.cursor = some j ∧
      IsLeast {k | ∃ q, points[k]? = some q ∧ q.SamePlace p} j := by
  obtain ⟨j, hj, -⟩ := find?_of_mem (List.mem_of_getElem? h)
  obtain ⟨⟨q, hq, hcursor⟩, hfirst⟩ := find?_eq_some_iff.1 hj
  refine ⟨j, hj, ⟨q, hq, cursor_eq_iff.1 hcursor⟩, ?_⟩
  rintro k ⟨r, hr, hsame⟩
  exact Nat.le_of_not_lt fun hkj => hfirst k r hkj hr (cursor_eq_iff.2 hsame)

end PlacedPoint

/-! ## Starting at a cursor -/

theorem RunRequest.startsIn_of_compareEvidence {s : RunSettings} {r : RunRequest} {b c : Evidence}
    {o : RunOutcome} (h : s.compareEvidence r b c = .ok o) :
    r.StartsIn (PlacedPoint.ofTrace s.defaultLane b.trace) := by
  intro k hk
  rcases hfound : PlacedPoint.find? (PlacedPoint.ofTrace s.defaultLane b.trace) k with _ | i
  · unfold RunSettings.compareEvidence Resumption.find at h
    simp only [hk, hfound] at h
    cases h
  · obtain ⟨⟨p, hp, hcursor⟩, -⟩ := PlacedPoint.find?_eq_some_iff.1 hfound
    exact ⟨p, List.mem_of_getElem? hp, hcursor⟩

theorem RunRequest.startsIn_last {r : RunRequest} {baseline : List PlacedPoint} {k : Cursor}
    (h : baseline.getLast?.map PlacedPoint.cursor = some k) :
    { r with cursor := some k }.StartsIn baseline := by
  obtain ⟨p, hp, hcursor⟩ := Option.map_eq_some_iff.1 h
  rintro _ ⟨⟩
  exact ⟨p, List.mem_of_getLast? hp, hcursor⟩

theorem RunRequest.validate_withCursor {r : RunRequest} {k : Cursor} (hr : r.validate = .ok ())
    (hk : k.validate = .ok ()) : { r with cursor := some k }.validate = .ok () := by
  unfold validate at hr ⊢
  simp only [Validity.bind_eq_ok] at hr ⊢
  exact ⟨hr.1, hr.2.1, hk⟩

/-! ## The end of a run -/

namespace Replayer

variable {σ : Type} {e : Replayer σ} {r : RunRequest} {st : σ} {result : RunResult}

theorem validate_of_conclude {o : RunOutcome} {runId : String}
    (h : conclude r o runId = .ok result) : result.validate = .ok () := by
  have hresult := result_of_conclude h
  unfold conclude at h
  rw [rephrase_eq_ok, ← hresult] at h
  rcases hvalid : result.validate with err | _
  · rw [hvalid] at h
    cases h
  · rfl

/-- A run with a result had a valid request and valid evidence of both sides, which it
compared from a point of the baseline on, and its result is valid. -/
theorem evidence_of_run (h : ((e.run r).run st).1 = .ok result) :
    r.validate = .ok () ∧ result.validate = .ok () ∧
      ∃ b, (e.source r.baseline = .ok b ∧ b.validate = .ok ()) ∧
        ∃ c, (e.source r.candidate = .ok c ∧ c.validate = .ok ()) ∧
          e.settings.compareEvidence r b c = .ok ⟨result.divergences, result.cursor⟩ := by
  obtain ⟨o, ho, hconclude⟩ := outcome_of_run h
  obtain ⟨hr, b, hb, c, hc, -⟩ := outcome_eq_ok.1 ho
  exact ⟨hr, validate_of_conclude hconclude, b, hb, c, hc, compareEvidence_of_run hb.1 hc.1 h⟩

/-- A run with a result ends at the last point of the baseline. -/
theorem cursor_of_run (h : ((e.run r).run st).1 = .ok result) {b : Evidence}
    (hb : e.source r.baseline = .ok b) :
    result.cursor =
      (PlacedPoint.ofTrace e.settings.defaultLane b.trace).getLast?.map PlacedPoint.cursor := by
  obtain ⟨-, -, b', ⟨hb', -⟩, c, -, hcompare⟩ := evidence_of_run h
  cases hb.symm.trans hb'
  obtain ⟨o, ho, -, hcursor⟩ := RunSettings.compareEvidence_of_startsIn e.settings
    (RunRequest.startsIn_of_compareEvidence hcompare) c
  cases hcompare.symm.trans ho
  exact hcursor

/-- A valid request on valid evidence has a result when it starts in the baseline and the
last cursor of the baseline is valid. -/
theorem run_of_startsIn {b c : Evidence} (hid : ∀ st, Text.isBlank (e.runId.run st).1 = false)
    (hr : r.validate = .ok ()) (hb : e.source r.baseline = .ok b ∧ b.validate = .ok ())
    (hc : e.source r.candidate = .ok c ∧ c.validate = .ok ())
    (hstart : r.StartsIn (PlacedPoint.ofTrace e.settings.defaultLane b.trace))
    (hlast : Cursor.validateSome ((PlacedPoint.ofTrace e.settings.defaultLane b.trace).getLast?.map
      PlacedPoint.cursor) = .ok ()) (st : σ) :
    ∃ result, ((e.run r).run st).1 = .ok result := by
  obtain ⟨o, ho, hdivergences, hcursor⟩ :=
    RunSettings.compareEvidence_of_startsIn e.settings hstart c
  rw [← outcome_of_valid hr hb.1 hc.1 hb.2 hc.2] at ho
  rw [run_of_ok ho, conclude_of_valid (hid st) hdivergences, hcursor, hlast]
  exact ⟨_, rfl⟩

/-- What holds of the end of a run with a result. Its cursor is that of the last point of the
baseline, so there is none exactly when the baseline has no points. Every run from the same
baseline ends there too, whatever its mode, its candidate and its start. A run of the same
request that is taken up there has a result, and ends there again. -/
structure EndsForGood (e : Replayer σ) (r : RunRequest) (result : RunResult) : Prop where
  last : ∃ b, e.source r.baseline = .ok b ∧
    result.cursor =
      (PlacedPoint.ofTrace e.settings.defaultLane b.trace).getLast?.map PlacedPoint.cursor ∧
    (result.cursor = none ↔ b.trace = [])
  shared : ∀ r' st' result', r'.baseline = r.baseline → ((e.run r').run st').1 = .ok result' →
    result'.cursor = result.cursor
  resumes : ∀ k st', result.cursor = some k → ∃ again,
    ((e.run { r with cursor := some k }).run st').1 = .ok again ∧ again.cursor = some k

/-- A run can be taken up where another one ended. Take any replayer whose runs have
identities, and any run of it that has a result: it ends for good. And of any points, the
cursor of one of them leads to the first point with its session, turn, lane, sequence and
event. -/
theorem a_run_can_be_taken_up_where_it_ended
    (hid : ∀ st, Text.isBlank (e.runId.run st).1 = false) :
    (∀ r st result, ((e.run r).run st).1 = .ok result → e.EndsForGood r result) ∧
      ∀ (points : List PlacedPoint) (i : Nat) (p : PlacedPoint), points[i]? = some p → ∃ j,
        PlacedPoint.find? points p.cursor = some j ∧
          IsLeast {k | ∃ q, points[k]? = some q ∧ q.SamePlace p} j := by
  refine ⟨?_, fun points i p h => PlacedPoint.isLeast_find?_cursor h⟩
  intro r st result h
  obtain ⟨hr, hvalid, b, hb, c, hc, -⟩ := evidence_of_run h
  have hlast := cursor_of_run h hb.1
  constructor
  case last =>
    refine ⟨b, hb.1, hlast, ?_⟩
    rw [hlast, PlacedPoint.getLast?_ofTrace, Option.map_eq_none_iff, Option.map_eq_none_iff,
      List.getLast?_eq_none_iff]
  case shared =>
    intro r' st' result' hbaseline h'
    rw [cursor_of_run h' (hbaseline ▸ hb.1), hlast]
  case resumes =>
    intro k st' hk
    rw [hk] at hlast
    -- the cursor stood in a valid result, so the request for it is valid
    have hkvalid : k.validate = .ok () := by
      unfold RunResult.validate at hvalid
      simp only [Validity.bind_eq_ok, hk] at hvalid
      exact hvalid.2.2
    obtain ⟨again, hagain⟩ := run_of_startsIn (r := { r with cursor := some k }) hid
      (RunRequest.validate_withCursor hr hkvalid) hb hc (RunRequest.startsIn_last hlast.symm)
      (by rw [← hlast]; exact hkvalid) st'
    exact ⟨again, hagain, (cursor_of_run hagain hb.1).trans hlast.symm⟩

/-- The points of a session that goes through three points and through them again. The fourth
has the place of the first, and the others have places of their own. -/
def sixPoints : List PlacedPoint :=
  PlacedPoint.ofTrace .control (plannedSession "plan-b" (plannedSession "plan-b" []).trace).trace

/-- Replays the session of six points against a session of three, from the place that its first
and fourth points have. -/
def rewoundRequest : RunRequest :=
  ⟨"cand", "base", .reSimulateNodes, some ⟨"sess-1", none, .control, 10, "evt-1"⟩⟩

/-- The cursor of the sixth point, whose sequence is its place. -/
def sixthPoint : Cursor := ⟨"sess-1", none, .control, 5, "evt-3"⟩

theorem a_rewound_run_is_taken_up_at_the_sixth_point :
    (∃ result again,
      ((replaysReplannedSession.run rewoundRequest).run 1000).1 = .ok result ∧
      result.cursor = some sixthPoint ∧
      ((replaysReplannedSession.run { rewoundRequest with cursor := some sixthPoint }).run 2000).1 =
        .ok again ∧
      again.cursor = some sixthPoint) ∧
    ∃ fourth, sixPoints[3]? = some fourth ∧ PlacedPoint.find? sixPoints fourth.cursor = some 0 ∧
      IsLeast {k | ∃ q, sixPoints[k]? = some q ∧ q.SamePlace fourth} 0 := by
  have hid (now : Millis) : Text.isBlank (replaysReplannedSession.runId.run now).1 = false :=
    isBlank_timedRunId now
  obtain ⟨hends, hfirst⟩ := a_run_can_be_taken_up_where_it_ended hid
  constructor
  · have hrun : ((replaysReplannedSession.run rewoundRequest).run 1000).1 = .ok _ := rfl
    obtain ⟨again, hagain, hcursor⟩ := (hends _ _ _ hrun).resumes sixthPoint 2000 rfl
    exact ⟨_, again, hrun, rfl, hagain, hcursor⟩
  · have hfourth : sixPoints[3]? = some _ := rfl
    obtain ⟨j, hj, hleast⟩ := hfirst sixPoints 3 _ hfourth
    have hzero : some j = some 0 := hj.symm
    cases hzero
    exact ⟨_, hfourth, hj, hleast⟩

end Replayer

end ReplayEvidence
