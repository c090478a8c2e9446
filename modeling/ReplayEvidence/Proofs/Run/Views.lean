-- What a comparison of two sides looks at. Traces are seen through views of their points: without
-- what a decision was taken under, without the times of the decision, or without the lane. What
-- is compared, and the cursors that a run is taken up at and ends at, are read of the points as
-- they are placed, so a view that shows what is read shows all that makes a difference.
import ReplayEvidence.Proofs.Run.Resumed

namespace ReplayEvidence

/-! ## Views of points -/

namespace TracePoint

/-- The point without the plan, the snapshots, the epoch, the provider and the time that its
decision was taken under. -/
def bare (p : TracePoint) : TracePoint :=
  { p with
    planHash := "", provenance := ⟨"", "", "", "", "", ""⟩, epoch := 0, provider := .unset
    runtimeAt := 0 }

/-- The point as if its decision was taken at no time. -/
def undated (p : TracePoint) : TracePoint := { p with decision := p.decision.untimed }

/-- The point as if it was recorded on no lane. -/
def laneless (p : TracePoint) : TracePoint := { p with lane := none }

/-- What a comparison of traces sees of a point. -/
def seen (p : TracePoint) : TracePoint := p.undated.laneless

theorem compareAt_seen (tolerance : Millis) (place : Nat) (b c : TracePoint) :
    compareAt tolerance place b.seen c.seen = compareAt tolerance place b c := by
  have hdecision : b.decision.untimed.differingUntimed c.decision.untimed =
      b.decision.differingUntimed c.decision := by
    rw [Decision.differingUntimed_eq, Decision.differingUntimed_eq]
    rfl
  unfold compareAt findings
  simp only [seen, undated, laneless, hdecision]
  rfl

/-- Traces are compared by what is seen of their points. -/
theorem compareAll_map_seen (tolerance : Tolerance) (bs cs : List TracePoint) :
    compareAll tolerance (bs.map seen) (cs.map seen) = compareAll tolerance bs cs := by
  unfold compareAll
  rw [alongside_map, ReplayMode.leadingScope_map, List.length_map, List.length_map]
  simp only [compareAt_seen]
  rfl

end TracePoint

/-- The cursor of the same place on another lane. -/
def Cursor.onLane (lane : Lane) (c : Cursor) : Cursor := { c with lane := lane }

namespace PlacedPoint

/-- What is read of the points of a trace, when they are placed with one lane for those that
have none, a view shows with another. -/
def Shows {α : Type} (view : TracePoint → TracePoint) (lane lane' : Lane)
    (read : PlacedPoint → α) : Prop :=
  ∀ place p, read (ofPoint lane place p) = read (ofPoint lane' place (view p))

section Shows

variable {α : Type} {view : TracePoint → TracePoint} {lane lane' lane'' : Lane}
  {read : PlacedPoint → α}

/-- A view that keeps the markers keeps where they place the points, so it is enough to read
the same for every marker and every sequence. -/
theorem Shows.of_marker (hmarker : ∀ p, (view p).marker = p.marker)
    (h : ∀ (p : TracePoint) (marker : String) (sequence : Int64),
      read ⟨{ p with lane := some (p.lane.getD lane), marker := marker }, p.lane.getD lane,
        sequence⟩ =
      read ⟨{ view p with lane := some ((view p).lane.getD lane'), marker := marker },
        (view p).lane.getD lane', sequence⟩) :
    Shows view lane lane' read := by
  intro place p
  unfold ofPoint
  rw [hmarker]
  -- a blank marker gives way to that of the place, and any other stays and may give the sequence
  split
  · exact h p _ _
  · have hview := h p p.marker
    rw [← hmarker p] at hview ⊢
    exact hview _

theorem Shows.map_ofTrace (h : Shows view lane lane' read) (trace : List TracePoint) :
    (ofTrace lane trace).map read = (ofTrace lane' (trace.map view)).map read := by
  apply List.ext_getElem?
  intro i
  simp only [List.getElem?_map, getElem?_ofTrace, Option.map_map, Function.comp_def, h i]

theorem Shows.map_ofTrace_congr (h : Shows view lane lane'' read)
    (h' : Shows view lane' lane'' read) {trace trace' : List TracePoint}
    (hview : trace.map view = trace'.map view) :
    (ofTrace lane trace).map read = (ofTrace lane' trace').map read := by
  rw [h.map_ofTrace, h'.map_ofTrace, hview]

end Shows

variable (lane lane' : Lane)

theorem shows_cursor_of_bare : Shows TracePoint.bare lane lane cursor :=
  .of_marker (fun _ => rfl) fun _ _ _ => rfl

theorem shows_decision_of_bare :
    Shows TracePoint.bare lane lane fun p => p.point.decision :=
  .of_marker (fun _ => rfl) fun _ _ _ => rfl

theorem shows_cursor_of_undated : Shows TracePoint.undated lane lane cursor :=
  .of_marker (fun _ => rfl) fun _ _ _ => rfl

theorem shows_seen_of_undated : Shows TracePoint.undated lane lane fun p => p.point.seen :=
  .of_marker (fun _ => rfl) fun _ _ _ => rfl

/-- Without their lanes points show their cursors on any one lane. -/
theorem shows_cursor_of_laneless (on : Lane) :
    Shows TracePoint.laneless lane lane' fun p => p.cursor.onLane on :=
  .of_marker (fun _ => rfl) fun _ _ _ => rfl

theorem shows_decision_of_laneless :
    Shows TracePoint.laneless lane lane' fun p => p.point.decision :=
  .of_marker (fun _ => rfl) fun _ _ _ => rfl

theorem shows_seen_of_laneless :
    Shows TracePoint.laneless lane lane' fun p => p.point.seen :=
  .of_marker (fun _ => rfl) fun _ _ _ => rfl

end PlacedPoint

/-! ## What a run looks at -/

namespace ReplayMode

theorem compare_of_ne {mode : ReplayMode} (h : mode ≠ .replayDecisions) (tolerance : Tolerance)
    (bs cs : List PlacedPoint) :
    mode.compare tolerance bs cs =
      TracePoint.compareAll tolerance (bs.map (·.point)) (cs.map (·.point)) := by
  cases mode with
  | replayDecisions => exact absurd rfl h
  | _ => rfl

/-- Recorded decisions are compared alike in two pairs of windows that have the same ones, under
any tolerance. -/
theorem compare_replayDecisions_congr {tolerance tolerance' : Tolerance}
    {bs cs bs' cs' : List PlacedPoint}
    (hb : bs.map (fun p => p.point.decision) = bs'.map fun p => p.point.decision)
    (hc : cs.map (fun p => p.point.decision) = cs'.map fun p => p.point.decision) :
    compare .replayDecisions tolerance bs cs = compare .replayDecisions tolerance' bs' cs' := by
  show Decision.compareAll _ _ = Decision.compareAll _ _
  rw [hb, hc]

/-- The other modes compare two pairs of windows alike when they see the same of their points. -/
theorem compare_congr_of_ne {mode : ReplayMode} (h : mode ≠ .replayDecisions)
    {tolerance : Tolerance} {bs cs bs' cs' : List PlacedPoint}
    (hb : bs.map (fun p => p.point.seen) = bs'.map fun p => p.point.seen)
    (hc : cs.map (fun p => p.point.seen) = cs'.map fun p => p.point.seen) :
    mode.compare tolerance bs cs = mode.compare tolerance bs' cs' := by
  have hseen (ps : List PlacedPoint) :
      (ps.map (·.point)).map TracePoint.seen = ps.map fun p => p.point.seen := List.map_map
  rw [compare_of_ne h, compare_of_ne h, ← TracePoint.compareAll_map_seen,
    ← TracePoint.compareAll_map_seen tolerance (bs'.map (·.point)), hseen, hseen, hseen, hseen,
    hb, hc]

end ReplayMode

/-- A cursor is looked up in the cursors of the points. -/
theorem PlacedPoint.find?_congr {points others : List PlacedPoint}
    (h : points.map cursor = others.map cursor) (c : Cursor) :
    find? points c = find? others c := by
  have hcursors (ps : List PlacedPoint) :
      find? ps c = (ps.map cursor).findIdx? fun k => k = c := by
    rw [List.findIdx?_map]
    rfl
  rw [hcursors, hcursors, h]

/-- Traces with the same cursors are taken up at the same places, with the same divergences. -/
theorem Resumption.find_congr {bs cs bs' cs' : List PlacedPoint}
    (hb : bs.map PlacedPoint.cursor = bs'.map PlacedPoint.cursor)
    (hc : cs.map PlacedPoint.cursor = cs'.map PlacedPoint.cursor) (given : Option Cursor) :
    find bs cs given = find bs' cs' given := by
  have hlength : cs.length = cs'.length := by simpa using congrArg List.length hc
  unfold find
  simp only [PlacedPoint.find?_congr hb, PlacedPoint.find?_congr hc, hlength]

namespace RunSettings

variable {s s' : RunSettings} {r : RunRequest} {b c b' c' : Evidence}

/-- Two pairs of sides are compared alike when their points have the same cursors, their
lineages are the same, and the mode finds the same in all of their windows. -/
theorem compareEvidence_congr
    (hb : (PlacedPoint.ofTrace s.defaultLane b.trace).map PlacedPoint.cursor =
      (PlacedPoint.ofTrace s'.defaultLane b'.trace).map PlacedPoint.cursor)
    (hc : (PlacedPoint.ofTrace s.defaultLane c.trace).map PlacedPoint.cursor =
      (PlacedPoint.ofTrace s'.defaultLane c'.trace).map PlacedPoint.cursor)
    (hlineage : b.lineage = b'.lineage ∧ c.lineage = c'.lineage)
    (hcompare : ∀ i j,
      r.mode.compare s.compare ((PlacedPoint.ofTrace s.defaultLane b.trace).drop i)
          ((PlacedPoint.ofTrace s.defaultLane c.trace).drop j) =
        r.mode.compare s'.compare ((PlacedPoint.ofTrace s'.defaultLane b'.trace).drop i)
          ((PlacedPoint.ofTrace s'.defaultLane c'.trace).drop j)) :
    s.compareEvidence r b c = s'.compareEvidence r b' c' := by
  have hlast (i : Nat) :
      ((PlacedPoint.ofTrace s.defaultLane b.trace).drop i).getLast?.map PlacedPoint.cursor =
        ((PlacedPoint.ofTrace s'.defaultLane b'.trace).drop i).getLast?.map
          PlacedPoint.cursor := by
    rw [← List.getLast?_map, ← List.getLast?_map, List.map_drop, List.map_drop, hb]
  unfold compareEvidence
  simp only [Resumption.find_congr hb hc, hcompare, hlast, hlineage]

end RunSettings

/-! ## Evidence under a view -/

/-- The evidence with each point as a view shows it. -/
def Evidence.through (view : TracePoint → TracePoint) (e : Evidence) : Evidence :=
  { e with trace := e.trace.map view }

theorem Evidence.through_eq_iff {view : TracePoint → TracePoint} {e e' : Evidence} :
    e.through view = e'.through view ↔
      e.trace.map view = e'.trace.map view ∧ e.lineage = e'.lineage := by
  unfold through
  rw [Evidence.mk.injEq]

/-- What was found, with the cursor put on a lane. -/
def RunOutcome.onLane (lane : Lane) (o : RunOutcome) : RunOutcome :=
  { o with cursor := o.cursor.map (Cursor.onLane lane) }

namespace RunSettings

variable {s : RunSettings} {r : RunRequest} {b c b' c' : Evidence}

/-- A replay of recorded decisions does not see what they were taken under, nor the tolerance. -/
theorem compareEvidence_of_bare (hmode : r.mode = .replayDecisions)
    (hb : b.through TracePoint.bare = b'.through TracePoint.bare)
    (hc : c.through TracePoint.bare = c'.through TracePoint.bare) (tolerance : Tolerance) :
    s.compareEvidence r b c = { s with compare := tolerance }.compareEvidence r b' c' := by
  rw [Evidence.through_eq_iff] at hb hc
  have hcursors := PlacedPoint.shows_cursor_of_bare s.defaultLane
  have hdecisions := PlacedPoint.shows_decision_of_bare s.defaultLane
  refine compareEvidence_congr (hcursors.map_ofTrace_congr hcursors hb.1)
    (hcursors.map_ofTrace_congr hcursors hc.1) ⟨hb.2, hc.2⟩ ?_
  intro i j
  rw [hmode]
  apply ReplayMode.compare_replayDecisions_congr <;> rw [List.map_drop, List.map_drop]
  · rw [hdecisions.map_ofTrace_congr hdecisions hb.1]
  · rw [hdecisions.map_ofTrace_congr hdecisions hc.1]

theorem compareEvidence_of_undated (hmode : r.mode ≠ .replayDecisions)
    (hb : b.through TracePoint.undated = b'.through TracePoint.undated)
    (hc : c.through TracePoint.undated = c'.through TracePoint.undated) :
    s.compareEvidence r b c = s.compareEvidence r b' c' := by
  rw [Evidence.through_eq_iff] at hb hc
  have hcursors := PlacedPoint.shows_cursor_of_undated s.defaultLane
  have hseen := PlacedPoint.shows_seen_of_undated s.defaultLane
  refine compareEvidence_congr (hcursors.map_ofTrace_congr hcursors hb.1)
    (hcursors.map_ofTrace_congr hcursors hc.1) ⟨hb.2, hc.2⟩ ?_
  intro i j
  apply ReplayMode.compare_congr_of_ne hmode <;> rw [List.map_drop, List.map_drop]
  · rw [hseen.map_ofTrace_congr hseen hb.1]
  · rw [hseen.map_ofTrace_congr hseen hc.1]

end RunSettings

theorem ReplayMode.compare_of_laneless (mode : ReplayMode) (tolerance : Tolerance)
    {bs cs bs' cs' : List TracePoint}
    (hb : bs.map TracePoint.laneless = bs'.map TracePoint.laneless)
    (hc : cs.map TracePoint.laneless = cs'.map TracePoint.laneless) (lane lane' : Lane) :
    mode.compare tolerance (PlacedPoint.ofTrace lane bs) (PlacedPoint.ofTrace lane cs) =
      mode.compare tolerance (PlacedPoint.ofTrace lane' bs') (PlacedPoint.ofTrace lane' cs') := by
  by_cases hmode : mode = .replayDecisions
  · have hdecisions := PlacedPoint.shows_decision_of_laneless lane lane
    have hdecisions' := PlacedPoint.shows_decision_of_laneless lane' lane
    rw [hmode]
    exact compare_replayDecisions_congr (hdecisions.map_ofTrace_congr hdecisions' hb)
      (hdecisions.map_ofTrace_congr hdecisions' hc)
  · have hseen := PlacedPoint.shows_seen_of_laneless lane lane
    have hseen' := PlacedPoint.shows_seen_of_laneless lane' lane
    exact compare_congr_of_ne hmode (hseen.map_ofTrace_congr hseen' hb)
      (hseen.map_ofTrace_congr hseen' hc)

/-- All that the lanes of a trace make a difference to at its end is the lane of the cursor. -/
theorem PlacedPoint.lastCursor_of_laneless {trace trace' : List TracePoint}
    (h : trace.map TracePoint.laneless = trace'.map TracePoint.laneless) (lane lane' on : Lane) :
    ((ofTrace lane trace).getLast?.map cursor).map (Cursor.onLane on) =
      ((ofTrace lane' trace').getLast?.map cursor).map (Cursor.onLane on) := by
  have hcursors := (shows_cursor_of_laneless lane lane on).map_ofTrace_congr
    (shows_cursor_of_laneless lane' lane on) h
  have hlast := congrArg List.getLast? hcursors
  rw [List.getLast?_map, List.getLast?_map] at hlast
  rw [Option.map_map, Option.map_map]
  exact hlast

/-- Without a cursor all that a lane makes a difference to is the lane of the ending cursor. -/
theorem RunSettings.compareEvidence_of_laneless {s : RunSettings} {r : RunRequest}
    {b c b' c' : Evidence} (hcursor : r.cursor = none)
    (hb : b.through TracePoint.laneless = b'.through TracePoint.laneless)
    (hc : c.through TracePoint.laneless = c'.through TracePoint.laneless) (lane on : Lane) :
    (s.compareEvidence r b c).map (RunOutcome.onLane on) =
      ({ s with defaultLane := lane }.compareEvidence r b' c').map (RunOutcome.onLane on) := by
  rw [Evidence.through_eq_iff] at hb hc
  have hcompare := r.mode.compare_of_laneless s.compare hb.1 hc.1 s.defaultLane lane
  have hlast := PlacedPoint.lastCursor_of_laneless hb.1 s.defaultLane lane on
  unfold compareEvidence
  simp only [hcursor, Resumption.find, bind, Except.bind, pure, Except.pure, Except.map,
    List.drop_zero, RunOutcome.onLane, Option.or_none, hcompare, hlast, hb.2, hc.2]

end ReplayEvidence
