-- The law of placing a trace. Each point is given what it lacks and keeps what it has; once
-- it has a lane and a marker, its marker and its place say its sequence. So a trace that is
-- placed again stays as it is, whichever lane is given to points the second time.
import ReplayEvidence.Proofs.Run.Differences
import ReplayEvidence.Proofs.Run.Results

namespace ReplayEvidence

theorem Marker.isBlank_ofSequence (n : Int64) : Text.isBlank (ofSequence n) = false :=
  Text.isBlank_append_of_left (by decide) _

namespace PlacedPoint

/-- A placed point is the point at a place of a trace, with the lane and the marker that it
lacks filled in, and a sequence. -/
structure Completes (defaultLane : Lane) (place : Nat) (p : TracePoint) (q : PlacedPoint) :
    Prop where
  /-- Only lane and marker may differ. -/
  rest : { q.point with lane := p.lane, marker := p.marker } = p
  lane : q.point.lane = some q.lane
  keepsLane : ∀ lane, p.lane = some lane → q.lane = lane
  fillsLane : p.lane = none → q.lane = defaultLane
  keepsMarker : Text.isBlank p.marker = false → q.point.marker = p.marker
  fillsMarker : Text.isBlank p.marker = true →
    q.point.marker = Marker.ofSequence (sequenceAt place)
  /-- The sequence is that of the marker, or else the place. -/
  sequence : q.sequence = (Marker.sequence? q.point.marker).getD (sequenceAt place)
  inRange : 0 ≤ q.sequence.toInt ∧ q.sequence.toInt ≤ 9223372036854775807

theorem sequence?_sequenceAt (place : Nat) :
    Marker.sequence? (Marker.ofSequence (sequenceAt place)) = some (sequenceAt place) := by
  rw [Marker.sequence?_ofSequence, if_pos (sequenceAt_nonneg place)]

/-- Whether or not a point has a marker, its sequence is that of the marker it is placed with, or
else its place. -/
theorem ofPoint_eq (lane : Lane) (place : Nat) (p : TracePoint) :
    ofPoint lane place p =
      let marker := if Text.isBlank p.marker then Marker.ofSequence (sequenceAt place) else p.marker
      ⟨{ p with lane := some (p.lane.getD lane), marker }, p.lane.getD lane,
        (Marker.sequence? marker).getD (sequenceAt place)⟩ := by
  unfold ofPoint
  split
  · simp only [sequence?_sequenceAt, Option.getD_some]
  · rfl

theorem completes_ofPoint (lane : Lane) (place : Nat) (p : TracePoint) :
    Completes lane place p (ofPoint lane place p) := by
  have hrange : 0 ≤ (ofPoint lane place p).sequence.toInt ∧
      (ofPoint lane place p).sequence.toInt ≤ 9223372036854775807 :=
    ⟨Millis.nonneg_iff.1 (sequence_ofPoint_nonneg lane place p), Int64.toInt_le _⟩
  rw [ofPoint_eq] at hrange ⊢
  exact {
    rest := rfl
    lane := rfl
    keepsLane := fun _ h => by rw [h, Option.getD_some]
    fillsLane := fun h => by rw [h, Option.getD_none]
    keepsMarker := fun h => if_neg (by simp [h])
    fillsMarker := fun h => if_pos h
    sequence := rfl
    inRange := hrange }

theorem Completes.isBlank_marker {lane : Lane} {place : Nat} {p : TracePoint} {q : PlacedPoint}
    (h : Completes lane place p q) : Text.isBlank q.point.marker = false := by
  rcases hblank : Text.isBlank p.marker with _ | _
  · rw [h.keepsMarker hblank, hblank]
  · rw [h.fillsMarker hblank, Marker.isBlank_ofSequence]

/-- A point that lacks nothing is placed as it stands. -/
theorem Completes.ofPoint_point {lane : Lane} {place : Nat} {p : TracePoint} {q : PlacedPoint}
    (h : Completes lane place p q) (lane' : Lane) : ofPoint lane' place q.point = q := by
  rw [ofPoint, if_neg (by simp [h.isBlank_marker]), h.lane, Option.getD_some, ← h.sequence,
    ← h.lane]

/-- Placing a trace only completes it, and does so once. A trace that is placed again, with any
lane for the points that lack one, stays as it is. It has as many points as the trace it is made
of, in their order, and each is the one there with what it lacks filled in: its lane is changed
only where there is none and its marker only where it is blank, and it has a sequence that is not
negative and fits 63 bits. -/
theorem placing_a_placed_trace_changes_nothing (lane lane' : Lane) (points : List TracePoint) :
    ofTrace lane' ((ofTrace lane points).map point) = ofTrace lane points ∧
      (ofTrace lane points).length = points.length ∧
      ∀ i p, points[i]? = some p →
        ∃ q, (ofTrace lane points)[i]? = some q ∧ Completes lane i p q := by
  refine ⟨?again, length_ofTrace lane points, ?each⟩
  case again =>
    apply List.ext_getElem?
    intro i
    rw [getElem?_ofTrace, List.getElem?_map, getElem?_ofTrace]
    rcases points[i]? with _ | p
    · rfl
    · exact congrArg some ((completes_ofPoint lane i p).ofPoint_point lane')
  case each =>
    intro i p hp
    exact ⟨_, by rw [getElem?_ofTrace, hp, Option.map_some], completes_ofPoint lane i p⟩

/-- Points without a marker, with one of another kind, with a number that is padded, and with
numbers that are negative or too large. -/
def variouslyMarked : List TracePoint :=
  [{ TracePoint.pointAt 0 with marker := " " },
    { TracePoint.pointAt 0 with marker := "arbiter-tick-99", lane := some .data },
    { TracePoint.pointAt 0 with marker := "runtime_sequence: +007 " },
    { TracePoint.pointAt 0 with marker := "runtime_sequence:-5" },
    { TracePoint.pointAt 0 with marker := "runtime_sequence:9223372036854775808" }]

theorem variously_marked_points_are_placed_once :
    let placed := ofTrace .control variouslyMarked
    placed.map (·.sequence) = [0, 1, 7, 3, 4] ∧
      placed.map (·.point.marker) = ["runtime_sequence:0", "arbiter-tick-99",
        "runtime_sequence: +007 ", "runtime_sequence:-5", "runtime_sequence:9223372036854775808"] ∧
      ofTrace .telemetry (placed.map point) = placed ∧
      ∃ q, placed[1]? = some q ∧
        Completes .control 1
          { TracePoint.pointAt 0 with marker := "arbiter-tick-99", lane := some .data } q := by
  intro placed
  obtain ⟨hagain, -, heach⟩ :=
    placing_a_placed_trace_changes_nothing .control .telemetry variouslyMarked
  exact ⟨by decide, by decide, hagain, heach 1 _ rfl⟩

end PlacedPoint

end ReplayEvidence
