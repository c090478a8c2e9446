-- Traces ahead of a comparison. Each point is given a lane and a runtime
-- sequence, so that a cursor can find it: the lane it lacks, and the sequence
-- its marker carries or else its place in the trace.
import ReplayEvidence.Trace.Cursor
import ReplayEvidence.Trace.Marker
import ReplayEvidence.Trace.Point

namespace ReplayEvidence

/-- A point with its lane and marker filled in, and its runtime sequence. -/
structure PlacedPoint where
  point : TracePoint
  lane : Lane
  sequence : Int64
deriving DecidableEq, Repr

namespace PlacedPoint

def sequenceAt (place : Nat) : Int64 := Millis.clamp place

/-- The point at a place of a trace. A blank marker becomes the marker of the
place. -/
def ofPoint (defaultLane : Lane) (place : Nat) (p : TracePoint) : PlacedPoint :=
  let lane := p.lane.getD defaultLane
  if Text.isBlank p.marker then
    { point := { p with lane := some lane, marker := Marker.ofSequence (sequenceAt place) }
      lane := lane
      sequence := sequenceAt place }
  else
    { point := { p with lane := some lane }
      lane := lane
      sequence := (Marker.sequence? p.marker).getD (sequenceAt place) }

/-- The points of a trace from a place on. -/
def ofTraceFrom (defaultLane : Lane) : Nat → List TracePoint → List PlacedPoint
  | _, [] => []
  | place, p :: ps => ofPoint defaultLane place p :: ofTraceFrom defaultLane (place + 1) ps

def ofTrace (defaultLane : Lane) (trace : List TracePoint) : List PlacedPoint :=
  ofTraceFrom defaultLane 0 trace

def cursor (p : PlacedPoint) : Cursor where
  session := p.point.decision.session
  turn := p.point.decision.turn
  lane := p.lane
  sequence := p.sequence
  event := p.point.decision.event

/-- The place of the first point that a cursor names. -/
def find? (trace : List PlacedPoint) (c : Cursor) : Option Nat :=
  trace.findIdx? fun p => p.cursor = c

/-! ## Laws -/

theorem getElem?_ofTraceFrom (lane : Lane) (place : Nat) (points : List TracePoint) (i : Nat) :
    (ofTraceFrom lane place points)[i]? = points[i]?.map (ofPoint lane (place + i)) := by
  induction points generalizing place i with
  | nil => rfl
  | cons p ps ih =>
    cases i with
    | zero => rfl
    | succ i => rw [ofTraceFrom, List.getElem?_cons_succ, List.getElem?_cons_succ, ih,
        Nat.add_right_comm, Nat.add_assoc]

theorem getElem?_ofTrace (lane : Lane) (points : List TracePoint) (i : Nat) :
    (ofTrace lane points)[i]? = points[i]?.map (ofPoint lane i) := by
  rw [ofTrace, getElem?_ofTraceFrom, Nat.zero_add]

theorem length_ofTraceFrom (lane : Lane) (place : Nat) (points : List TracePoint) :
    (ofTraceFrom lane place points).length = points.length := by
  induction points generalizing place with
  | nil => rfl
  | cons p ps ih => rw [ofTraceFrom, List.length_cons, List.length_cons, ih]

theorem length_ofTrace (lane : Lane) (points : List TracePoint) :
    (ofTrace lane points).length = points.length := length_ofTraceFrom lane 0 points

/-- A decision is never changed by placing its point. -/
theorem decision_ofPoint (lane : Lane) (place : Nat) (p : TracePoint) :
    (ofPoint lane place p).point.decision = p.decision := by
  unfold ofPoint
  split <;> rfl

end PlacedPoint

end ReplayEvidence
