-- A cursor names one point of an ordered trace, so that a replay can be taken
-- up there again.
import ReplayEvidence.Validation
import ReplayEvidence.Wire.Record

namespace ReplayEvidence

open Wire (Fields)

/-- The place of a point in an ordered trace. -/
structure Cursor where
  session : String
  turn : Option String
  lane : Lane
  sequence : Int64
  event : String
deriving DecidableEq, Repr

namespace Cursor

/-- Session and event must be there, and so must a turn that is given; the
sequence must not be negative. -/
def validate (c : Cursor) : Validity := do
  let schema := "replay_cursor"
  Validity.require schema "session_id" c.session
  Validity.require schema "event_id" c.event
  Validity.requireSome schema "turn_id" c.turn
  Validity.requireNonNegative schema "runtime_sequence" c.sequence

/-- The cursor as a message shows it. -/
def label (c : Cursor) : String :=
  c.session ++ "/" ++ c.turn.getD "-" ++ "/" ++ Named.name c.lane ++ "@" ++
    Decimal.ofInt c.sequence.toInt ++ "#" ++ c.event

def fields : Fields Cursor Cursor :=
  (Fields.make Cursor.mk)
    |>.required "session_id" session
    |>.optional "turn_id" turn
    |>.required "lane" lane
    |>.required "runtime_sequence" sequence
    |>.required "event_id" event

instance : Wire Cursor := fields.wire

end Cursor

end ReplayEvidence
