-- Lineage: what became of an event that did not come through on its
-- own, because it was dropped or merged into a group.
import ReplayEvidence.Divergence

namespace ReplayEvidence

open Wire (Fields)

structure LineageRecord where
  event : String
  session : String
  turn : Option String
  dropped : Bool
  mergeGroup : Option String
deriving DecidableEq, Repr

namespace LineageRecord

def divergenceScope (r : LineageRecord) : String := Divergence.scopeOf r.session r.turn

/-- Event and session must be there, and so must a group that is given. -/
def validate (r : LineageRecord) : Validity := do
  let schema := "lineage_record"
  Validity.require schema "event_id" r.event
  Validity.require schema "session_id" r.session
  Validity.requireSome schema "merge_group_id" r.mergeGroup

def fields : Fields LineageRecord LineageRecord :=
  (Fields.make LineageRecord.mk)
    |>.required "event_id" event
    |>.required "session_id" session
    |>.optional "turn_id" turn
    |>.defaulted "dropped" false dropped
    |>.optional "merge_group_id" mergeGroup

instance : Wire LineageRecord := fields.wire

end LineageRecord

end ReplayEvidence
