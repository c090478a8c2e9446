-- A decision on a piece of work, as recorded: what was decided, when, by whom
-- and why. Two decisions are compared part by part.
import ReplayEvidence.Divergence

namespace ReplayEvidence

open Wire (Fields)

structure Decision where
  kind : OutcomeKind
  phase : OutcomePhase
  scope : OutcomeScope
  session : String
  turn : Option String
  event : String
  runtimeAt : Millis
  wallClockAt : Millis
  emitter : String
  reason : String
  epoch : Option Int64
deriving DecidableEq, Repr

namespace Decision

inductive Part where
  | kind | phase | scope | session | turn | event | runtimeAt | wallClockAt | emitter | reason
  | epoch
deriving DecidableEq, Repr

def Part.key : Part → String
  | .kind => "outcome_kind"
  | .phase => "phase"
  | .scope => "scope"
  | .session => "session_id"
  | .turn => "turn_id"
  | .event => "event_id"
  | .runtimeAt => "runtime_timestamp_ms"
  | .wallClockAt => "wall_clock_timestamp_ms"
  | .emitter => "emitted_by"
  | .reason => "reason"
  | .epoch => "authority_epoch"

def Part.all : List Part :=
  [.kind, .phase, .scope, .session, .turn, .event, .runtimeAt, .wallClockAt, .emitter, .reason,
    .epoch]

/-- Whether a part says when something was recorded. -/
def Part.isTime : Part → Bool
  | .runtimeAt | .wallClockAt => true
  | _ => false

/-- Whether two decisions agree in a part. -/
def agree (a b : Decision) : Part → Bool
  | .kind => a.kind == b.kind
  | .phase => a.phase == b.phase
  | .scope => a.scope == b.scope
  | .session => a.session == b.session
  | .turn => a.turn == b.turn
  | .event => a.event == b.event
  | .runtimeAt => a.runtimeAt == b.runtimeAt
  | .wallClockAt => a.wallClockAt == b.wallClockAt
  | .emitter => a.emitter == b.emitter
  | .reason => a.reason == b.reason
  | .epoch => a.epoch == b.epoch

/-- The parts in which two decisions differ, in order. -/
def differing (a b : Decision) : List Part := Part.all.filter fun p => !a.agree b p

/-- The differing parts that do not say when. -/
def differingUntimed (a b : Decision) : List Part := (a.differing b).filter fun p => !p.isTime

def divergenceScope (d : Decision) : String := Divergence.scopeOf d.session d.turn

/-- Identities must be there and times not be negative; a decision about a turn
must name it. -/
def validate (d : Decision) : Validity := do
  let schema := "decision_outcome"
  Validity.require schema "session_id" d.session
  Validity.require schema "event_id" d.event
  Validity.require schema "emitted_by" d.emitter
  Validity.require schema "reason" d.reason
  Validity.requireNonNegative schema "runtime_timestamp_ms" d.runtimeAt
  Validity.requireNonNegative schema "wall_clock_timestamp_ms" d.wallClockAt
  if d.scope = .turn then Validity.require schema "turn_id" (d.turn.getD "")
  match d.epoch with
  | some epoch => Validity.requireNonNegative schema "authority_epoch" epoch
  | none => .ok ()

def fields : Fields Decision Decision :=
  (Fields.make Decision.mk)
    |>.required "outcome_kind" kind
    |>.required "phase" phase
    |>.required "scope" scope
    |>.required "session_id" session
    |>.optional "turn_id" turn
    |>.required "event_id" event
    |>.required "runtime_timestamp_ms" runtimeAt
    |>.required "wall_clock_timestamp_ms" wallClockAt
    |>.required "emitted_by" emitter
    |>.required "reason" reason
    |>.optional "authority_epoch" epoch

instance : Wire Decision := fields.wire

end Decision

end ReplayEvidence
