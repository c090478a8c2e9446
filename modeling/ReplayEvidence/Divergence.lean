-- A divergence: one way in which a candidate run parts from its baseline, and
-- the turn or session it is about. Only a divergence in timing carries a
-- length of time.
import ReplayEvidence.Validation
import ReplayEvidence.Wire.Record

namespace ReplayEvidence

open Wire (Fields)

/-- One mismatch between a baseline and a candidate. -/
structure Divergence where
  kind : DivergenceClass
  scope : String
  message : String
  drift : Option Millis
deriving DecidableEq, Repr

namespace Divergence

/-- The turn when one is named, or else the session. -/
def scopeOf (session : String) (turn : Option String) : String :=
  match turn.bind Text.nonBlank? with
  | some turn => "turn:" ++ turn
  | none => "session:" ++ session

/-- A divergence without a length of time. -/
def plain (kind : DivergenceClass) (scope message : String) : Divergence :=
  ⟨kind, scope, message, none⟩

/-- A divergence in timing, by so many milliseconds in either direction. -/
def timing (scope message : String) (drift : Millis) : Divergence :=
  ⟨.timing, scope, message, some (Millis.magnitude drift)⟩

/-- Scope and message must be there, and a drift exactly when it is a
divergence in timing; it must not be negative. -/
def validate (d : Divergence) : Validity := do
  let schema := "replay_divergence"
  Validity.require schema "scope" d.scope
  Validity.require schema "message" d.message
  match d.kind, d.drift with
  | .timing, some drift =>
    if 0 ≤ drift then .ok () else .error (.invalid schema "diff_ms" (.negativeDrift drift))
  | .timing, none => .error (.missing schema "diff_ms")
  | kind, some _ => .error (.invalid schema "diff_ms" (.strayDrift kind))
  | _, none => .ok ()

def fields : Fields Divergence Divergence :=
  (Fields.make Divergence.mk)
    |>.required "class" kind
    |>.required "scope" scope
    |>.required "message" message
    |>.optional "diff_ms" drift

instance : Wire Divergence := fields.wire

end Divergence

end ReplayEvidence
