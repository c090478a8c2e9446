-- Retention policies: how long the artifacts of a tenant are kept, by payload
-- class. Personal and health data are never kept beyond their ceilings.
import ReplayEvidence.Validation
import ReplayEvidence.Wire.Collections
import ReplayEvidence.Wire.Record

namespace ReplayEvidence

open Wire (Fields)

structure RetentionPolicy where
  tenant : String
  defaultWindow : Millis
  piiCeiling : Millis
  phiCeiling : Millis
  windows : Keyed PayloadClass Millis
deriving DecidableEq

namespace RetentionPolicy

/-- The ceiling of a payload class that has one. -/
def ceiling? (p : RetentionPolicy) : PayloadClass → Option Millis
  | .pii => some p.piiCeiling
  | .phi => some p.phiCeiling
  | _ => none

/-- The policy of a tenant for which no other is found. -/
def conservative (tenant : String) : RetentionPolicy where
  tenant := tenant
  defaultWindow := 7 * Millis.day
  piiCeiling := 24 * Millis.hour
  phiCeiling := 24 * Millis.hour
  windows := .ofList [(.audioRaw, 24 * Millis.hour), (.pii, 24 * Millis.hour),
    (.phi, 24 * Millis.hour)]

/-- A window must be positive and not above the ceiling of its class. -/
def validateWindow (p : RetentionPolicy) (entry : PayloadClass × Millis) : Validity := do
  let schema := "retention_policy"
  Validity.requirePositive schema "class_retention_ms" entry.2
  match p.ceiling? entry.1 with
  | none => .ok ()
  | some ceiling =>
    if ceiling < entry.2 then
      .error (.invalid schema "class_retention_ms" (.aboveCeiling entry.1 entry.2 ceiling))
    else .ok ()

/-- The tenant must be there and every window be valid. -/
def validate (p : RetentionPolicy) : Validity := do
  let schema := "retention_policy"
  Validity.require schema "tenant_id" p.tenant
  Validity.requirePositive schema "default_retention_ms" p.defaultWindow
  Validity.requirePositive schema "pii_max_retention_ms" p.piiCeiling
  Validity.requirePositive schema "phi_max_retention_ms" p.phiCeiling
  Validity.all p.validateWindow p.windows.entries

/-- The window of a payload class: its own or else the default, and not above
its ceiling. -/
def window (p : RetentionPolicy) (payload : PayloadClass) : Millis :=
  let own := (p.windows.get? payload).getD p.defaultWindow
  match p.ceiling? payload with
  | some ceiling => min own ceiling
  | none => own

def fields : Fields RetentionPolicy RetentionPolicy :=
  (Fields.make RetentionPolicy.mk)
    |>.required "tenant_id" tenant
    |>.required "default_retention_ms" defaultWindow
    |>.required "pii_max_retention_ms" piiCeiling
    |>.required "phi_max_retention_ms" phiCeiling
    |>.defaulted "class_retention_ms" .empty windows

instance : Wire RetentionPolicy := fields.wire

end RetentionPolicy

end ReplayEvidence
