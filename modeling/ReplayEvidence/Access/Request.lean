-- Requests to read replay evidence, decisions on them, and the audit event
-- that keeps one decision for good.
import ReplayEvidence.Validation
import ReplayEvidence.Wire.Record

namespace ReplayEvidence

open Wire (Fields)

/-! ## Requests -/

/-- Who wants to read which evidence, and why. -/
structure AccessRequest where
  tenant : String
  principal : String
  role : String
  purpose : String
  scope : String
  fidelity : Fidelity
  payloads : List PayloadClass
deriving DecidableEq, Repr

namespace AccessRequest

/-- Principal, role, purpose and scope must be there. The tenant is left to
the policy, which has its own answer when there is none. -/
def validate (r : AccessRequest) : Validity := do
  let schema := "replay_access_request"
  Validity.require schema "principal_id" r.principal
  Validity.require schema "role" r.role
  Validity.require schema "purpose" r.purpose
  Validity.require schema "requested_scope" r.scope

/-- The payload classes asked for: the metadata when none is named. -/
def effectivePayloads (r : AccessRequest) : List PayloadClass :=
  if r.payloads.isEmpty then [.metadata] else r.payloads

def fields : Fields AccessRequest AccessRequest :=
  (Fields.make AccessRequest.mk)
    |>.defaulted "tenant_id" "" tenant
    |>.defaulted "principal_id" "" principal
    |>.defaulted "role" "" role
    |>.defaulted "purpose" "" purpose
    |>.defaulted "requested_scope" "" scope
    |>.required "requested_fidelity" fidelity
    |>.listed "requested_classes" payloads

instance : Wire AccessRequest := fields.wire

end AccessRequest

/-! ## Decisions -/

/-- What is done with one payload class of a request that is allowed. -/
structure RedactionMarker where
  payload : PayloadClass
  action : RedactionAction
  reason : String
deriving DecidableEq, Repr

namespace RedactionMarker

def validate (m : RedactionMarker) : Validity :=
  Validity.require "replay_redaction_marker" "reason" m.reason

def fields : Fields RedactionMarker RedactionMarker :=
  (Fields.make RedactionMarker.mk)
    |>.required "payload_class" payload
    |>.required "action" action
    |>.required "reason" reason

instance : Wire RedactionMarker := fields.wire

end RedactionMarker

structure AccessDecision where
  allowed : Bool
  denyReason : String
  markers : List RedactionMarker
deriving DecidableEq, Repr

namespace AccessDecision

def deny (reason : String) : AccessDecision := ⟨false, reason, []⟩

def allow (markers : List RedactionMarker) : AccessDecision := ⟨true, "", markers⟩

/-- An allowance has no reason and valid markers; a denial has a reason and no
markers. -/
def validate (d : AccessDecision) : Validity :=
  let schema := "replay_access_decision"
  if d.allowed then
    if d.denyReason = "" then Validity.all RedactionMarker.validate d.markers
    else .error (.invalid schema "deny_reason" .setWhenAllowed)
  else do
    Validity.require schema "deny_reason" d.denyReason
    if d.markers.isEmpty then .ok ()
    else .error (.invalid schema "redaction_markers" .setWhenDenied)

def fields : Fields AccessDecision AccessDecision :=
  (Fields.make AccessDecision.mk)
    |>.required "allowed" allowed
    |>.texted "deny_reason" denyReason
    |>.listed "redaction_markers" markers

instance : Wire AccessDecision := fields.wire

end AccessDecision

/-! ## Audit events -/

/-- One decision as the audit keeps it. -/
structure AuditEvent where
  timestamp : Millis
  request : AccessRequest
  decision : AccessDecision
deriving DecidableEq, Repr

namespace AuditEvent

/-- The tenant that the event is kept for. -/
def tenant (e : AuditEvent) : String := e.request.tenant

/-- The time must not be negative and the decision be valid. -/
def validate (e : AuditEvent) : Validity := do
  Validity.requireNonNegative "replay_audit_event" "timestamp_ms" e.timestamp
  e.decision.validate

/-- The event of a decision, when it is valid. -/
def ofDecision (timestamp : Millis) (request : AccessRequest) (decision : AccessDecision) :
    Except ValidationError AuditEvent :=
  let event : AuditEvent := ⟨timestamp, request, decision⟩
  event.validate.map fun _ => event

def fields : Fields AuditEvent AuditEvent :=
  (Fields.make AuditEvent.mk)
    |>.required "timestamp_ms" timestamp
    |>.required "request" request
    |>.required "decision" decision

instance : Wire AuditEvent := fields.wire

end AuditEvent

end ReplayEvidence
