-- Access policies and the decision they give. Nothing is allowed unless a
-- policy says so; the checks run in a fixed order, and the first that fails
-- gives the reason of the denial.
import ReplayEvidence.Access.Request
import ReplayEvidence.Wire.Collections

namespace ReplayEvidence

open Wire (Fields)

/-! ## Policies -/

/-- What may be read of one tenant's evidence, by whom and for what. -/
structure AccessPolicy where
  tenant : String
  roles : SortedSet String
  purposes : SortedSet String
  fidelities : SortedSet Fidelity
  recordingLevels : SortedSet Fidelity
  version : String
deriving DecidableEq

namespace AccessPolicy

/-- The version that a policy has unless it says otherwise. -/
def defaultVersion : String := "replay_access_policy/v1"

/-- A policy that allows nothing, for evidence recorded at every level. -/
def denying (tenant : String) : AccessPolicy where
  tenant := tenant
  roles := .empty
  purposes := .empty
  fidelities := .empty
  recordingLevels := .ofList [.l0, .l1, .l2]
  version := defaultVersion

def withRole (p : AccessPolicy) (role : String) : AccessPolicy :=
  { p with roles := p.roles.insert role }

def withPurpose (p : AccessPolicy) (purpose : String) : AccessPolicy :=
  { p with purposes := p.purposes.insert purpose }

def withFidelity (p : AccessPolicy) (fidelity : Fidelity) : AccessPolicy :=
  { p with fidelities := p.fidelities.insert fidelity }

/-- Says at which levels the evidence is recorded. -/
def withRecordingLevels (p : AccessPolicy) (levels : List Fidelity) : AccessPolicy :=
  { p with recordingLevels := .ofList levels }

/-- Tenant and version must be there. -/
def validate (p : AccessPolicy) : Validity := do
  let schema := "replay_access_policy"
  Validity.require schema "tenant_id" p.tenant
  Validity.require schema "policy_version" p.version

def fields : Fields AccessPolicy AccessPolicy :=
  let plain := denying ""
  (Fields.make AccessPolicy.mk)
    |>.defaulted "tenant_id" plain.tenant tenant
    |>.defaulted "allowed_roles" plain.roles roles
    |>.defaulted "allowed_purposes" plain.purposes purposes
    |>.defaulted "allowed_fidelities" plain.fidelities fidelities
    |>.defaulted "supported_recording_levels" plain.recordingLevels recordingLevels
    |>.defaulted "policy_version" plain.version version

instance : Wire AccessPolicy := fields.wire

end AccessPolicy

/-! ## Redaction table -/

/-- What is done with a payload class in evidence of a fidelity; nothing is
said of a class that is not recorded at it. -/
def Fidelity.redaction : Fidelity → PayloadClass → Option RedactionAction
  | _, .metadata => some .allow
  | .l0, .textRaw => some .drop
  | .l0, .audioRaw => none
  | .l0, .derivedSummary => some .hash
  | .l0, .pii => some .drop
  | .l0, .phi => some .drop
  | .l1, .textRaw => some .mask
  | .l1, .audioRaw => some .drop
  | .l1, .derivedSummary => some .allow
  | .l1, .pii => some .hash
  | .l1, .phi => some .drop
  | .l2, .textRaw => some .allow
  | .l2, .audioRaw => some .allow
  | .l2, .derivedSummary => some .allow
  | .l2, .pii => some .mask
  | .l2, .phi => some .hash

namespace Fidelity

/-- Metadata is let out of evidence of every fidelity. -/
theorem redaction_metadata (fidelity : Fidelity) : fidelity.redaction .metadata = some .allow := by
  cases fidelity <;> rfl

/-- Raw audio at the lowest level is all that is not recorded. -/
theorem redaction_eq_none_iff {fidelity : Fidelity} {c : PayloadClass} :
    fidelity.redaction c = none ↔ fidelity = .l0 ∧ c = .audioRaw := by
  cases fidelity <;> cases c <;> decide

end Fidelity

/-! ## Decisions -/

/-- The reasons of a denial, in the order of the checks. -/
inductive DenyReason where
  | invalidRequest
  | tenantScopeMissing
  | crossTenant
  | policyInvalid
  | roleNotAllowed
  | purposeNotAllowed
  | fidelityNotAllowed
  | recordingLevelUnsupported
  | redactionUnresolved
  | auditWriteFailed
deriving DecidableEq, Repr

def DenyReason.code : DenyReason → String
  | .invalidRequest => "invalid_request"
  | .tenantScopeMissing => "tenant_scope_missing"
  | .crossTenant => "cross_tenant_denied"
  | .policyInvalid => "policy_invalid"
  | .roleNotAllowed => "role_not_allowed"
  | .purposeNotAllowed => "purpose_not_allowed"
  | .fidelityNotAllowed => "fidelity_not_allowed"
  | .recordingLevelUnsupported => "recording_level_unsupported"
  | .redactionUnresolved => "redaction_unresolved"
  | .auditWriteFailed => "audit_write_failed"

def AccessDecision.denyFor (reason : DenyReason) : AccessDecision := .deny reason.code

namespace AccessPolicy

/-- The first of each of the payload classes, in order. -/
def firsts : List PayloadClass → List PayloadClass
  | [] => []
  | c :: cs => c :: (firsts cs).filter fun d => d != c

/-- One marker for each payload class, as long as each has a redaction. -/
def markersFor (p : AccessPolicy) (fidelity : Fidelity) :
    List PayloadClass → Except DenyReason (List RedactionMarker)
  | [] => .ok []
  | c :: cs =>
    match fidelity.redaction c with
    | none => .error .redactionUnresolved
    | some action => do
      let ms ← p.markersFor fidelity cs
      return ⟨c, action, p.version⟩ :: ms

/-- Fails for a reason unless a check passes. -/
def demand (check : Bool) (reason : DenyReason) : Except DenyReason Unit :=
  if check then .ok () else .error reason

/-- The redactions under which a request is allowed, or why it is not. -/
def evaluate (p : AccessPolicy) (r : AccessRequest) :
    Except DenyReason (List RedactionMarker) := do
  demand r.validate.isOk .invalidRequest
  demand (!Text.isBlank r.tenant && !Text.isBlank p.tenant) .tenantScopeMissing
  demand (Text.trim r.tenant == Text.trim p.tenant) .crossTenant
  demand p.validate.isOk .policyInvalid
  demand (p.roles.contains r.role) .roleNotAllowed
  demand (p.purposes.contains r.purpose) .purposeNotAllowed
  demand (p.fidelities.contains r.fidelity) .fidelityNotAllowed
  demand (p.recordingLevels.contains r.fidelity) .recordingLevelUnsupported
  p.markersFor r.fidelity (firsts r.effectivePayloads)

def authorize (p : AccessPolicy) (r : AccessRequest) : AccessDecision :=
  match p.evaluate r with
  | .ok markers => .allow markers
  | .error reason => .denyFor reason

end AccessPolicy

end ReplayEvidence
