-- Stored artifacts, the scopes in which they are deleted, and the counts that
-- sweeps and deletions report.
import ReplayEvidence.Validation
import ReplayEvidence.Wire.Collections
import ReplayEvidence.Wire.Record

namespace ReplayEvidence

open Wire (Fields)

/-! ## Artifacts -/

structure Artifact where
  artifact : String
  tenant : String
  session : String
  turn : Option String
  payload : PayloadClass
  recordedAt : Millis
  state : ArtifactState
deriving DecidableEq, Repr

namespace Artifact

/-- Identities must be there and the time not be negative. -/
def validate (a : Artifact) : Validity := do
  let schema := "replay_artifact_record"
  Validity.require schema "artifact_id" a.artifact
  Validity.require schema "tenant_id" a.tenant
  Validity.require schema "session_id" a.session
  Validity.requireSome schema "turn_id" a.turn
  Validity.requireNonNegative schema "recorded_at_ms" a.recordedAt

/-- What an artifact is known by. -/
def key (a : Artifact) : String × String := (a.tenant, a.artifact)

def fields : Fields Artifact Artifact :=
  (Fields.make Artifact.mk)
    |>.required "artifact_id" artifact
    |>.required "tenant_id" tenant
    |>.required "session_id" session
    |>.optional "turn_id" turn
    |>.required "payload_class" payload
    |>.required "recorded_at_ms" recordedAt
    |>.defaulted "state" .active state

instance : Wire Artifact := fields.wire

end Artifact

/-! ## Deletions -/

/-- One session or one turn of a tenant. -/
structure DeletionScope where
  tenant : String
  session : Option String
  turn : Option String
deriving DecidableEq, Repr

namespace DeletionScope

def ofSession (tenant session : String) : DeletionScope := ⟨tenant, some session, none⟩

def ofTurn (tenant turn : String) : DeletionScope := ⟨tenant, none, some turn⟩

/-- The selectors that say something. -/
def selectors (s : DeletionScope) : Option String × Option String :=
  (s.session.bind Text.nonBlank?, s.turn.bind Text.nonBlank?)

/-- The tenant and exactly one selector must be there. -/
def validate (s : DeletionScope) : Validity := do
  let schema := "deletion_scope"
  Validity.require schema "tenant_id" s.tenant
  match s.selectors with
  | (some _, none) | (none, some _) => .ok ()
  | (some _, some _) => .error (.invalid schema "selector" .bothSelectors)
  | (none, none) => .error (.invalid schema "selector" .noSelector)

def covers (s : DeletionScope) (a : Artifact) : Bool :=
  a.tenant == s.tenant &&
    match s.selectors with
    | (some session, none) => a.session == session
    | (none, some turn) => a.turn == some turn
    | _ => false

def fields : Fields DeletionScope DeletionScope :=
  (Fields.make DeletionScope.mk)
    |>.required "tenant_id" tenant
    |>.optional "session_id" session
    |>.optional "turn_id" turn

instance : Wire DeletionScope := fields.wire

end DeletionScope

/-- Asks for the artifacts in a scope to be removed. -/
structure DeletionRequest where
  scope : DeletionScope
  mode : DeletionMode
  requestedBy : String
  requestedAt : Millis
deriving DecidableEq, Repr

namespace DeletionRequest

/-- Scope, requester and time must be valid. -/
def validate (r : DeletionRequest) : Validity := do
  let schema := "deletion_request"
  r.scope.validate
  Validity.require schema "requested_by" r.requestedBy
  Validity.requireNonNegative schema "requested_at_ms" r.requestedAt

def fields : Fields DeletionRequest DeletionRequest :=
  (Fields.make DeletionRequest.mk)
    |>.required "scope" scope
    |>.required "mode" mode
    |>.required "requested_by" requestedBy
    |>.required "requested_at_ms" requestedAt

instance : Wire DeletionRequest := fields.wire

end DeletionRequest

/-- What a deletion did: how many artifacts lay in its scope, were removed, and
became unreadable. -/
structure DeletionResult where
  mode : Option DeletionMode
  matched : Nat
  deleted : Nat
  inaccessible : Nat
deriving DecidableEq, Repr

namespace DeletionResult

def fields : Fields DeletionResult DeletionResult :=
  (Fields.make DeletionResult.mk)
    |>.defaulted "mode" none mode
    |>.required "matched_count" matched
    |>.required "deleted_count" deleted
    |>.required "inaccessible_count" inaccessible

instance : Wire DeletionResult := fields.wire

end DeletionResult

/-! ## Sweeps -/

/-- What a sweep did for a tenant: how many readable artifacts it looked at,
found expired, and removed. -/
structure SweepResult where
  tenant : String
  evaluated : Nat
  expired : Nat
  deleted : Nat
deriving DecidableEq, Repr

namespace SweepResult

def fields : Fields SweepResult SweepResult :=
  (Fields.make SweepResult.mk)
    |>.required "tenant_id" tenant
    |>.required "evaluated_count" evaluated
    |>.required "expired_count" expired
    |>.required "deleted_count" deleted

instance : Wire SweepResult := fields.wire

end SweepResult

/-- A count for each payload class that has one. -/
structure ClassCounts where
  metadata : Option Nat
  textRaw : Option Nat
  audioRaw : Option Nat
  derivedSummary : Option Nat
  pii : Option Nat
  phi : Option Nat
deriving DecidableEq, Repr

namespace ClassCounts

def empty : ClassCounts := ⟨none, none, none, none, none, none⟩

def get? (c : ClassCounts) : PayloadClass → Option Nat
  | .metadata => c.metadata
  | .textRaw => c.textRaw
  | .audioRaw => c.audioRaw
  | .derivedSummary => c.derivedSummary
  | .pii => c.pii
  | .phi => c.phi

def set (c : ClassCounts) (payload : PayloadClass) (n : Nat) : ClassCounts :=
  match payload with
  | .metadata => { c with metadata := some n }
  | .textRaw => { c with textRaw := some n }
  | .audioRaw => { c with audioRaw := some n }
  | .derivedSummary => { c with derivedSummary := some n }
  | .pii => { c with pii := some n }
  | .phi => { c with phi := some n }

def tally (c : ClassCounts) (payload : PayloadClass) : ClassCounts :=
  c.set payload ((c.get? payload).getD 0 + 1)

/-- The counts in the order of the payload classes. -/
def entries (c : ClassCounts) : List (PayloadClass × Nat) :=
  (Named.all : List PayloadClass).filterMap fun p => (c.get? p).map fun n => (p, n)

instance : Wire ClassCounts where
  encode c := Json.record (c.entries.map fun e => (Named.name e.1, Wire.encode e.2))
  decode
    | .object ms =>
      (Wire.decodeEntries ms).map fun es => es.foldl (fun c e => c.set e.1 e.2) empty
    | _ => .error .malformed

end ClassCounts

/-- What a sweep did, with the removed artifacts by payload class. -/
structure SweepReport where
  result : SweepResult
  deletedByClass : ClassCounts
deriving DecidableEq, Repr

namespace SweepReport

def fields : Fields SweepReport SweepReport :=
  (Fields.make SweepReport.mk)
    |>.required "result" result
    |>.required "deleted_by_class" deletedByClass

instance : Wire SweepReport := fields.wire

end SweepReport

end ReplayEvidence
