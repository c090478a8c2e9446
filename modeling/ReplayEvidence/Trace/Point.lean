-- A point of a trace: one decision with the plan, snapshots, provider and
-- times it was taken under. A trace is a list of points.
import ReplayEvidence.Trace.Decision

namespace ReplayEvidence

open Wire (Fields)

/-! ## Snapshots -/

/-- The snapshots of the control plane that a decision was taken against. -/
structure Provenance where
  routingView : String
  admissionPolicy : String
  abiCompatibility : String
  versionResolution : String
  policyResolution : String
  providerHealth : String
deriving DecidableEq, Repr

namespace Provenance

inductive Part where
  | routingView | admissionPolicy | abiCompatibility | versionResolution | policyResolution
  | providerHealth
deriving DecidableEq, Repr

def Part.key : Part → String
  | .routingView => "routing_view_snapshot"
  | .admissionPolicy => "admission_policy_snapshot"
  | .abiCompatibility => "abi_compatibility_snapshot"
  | .versionResolution => "version_resolution_snapshot"
  | .policyResolution => "policy_resolution_snapshot"
  | .providerHealth => "provider_health_snapshot"

def Part.all : List Part :=
  [.routingView, .admissionPolicy, .abiCompatibility, .versionResolution, .policyResolution,
    .providerHealth]

def get (p : Provenance) : Part → String
  | .routingView => p.routingView
  | .admissionPolicy => p.admissionPolicy
  | .abiCompatibility => p.abiCompatibility
  | .versionResolution => p.versionResolution
  | .policyResolution => p.policyResolution
  | .providerHealth => p.providerHealth

/-- The snapshots in which two provenances differ, in order. -/
def differing (a b : Provenance) : List Part := Part.all.filter fun p => a.get p != b.get p

/-- Every reference must be there. -/
def validate (p : Provenance) : Validity :=
  Validity.all (fun part => Validity.require "snapshot_provenance" part.key (p.get part)) Part.all

def fields : Fields Provenance Provenance :=
  (Fields.make Provenance.mk)
    |>.required "routing_view_snapshot" routingView
    |>.required "admission_policy_snapshot" admissionPolicy
    |>.required "abi_compatibility_snapshot" abiCompatibility
    |>.required "version_resolution_snapshot" versionResolution
    |>.required "policy_resolution_snapshot" policyResolution
    |>.required "provider_health_snapshot" providerHealth

instance : Wire Provenance := fields.wire

end Provenance

/-! ## Providers -/

structure Provider where
  provider : String
  model : String
deriving DecidableEq, Repr

namespace Provider

def unset : Provider := ⟨"", ""⟩

/-- Provider and model, as a message shows them. -/
def label (p : Provider) : String := p.provider ++ "/" ++ p.model

def fields : Fields Provider Provider :=
  (Fields.make Provider.mk)
    |>.required "provider_id" provider
    |>.required "model_id" model

instance : Wire Provider := fields.wire

end Provider

/-! ## Points -/

structure TracePoint where
  planHash : String
  provenance : Provenance
  decision : Decision
  marker : String
  epoch : Int64
  provider : Provider
  runtimeAt : Millis
  lane : Option Lane
deriving DecidableEq, Repr

namespace TracePoint

def divergenceScope (p : TracePoint) : String := p.decision.divergenceScope

/-- The plan hash must be there, the snapshots and the decision be valid, and
epoch and time not be negative. -/
def validate (p : TracePoint) : Validity := do
  let schema := "trace_artifact"
  Validity.require schema "plan_hash" p.planHash
  p.provenance.validate
  p.decision.validate
  Validity.requireNonNegative schema "authority_epoch" p.epoch
  Validity.requireNonNegative schema "runtime_timestamp_ms" p.runtimeAt

def fields : Fields TracePoint TracePoint :=
  (Fields.make TracePoint.mk)
    |>.required "plan_hash" planHash
    |>.required "snapshot_provenance" provenance
    |>.required "decision" decision
    |>.defaulted "ordering_marker" "" marker
    |>.required "authority_epoch" epoch
    |>.defaulted "provider" Provider.unset provider
    |>.required "runtime_timestamp_ms" runtimeAt
    |>.optional "lane" lane

instance : Wire TracePoint := fields.wire

end TracePoint

end ReplayEvidence
