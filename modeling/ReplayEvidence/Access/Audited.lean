-- Access with audit. A decision is given out only when its event was taken by
-- the audit; otherwise the answer is a denial.
import ReplayEvidence.Access.Policy
import ReplayEvidence.Audit.Sink

namespace ReplayEvidence

/-- A decision that could not be audited, and why; what is given out in its
place is a denial. -/
structure AuditFailure where
  decision : AccessDecision
  source : AuditError
deriving Repr

/-- The wording of a failure, when the error inside it has one. -/
def AuditFailure.message? (f : AuditFailure) : Option String :=
  f.source.message?.map fun m => "replay access decision could not be audited: " ++ m

/-- A policy and the sink that keeps its decisions, when one is set. -/
structure AuditedAccess (σ : Type) where
  policy : AccessPolicy
  sink : Option (Sink σ)

namespace AuditedAccess

variable {σ : Type}

/-- Keeps the event of a decision. -/
def audit (s : AuditedAccess σ) (now : Millis) (request : AccessRequest)
    (decision : AccessDecision) : StateM σ Taken :=
  match AuditEvent.ofDecision now request decision with
  | .error e => return .error (.invalidEvent e)
  | .ok event =>
    match s.sink with
    | none => return .error .sinkUnset
    | some sink => sink.append event

/-- Decides a request and keeps the decision. -/
def authorize (s : AuditedAccess σ) (now : Millis) (request : AccessRequest) :
    StateM σ (Except AuditFailure AccessDecision) := do
  let decision := s.policy.authorize request
  match ← s.audit now request decision with
  | .ok () => return .ok decision
  | .error source => return .error ⟨.denyFor .auditWriteFailed, source⟩

end AuditedAccess

end ReplayEvidence
