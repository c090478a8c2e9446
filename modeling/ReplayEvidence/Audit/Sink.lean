-- Where audit events go. A sink takes an event or says why it did not; what a
-- sink does may depend on a state and change it. Sinks are tried in order by a
-- chain, which stops at the first that takes the event.
import ReplayEvidence.Access.Request

namespace ReplayEvidence

/-! ## Errors -/

/-- Why an event was not taken. -/
inductive AuditError where
  | sinkUnset
  | invalidEvent (source : ValidationError)
  | config (reason : String)
  | invalidTenant (tenant : String)
  | io (path : String)
  | httpStatus (endpoint : String) (status : UInt16)
  | transport (endpoint reason : String)
  | endpointsExhausted (errors : List AuditError)
  | allBackendsFailed (errors : List AuditError)
deriving Repr, Inhabited

namespace AuditError

mutual

/-- The wording of an error. There is none of an error that a file caused, nor
of one that holds such an error. -/
def message? : AuditError → Option String
  | .sinkUnset => some "replay audit sink is not configured"
  | .invalidEvent source => some ("invalid replay audit event: " ++ source.message)
  | .config reason => some ("invalid replay audit backend config: " ++ reason)
  | .invalidTenant tenant =>
    some ("tenant id " ++ Text.quoted tenant ++ " cannot name an audit file")
  | .io _ => none
  | .httpStatus endpoint status =>
    some ("replay audit endpoint " ++ endpoint ++ " returned HTTP " ++
      Decimal.ofNat status.toNat)
  | .transport endpoint reason =>
    some ("replay audit endpoint " ++ endpoint ++ " transport error: " ++ reason)
  | .endpointsExhausted errors =>
    (messages? errors).map fun ms =>
      "all replay audit endpoints failed: " ++ "; ".intercalate ms
  | .allBackendsFailed errors =>
    (messages? errors).map fun ms =>
      "all replay audit backends failed: " ++ "; ".intercalate ms

/-- The wording of several errors, when each has one. -/
def messages? : List AuditError → Option (List String)
  | [] => some []
  | e :: es => do return (← message? e) :: (← messages? es)

end

end AuditError

/-- Either the event was taken, or why not. -/
abbrev Taken := Except AuditError Unit

/-! ## Sinks -/

structure Sink (σ : Type) where
  append : AuditEvent → StateM σ Taken

/-- Gives the sink of a tenant, or why there is none. -/
structure Backend (σ : Type) where
  sinkFor : String → StateM σ (Except AuditError (Sink σ))

/-- Tries in order until one succeeds, and otherwise keeps every failure. -/
def firstSuccess {σ ε : Type} : List (StateM σ (Except ε Unit)) → StateM σ (Except (List ε) Unit)
  | [] => return .error []
  | attempt :: rest => do
    match ← attempt with
    | .ok () => return .ok ()
    | .error e =>
      match ← firstSuccess rest with
      | .ok () => return .ok ()
      | .error es => return .error (e :: es)

/-- The backend that has one sink for every tenant. -/
def Backend.always {σ : Type} (sink : Sink σ) : Backend σ := ⟨fun _ => return .ok sink⟩

/-- Hands an event to the sink of its tenant. -/
def Backend.append {σ : Type} (b : Backend σ) (event : AuditEvent) : StateM σ Taken := do
  match ← b.sinkFor event.tenant with
  | .ok sink => sink.append event
  | .error e => return .error e

/-- The sink that tries backends in order. Without any, nothing is set up. -/
def Sink.chain {σ : Type} (backends : List (Backend σ)) : Sink σ where
  append event :=
    match backends with
    | [] => return .error .sinkUnset
    | _ :: _ => do
      match ← firstSuccess (backends.map fun b => b.append event) with
      | .ok () => return .ok ()
      | .error errors => return .error (.allBackendsFailed errors)

end ReplayEvidence
