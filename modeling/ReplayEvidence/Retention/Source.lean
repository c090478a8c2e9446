-- Where the retention policy of a tenant comes from: a fixed list, a file, or
-- tiers tried in order, with a conservative policy when none of them answers.
import ReplayEvidence.Json.Bounds
import ReplayEvidence.Json.Tree
import ReplayEvidence.Retention.Policy

namespace ReplayEvidence

/-- Why a tenant has no policy. -/
inductive PolicyError where
  | unreadable
  | undecodable
  | invalid (tenant : String) (source : ValidationError)
  | tenantMismatch (requested actual : String)
  | notFound (tenant : String)
deriving DecidableEq, Repr

namespace PolicyError

def code : PolicyError → String
  | .unreadable => "retention_policy_read_failed"
  | .undecodable => "retention_policy_decode_failed"
  | .invalid .. => "retention_policy_invalid"
  | .tenantMismatch .. => "retention_policy_tenant_mismatch"
  | .notFound _ => "retention_policy_not_found"

/-- The wording of an error, when it has one of its own. -/
def message? : PolicyError → Option String
  | .unreadable => none
  | .undecodable => none
  | .invalid tenant source =>
    some ("retention policy for tenant " ++ Text.quoted tenant ++ " is invalid: " ++
      source.message)
  | .tenantMismatch requested actual =>
    some ("retention policy tenant mismatch: requested " ++ Text.quoted requested ++ ", got " ++
      Text.quoted actual)
  | .notFound tenant => some ("no retention policy for tenant " ++ Text.quoted tenant)

end PolicyError

/-- Gives the policy of a tenant. -/
abbrev PolicySource := String → Except PolicyError RetentionPolicy

/-- Makes a policy that of a tenant: one without a tenant is taken over, one of
another tenant is refused, and the policy must be valid. -/
def RetentionPolicy.alignTo (p : RetentionPolicy) (tenant : String) :
    Except PolicyError RetentionPolicy :=
  if p.tenant ≠ "" ∧ p.tenant ≠ tenant then .error (.tenantMismatch tenant p.tenant)
  else
    let aligned := { p with tenant := tenant }
    match aligned.validate with
    | .ok () => .ok aligned
    | .error e => .error (.invalid tenant e)

/-- What a policy file holds. -/
inductive PolicyDocument where
  | many (policies : List RetentionPolicy)
  | one (policy : RetentionPolicy)
deriving DecidableEq

namespace PolicyDocument

/-- How deep the values of a policy file may be nested. -/
def depthLimit : Nat := 127

/-- A list of policies, or else one policy. -/
def ofJson? (v : Json) : Option PolicyDocument :=
  match (Wire.decode v : Except DecodeError (List RetentionPolicy)) with
  | .ok ps => some (.many ps)
  | .error _ =>
    match (Wire.decode v : Except DecodeError RetentionPolicy) with
    | .ok p => some (.one p)
    | .error _ => none

/-- The document that the bytes of a file spell. -/
def ofBytes? (bytes : ByteArray) : Option PolicyDocument :=
  (Json.parseBytes? bytes).bind fun v => if v.holdable depthLimit then ofJson? v else none

/-- The policy of a tenant. A single policy of another tenant is a mismatch;
among many it is passed over. -/
def policyFor (d : PolicyDocument) (tenant : String) : Except PolicyError RetentionPolicy :=
  match d with
  | .one p => p.alignTo tenant
  | .many ps =>
    match ps.find? fun p => p.tenant = tenant with
    | some p => p.alignTo tenant
    | none => .error (.notFound tenant)

end PolicyDocument

namespace PolicySource

/-- Policies held by tenant. They are handed out as they are. -/
def ofList (policies : List RetentionPolicy) : PolicySource := fun tenant =>
  match (Keyed.ofList (policies.map fun p => (p.tenant, p))).get? tenant with
  | some p => .ok p
  | none => .error (.notFound tenant)

/-- The policies in the bytes of a file, if it can be read. -/
def ofFile (content : Option ByteArray) : PolicySource := fun tenant =>
  match content with
  | none => .error .unreadable
  | some bytes =>
    match PolicyDocument.ofBytes? bytes with
    | some d => d.policyFor tenant
    | none => .error .undecodable

/-- The first answer of the tiers that can be made the tenant's own. Asking a
tier may have an effect. -/
def firstAligned {m : Type → Type} [Monad m] (tenant : String) :
    List (String → m (Except PolicyError RetentionPolicy)) → m (Option RetentionPolicy)
  | [] => return none
  | tier :: tiers => do
    match ← tier tenant with
    | .error _ => firstAligned tenant tiers
    | .ok p =>
      match p.alignTo tenant with
      | .ok aligned => return some aligned
      | .error _ => firstAligned tenant tiers

/-- Tiers tried in order, and the conservative policy after the last. Without a
tenant to ask for, none is tried. -/
def tryTiers {m : Type → Type} [Monad m]
    (tiers : List (String → m (Except PolicyError RetentionPolicy))) (tenant : String) :
    m (Except PolicyError RetentionPolicy) :=
  if Text.isBlank tenant then
    return .error (.invalid tenant (.missing "retention_policy" "tenant_id"))
  else do
    match ← firstAligned tenant tiers with
    | some p => return .ok p
    | none => return (RetentionPolicy.conservative tenant).alignTo tenant

/-- The source that tries other sources in order. -/
def ofTiers (tiers : List PolicySource) : PolicySource := tryTiers (m := Id) tiers

end PolicySource

end ReplayEvidence
