-- The laws of policies that allow more than others. A policy is within another one of the same
-- tenant and version when each of its four lists is. What it lets pass, the wider policy lets
-- pass too, check by check; so an allowance stays as it is, and a denial can only turn into one
-- of a later check, or into an allowance.
import ReplayEvidence.Proofs.Access.OrderedChecks

namespace ReplayEvidence

namespace AccessPolicy

variable {p q : AccessPolicy} {r : AccessRequest}

/-! ## Wider policies -/

/-- A policy lets in no more than another one of its tenant and version does. Tenants are
compared without the white space around them. -/
structure Within (p q : AccessPolicy) : Prop where
  tenant : Text.trim p.tenant = Text.trim q.tenant
  version : p.version = q.version
  roles : ∀ role ∈ p.roles, role ∈ q.roles
  purposes : ∀ purpose ∈ p.purposes, purpose ∈ q.purposes
  fidelities : ∀ fidelity ∈ p.fidelities, fidelity ∈ q.fidelities
  recordingLevels : ∀ fidelity ∈ p.recordingLevels, fidelity ∈ q.recordingLevels

namespace Within

theorem refl (p : AccessPolicy) : p.Within p :=
  ⟨rfl, rfl, fun _ h => h, fun _ h => h, fun _ h => h, fun _ h => h⟩

theorem trans {s : AccessPolicy} (h : p.Within q) (h' : q.Within s) : p.Within s where
  tenant := h.tenant.trans h'.tenant
  version := h.version.trans h'.version
  roles role hrole := h'.roles role (h.roles role hrole)
  purposes purpose hpurpose := h'.purposes purpose (h.purposes purpose hpurpose)
  fidelities fidelity hfidelity := h'.fidelities fidelity (h.fidelities fidelity hfidelity)
  recordingLevels fidelity hlevel :=
    h'.recordingLevels fidelity (h.recordingLevels fidelity hlevel)

end Within

/-- A condition that a request meets under a policy is met under a wider one. -/
theorem Meets.of_within (h : p.Within q) {reason : DenyReason} (hmeets : p.Meets r reason) :
    q.Meets r reason := by
  cases reason with
  | invalidRequest => exact hmeets
  | tenantScopeMissing => exact ⟨hmeets.1, (Text.isBlank_congr h.tenant).symm.trans hmeets.2⟩
  | crossTenant => exact hmeets.trans h.tenant
  | policyInvalid => exact (congrArg Text.isBlank h.version).symm.trans hmeets
  | roleNotAllowed => exact h.roles r.role hmeets
  | purposeNotAllowed => exact h.purposes r.purpose hmeets
  | fidelityNotAllowed => exact h.fidelities r.fidelity hmeets
  | recordingLevelUnsupported => exact h.recordingLevels r.fidelity hmeets
  | redactionUnresolved => exact hmeets
  | auditWriteFailed => trivial

/-- Of what a policy says, only its version gets into the markers. -/
theorem markersFor_congr (h : p.version = q.version) (fidelity : Fidelity)
    (payloads : List PayloadClass) :
    q.markersFor fidelity payloads = p.markersFor fidelity payloads := by
  induction payloads with
  | nil => rfl
  | cons c cs ih =>
    unfold markersFor
    rw [ih, h]

/-- What a policy allows, a wider one allows under the same markers. -/
theorem authorize_of_within (h : p.Within q) (hallowed : (p.authorize r).allowed = true) :
    q.authorize r = p.authorize r := by
  have hq : (q.authorize r).allowed = true := by
    rw [allowed_iff_meets] at hallowed ⊢
    intro reason hreason
    exact (hallowed reason hreason).of_within h
  obtain ⟨markers, hdecision, hmarkers⟩ := exists_markers_of_allowed hallowed
  obtain ⟨markers', hdecision', hmarkers'⟩ := exists_markers_of_allowed hq
  rw [markersFor_congr h.version, hmarkers] at hmarkers'
  cases hmarkers'
  rw [hdecision, hdecision']

/-- Under a wider policy no earlier check is the first to fail. -/
theorem FailsFirst.le_of_within (h : p.Within q) {reasons : List DenyReason}
    {reason later : DenyReason} (hp : p.FailsFirst r reasons reason)
    (hq : q.FailsFirst r reasons later) : reasons.idxOf reason ≤ reasons.idxOf later := by
  obtain ⟨before, after, rfl, hbefore, -⟩ := hp
  obtain ⟨-, -, -, -, hfails⟩ := hq
  -- the checks before pass under the wider policy as well
  have hlater : later ∉ before := fun hmem => hfails ((hbefore later hmem).of_within h)
  have hreason : (before ++ reason :: after).idxOf reason ≤ before.length := by
    rw [List.idxOf_append]
    split
    · next hmem => exact Nat.le_of_lt (List.idxOf_lt_length_of_mem hmem)
    · simp
  have hpast : before.length ≤ (before ++ reason :: after).idxOf later := by
    rw [List.idxOf_append, if_neg hlater]
    omega
  exact Nat.le_trans hreason hpast

/-! ## Grants -/

/-- One more thing that a policy lets in. -/
inductive Grant where
  | role (role : String)
  | purpose (purpose : String)
  | fidelity (fidelity : Fidelity)
deriving DecidableEq, Repr

def grant (p : AccessPolicy) : Grant → AccessPolicy
  | .role role => p.withRole role
  | .purpose purpose => p.withPurpose purpose
  | .fidelity fidelity => p.withFidelity fidelity

def grantAll (p : AccessPolicy) (grants : List Grant) : AccessPolicy := grants.foldl grant p

theorem within_grant (p : AccessPolicy) (g : Grant) : p.Within (p.grant g) := by
  have hsame := Within.refl p
  cases g with
  | role role => exact { hsame with roles := fun _ h => SortedSet.mem_insert.2 (.inr h) }
  | purpose purpose => exact { hsame with purposes := fun _ h => SortedSet.mem_insert.2 (.inr h) }
  | fidelity fidelity =>
    exact { hsame with fidelities := fun _ h => SortedSet.mem_insert.2 (.inr h) }

theorem within_grantAll (p : AccessPolicy) (grants : List Grant) :
    p.Within (p.grantAll grants) := by
  induction grants generalizing p with
  | nil => exact Within.refl p
  | cons g gs ih => exact (within_grant p g).trans (ih (p.grant g))

/-! ## The law -/

/-- A wider policy keeps what was allowed. Take any policy and any request. What the policy allows,
every wider one decides alike, with the same markers; so does the policy itself after any grants.
What it denies, no narrower one allows. And where both a policy and a wider one deny, the wider one
does so for the same check or a later one. -/
theorem a_wider_policy_keeps_what_was_allowed (p : AccessPolicy) (r : AccessRequest) :
    (∀ q : AccessPolicy, p.Within q → (p.authorize r).allowed = true →
        q.authorize r = p.authorize r) ∧
      (∀ grants, (p.authorize r).allowed = true →
        (p.grantAll grants).authorize r = p.authorize r) ∧
      (∀ q : AccessPolicy, q.Within p → (p.authorize r).allowed = false →
        (q.authorize r).allowed = false) ∧
      ∀ q : AccessPolicy, p.Within q → ∀ reason later, p.FailsFirst r DenyReason.checked reason →
        q.FailsFirst r DenyReason.checked later →
        DenyReason.checked.idxOf reason ≤ DenyReason.checked.idxOf later := by
  refine ⟨?wider, ?granted, ?narrower, ?later⟩
  case wider =>
    intro q h hallowed
    exact authorize_of_within h hallowed
  case granted =>
    intro grants hallowed
    exact authorize_of_within (within_grantAll p grants) hallowed
  case narrower =>
    intro q h hdenied
    apply Bool.eq_false_iff.2
    intro hallowed
    rw [authorize_of_within h hallowed, hallowed] at hdenied
    cases hdenied
  case later =>
    intro q h reason later hp hq
    exact hp.le_of_within h hq

/-- The policy for those on call, under a padded tenant and with three grants more. -/
def widenedPolicy : AccessPolicy :=
  { oncallPolicy.grantAll [.role "auditor", .fidelity .l2, .purpose "training"] with
    tenant := " tenant-a" }

theorem oncall_within_widened : oncallPolicy.Within widenedPolicy :=
  { within_grantAll oncallPolicy [.role "auditor", .fidelity .l2, .purpose "training"] with
    tenant := by decide }

/-- A request of one who is not on call, for a purpose that is in no policy. -/
def curiousRequest : AccessRequest :=
  { oncallRequest [.pii] with role := "auditor", purpose := "curiosity" }

theorem a_widened_policy_masks_as_before_and_denies_later :
    widenedPolicy.authorize (oncallRequest [.textRaw, .pii]) =
        oncallPolicy.authorize (oncallRequest [.textRaw, .pii]) ∧
      (oncallPolicy.grantAll [.fidelity .l2]).authorize (oncallRequest [.textRaw, .pii]) =
        oncallPolicy.authorize (oncallRequest [.textRaw, .pii]) ∧
      (oncallPolicy.authorize curiousRequest).allowed = false ∧
      oncallPolicy.FailsFirst curiousRequest DenyReason.checked .roleNotAllowed ∧
      widenedPolicy.FailsFirst curiousRequest DenyReason.checked .purposeNotAllowed ∧
      DenyReason.checked.idxOf .roleNotAllowed ≤ DenyReason.checked.idxOf .purposeNotAllowed := by
  obtain ⟨hwider, hgranted, -, -⟩ :=
    a_wider_policy_keeps_what_was_allowed oncallPolicy (oncallRequest [.textRaw, .pii])
  obtain ⟨-, -, -, hlater⟩ := a_wider_policy_keeps_what_was_allowed oncallPolicy curiousRequest
  obtain ⟨-, -, hnarrower, -⟩ := a_wider_policy_keeps_what_was_allowed widenedPolicy curiousRequest
  have hallowed : (oncallPolicy.authorize (oncallRequest [.textRaw, .pii])).allowed = true := by
    decide
  have hrole : oncallPolicy.FailsFirst curiousRequest DenyReason.checked .roleNotAllowed :=
    evaluate_eq_error.1 rfl
  have hpurpose : widenedPolicy.FailsFirst curiousRequest DenyReason.checked .purposeNotAllowed :=
    evaluate_eq_error.1 rfl
  exact ⟨hwider _ oncall_within_widened hallowed, hgranted _ hallowed,
    hnarrower _ oncall_within_widened (by decide), hrole, hpurpose,
    hlater _ oncall_within_widened _ _ hrole hpurpose⟩

end AccessPolicy

end ReplayEvidence
