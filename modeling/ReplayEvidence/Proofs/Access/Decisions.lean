-- The laws of access decisions. Whatever a request asks and whatever a policy
-- says, the decision is valid: a denial has its code, and the redactions of an
-- allowance carry the version of a policy that is valid itself.
import ReplayEvidence.Access.Policy

namespace ReplayEvidence

/-! ## Denials -/

theorem DenyReason.isBlank_code (reason : DenyReason) : Text.isBlank reason.code = false := by
  cases reason <;> decide

theorem AccessDecision.validate_denyFor (reason : DenyReason) :
    (denyFor reason).validate = .ok () := by
  unfold denyFor deny validate
  rw [if_neg Bool.false_ne_true, Validity.bind_eq_ok, Validity.require_eq_ok]
  exact ⟨reason.isBlank_code, rfl⟩

/-! ## Allowances -/

theorem AccessDecision.validate_allow {markers : List RedactionMarker}
    (h : ∀ m ∈ markers, m.validate = .ok ()) : (allow markers).validate = .ok () := by
  unfold allow validate
  rw [if_pos rfl, if_pos rfl, Validity.all_eq_ok]
  exact h

theorem Validity.isOk_iff {v : Validity} : v.isOk = true ↔ v = .ok () := by
  cases v with
  | error e => exact ⟨nofun, nofun⟩
  | ok _ => exact ⟨fun _ => rfl, fun _ => rfl⟩

namespace AccessPolicy

variable {p : AccessPolicy}

theorem demand_bind_eq_ok {α : Type} {check : Bool} {reason : DenyReason}
    {next : Unit → Except DenyReason α} {a : α} :
    (demand check reason >>= next) = .ok a ↔ check = true ∧ next () = .ok a := by
  cases check with
  | false => exact ⟨nofun, nofun⟩
  | true => exact ⟨fun h => ⟨rfl, h⟩, fun h => h.2⟩

/-! ## Markers -/

/-- The marker of a payload class, when the class has a redaction. -/
def marker? (p : AccessPolicy) (fidelity : Fidelity) (c : PayloadClass) :
    Option RedactionMarker :=
  (fidelity.redaction c).map fun action => ⟨c, action, p.version⟩

/-- There are markers when every class has one, and then one for each class, in the same
order. -/
theorem markersFor_eq_ok {fidelity : Fidelity} {payloads : List PayloadClass}
    {markers : List RedactionMarker} :
    p.markersFor fidelity payloads = .ok markers ↔
      payloads.map (p.marker? fidelity) = markers.map some := by
  induction payloads generalizing markers with
  | nil => cases markers <;> simp [markersFor]
  | cons c cs ih =>
    unfold markersFor
    rw [List.map_cons]
    rcases ha : fidelity.redaction c with _ | action
    · cases markers <;> simp [marker?, ha]
    · rcases markers with _ | ⟨m, ms⟩
      · rcases p.markersFor fidelity cs with e | ms <;> exact ⟨nofun, nofun⟩
      · rw [List.map_cons, List.cons.injEq, ← ih]
        rcases p.markersFor fidelity cs with e | ms'
        · exact ⟨nofun, nofun⟩
        · simp [marker?, ha, bind, Except.bind, pure, Except.pure]

theorem payload_of_marker? {fidelity : Fidelity} {c : PayloadClass} {m : RedactionMarker}
    (h : p.marker? fidelity c = some m) : m.payload = c := by
  obtain ⟨action, _, rfl⟩ := Option.map_eq_some_iff.1 h
  rfl

theorem marker?_of_mem_markersFor {fidelity : Fidelity} {payloads : List PayloadClass}
    {markers : List RedactionMarker} (h : p.markersFor fidelity payloads = .ok markers)
    {m : RedactionMarker} (hm : m ∈ markers) : p.marker? fidelity m.payload = some m := by
  have hsome : some m ∈ payloads.map (p.marker? fidelity) := by
    rw [markersFor_eq_ok.1 h]
    exact List.mem_map_of_mem hm
  obtain ⟨c, _, hc⟩ := List.mem_map.1 hsome
  rw [payload_of_marker? hc, hc]

theorem reason_of_mem_markersFor {fidelity : Fidelity} {payloads : List PayloadClass}
    {markers : List RedactionMarker} (h : p.markersFor fidelity payloads = .ok markers) :
    ∀ m ∈ markers, m.reason = p.version := by
  intro m hm
  obtain ⟨_, _, hmarker⟩ := Option.map_eq_some_iff.1 (marker?_of_mem_markersFor h hm)
  exact (congrArg RedactionMarker.reason hmarker).symm

/-! ## Requests that are admitted -/

/-- A request passes every check of a policy but the last one, which is about its payload
classes. -/
structure Admits (p : AccessPolicy) (r : AccessRequest) : Prop where
  request : r.validate = .ok ()
  tenants : Text.isBlank r.tenant = false ∧ Text.isBlank p.tenant = false
  sameTenant : Text.trim r.tenant = Text.trim p.tenant
  policy : p.validate = .ok ()
  role : r.role ∈ p.roles
  purpose : r.purpose ∈ p.purposes
  fidelity : r.fidelity ∈ p.fidelities
  recordingLevel : r.fidelity ∈ p.recordingLevels

/-- A policy allows the requests that it admits, as long as there are markers. -/
theorem evaluate_eq_ok {r : AccessRequest} {markers : List RedactionMarker} :
    p.evaluate r = .ok markers ↔
      p.Admits r ∧ p.markersFor r.fidelity (firsts r.effectivePayloads) = .ok markers := by
  unfold evaluate
  simp only [demand_bind_eq_ok, Validity.isOk_iff, Bool.and_eq_true, Bool.not_eq_true',
    beq_iff_eq, SortedSet.contains_iff]
  constructor
  · rintro ⟨hrequest, htenants, hsame, hpolicy, hrole, hpurpose, hfidelity, hlevel, hmarkers⟩
    exact ⟨⟨hrequest, htenants, hsame, hpolicy, hrole, hpurpose, hfidelity, hlevel⟩, hmarkers⟩
  · rintro ⟨⟨hrequest, htenants, hsame, hpolicy, hrole, hpurpose, hfidelity, hlevel⟩, hmarkers⟩
    exact ⟨hrequest, htenants, hsame, hpolicy, hrole, hpurpose, hfidelity, hlevel, hmarkers⟩

theorem validate_authorize (p : AccessPolicy) (r : AccessRequest) :
    (p.authorize r).validate = .ok () := by
  unfold authorize
  rcases hp : p.evaluate r with reason | markers
  · exact AccessDecision.validate_denyFor reason
  · obtain ⟨hadmits, hmarkers⟩ := evaluate_eq_ok.1 hp
    have hvalid := hadmits.policy
    unfold AccessPolicy.validate at hvalid
    rw [Validity.bind_eq_ok, Validity.require_eq_ok, Validity.require_eq_ok] at hvalid
    apply AccessDecision.validate_allow
    intro m hm
    unfold RedactionMarker.validate
    rw [Validity.require_eq_ok, reason_of_mem_markersFor hmarkers m hm]
    exact hvalid.2

end AccessPolicy

/-- The event of a decision is valid at every time that is not negative. -/
theorem AuditEvent.validate_of_authorize {now : Millis} {r : AccessRequest} {p : AccessPolicy} :
    (⟨now, r, p.authorize r⟩ : AuditEvent).validate = .ok () ↔ 0 ≤ now := by
  unfold validate
  rw [Validity.bind_eq_ok, Validity.requireNonNegative_eq_ok]
  exact and_iff_left (p.validate_authorize r)

end ReplayEvidence
