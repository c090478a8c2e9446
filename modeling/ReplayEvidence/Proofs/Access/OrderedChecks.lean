-- The checks of access in their order. Each check has a condition of its own, said without the
-- code; a request is allowed when it meets all of them, and the first that it does not meet
-- gives the reason of the denial. An allowance has one marker for each payload class asked for.
import ReplayEvidence.Proofs.Access.Redactions

namespace ReplayEvidence

/-- The reasons that the checks have, first check first. The audit has its reason only after the
decision. -/
def DenyReason.checked : List DenyReason :=
  [.invalidRequest, .tenantScopeMissing, .crossTenant, .policyInvalid, .roleNotAllowed,
    .purposeNotAllowed, .fidelityNotAllowed, .recordingLevelUnsupported, .redactionUnresolved]

namespace AccessPolicy

variable {p : AccessPolicy} {r : AccessRequest}

/-! ## What is checked -/

/-- What a request has to meet not to be denied for a reason. Tenants are compared without the
white space around them, all else exactly. -/
def Meets (p : AccessPolicy) (r : AccessRequest) : DenyReason → Prop
  | .invalidRequest => Text.isBlank r.principal = false ∧ Text.isBlank r.role = false ∧
    Text.isBlank r.purpose = false ∧ Text.isBlank r.scope = false
  | .tenantScopeMissing => Text.isBlank r.tenant = false ∧ Text.isBlank p.tenant = false
  | .crossTenant => Text.trim r.tenant = Text.trim p.tenant
  | .policyInvalid => Text.isBlank p.version = false
  | .roleNotAllowed => r.role ∈ p.roles
  | .purposeNotAllowed => r.purpose ∈ p.purposes
  | .fidelityNotAllowed => r.fidelity ∈ p.fidelities
  | .recordingLevelUnsupported => r.fidelity ∈ p.recordingLevels
  | .redactionUnresolved => ∀ c ∈ r.effectivePayloads, (r.fidelity.redaction c).isSome = true
  | .auditWriteFailed => True

/-- A reason is the first of some reasons whose condition a request does not meet. -/
def FailsFirst (p : AccessPolicy) (r : AccessRequest) (reasons : List DenyReason)
    (reason : DenyReason) : Prop :=
  ∃ before after, reasons = before ++ reason :: after ∧
    (∀ earlier ∈ before, p.Meets r earlier) ∧ ¬ p.Meets r reason

theorem failsFirst_cons {next reason : DenyReason} {reasons : List DenyReason} :
    p.FailsFirst r (next :: reasons) reason ↔
      (¬ p.Meets r next ∧ next = reason) ∨ (p.Meets r next ∧ p.FailsFirst r reasons reason) := by
  constructor
  · rintro ⟨before, after, hreasons, hbefore, hfails⟩
    cases before with
    | nil =>
      cases hreasons
      exact .inl ⟨hfails, rfl⟩
    | cons earlier before =>
      cases hreasons
      rw [List.forall_mem_cons] at hbefore
      exact .inr ⟨hbefore.1, before, after, rfl, hbefore.2, hfails⟩
  · rintro (⟨hfails, rfl⟩ | ⟨hmeets, before, after, rfl, hbefore, hfails⟩)
    · exact ⟨[], reasons, rfl, nofun, hfails⟩
    · exact ⟨next :: before, after, rfl, List.forall_mem_cons.2 ⟨hmeets, hbefore⟩, hfails⟩

theorem not_failsFirst_nil {reason : DenyReason} : ¬ p.FailsFirst r [] reason := by
  rintro ⟨before, after, hreasons, -⟩
  cases before <;> cases hreasons

/-- Some condition is the first that fails unless all are met. -/
theorem exists_failsFirst {reasons : List DenyReason} :
    (∃ reason, p.FailsFirst r reasons reason) ↔ ¬ ∀ reason ∈ reasons, p.Meets r reason := by
  induction reasons with
  | nil => simp [not_failsFirst_nil]
  | cons next reasons ih =>
    simp only [failsFirst_cons, List.forall_mem_cons]
    by_cases hmeets : p.Meets r next
    · simp [hmeets, ih]
    · simp [hmeets]

/-! ## One check -/

/-- A check that stands for its condition, before the checks that follow. -/
theorem demand_bind_eq_error {check : Bool} {next reason : DenyReason}
    {reasons : List DenyReason} {rest : Unit → Except DenyReason (List RedactionMarker)}
    (hcheck : check = true ↔ p.Meets r next)
    (hrest : p.Meets r next → (rest () = .error reason ↔ p.FailsFirst r reasons reason)) :
    (demand check next >>= rest) = .error reason ↔ p.FailsFirst r (next :: reasons) reason := by
  rw [failsFirst_cons]
  by_cases hmeets : p.Meets r next
  · rw [hcheck.2 hmeets]
    have hpassed : (demand true next >>= rest) = rest () := rfl
    rw [hpassed, hrest hmeets]
    simp [hmeets]
  · have hfalse : check = false := Bool.eq_false_iff.2 fun htrue => hmeets (hcheck.1 htrue)
    rw [hfalse]
    have hstopped : (demand false next >>= rest) = .error next := rfl
    rw [hstopped]
    simp [hmeets]

theorem isOk_validate_request :
    r.validate.isOk = true ↔ p.Meets r .invalidRequest := by
  unfold AccessRequest.validate Meets
  simp only [Validity.isOk_iff, Validity.bind_eq_ok, Validity.require_eq_ok]

theorem isOk_validate_policy (htenant : Text.isBlank p.tenant = false) :
    p.validate.isOk = true ↔ p.Meets r .policyInvalid := by
  unfold AccessPolicy.validate Meets
  simp only [Validity.isOk_iff, Validity.bind_eq_ok, Validity.require_eq_ok, htenant, true_and]

theorem markersFor_eq_error {reason : DenyReason} :
    p.markersFor r.fidelity (firsts r.effectivePayloads) = .error reason ↔
      p.FailsFirst r [.redactionUnresolved] reason := by
  have hreason (payloads : List PayloadClass) (e : DenyReason)
      (he : p.markersFor r.fidelity payloads = .error e) : e = .redactionUnresolved := by
    induction payloads with
    | nil => cases he
    | cons c cs ih =>
      unfold markersFor at he
      split at he
      · cases he
        rfl
      · rcases hcs : p.markersFor r.fidelity cs with e' | ms
        · rw [hcs] at he
          cases he
          exact ih hcs
        · rw [hcs] at he
          cases he
  have hmarkers : (∃ markers, p.markersFor r.fidelity (firsts r.effectivePayloads) = .ok markers) ↔
      p.Meets r .redactionUnresolved := by
    rw [exists_markersFor]
    simp only [mem_firsts, Meets]
  rw [failsFirst_cons, ← hmarkers]
  rcases hout : p.markersFor r.fidelity (firsts r.effectivePayloads) with e | markers
  · simp [hreason _ _ hout, not_failsFirst_nil]
  · simp [not_failsFirst_nil]

/-! ## All checks -/

/-- A request is refused for the reason of the first check whose condition it does not meet. -/
theorem evaluate_eq_error {reason : DenyReason} :
    p.evaluate r = .error reason ↔ p.FailsFirst r DenyReason.checked reason := by
  unfold evaluate
  apply demand_bind_eq_error isOk_validate_request
  intro _
  apply demand_bind_eq_error (by simp [Meets])
  intro htenants
  apply demand_bind_eq_error (by simp [Meets])
  intro _
  apply demand_bind_eq_error (isOk_validate_policy htenants.2)
  intro _
  apply demand_bind_eq_error SortedSet.contains_iff
  intro _
  apply demand_bind_eq_error SortedSet.contains_iff
  intro _
  apply demand_bind_eq_error SortedSet.contains_iff
  intro _
  apply demand_bind_eq_error SortedSet.contains_iff
  intro _
  exact markersFor_eq_error

/-- A request is allowed when it meets the conditions of all checks. -/
theorem allowed_iff_meets :
    (p.authorize r).allowed = true ↔ ∀ reason ∈ DenyReason.checked, p.Meets r reason := by
  have hfails : (∃ reason, p.evaluate r = .error reason) ↔
      ¬ ∀ reason ∈ DenyReason.checked, p.Meets r reason := by
    simp only [evaluate_eq_error, exists_failsFirst]
  unfold authorize
  rcases hout : p.evaluate r with reason | markers
  · have hnot := hfails.1 ⟨reason, hout⟩
    simp [AccessDecision.denyFor, AccessDecision.deny, hnot]
  · have hmeets : ∀ reason ∈ DenyReason.checked, p.Meets r reason := by
      apply Classical.byContradiction
      intro hnot
      obtain ⟨reason, herror⟩ := hfails.2 hnot
      rw [hout] at herror
      cases herror
    exact ⟨fun _ => hmeets, fun _ => rfl⟩

/-! ## Markers -/

/-- The markers that an allowance has: one for each payload class asked for, in the order in which
the classes are first asked for, with what the table of redactions does with the class at the
fidelity, and with the version of the policy as the reason. -/
structure MarkersOf (p : AccessPolicy) (r : AccessRequest) (markers : List RedactionMarker) :
    Prop where
  asked : ∀ c, c ∈ markers.map RedactionMarker.payload ↔ c ∈ r.effectivePayloads
  inOrder : (markers.map RedactionMarker.payload).Pairwise fun c d =>
    r.effectivePayloads.idxOf c < r.effectivePayloads.idxOf d
  action : ∀ m ∈ markers, r.fidelity.redaction m.payload = some m.action
  reason : ∀ m ∈ markers, m.reason = p.version

/-- The first of each payload class come in the order in which the classes first stand. -/
theorem pairwise_firsts (cs : List PayloadClass) :
    (firsts cs).Pairwise fun c d => cs.idxOf c < cs.idxOf d := by
  induction cs with
  | nil => exact List.Pairwise.nil
  | cons c cs ih =>
    rw [firsts, List.pairwise_cons]
    have hlater (d : PayloadClass) (hd : d ∈ (firsts cs).filter fun d => d != c) :
        (c :: cs).idxOf d = cs.idxOf d + 1 := by
      have hne : c ≠ d := by
        rintro rfl
        simp at hd
      rw [List.idxOf_cons, beq_eq_false_iff_ne.2 hne, cond_false]
    constructor
    · intro d hd
      rw [List.idxOf_cons_self, hlater d hd]
      omega
    · apply (ih.filter fun d => d != c).imp_of_mem
      intro d e hd he hlt
      rw [hlater d hd, hlater e he]
      omega

theorem map_payload_of_markersFor {fidelity : Fidelity} {payloads : List PayloadClass}
    {markers : List RedactionMarker} (h : p.markersFor fidelity payloads = .ok markers) :
    markers.map RedactionMarker.payload = payloads := by
  rw [markersFor_eq_ok] at h
  induction payloads generalizing markers with
  | nil =>
    cases List.map_eq_nil_iff.1 h.symm
    rfl
  | cons c cs ih =>
    rcases markers with _ | ⟨m, ms⟩
    · cases h
    · rw [List.map_cons, List.map_cons, List.cons.injEq] at h
      rw [List.map_cons, payload_of_marker? h.1, ih h.2]

theorem markersOf_of_markersFor {markers : List RedactionMarker}
    (h : p.markersFor r.fidelity (firsts r.effectivePayloads) = .ok markers) :
    p.MarkersOf r markers := by
  have hpayloads := map_payload_of_markersFor h
  constructor
  · intro c
    rw [hpayloads, mem_firsts]
  · rw [hpayloads]
    exact pairwise_firsts _
  · intro m hm
    obtain ⟨_, haction, hmarker⟩ := Option.map_eq_some_iff.1 (marker?_of_mem_markersFor h hm)
    rw [haction]
    exact congrArg (fun m => some m.action) hmarker
  · exact reason_of_mem_markersFor h

/-- An allowed request has its markers from the payload classes it asks for. -/
theorem exists_markers_of_allowed (h : (p.authorize r).allowed = true) :
    ∃ markers, p.authorize r = .allow markers ∧
      p.markersFor r.fidelity (firsts r.effectivePayloads) = .ok markers := by
  unfold authorize at h ⊢
  rcases hout : p.evaluate r with reason | markers
  · rw [hout] at h
    cases h
  · exact ⟨markers, rfl, (evaluate_eq_ok.1 hout).2⟩

/-! ## The law -/

/-- A decision follows the first check that fails. Whatever a request asks and whatever a policy
says, the request is allowed exactly when it meets the conditions of all nine checks. Otherwise it
is denied with the code of the first check whose condition it does not meet, and without markers;
the codes tell the checks apart. An allowance has no reason, and one marker for each payload class
asked for, which is the metadata when none is named. Each decision is valid. -/
theorem a_decision_follows_the_first_check_that_fails (p : AccessPolicy) (r : AccessRequest) :
    let d := p.authorize r
    DenyReason.checked.map DenyReason.code =
        ["invalid_request", "tenant_scope_missing", "cross_tenant_denied", "policy_invalid",
          "role_not_allowed", "purpose_not_allowed", "fidelity_not_allowed",
          "recording_level_unsupported", "redaction_unresolved"] ∧
      (d.allowed = true ↔ ∀ reason ∈ DenyReason.checked, p.Meets r reason) ∧
      (d.allowed = false → ∃ reason, p.FailsFirst r DenyReason.checked reason) ∧
      (∀ reason, p.FailsFirst r DenyReason.checked reason → d = ⟨false, reason.code, []⟩) ∧
      (d.allowed = true → d.denyReason = "" ∧ p.MarkersOf r d.markers ∧
        (r.payloads = [] → d.markers.map RedactionMarker.payload = [.metadata])) ∧
      d.validate = .ok () := by
  intro d
  refine ⟨rfl, allowed_iff_meets, ?_, ?_, ?_, p.validate_authorize r⟩
  · intro hdenied
    rw [exists_failsFirst, ← allowed_iff_meets]
    exact Bool.eq_false_iff.1 hdenied
  · intro reason hfails
    have herror := evaluate_eq_error.2 hfails
    show p.authorize r = _
    unfold authorize
    rw [herror]
    rfl
  · intro hallowed
    obtain ⟨markers, hdecision, hmarkers⟩ := exists_markers_of_allowed hallowed
    have hlist : d = .allow markers := hdecision
    rw [hlist]
    refine ⟨rfl, markersOf_of_markersFor hmarkers, ?_⟩
    intro hnone
    have heffective : r.effectivePayloads = [.metadata] := by
      simp [AccessRequest.effectivePayloads, hnone]
    have hpayloads := map_payload_of_markersFor hmarkers
    rw [heffective] at hpayloads
    exact hpayloads

/-- A request of a stranger to the policy for audio at a fidelity at which none is recorded. -/
def strangeRequest : AccessRequest :=
  ⟨"tenant-a ", "mallory", "Oncall", "curiosity", "turn:turn-1", .l0, [.audioRaw]⟩

theorem a_stranger_is_denied_for_the_role_and_markers_come_in_order :
    let asked := oncallRequest [.pii, .textRaw, .pii]
    oncallPolicy.FailsFirst strangeRequest DenyReason.checked .roleNotAllowed ∧
      oncallPolicy.authorize strangeRequest = ⟨false, "role_not_allowed", []⟩ ∧
      (oncallPolicy.authorize asked).allowed = true ∧
      oncallPolicy.MarkersOf asked (oncallPolicy.authorize asked).markers ∧
      (oncallPolicy.authorize asked).markers.map RedactionMarker.payload = [.pii, .textRaw] := by
  obtain ⟨-, -, -, hdenied, -, -⟩ :=
    a_decision_follows_the_first_check_that_fails oncallPolicy strangeRequest
  obtain ⟨-, -, -, -, hallowed, -⟩ :=
    a_decision_follows_the_first_check_that_fails oncallPolicy
      (oncallRequest [.pii, .textRaw, .pii])
  have hfails : oncallPolicy.FailsFirst strangeRequest DenyReason.checked .roleNotAllowed := by
    refine ⟨DenyReason.checked.take 4, DenyReason.checked.drop 5, rfl, ?_, ?_⟩
    · intro earlier hearlier
      simp only [DenyReason.checked, List.take_succ_cons, List.take_zero, List.mem_cons,
        List.not_mem_nil, or_false] at hearlier
      unfold Meets
      rcases hearlier with rfl | rfl | rfl | rfl <;> decide
    · rw [Meets, ← SortedSet.contains_iff]
      decide
  have hasked : (oncallPolicy.authorize (oncallRequest [.pii, .textRaw, .pii])).allowed = true := by
    decide
  exact ⟨hfails, hdenied _ hfails, hasked, (hallowed hasked).2.1, by decide⟩

end AccessPolicy

end ReplayEvidence
