-- The laws of tenants that share a ledger. All artifacts stand in one list, but
-- a call looks only at those of its own tenant. So what a tenant sees of a run,
-- its answers and its artifacts, is what it sees of its own calls alone.
import ReplayEvidence.Proofs.Retention.LostByClass

namespace ReplayEvidence.Ledger

/-! ## Calls of a tenant -/

/-- The tenant that a call is addressed to. A sweep by a source is addressed to
the tenant of the policy that the source gives. -/
def Call.tenant : Call → String
  | .add a => a.tenant
  | .sweep p _ => p.tenant
  | .sweepDetailed p _ => p.tenant
  | .sweepResolved source tenant _ =>
    match source tenant with
    | .ok p => p.tenant
    | .error _ => tenant
  | .delete r => r.scope.tenant
  | .read tenant _ => tenant

/-- The calls of a tenant. -/
def callsOf (t : String) (cs : List Call) : List Call := cs.filter fun c => c.tenant == t

/-- The answers to the calls of a tenant. -/
def answersOf (t : String) (cs : List Call) (answers : List (Outcome Answer)) :
    List (Outcome Answer) :=
  ((cs.zip answers).filter fun x => x.1.tenant == t).map Prod.snd

/-! ## The ledger of one tenant -/

/-- The ledger with the artifacts of one tenant only. -/
def restrict (l : Ledger) (t : String) : Ledger := ⟨l.ofTenant t⟩

theorem ofTenant_restrict (l : Ledger) (t : String) : (l.restrict t).ofTenant t = l.ofTenant t := by
  simp [restrict, ofTenant, List.filter_filter]

/-- A test that only artifacts of the tenant pass needs no other artifacts. -/
theorem filter_ofTenant {t : String} {test : Artifact → Bool}
    (h : ∀ a, test a = true → a.tenant = t) (l : Ledger) :
    (l.ofTenant t).filter test = l.artifacts.filter test := by
  unfold ofTenant
  rw [List.filter_filter]
  apply List.filter_congr
  intro a _
  rcases htest : test a
  · rfl
  · simp [h a htest]

/-- A test that every artifact of the tenant passes removes none of them. -/
theorem restrict_filter_of_pass {t : String} {test : Artifact → Bool}
    (h : ∀ a, a.tenant = t → test a = true) (l : Ledger) :
    (⟨l.artifacts.filter test⟩ : Ledger).restrict t = l.restrict t := by
  unfold restrict ofTenant
  rw [List.filter_filter]
  congr 1
  apply List.filter_congr
  intro a _
  by_cases ha : a.tenant = t
  · simp [h a ha]
  · simp [ha]

theorem restrict_filter (t : String) (test : Artifact → Bool) (l : Ledger) :
    (⟨l.artifacts.filter test⟩ : Ledger).restrict t = ⟨(l.restrict t).artifacts.filter test⟩ := by
  simp only [restrict, ofTenant, List.filter_filter, Bool.and_comm]

/-- A change that keeps the tenant of each artifact can be made on the artifacts
of one tenant. -/
theorem restrict_map {f : Artifact → Artifact} (h : ∀ a, (f a).tenant = a.tenant) (t : String)
    (l : Ledger) :
    (⟨l.artifacts.map f⟩ : Ledger).restrict t = ⟨(l.restrict t).artifacts.map f⟩ := by
  simp only [restrict, ofTenant, List.filter_map, Function.comp_def, h]

theorem find?_restrict (l : Ledger) (t artifact : String) :
    (l.restrict t).find? t artifact = l.find? t artifact := by
  unfold restrict ofTenant find?
  rw [List.find?_filter]
  congr 1
  funext a
  rw [Bool.eq_iff_iff]
  simp

/-! ## Calls of the tenant itself -/

/-- What an operation gives, and what it leaves of one tenant. -/
def restrictOutcome {α : Type} (t : String) (x : Outcome α × Ledger) : Outcome α × Ledger :=
  (x.1, x.2.restrict t)

theorem add_restrict (l : Ledger) (a : Artifact) :
    (add a).run (l.restrict a.tenant) = restrictOutcome a.tenant ((add a).run l) := by
  rw [run_add, run_add, find?_restrict]
  rcases a.validate with e | _
  · rfl
  · rcases l.find? a.tenant a.artifact with _ | old
    · simp [restrictOutcome, restrict, ofTenant]
    · rfl

theorem read_restrict (l : Ledger) (t artifact : String) :
    (l.restrict t).read t artifact = l.read t artifact := by
  unfold read
  rw [find?_restrict]

theorem tenant_of_sweptBy {p : RetentionPolicy} {a : Artifact} (h : a.sweptBy p = true) :
    a.tenant = p.tenant := by
  unfold Artifact.sweptBy at h
  simp only [Bool.and_eq_true, beq_iff_eq] at h
  exact h.1

theorem sweepResult_restrict (l : Ledger) (p : RetentionPolicy) (now : Millis) :
    (l.restrict p.tenant).sweepResult p now = l.sweepResult p now := by
  unfold sweepResult restrict
  simp only [filter_ofTenant (fun a => tenant_of_sweptBy)]

theorem withoutExpired_restrict (l : Ledger) (p : RetentionPolicy) (now : Millis) (t : String) :
    (l.restrict t).withoutExpired p now = (l.withoutExpired p now).restrict t :=
  (restrict_filter t _ l).symm

theorem lost_restrict (before after : Ledger) (t : String) :
    lost (before.restrict t) (after.restrict t) t = lost before after t := by
  simp only [lost_eq_counting, ofTenant_restrict]

theorem sweep_restrict (l : Ledger) (p : RetentionPolicy) (now : Millis) :
    (sweep p now).run (l.restrict p.tenant) = restrictOutcome p.tenant ((sweep p now).run l) := by
  rw [run_sweep, run_sweep, sweepResult_restrict, withoutExpired_restrict]
  rcases p.validate with e | _ <;> rfl

theorem sweepDetailed_restrict (l : Ledger) (p : RetentionPolicy) (now : Millis) :
    (sweepDetailed p now).run (l.restrict p.tenant) =
      restrictOutcome p.tenant ((sweepDetailed p now).run l) := by
  rw [run_sweepDetailed, run_sweepDetailed, sweepResult_restrict, withoutExpired_restrict,
    lost_restrict]
  rcases p.validate with e | _ <;> rfl

theorem tenant_of_covers {s : DeletionScope} {a : Artifact} (h : s.covers a = true) :
    a.tenant = s.tenant := by
  unfold DeletionScope.covers at h
  simp only [Bool.and_eq_true, beq_iff_eq] at h
  exact h.1

theorem tenant_entombed (s : DeletionScope) (a : Artifact) :
    (if s.covers a then a.entomb else a).tenant = a.tenant := by
  split <;> rfl

theorem delete_restrict (l : Ledger) (r : DeletionRequest) :
    (delete r).run (l.restrict r.scope.tenant) =
      restrictOutcome r.scope.tenant ((delete r).run l) := by
  have hcovered : (l.restrict r.scope.tenant).artifacts.filter r.scope.covers =
      l.artifacts.filter r.scope.covers := filter_ofTenant (fun a => tenant_of_covers) l
  rw [run_delete, run_delete, hcovered]
  unfold restrictOutcome
  rcases r.validate with e | _
  · rfl
  · rcases r.mode
    · simp only [restrict_filter]
    · simp only [restrict_map (tenant_entombed r.scope)]

/-- A call of a tenant answers the same on the tenant's own ledger, and leaves
of it what it leaves of the shared one. -/
theorem call_restrict (l : Ledger) (c : Call) :
    (l.restrict c.tenant).call c = ((l.call c).1, (l.call c).2.restrict c.tenant) := by
  rw [call_eq, call_eq]
  cases c with
  | add a => simp only [Call.tenant, add_restrict, answering, restrictOutcome]
  | sweep p now => simp only [Call.tenant, sweep_restrict, answering, restrictOutcome]
  | sweepDetailed p now =>
    simp only [Call.tenant, sweepDetailed_restrict, answering, restrictOutcome]
  | sweepResolved source tenant now =>
    simp only [Call.tenant, run_sweepResolved]
    rcases source tenant with e | p
    · rfl
    · simp only [sweepDetailed_restrict, answering, restrictOutcome]
  | delete r => simp only [Call.tenant, delete_restrict, answering, restrictOutcome]
  | read tenant artifact => simp only [Call.tenant, read_restrict, answering]

/-! ## Calls of other tenants -/

/-- Whatever an operation gives, it leaves the artifacts of a tenant as they are. -/
def Spares {α : Type} (t : String) (op : StateM Ledger (Outcome α)) : Prop :=
  ∀ l : Ledger, (op.run l).2.restrict t = l.restrict t

theorem add_spares {a : Artifact} {t : String} (h : a.tenant ≠ t) : Spares t (add a) := by
  intro l
  rw [run_add]
  rcases a.validate with e | _
  · rfl
  · rcases l.find? a.tenant a.artifact with _ | old
    · simp [restrict, ofTenant, h]
    · rfl

theorem restrict_withoutExpired {p : RetentionPolicy} {t : String} (h : p.tenant ≠ t) (l : Ledger)
    (now : Millis) : (l.withoutExpired p now).restrict t = l.restrict t := by
  apply restrict_filter_of_pass
  intro a ha
  rcases hs : a.sweptBy p
  · rfl
  · exact absurd ((tenant_of_sweptBy hs).symm.trans ha) h

theorem sweep_spares {p : RetentionPolicy} {t : String} (h : p.tenant ≠ t) (now : Millis) :
    Spares t (sweep p now) := by
  intro l
  rw [run_sweep]
  rcases p.validate with e | _
  · rfl
  · exact restrict_withoutExpired h l now

theorem sweepDetailed_spares {p : RetentionPolicy} {t : String} (h : p.tenant ≠ t)
    (now : Millis) : Spares t (sweepDetailed p now) := by
  intro l
  rw [run_sweepDetailed]
  rcases p.validate with e | _
  · rfl
  · exact restrict_withoutExpired h l now

theorem delete_spares {r : DeletionRequest} {t : String} (h : r.scope.tenant ≠ t) :
    Spares t (delete r) := by
  have hcovers : ∀ a, a.tenant = t → r.scope.covers a = false := by
    intro a ha
    rcases hc : r.scope.covers a
    · rfl
    · exact absurd ((tenant_of_covers hc).symm.trans ha) h
  intro l
  rw [run_delete]
  rcases r.validate with e | _
  · rfl
  · rcases r.mode
    · apply restrict_filter_of_pass
      intro a ha
      rw [hcovers a ha]
      rfl
    · simp only [restrict_map (tenant_entombed r.scope)]
      have hsame :
          (l.restrict t).artifacts.map (fun a => if r.scope.covers a then a.entomb else a) =
            (l.restrict t).artifacts.map id := by
        apply List.map_congr_left
        intro a ha
        have hown : a.tenant = t := by simpa using (List.mem_filter.1 ha).2
        rw [hcovers a hown]
        rfl
      rw [hsame, List.map_id]

/-- A call of another tenant leaves the artifacts of a tenant as they are. -/
theorem call_of_another {l : Ledger} {c : Call} {t : String} (h : c.tenant ≠ t) :
    (l.call c).2.restrict t = l.restrict t := by
  rw [call_eq]
  cases c with
  | add a => exact add_spares h l
  | sweep p now => exact sweep_spares h now l
  | sweepDetailed p now => exact sweepDetailed_spares h now l
  | sweepResolved source tenant now =>
    simp only [answering, run_sweepResolved]
    rcases hs : source tenant with e | p
    · rfl
    · have hp : p.tenant ≠ t := by simpa only [Call.tenant, hs] using h
      exact sweepDetailed_spares hp now l
  | delete r => exact delete_spares h l
  | read tenant artifact => rfl

/-! ## Runs -/

/-- The calls of a tenant alone answer on the tenant's own ledger what they
answer among the others, and leave of it what all the calls leave. -/
theorem run_restrict (t : String) (l : Ledger) (cs : List Call) :
    (l.restrict t).run (callsOf t cs) =
      (answersOf t cs (l.run cs).1, (l.run cs).2.restrict t) := by
  induction cs generalizing l with
  | nil => rfl
  | cons c cs ih =>
    have ih := ih (l.call c).2
    by_cases hc : c.tenant = t
    · subst hc
      have hcalls : callsOf c.tenant (c :: cs) = c :: callsOf c.tenant cs := by
        simp [callsOf]
      rw [hcalls, run, call_restrict]
      simp only [ih]
      simp [run, answersOf]
    · -- the tenant's own run stands still while another tenant makes its call
      have hcalls : callsOf t (c :: cs) = callsOf t cs := by
        simp [callsOf, hc]
      rw [call_of_another hc] at ih
      rw [hcalls, ih]
      simp [run, answersOf, hc]

/-- A tenant never sees the others. Of any run of calls, each addressed to some
tenant, take away all that are not addressed to one of them: its own calls
answer the same, and the ledger ends with the same artifacts of it in the same
order. -/
theorem a_tenant_never_sees_the_others (t : String) (cs : List Call) :
    answersOf t cs (empty.run cs).1 = (empty.run (callsOf t cs)).1 ∧
      (empty.run cs).2.ofTenant t = (empty.run (callsOf t cs)).2.ofTenant t := by
  have h := run_restrict t empty cs
  have hempty : empty.restrict t = empty := rfl
  rw [hempty] at h
  rw [h]
  exact ⟨rfl, (ofTenant_restrict _ t).symm⟩

end ReplayEvidence.Ledger
