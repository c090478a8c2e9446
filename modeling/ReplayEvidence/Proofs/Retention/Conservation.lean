-- The law of conservation. Whatever is called in whatever order, each artifact that was
-- ever added still stands in the ledger, or one call removed it and counted it. So the
-- counts of all answers add up to what is stored.
import Mathlib.Algebra.GroupWithZero.Nat
import Mathlib.Data.List.Nodup
import ReplayEvidence.Proofs.Retention.Catalog
import ReplayEvidence.Proofs.Retention.Tenants

namespace ReplayEvidence.Ledger

/-! ## What answers count -/

/-- How many artifacts an answer says were added, removed by a sweep, removed by a deletion
and made unreadable. -/
structure Tally where
  added : Nat
  swept : Nat
  hardDeleted : Nat
  inaccessible : Nat
deriving DecidableEq, Repr

def tally : Outcome Answer → Tally
  | .ok .added => ⟨1, 0, 0, 0⟩
  | .ok (.swept r) => ⟨0, r.deleted, 0, 0⟩
  | .ok (.sweptDetailed r) => ⟨0, r.result.deleted, 0, 0⟩
  | .ok (.deleted r) =>
    ⟨0, 0, if r.mode = some .hardDelete then r.deleted else 0, r.inaccessible⟩
  | .ok (.found _) | .error _ => ⟨0, 0, 0, 0⟩

/-! ## Steps of a run -/

/-- A call on the ledger that it finds. -/
structure Step where
  before : Ledger
  call : Call

namespace Step

def answer (s : Step) : Outcome Answer := (s.before.call s.call).1

def after (s : Step) : Ledger := (s.before.call s.call).2

end Step

/-- The steps of a run. -/
def steps : Ledger → List Call → List Step
  | _, [] => []
  | l, c :: cs => ⟨l, c⟩ :: steps (l.call c).2 cs

theorem answers_of_steps (l : Ledger) (cs : List Call) :
    (steps l cs).map Step.answer = (l.run cs).1 := by
  induction cs generalizing l with
  | nil => rfl
  | cons c cs ih => exact congrArg _ (ih _)

/-! ## What a step leaves -/

/-- The artifacts of one list whose key is not in another. -/
def missing (as bs : List Artifact) : List Artifact :=
  as.filter fun a => a.key ∉ bs.map Artifact.key

namespace Step

/-- The artifacts that are new after a step. -/
def added (s : Step) : List Artifact := missing s.after.artifacts s.before.artifacts

/-- The artifacts that a step removes. -/
def gone (s : Step) : List Artifact := missing s.before.artifacts s.after.artifacts

/-- The readable artifacts that stand as tombstones after a step. -/
def entombed (s : Step) : List Artifact :=
  s.before.artifacts.filter fun a => a.isActive && a.entomb ∈ s.after.artifacts

end Step

/-- What a call makes of a ledger. Of each artifact that is stored something is left, the same or
its tombstone, or nothing, and what is new comes last. The changes and the new artifacts are all
of the tenant of the call, and the answer counts them. -/
structure Changes (l : Ledger) (c : Call) (answer : Outcome Answer) (after : Ledger)
    (left : Artifact → Option Artifact) (new : List Artifact) : Prop where
  after_eq : after.artifacts = l.artifacts.filterMap left ++ new
  fresh : ∀ a ∈ new, a.key ∉ l.artifacts.map Artifact.key
  kept : ∀ a b, left a = some b → b = a ∨ b = a.entomb
  own : ∀ a, left a ≠ some a → a.tenant = c.tenant
  newOwn : ∀ a ∈ new, a.tenant = c.tenant
  added : (tally answer).added = new.length
  removed : (tally answer).swept + (tally answer).hardDeleted =
    l.artifacts.countP fun a => (left a).isNone
  entombed : (tally answer).inaccessible =
    l.artifacts.countP fun a => a.isActive && left a = some a.entomb

namespace Changes

variable {l : Ledger} {c : Call} {answer : Outcome Answer} {test : Artifact → Bool}

theorem ne_entomb {a : Artifact} (h : a.isActive = true) : a ≠ a.entomb := by
  intro heq
  rw [heq] at h
  cases h

theorem countP_entombed_some (as : List Artifact) :
    as.countP (fun a => a.isActive && some a = some a.entomb) = 0 := by
  rw [List.countP_eq_zero]
  intro a _ ha
  simp only [Bool.and_eq_true, decide_eq_true_eq, Option.some.injEq] at ha
  exact ne_entomb ha.1 ha.2

/-- All artifacts stay, and some come after them. -/
theorem keeping {after : Ledger} {new : List Artifact}
    (hafter : after.artifacts = l.artifacts ++ new)
    (hfresh : ∀ a ∈ new, a.key ∉ l.artifacts.map Artifact.key)
    (hown : ∀ a ∈ new, a.tenant = c.tenant) (htally : tally answer = ⟨new.length, 0, 0, 0⟩) :
    Changes l c answer after some new := by
  constructor
  case after_eq => rw [List.filterMap_some, hafter]
  case fresh => exact hfresh
  case kept => exact fun a b hb => .inl (Option.some.inj hb).symm
  case own => exact fun a ha => absurd rfl ha
  case newOwn => exact hown
  case added => rw [htally]
  case removed => simp [htally]
  case entombed => rw [htally, countP_entombed_some]

theorem same (h : tally answer = ⟨0, 0, 0, 0⟩) : Changes l c answer l some [] :=
  keeping (List.append_nil _).symm nofun nofun h

theorem adding {a : Artifact} (h : l.find? a.tenant a.artifact = none) :
    Changes l (.add a) (.ok .added) ⟨l.artifacts ++ [a]⟩ some [a] := by
  apply keeping rfl _ _ rfl
  · intro b hb hkey
    obtain rfl := List.mem_singleton.1 hb
    obtain ⟨old, hold, hkey⟩ := List.mem_map.1 hkey
    have hother := List.find?_eq_none.1 h old hold
    simp only [Bool.and_eq_true, beq_iff_eq] at hother
    exact hother (Prod.mk.inj hkey)
  · intro b hb
    rw [List.mem_singleton.1 hb]
    rfl

theorem removing (hown : ∀ a, test a = true → a.tenant = c.tenant)
    (hadded : (tally answer).added = 0)
    (hremoved : (tally answer).swept + (tally answer).hardDeleted =
      (l.artifacts.filter test).length)
    (hinaccessible : (tally answer).inaccessible = 0) :
    Changes l c answer ⟨l.artifacts.filter fun a => !test a⟩
      (fun a => if test a then none else some a) [] := by
  constructor
  case after_eq =>
    rw [List.append_nil, ← List.filterMap_eq_filter]
    apply List.filterMap_congr
    intro a _
    rcases htest : test a <;> simp [Option.guard, htest]
  case fresh => nofun
  case kept =>
    intro a b hb
    split at hb
    · cases hb
    · exact .inl (Option.some.inj hb).symm
  case own =>
    intro a ha
    by_cases htest : test a = true
    · exact hown a htest
    · exact absurd (if_neg htest) ha
  case newOwn => nofun
  case added => exact hadded
  case removed =>
    rw [hremoved, ← List.countP_eq_length_filter]
    apply List.countP_congr
    intro a _
    by_cases htest : test a = true <;> simp [htest]
  case entombed =>
    rw [hinaccessible]
    symm
    rw [List.countP_eq_zero]
    intro a _
    by_cases htest : test a = true
    · simp [htest]
    · simpa [htest] using ne_entomb

theorem entombing (hown : ∀ a, test a = true → a.tenant = c.tenant)
    (htally : tally answer =
      ⟨0, 0, 0, ((l.artifacts.filter test).filter Artifact.isActive).length⟩) :
    Changes l c answer ⟨l.artifacts.map fun a => if test a then a.entomb else a⟩
      (fun a => some (if test a then a.entomb else a)) [] := by
  constructor
  case after_eq => rw [List.append_nil, List.filterMap_eq_map']
  case fresh => nofun
  case kept =>
    intro a b hb
    obtain rfl := Option.some.inj hb
    by_cases htest : test a = true
    · exact .inr (if_pos htest)
    · exact .inl (if_neg htest)
  case own =>
    intro a ha
    by_cases htest : test a = true
    · exact hown a htest
    · exact absurd (congrArg some (if_neg htest)) ha
  case newOwn => nofun
  case added => rw [htally, List.length_nil]
  case removed => simp [htally]
  case entombed =>
    rw [htally, List.filter_filter, ← List.countP_eq_length_filter]
    apply List.countP_congr
    intro a _
    by_cases htest : test a = true
    · simp [htest]
    · simpa [htest] using ne_entomb

/-- A sweep removes what is expired, and counts it. -/
theorem sweeping {p : RetentionPolicy} {now : Millis} (h : c.tenant = p.tenant)
    (htally : tally answer = ⟨0, (l.sweepResult p now).deleted, 0, 0⟩) :
    Changes l c answer (l.withoutExpired p now)
      (fun a => if a.sweptBy p && a.isExpired p now then none else some a) [] := by
  apply removing
  · intro a ha
    rw [Bool.and_eq_true] at ha
    exact (tenant_of_sweptBy ha.1).trans h.symm
  · rw [htally]
  · simp only [htally, sweepResult, List.filter_filter, Bool.and_comm, Nat.add_zero]
  · rw [htally]

end Changes

/-! ## Every call -/

theorem changes_of_error {l : Ledger} {c : Call} (e : LedgerError) :
    Changes l c (.error e) l some [] := Changes.same rfl

/-- What comes of a call, and what it makes of the ledger. -/
def Changed (l : Ledger) (c : Call) (x : Outcome Answer × Ledger) : Prop :=
  ∃ left new, Changes l c x.1 x.2 left new

theorem changed_of_sweep {l : Ledger} {c : Call} {p : RetentionPolicy} (h : c.tenant = p.tenant)
    (now : Millis) : Changed l c (answering .swept ((sweep p now).run l)) := by
  rw [run_sweep]
  rcases p.validate with e | _
  · exact ⟨_, _, changes_of_error _⟩
  · exact ⟨_, _, Changes.sweeping h rfl⟩

theorem changed_of_sweepDetailed {l : Ledger} {c : Call} {p : RetentionPolicy}
    (h : c.tenant = p.tenant) (now : Millis) :
    Changed l c (answering .sweptDetailed ((sweepDetailed p now).run l)) := by
  rw [run_sweepDetailed]
  rcases p.validate with e | _
  · exact ⟨_, _, changes_of_error _⟩
  · exact ⟨_, _, Changes.sweeping h rfl⟩

theorem changed_of_delete (l : Ledger) (r : DeletionRequest) :
    Changed l (.delete r) (answering .deleted ((delete r).run l)) := by
  have hown (a : Artifact) (ha : r.scope.covers a = true) : a.tenant = (Call.delete r).tenant :=
    tenant_of_covers ha
  rw [run_delete]
  rcases r.validate with e | _
  · exact ⟨_, _, changes_of_error _⟩
  · rcases r.mode
    · exact ⟨_, _, Changes.removing hown rfl (Nat.zero_add _) rfl⟩
    · exact ⟨_, _, Changes.entombing hown rfl⟩

theorem changed_of_add (l : Ledger) (a : Artifact) :
    Changed l (.add a) (answering (fun _ => .added) ((add a).run l)) := by
  rw [run_add]
  rcases a.validate with e | _
  · exact ⟨_, _, changes_of_error _⟩
  · rcases hfound : l.find? a.tenant a.artifact with _ | old
    · exact ⟨_, _, Changes.adding hfound⟩
    · exact ⟨_, _, changes_of_error _⟩

theorem changed_of_read (l : Ledger) (tenant artifact : String) :
    Changed l (.read tenant artifact) (answering .found (l.read tenant artifact, l)) := by
  rcases l.read tenant artifact with e | a
  · exact ⟨_, _, changes_of_error _⟩
  · exact ⟨_, _, Changes.same rfl⟩

theorem changed_of_call (l : Ledger) (c : Call) : Changed l c (l.call c) := by
  rw [call_eq]
  cases c with
  | add a => exact changed_of_add l a
  | sweep p now => exact changed_of_sweep rfl now
  | sweepDetailed p now => exact changed_of_sweepDetailed rfl now
  | sweepResolved source tenant now =>
    simp only [run_sweepResolved]
    rcases hsource : source tenant with e | p
    · -- without a policy no tenant is swept
      exact ⟨_, _, changes_of_error _⟩
    · apply changed_of_sweepDetailed
      simp only [Call.tenant, hsource]
  | delete r => exact changed_of_delete l r
  | read tenant artifact => exact changed_of_read l tenant artifact

/-! ## One step -/

namespace Changes

variable {l after : Ledger} {c : Call} {answer : Outcome Answer}
  {left : Artifact → Option Artifact} {new : List Artifact}

/-- What is left of an artifact differs from it in its state at most. -/
theorem entomb_left (h : Changes l c answer after left new) {a b : Artifact}
    (hb : left a = some b) : b.entomb = a.entomb := by
  rcases h.kept a b hb with rfl | rfl <;> rfl

theorem key_left (h : Changes l c answer after left new) {a b : Artifact} (hb : left a = some b) :
    b.key = a.key := by
  rcases h.kept a b hb with rfl | rfl <;> rfl

theorem missing_after (h : Changes l c answer after left new) :
    missing after.artifacts l.artifacts = new := by
  have hold : missing (l.artifacts.filterMap left) l.artifacts = [] := by
    unfold missing
    rw [List.filter_eq_nil_iff]
    intro b hb
    obtain ⟨a, ha, hleft⟩ := List.mem_filterMap.1 hb
    simp only [decide_not, Bool.not_eq_true', decide_eq_false_iff_not, not_not]
    exact List.mem_map.2 ⟨a, ha, (h.key_left hleft).symm⟩
  have hnew : missing new l.artifacts = new := by
    unfold missing
    rw [List.filter_eq_self]
    intro a ha
    exact decide_eq_true (h.fresh a ha)
  unfold missing at *
  rw [h.after_eq, List.filter_append, hold, hnew, List.nil_append]

/-- Where the keys of a ledger are pairwise different, what stands under the key of an artifact
after a call is what the call left of it. -/
theorem left_of_key (h : Changes l c answer after left new)
    (hnodup : (l.artifacts.map Artifact.key).Nodup) {a b : Artifact} (ha : a ∈ l.artifacts)
    (hb : b ∈ after.artifacts) (hkey : b.key = a.key) : left a = some b := by
  rw [h.after_eq] at hb
  rcases List.mem_append.1 hb with hb | hb
  · obtain ⟨old, hold, hleft⟩ := List.mem_filterMap.1 hb
    have hsame := (h.key_left hleft).symm.trans hkey
    rwa [← List.inj_on_of_nodup_map hnodup hold ha hsame]
  · exact absurd (List.mem_map.2 ⟨a, ha, hkey.symm⟩) (h.fresh b hb)

theorem mem_of_left (h : Changes l c answer after left new) {a b : Artifact}
    (ha : a ∈ l.artifacts) (hb : left a = some b) : b ∈ after.artifacts := by
  rw [h.after_eq]
  exact List.mem_append_left _ (List.mem_filterMap.2 ⟨a, ha, hb⟩)

theorem missing_before (h : Changes l c answer after left new)
    (hnodup : (l.artifacts.map Artifact.key).Nodup) :
    missing l.artifacts after.artifacts = l.artifacts.filter fun a => (left a).isNone := by
  apply List.filter_congr
  intro a ha
  rcases hleft : left a with _ | b
  · apply decide_eq_true
    intro hkey
    obtain ⟨b, hb, hkey⟩ := List.mem_map.1 hkey
    rw [h.left_of_key hnodup ha hb hkey] at hleft
    cases hleft
  · apply decide_eq_false
    rw [not_not]
    exact List.mem_map.2 ⟨b, h.mem_of_left ha hleft, h.key_left hleft⟩

theorem mem_entombed_iff (h : Changes l c answer after left new)
    (hnodup : (l.artifacts.map Artifact.key).Nodup) {a : Artifact} (ha : a ∈ l.artifacts) :
    a.entomb ∈ after.artifacts ↔ left a = some a.entomb :=
  ⟨fun hb => h.left_of_key hnodup ha hb rfl, fun hleft => h.mem_of_left ha hleft⟩

end Changes

/-- A step makes changes of its ledger, and what is added, gone and entombed is told by them. -/
theorem Step.changes {s : Step} (hnodup : (s.before.artifacts.map Artifact.key).Nodup) :
    ∃ left, Changes s.before s.call s.answer s.after left s.added ∧
      (s.gone = s.before.artifacts.filter fun a => (left a).isNone) ∧
      s.entombed = s.before.artifacts.filter fun a => a.isActive && left a = some a.entomb := by
  obtain ⟨left, new, h⟩ := changed_of_call s.before s.call
  have hadded : s.added = new := h.missing_after
  rw [hadded]
  refine ⟨left, h, h.missing_before hnodup, ?_⟩
  apply List.filter_congr
  intro a ha
  have htomb : a.entomb ∈ s.after.artifacts ↔ left a = some a.entomb := h.mem_entombed_iff hnodup ha
  rw [decide_eq_decide.2 htomb]

/-- What holds of a step. It counts what it added, what it removed and what it entombed, and all
of this is of the tenant of its call. A deletion counts everything that it matched as removed, or
removes nothing and counts no more as unreadable than it matched. -/
structure Step.Counted (s : Step) : Prop where
  added : s.added.length = (tally s.answer).added
  gone : s.gone.length = (tally s.answer).swept + (tally s.answer).hardDeleted
  entombed : s.entombed.length = (tally s.answer).inaccessible
  own : ∀ a, a ∈ s.added ∨ a ∈ s.gone ∨ a ∈ s.entombed → a.tenant = s.call.tenant
  deletion : ∀ q r, s.call = .delete q → s.answer = .ok (.deleted r) → r.mode = some q.mode ∧
    (q.mode = .hardDelete → r.deleted = r.matched) ∧
    (q.mode = .cryptoInaccessible → r.inaccessible ≤ r.matched ∧ r.deleted = 0)

theorem counts_of_delete {l : Ledger} {q : DeletionRequest} {r : DeletionResult}
    (h : (l.call (.delete q)).1 = .ok (.deleted r)) : r.mode = some q.mode ∧
      (q.mode = .hardDelete → r.deleted = r.matched) ∧
      (q.mode = .cryptoInaccessible → r.inaccessible ≤ r.matched ∧ r.deleted = 0) := by
  rw [call_eq] at h
  simp only [run_delete] at h
  rcases hvalid : q.validate with e | _
  · simp only [hvalid] at h
    cases h
  · rcases hmode : q.mode
    · simp only [hvalid, hmode] at h
      cases h
      exact ⟨rfl, fun _ => rfl, nofun⟩
    · simp only [hvalid, hmode] at h
      cases h
      exact ⟨rfl, nofun, fun _ => ⟨List.length_filter_le .., rfl⟩⟩

theorem Step.counted {s : Step} (hnodup : (s.before.artifacts.map Artifact.key).Nodup) :
    s.Counted := by
  obtain ⟨left, h, hgone, hentombed⟩ := s.changes hnodup
  constructor
  case added => exact h.added.symm
  case gone =>
    rw [hgone, ← List.countP_eq_length_filter]
    exact h.removed.symm
  case entombed =>
    rw [hentombed, ← List.countP_eq_length_filter]
    exact h.entombed.symm
  case own =>
    rintro a (ha | ha | ha)
    · exact h.newOwn a ha
    · rw [hgone] at ha
      apply h.own a
      intro hleft
      have hnone := (List.mem_filter.1 ha).2
      rw [hleft] at hnone
      cases hnone
    · rw [hentombed] at ha
      apply h.own a
      intro hleft
      have htomb := (List.mem_filter.1 ha).2
      simp only [hleft, Bool.and_eq_true, decide_eq_true_eq, Option.some.injEq] at htomb
      exact Changes.ne_entomb htomb.1 htomb.2
  case deletion =>
    intro q r hcall hanswer
    apply counts_of_delete (l := s.before)
    rw [← hcall]
    exact hanswer

/-! ## Nothing is lost -/

theorem map_entomb_filterMap {left : Artifact → Option Artifact}
    (h : ∀ a b, left a = some b → b.entomb = a.entomb) (as : List Artifact) :
    (as.filterMap left).map Artifact.entomb =
      (as.filter fun a => (left a).isSome).map Artifact.entomb := by
  induction as with
  | nil => rfl
  | cons a as ih =>
    rcases hleft : left a with _ | b
    · simp [hleft, ih]
    · simp [hleft, ih, h a b hleft]

/-- What a step adds and finds is what it leaves and removes, but for the states. -/
theorem Step.conserves {s : Step} (hnodup : (s.before.artifacts.map Artifact.key).Nodup) :
    ((s.added ++ s.before.artifacts).map Artifact.entomb).Perm
      ((s.after.artifacts ++ s.gone).map Artifact.entomb) := by
  obtain ⟨left, h, hgone, -⟩ := s.changes hnodup
  have hsplit : (s.before.artifacts.filter (fun a => (left a).isSome) ++ s.gone).Perm
      s.before.artifacts := by
    rw [hgone]
    simpa using List.filter_append_perm (fun a => (left a).isSome) s.before.artifacts
  -- each artifact is counted on both sides, with its state left out
  rw [List.perm_iff_count]
  intro a
  have hcount := (hsplit.map Artifact.entomb).count_eq a
  simp only [h.after_eq, List.map_append, List.count_append,
    map_entomb_filterMap (fun _ _ => h.entomb_left)] at hcount ⊢
  omega

/-! ## Sums over steps -/

/-- What the answers of some steps count. -/
def total (count : Tally → Nat) (ss : List Step) : Nat :=
  (ss.map fun s => count (tally s.answer)).sum

/-- The steps that are addressed to a tenant that passes a test. -/
def addressed (test : String → Bool) (ss : List Step) : List Step :=
  ss.filter fun s => test s.call.tenant

theorem total_add (f g : Tally → Nat) (ss : List Step) :
    total (fun t => f t + g t) ss = total f ss + total g ss := by
  unfold total
  induction ss with
  | nil => rfl
  | cons s ss ih =>
    simp only [List.map_cons, List.sum_cons, ih]
    omega

/-- What steps do to the artifacts of some tenants is counted by the steps that are addressed to
these tenants. -/
theorem countP_flatMap_eq_total {part : Step → List Artifact} {count : Tally → Nat}
    {ss : List Step} (hown : ∀ s ∈ ss, ∀ a ∈ part s, a.tenant = s.call.tenant)
    (hcount : ∀ s ∈ ss, (part s).length = count (tally s.answer)) (test : String → Bool) :
    (ss.flatMap part).countP (fun a => test a.tenant) = total count (addressed test ss) := by
  unfold total addressed
  induction ss with
  | nil => rfl
  | cons s ss ih =>
    have ih := ih (fun r hr => hown r (List.mem_cons_of_mem _ hr))
      fun r hr => hcount r (List.mem_cons_of_mem _ hr)
    rw [List.flatMap_cons, List.countP_append, ih]
    have hpart : (part s).countP (fun a => test a.tenant) =
        (part s).countP fun _ => test s.call.tenant := by
      apply List.countP_congr
      intro a ha
      rw [hown s (List.mem_cons_self ..) a ha]
    rw [hpart]
    rcases htest : test s.call.tenant
    · simp [htest]
    · simp [htest, hcount s (List.mem_cons_self ..)]

/-! ## Runs -/

variable {l : Ledger} {m : Catalog}

theorem nodup_of_mem_steps (h : Catalog.Holds l m) (cs : List Call) :
    ∀ s ∈ steps l cs, (s.before.artifacts.map Artifact.key).Nodup := by
  induction cs generalizing l m with
  | nil => nofun
  | cons c cs ih =>
    intro s hs
    rcases List.mem_cons.1 hs with rfl | hs
    · exact h.nodup
    · exact ih (Catalog.call_agrees h c).2 s hs

theorem counted_of_mem_steps {cs : List Call} {s : Step} (h : s ∈ steps empty cs) : s.Counted :=
  Step.counted (nodup_of_mem_steps Catalog.holds_empty cs s h)

/-- What a run adds and finds is what it leaves and removes, but for the states. -/
theorem run_conserves {cs : List Call}
    (h : ∀ s ∈ steps l cs, (s.before.artifacts.map Artifact.key).Nodup) :
    (((steps l cs).flatMap Step.added ++ l.artifacts).map Artifact.entomb).Perm
      (((l.run cs).2.artifacts ++ (steps l cs).flatMap Step.gone).map Artifact.entomb) := by
  induction cs generalizing l with
  | nil => simp [steps, run]
  | cons c cs ih =>
    have hstep := Step.conserves (h ⟨l, c⟩ (List.mem_cons_self ..))
    have hrest := ih fun s hs => h s (List.mem_cons_of_mem _ hs)
    -- what the first call leaves cancels out of the two counts
    rw [List.perm_iff_count] at hstep hrest ⊢
    intro a
    have hstep := hstep a
    have hrest := hrest a
    simp only [steps, run, Step.after, List.flatMap_cons, List.map_append,
      List.count_append] at hstep hrest ⊢
    omega

theorem added_perm (cs : List Call) :
    (((steps empty cs).flatMap Step.added).map Artifact.entomb).Perm
      (((empty.run cs).2.artifacts ++ (steps empty cs).flatMap Step.gone).map Artifact.entomb) := by
  have hperm := run_conserves (nodup_of_mem_steps Catalog.holds_empty cs)
  have hempty : empty.artifacts = [] := rfl
  rw [hempty, List.append_nil] at hperm
  exact hperm

/-- Additions are balanced: what they counted is what is stored, what sweeps counted and what
hard deletions counted. -/
def Balanced (ss : List Step) (stored : List Artifact) : Prop :=
  total Tally.added ss = stored.length + total Tally.swept ss + total Tally.hardDeleted ss

theorem balanced_of_run (cs : List Call) (test : String → Bool) :
    Balanced (addressed test (steps empty cs))
      ((empty.run cs).2.artifacts.filter fun a => test a.tenant) := by
  have hadded : ((steps empty cs).flatMap Step.added).countP (fun a => test a.tenant) =
      total Tally.added (addressed test (steps empty cs)) :=
    countP_flatMap_eq_total (fun s hs a ha => (counted_of_mem_steps hs).own a (.inl ha))
      (fun s hs => (counted_of_mem_steps hs).added) test
  have hgone : ((steps empty cs).flatMap Step.gone).countP (fun a => test a.tenant) =
      total (fun t => t.swept + t.hardDeleted) (addressed test (steps empty cs)) :=
    countP_flatMap_eq_total (fun s hs a ha => (counted_of_mem_steps hs).own a (.inr (.inl ha)))
      (fun s hs => (counted_of_mem_steps hs).gone) test
  have hperm := (added_perm cs).countP_eq fun a => test a.tenant
  have htenant : (fun a : Artifact => test a.tenant) ∘ Artifact.entomb = fun a => test a.tenant :=
    rfl
  rw [List.countP_map, List.countP_map, htenant, List.countP_append, hadded, hgone, total_add,
    List.countP_eq_length_filter] at hperm
  unfold Balanced
  omega

/-- Every artifact is accounted for, however the calls of clients follow each other. Of any run
from the empty ledger, and so at any point of it: each step counts what it does; what was ever
added is what is stored or gone at one step, but for the states; the counts of additions balance
with what is stored and the counts of removals, over all tenants and for each; and the counts of
artifacts made unreadable add up to those that became tombstones. -/
theorem every_artifact_is_accounted_for (calls : List Call) :
    let l := (empty.run calls).2
    let ss := steps empty calls
    ss.map Step.answer = (empty.run calls).1 ∧ (∀ s ∈ ss, s.Counted) ∧
      ((ss.flatMap Step.added).map Artifact.entomb).Perm
        ((l.artifacts ++ ss.flatMap Step.gone).map Artifact.entomb) ∧
      Balanced ss l.artifacts ∧
      (∀ t, Balanced (addressed (· == t) ss) (l.ofTenant t)) ∧
      total Tally.inaccessible ss = (ss.flatMap Step.entombed).length := by
  intro l ss
  have hall (ss : List Step) : addressed (fun _ => true) ss = ss := List.filter_true ss
  refine ⟨answers_of_steps empty calls, fun s hs => counted_of_mem_steps hs, added_perm calls, ?_,
    fun t => balanced_of_run calls (· == t), ?_⟩
  · have hbalanced := balanced_of_run calls fun _ => true
    rw [hall, List.filter_true] at hbalanced
    exact hbalanced
  · have hentombed : (ss.flatMap Step.entombed).countP (fun _ => true) =
        total Tally.inaccessible (addressed (fun _ => true) ss) :=
      countP_flatMap_eq_total
        (fun s hs a ha => (counted_of_mem_steps hs).own a (.inr (.inr ha)))
        (fun s hs => (counted_of_mem_steps hs).entombed) fun _ => true
    rw [hall, List.countP_true] at hentombed
    exact hentombed.symm

end ReplayEvidence.Ledger
