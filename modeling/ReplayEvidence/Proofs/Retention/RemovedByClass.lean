-- The law of detailed sweeps. As long as no two artifacts of the tenant have one
-- fingerprint, the fingerprints that are gone are the artifacts that were removed, so
-- the report counts these by payload class, in whatever order it goes through them.
import Mathlib
import ReplayEvidence.Proofs.Retention.Catalog
import ReplayEvidence.Proofs.Retention.Imprints
import ReplayEvidence.Proofs.Retention.Tenants

namespace ReplayEvidence

/-! ## Sums of counts -/

namespace ClassCounts

theorem foldl_tally_perm {ps qs : List PayloadClass} (h : ps.Perm qs) :
    ps.foldl tally empty = qs.foldl tally empty := by
  rw [foldl_tally, foldl_tally]
  simp only [h.count_eq]

/-- The counts that are there add up to all counts, since the others are 0. -/
theorem sum_entries_counting (count : PayloadClass → Nat) :
    ((counting count).entries.map Prod.snd).sum =
      ((Named.all : List PayloadClass).map count).sum := by
  unfold entries
  generalize (Named.all : List PayloadClass) = ps
  induction ps with
  | nil => rfl
  | cons p ps ih =>
    rw [List.filterMap_cons, List.map_cons, List.sum_cons, get?_counting]
    by_cases h : count p = 0
    · rw [if_pos h, h, Nat.zero_add, ← ih]
      rfl
    · rw [if_neg h, ← ih]
      rfl

/-- Every artifact is of one payload class. -/
theorem sum_countP_payload (as : List Artifact) :
    ((Named.all : List PayloadClass).map fun p => as.countP fun a => a.payload = p).sum =
      as.length := by
  induction as with
  | nil => rfl
  | cons a as ih =>
    -- just one of the counts goes up by one
    rw [List.length_cons, ← ih]
    simp only [List.countP_cons, Named.all, List.map_cons, List.map_nil, List.sum_cons,
      List.sum_nil]
    cases a.payload <;> simp <;> omega

end ClassCounts

/-! ## Artifacts that are removed -/

namespace Ledger

/-- The artifacts of one list that are not in another. -/
def removed (before after : List Artifact) : List Artifact := before.filter fun a => a ∉ after

theorem removed_filter (as : List Artifact) (test : Artifact → Bool) :
    removed as (as.filter test) = as.filter fun a => !test a := by
  unfold removed
  apply List.filter_congr
  intro a ha
  rcases htest : test a <;> simp [ha, htest]

/-- Artifacts that are told apart by their fingerprints. -/
def Distinct (as : List Artifact) : Prop :=
  ∀ a ∈ as, ∀ b ∈ as, a.fingerprint = b.fingerprint → a = b

theorem lastClass?_of_distinct {as : List Artifact} (h : Distinct as) {a : Artifact}
    (ha : a ∈ as) : lastClass? as a.fingerprint = some a.payload := by
  unfold lastClass?
  rcases hfound : as.reverse.find? fun b => b.fingerprint = a.fingerprint with _ | b
  · have hnone := List.find?_eq_none.1 hfound a (List.mem_reverse.2 ha)
    simp at hnone
  · have hb := List.mem_reverse.1 (List.mem_of_find?_eq_some hfound)
    have hprint : b.fingerprint = a.fingerprint := by simpa using List.find?_some hfound
    rw [hfound, Option.map_some, h b hb a ha hprint]

/-- The fingerprints that are gone are the artifacts that were removed. -/
theorem goneCount_of_distinct {before after : List Artifact} (h : Distinct before)
    (hnodup : before.Nodup) (hafter : after ⊆ before) (p : PayloadClass) :
    goneCount before after p = (removed before after).countP fun a => a.payload = p := by
  have hprints : (before.map Artifact.fingerprint).Nodup :=
    hnodup.map_on fun a ha b hb => h a ha b hb
  have hgone {a : Artifact} (ha : a ∈ before) :
      a.fingerprint ∈ after.map Artifact.fingerprint ↔ a ∈ after := by
    constructor
    · intro hmem
      obtain ⟨b, hb, hprint⟩ := List.mem_map.1 hmem
      rw [← h b (hafter hb) a ha hprint]
      exact hb
    · exact List.mem_map_of_mem
  unfold goneCount removed
  rw [List.dedup_eq_self.2 hprints, List.countP_map, List.countP_filter]
  apply List.countP_congr
  intro a ha
  simp only [Function.comp_apply, decide_eq_true_eq, Bool.and_eq_true, hgone ha,
    lastClass?_of_distinct h ha, Option.some.injEq]

/-! ## Sweeps -/

theorem removed_withoutExpired (l : Ledger) (p : RetentionPolicy) (now : Millis) :
    removed l.artifacts (l.withoutExpired p now).artifacts =
      l.artifacts.filter fun a => a.sweptBy p && a.isExpired p now := by
  unfold withoutExpired
  rw [removed_filter]
  simp only [Bool.not_not]

theorem removed_ofTenant (l : Ledger) (p : RetentionPolicy) (now : Millis) :
    removed (l.ofTenant p.tenant) ((l.withoutExpired p now).ofTenant p.tenant) =
      removed l.artifacts (l.withoutExpired p now).artifacts := by
  have hafter : (l.withoutExpired p now).ofTenant p.tenant =
      (l.ofTenant p.tenant).filter fun a => !(a.sweptBy p && a.isExpired p now) := by
    unfold withoutExpired ofTenant
    rw [List.filter_comm]
  rw [removed_withoutExpired, hafter, removed_filter]
  simp only [Bool.not_not]
  apply filter_ofTenant
  intro a ha
  rw [Bool.and_eq_true] at ha
  exact tenant_of_sweptBy ha.1

theorem deleted_sweepResult (l : Ledger) (p : RetentionPolicy) (now : Millis) :
    (l.sweepResult p now).deleted =
      (removed l.artifacts (l.withoutExpired p now).artifacts).length := by
  rw [removed_withoutExpired]
  unfold sweepResult
  simp only [List.filter_filter, Bool.and_comm]

/-- The hash has no collision among the imprints of these artifacts. -/
def CollisionFree (as : List Artifact) : Prop :=
  ∀ a ∈ as, ∀ b ∈ as,
    Hash.Blake3.hexDigest a.imprint = Hash.Blake3.hexDigest b.imprint → a.imprint = b.imprint

theorem distinct_of_collisionFree {as : List Artifact} (hvalid : ∀ a ∈ as, a.validate = .ok ())
    (hfits : ∀ a ∈ as, a.Fits) (h : CollisionFree as) : Distinct as := by
  intro a ha b hb hprint
  exact Artifact.imprint_inj (hvalid a ha) (hvalid b hb) (hfits a ha) (hfits b hb)
    (h a ha b hb hprint)

/-- What is lost to a sweep, when the tenant's artifacts are told apart by their
fingerprints, are the removed artifacts by payload class. -/
theorem lost_withoutExpired {l : Ledger} {p : RetentionPolicy} (now : Millis)
    (hdistinct : Distinct (l.ofTenant p.tenant)) (hnodup : l.artifacts.Nodup) :
    lost l (l.withoutExpired p now) p.tenant = .counting fun payload =>
      (removed l.artifacts (l.withoutExpired p now).artifacts).countP fun a =>
        a.payload = payload := by
  have hafter : (l.withoutExpired p now).ofTenant p.tenant ⊆ l.ofTenant p.tenant := by
    intro a ha
    unfold ofTenant withoutExpired at ha
    simp only [List.mem_filter] at ha
    exact List.mem_filter.2 ⟨ha.1.1, ha.2⟩
  rw [lost_eq_counting]
  congr 1
  funext payload
  rw [goneCount_of_distinct hdistinct (hnodup.filter _) hafter, removed_ofTenant]

/-- A detailed sweep counts what it removes. Take any ledger that calls can reach and
any valid policy and time, and let the hash have no collision among the imprints of the
tenant's artifacts, whose texts have lengths that fit. The detailed sweep leaves the
ledger and gives the result of the plain one. It reports for each payload class how many
artifacts of it were removed, nothing for a class that lost none, and these numbers add up
to the number of deleted artifacts. In whatever order the fingerprints are gone through,
the report is the same. -/
theorem a_detailed_sweep_counts_what_it_removes {calls : List Call} {p : RetentionPolicy}
    (now : Millis) (hpolicy : p.validate = .ok ())
    (hfits : ∀ a ∈ (empty.run calls).2.ofTenant p.tenant, a.Fits)
    (hfree : CollisionFree ((empty.run calls).2.ofTenant p.tenant)) :
    let l := (empty.run calls).2
    ∃ result counts after,
      (sweep p now).run l = (.ok result, after) ∧
      (sweepDetailed p now).run l = (.ok ⟨result, counts⟩, after) ∧
      (∀ payload, counts.get? payload =
        let count := (removed l.artifacts after.artifacts).countP fun a => a.payload = payload
        if count = 0 then none else some count) ∧
      (counts.entries.map Prod.snd).sum = result.deleted ∧
      ∀ es : List (String × PayloadClass), es.Perm (l.fingerprints p.tenant).entries →
        (es.filter fun e => ((after.fingerprints p.tenant).get? e.1).isNone).foldl
          (fun counts e => counts.tally e.2) .empty = counts := by
  intro l
  obtain ⟨_, hholds⟩ := Catalog.run_agrees Catalog.holds_empty calls
  have hnodup : l.artifacts.Nodup := hholds.nodup.of_map
  have hdistinct : Distinct (l.ofTenant p.tenant) := by
    apply distinct_of_collisionFree _ hfits hfree
    exact fun a ha => hholds.valid a (List.mem_filter.1 ha).1
  have hlost := lost_withoutExpired now hdistinct hnodup
  refine ⟨l.sweepResult p now, lost l (l.withoutExpired p now) p.tenant, l.withoutExpired p now,
    ?_, ?_, ?_, ?_, ?_⟩
  · rw [run_sweep, hpolicy]
  · rw [run_sweepDetailed, hpolicy]
  · intro payload
    rw [hlost, ClassCounts.get?_counting]
  · rw [hlost, ClassCounts.sum_entries_counting, ClassCounts.sum_countP_payload,
      deleted_sweepResult]
  · intro es hes
    -- a fingerprint counts by its payload class alone
    unfold lost
    rw [← List.foldl_map (f := Prod.snd) (g := ClassCounts.tally),
      ← List.foldl_map (f := Prod.snd) (g := ClassCounts.tally)]
    exact ClassCounts.foldl_tally_perm ((hes.filter _).map _)

/-- Two artifacts of a tenant that are old, one that is new, and one of another tenant. -/
def stockedCalls : List Call :=
  [.add ⟨"rec-1", "tenant-a", "sess-1", some "turn-1", .textRaw, 1000, .active⟩,
    .add ⟨"rec-2", "tenant-a", "sess-1", none, .pii, 1000, .active⟩,
    .add ⟨"rec-3", "tenant-a", "sess-2", none, .textRaw, 1000 * Millis.day, .active⟩,
    .add ⟨"rec-1", "tenant-b", "sess-1", none, .phi, 1000, .active⟩]

theorem a_late_sweep_counts_two_classes :
    let l := (empty.run stockedCalls).2
    (RetentionPolicy.conservative "tenant-a").validate = .ok () ∧
      (∀ a ∈ l.ofTenant "tenant-a", a.Fits) ∧ CollisionFree (l.ofTenant "tenant-a") ∧
      ∃ result counts after,
        (sweepDetailed (.conservative "tenant-a") (1000 * Millis.day)).run l =
          (.ok ⟨result, counts⟩, after) ∧
        result.deleted = 2 ∧ counts.get? .textRaw = some 1 ∧ counts.get? .pii = some 1 ∧
        counts.get? .phi = none := by
  intro l
  have hpolicy : (RetentionPolicy.conservative "tenant-a").validate = .ok () := rfl
  have hfits : ∀ a ∈ l.ofTenant "tenant-a", a.Fits := by
    have hsized : ∀ a ∈ l.ofTenant "tenant-a", Artifact.Sized a.artifact ∧
        Artifact.Sized a.tenant ∧ Artifact.Sized a.session ∧ Artifact.Sized (a.turn.getD "") := by
      unfold Artifact.Sized
      decide
    intro a ha
    obtain ⟨hartifact, htenant, hsession, hturn⟩ := hsized a ha
    exact ⟨hartifact, htenant, hsession, hturn⟩
  have hfree : CollisionFree (l.ofTenant "tenant-a") := by
    unfold CollisionFree
    decide +kernel
  obtain ⟨result, counts, after, hsweep, hdetailed, hcounts, _⟩ :=
    a_detailed_sweep_counts_what_it_removes (1000 * Millis.day) hpolicy hfits hfree
  cases hsweep
  refine ⟨hpolicy, hfits, hfree, _, _, _, hdetailed, rfl, ?_, ?_, ?_⟩
  · rw [hcounts]
    decide
  · rw [hcounts]
    decide
  · rw [hcounts]
    decide

end Ledger

end ReplayEvidence
