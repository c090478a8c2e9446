-- What a detailed sweep says was lost. It takes the fingerprints of a tenant
-- before and after, so it counts the fingerprints that are gone, each under
-- the payload class of the last artifact that had it.
import Mathlib.Data.List.Dedup
import Mathlib.Data.List.Perm.Basic
import ReplayEvidence.Retention.Ledger

namespace ReplayEvidence

/-! ## Counts by payload class -/

namespace ClassCounts

/-- The counts that give each payload class its number, and none to a class
whose number is 0. -/
def counting (count : PayloadClass → Nat) : ClassCounts :=
  let entry (p : PayloadClass) := if count p = 0 then none else some (count p)
  ⟨entry .metadata, entry .textRaw, entry .audioRaw, entry .derivedSummary, entry .pii, entry .phi⟩

theorem get?_counting (count : PayloadClass → Nat) (p : PayloadClass) :
    (counting count).get? p = if count p = 0 then none else some (count p) := by
  cases p <;> rfl

theorem get?_empty (p : PayloadClass) : empty.get? p = none := by
  cases p <;> rfl

theorem get?_tally (c : ClassCounts) (p q : PayloadClass) :
    (c.tally p).get? q = if p = q then some ((c.get? p).getD 0 + 1) else c.get? q := by
  cases p <;> cases q <;> rfl

theorem ext_get? {a b : ClassCounts} (h : ∀ p, a.get? p = b.get? p) : a = b := by
  cases a
  cases b
  simp only [mk.injEq]
  exact ⟨h .metadata, h .textRaw, h .audioRaw, h .derivedSummary, h .pii, h .phi⟩

theorem get?_foldl_tally (ps : List PayloadClass) (c : ClassCounts) (q : PayloadClass) :
    (ps.foldl tally c).get? q =
      if ps.count q = 0 then c.get? q else some ((c.get? q).getD 0 + ps.count q) := by
  induction ps generalizing c with
  | nil => rfl
  | cons p ps ih =>
    rw [List.foldl_cons, ih, get?_tally, List.count_cons]
    by_cases h : p = q
    · subst h
      by_cases h0 : ps.count p = 0
      · simp [h0]
      · simp [h0]
        omega
    · simp [h]

/-- Tallying a list counts how often each payload class stands in it. -/
theorem foldl_tally (ps : List PayloadClass) :
    ps.foldl tally empty = counting fun p => ps.count p := by
  apply ext_get?
  intro p
  rw [get?_foldl_tally, get?_counting, get?_empty]
  simp

end ClassCounts

/-! ## Fingerprints that are gone -/

namespace Ledger

/-- The artifacts of a tenant, in the order of the ledger. -/
def ofTenant (l : Ledger) (tenant : String) : List Artifact :=
  l.artifacts.filter fun a => a.tenant == tenant

/-- The payload class of the last artifact with a fingerprint. -/
def lastClass? (as : List Artifact) (print : String) : Option PayloadClass :=
  (as.reverse.find? fun a => a.fingerprint = print).map Artifact.payload

/-- How many fingerprints of one list are not in the other, of those whose last
artifact is of a payload class. -/
def goneCount (before after : List Artifact) (p : PayloadClass) : Nat :=
  (before.map Artifact.fingerprint).dedup.countP fun print =>
    lastClass? before print = some p ∧ print ∉ after.map Artifact.fingerprint

theorem get?_fingerprints (l : Ledger) (tenant print : String) :
    (l.fingerprints tenant).get? print = lastClass? (l.ofTenant tenant) print := by
  unfold fingerprints lastClass? ofTenant
  rw [Keyed.get?_ofList, ← List.map_reverse, List.find?_map, Option.map_map]
  simp only [Function.comp_def]

theorem mem_keys_fingerprints {l : Ledger} {tenant print : String} :
    print ∈ (l.fingerprints tenant).entries.map Prod.fst ↔
      print ∈ (l.ofTenant tenant).map Artifact.fingerprint := by
  unfold fingerprints ofTenant
  rw [Keyed.mem_keys_ofList, List.map_map]
  simp only [Function.comp_def]

/-- The keys of the fingerprints are the fingerprints of the tenant, each once. -/
theorem keys_fingerprints_perm (l : Ledger) (tenant : String) :
    ((l.fingerprints tenant).entries.map Prod.fst).Perm
      ((l.ofTenant tenant).map Artifact.fingerprint).dedup := by
  rw [List.perm_ext_iff_of_nodup (l.fingerprints tenant).nodup (List.nodup_dedup _)]
  intro print
  rw [mem_keys_fingerprints, List.mem_dedup]

/-- An entry of the fingerprints is gone afterwards under its payload class
exactly when its key is. -/
theorem gone_entry {before after : Ledger} {tenant : String} {e : String × PayloadClass}
    (h : e ∈ (before.fingerprints tenant).entries) (p : PayloadClass) :
    (((after.fingerprints tenant).get? e.1).isNone = true ∧ e.2 = p) ↔
      (lastClass? (before.ofTenant tenant) e.1 = some p ∧
        e.1 ∉ (after.ofTenant tenant).map Artifact.fingerprint) := by
  have hclass : lastClass? (before.ofTenant tenant) e.1 = some e.2 := by
    rw [← get?_fingerprints, Keyed.get?_eq_some_iff]
    exact h
  rw [Option.isNone_iff_eq_none, Keyed.get?_eq_none_iff, mem_keys_fingerprints, hclass,
    Option.some.injEq]
  exact And.comm

/-- What is lost between two ledgers, said without a map: for each payload class
the number of its fingerprints that are gone. -/
theorem lost_eq_counting (before after : Ledger) (tenant : String) :
    lost before after tenant =
      .counting (goneCount (before.ofTenant tenant) (after.ofTenant tenant)) := by
  unfold lost
  rw [← List.foldl_map (f := Prod.snd) (g := ClassCounts.tally), ClassCounts.foldl_tally]
  congr 1
  funext p
  unfold goneCount
  rw [← (keys_fingerprints_perm before tenant).countP_eq, List.countP_map, List.count_eq_countP,
    List.countP_map, List.countP_filter]
  apply List.countP_congr
  intro e he
  have h := @gone_entry before after tenant e he p
  simp only [Function.comp_apply, Bool.and_eq_true, beq_iff_eq, decide_eq_true_eq]
  rw [← h, And.comm]

end Ledger

end ReplayEvidence
