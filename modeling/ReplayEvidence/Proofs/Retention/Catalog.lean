-- The laws of the ledger as a map. A catalog keeps artifacts under tenant and
-- id, in the order in which they came, and every call on the ledger answers
-- what the same call on the catalog answers, after any calls before it.
import ReplayEvidence.Proofs.Retention.LostByClass

namespace ReplayEvidence

/-- Artifacts under tenant and id, in the order in which they came. -/
abbrev Catalog := Keyed (String × String) Artifact

namespace Catalog

/-! ## Calls on a catalog -/

/-- A valid artifact goes in under a new key. -/
def add (m : Catalog) (a : Artifact) : Except LedgerError Catalog :=
  match a.validate with
  | .error e => .error (.validation e)
  | .ok () =>
    match m.get? a.key with
    | some _ => .error (.duplicate a.tenant a.artifact)
    | none => .ok (m.insert a.key a)

/-- What stands under a key, unless it is a tombstone. -/
def read (m : Catalog) (tenant artifact : String) : Except LedgerError Artifact :=
  match m.get? (tenant, artifact) with
  | none => .error (.notFound tenant artifact)
  | some a =>
    match a.state with
    | .active => .ok a
    | .inaccessible => .error (.inaccessible tenant artifact)

/-- Keeps every artifact but the expired ones that the sweep looks at. What goes
is counted by the size of the catalog. -/
def sweep (m : Catalog) (p : RetentionPolicy) (now : Millis) :
    Except LedgerError (SweepResult × Catalog) :=
  match p.validate with
  | .error e => .error (.validation e)
  | .ok () =>
    let after := m.keep fun a => !(a.sweptBy p && a.isExpired p now)
    let gone := m.values.length - after.values.length
    .ok (⟨p.tenant, m.values.countP (Artifact.sweptBy p), gone, gone⟩, after)

/-- The artifacts of a tenant. -/
def ofTenant (m : Catalog) (tenant : String) : List Artifact :=
  m.values.filter fun a => a.tenant == tenant

/-- Sweeps, and counts by payload class the fingerprints of the tenant that are
gone. -/
def sweepDetailed (m : Catalog) (p : RetentionPolicy) (now : Millis) :
    Except LedgerError (SweepReport × Catalog) :=
  (m.sweep p now).map fun (result, after) =>
    let gone := Ledger.goneCount (m.ofTenant p.tenant) (ofTenant after p.tenant)
    (⟨result, .counting gone⟩, after)

/-- Removes what lies in the scope, or turns what is active there into
tombstones. -/
def delete (m : Catalog) (r : DeletionRequest) :
    Except LedgerError (DeletionResult × Catalog) :=
  match r.validate with
  | .error e => .error (.validation e)
  | .ok () =>
    let matched := m.values.countP r.scope.covers
    match r.mode with
    | .hardDelete =>
      let after := m.keep fun a => !r.scope.covers a
      .ok (⟨some .hardDelete, matched, m.values.length - after.values.length, 0⟩, after)
    | .cryptoInaccessible =>
      let flips (a : Artifact) := r.scope.covers a && a.isActive
      .ok (⟨some .cryptoInaccessible, matched, 0, m.values.countP flips⟩,
        m.mapValues fun a => if flips a then { a with state := .inaccessible } else a)

/-- An answer beside the catalog after the call. A call that fails changes
nothing. -/
def settle {α : Type} (m : Catalog) (answer : α → Ledger.Answer) :
    Except LedgerError (α × Catalog) → Except LedgerError Ledger.Answer × Catalog
  | .ok (a, after) => (.ok (answer a), after)
  | .error e => (.error e, m)

def call (m : Catalog) : Ledger.Call → Except LedgerError Ledger.Answer × Catalog
  | .add a => m.settle (fun _ => .added) ((m.add a).map fun after => ((), after))
  | .sweep p now => m.settle .swept (m.sweep p now)
  | .sweepDetailed p now => m.settle .sweptDetailed (m.sweepDetailed p now)
  | .sweepResolved source tenant now =>
    match source tenant with
    | .error e => (.error (.policy e), m)
    | .ok p => m.settle .sweptDetailed (m.sweepDetailed p now)
  | .delete r => m.settle .deleted (m.delete r)
  | .read tenant artifact => m.settle .found ((m.read tenant artifact).map fun a => (a, m))

def run : Catalog → List Ledger.Call → List (Except LedgerError Ledger.Answer) × Catalog
  | m, [] => ([], m)
  | m, c :: cs =>
    let (answer, after) := call m c
    let (answers, last) := run after cs
    (answer :: answers, last)

/-! ## A ledger and its catalog -/

/-- A ledger holds what a catalog does: the same artifacts in the same order,
each under its own key, and all of them valid. -/
structure Holds (l : Ledger) (m : Catalog) : Prop where
  entries : m.entries = l.artifacts.map fun a => (a.key, a)
  valid : ∀ a ∈ l.artifacts, a.validate = .ok ()

theorem holds_empty : Holds .empty .empty := ⟨rfl, nofun⟩

theorem Holds.values {l : Ledger} {m : Catalog} (h : Holds l m) : m.values = l.artifacts := by
  simp [Keyed.values, h.entries, Function.comp_def]

/-- The keys of a catalog are pairwise different, so those of the ledger are. -/
theorem Holds.nodup {l : Ledger} {m : Catalog} (h : Holds l m) :
    (l.artifacts.map Artifact.key).Nodup := by
  have hm := m.nodup
  rw [h.entries, List.map_map] at hm
  exact hm

/-- Looking for the first artifact of the ledger is looking up its key. -/
theorem Holds.find? {l : Ledger} {m : Catalog} (h : Holds l m) (tenant artifact : String) :
    l.find? tenant artifact = m.get? (tenant, artifact) := by
  have htest (a : Artifact) :
      (a.tenant == tenant && a.artifact == artifact) = decide (a.key = (tenant, artifact)) := by
    rw [Bool.eq_iff_iff]
    simp [Artifact.key]
  unfold Ledger.find? Keyed.get?
  rw [h.entries, List.find?_map, Option.map_map]
  simp [Function.comp_def, htest]

theorem Holds.keep {l : Ledger} {m : Catalog} (h : Holds l m) (test : Artifact → Bool) :
    Holds ⟨l.artifacts.filter test⟩ (m.keep test) := by
  refine ⟨?_, fun a ha => h.valid a (List.mem_filter.1 ha).1⟩
  simp only [Keyed.keep, h.entries, List.filter_map]
  rfl

theorem Holds.mapValues {l : Ledger} {m : Catalog} (h : Holds l m) {f : Artifact → Artifact}
    (hkey : ∀ a, (f a).key = a.key) (hvalid : ∀ a, (f a).validate = a.validate) :
    Holds ⟨l.artifacts.map f⟩ (m.mapValues f) := by
  constructor
  · simp [Keyed.mapValues, h.entries, hkey]
  · intro b hb
    obtain ⟨a, ha, rfl⟩ := List.mem_map.1 hb
    rw [hvalid]
    exact h.valid a ha

/-- A valid artifact under a new key comes last in both. -/
theorem Holds.insert {l : Ledger} {m : Catalog} (h : Holds l m) {a : Artifact}
    (hvalid : a.validate = .ok ()) (hnew : m.get? a.key = none) :
    Holds ⟨l.artifacts ++ [a]⟩ (m.insert a.key a) := by
  constructor
  · have hput : (m.insert a.key a).entries = m.entries ++ [(a.key, a)] :=
      Keyed.put_eq_append (Keyed.get?_eq_none_iff.1 hnew)
    rw [hput, h.entries]
    simp
  · intro b hb
    rcases List.mem_append.1 hb with hb | hb
    · exact h.valid b hb
    · rw [List.mem_singleton.1 hb]
      exact hvalid

/-! ## One call -/

/-- What an operation gives and leaves of a ledger agrees with what one gives on
its catalog: both fail in the same way and the ledger is as before, or both
answer the same and leave a ledger and its catalog. -/
inductive Agrees {α : Type} (l : Ledger) :
    Ledger.Outcome α × Ledger → Except LedgerError (α × Catalog) → Prop
  | ok {a b : α} {after : Ledger} {m : Catalog} (answers : a = b) (h : Holds after m) :
    Agrees l (.ok a, after) (.ok (b, m))
  | error (e : LedgerError) : Agrees l (.error e, l) (.error e)

theorem add_agrees {l : Ledger} {m : Catalog} (h : Holds l m) (a : Artifact) :
    Agrees l ((Ledger.add a).run l) ((m.add a).map fun after => ((), after)) := by
  have hfound : l.find? a.tenant a.artifact = m.get? a.key := h.find? ..
  rw [Ledger.run_add, hfound]
  unfold add
  rcases hv : a.validate with e | _
  · exact .error _
  · rcases hg : m.get? a.key with _ | b
    · exact .ok rfl (h.insert hv hg)
    · exact .error _

theorem read_agrees {l : Ledger} {m : Catalog} (h : Holds l m) (tenant artifact : String) :
    Agrees l (l.read tenant artifact, l) ((m.read tenant artifact).map fun a => (a, m)) := by
  unfold Ledger.read read
  rw [h.find?]
  rcases m.get? (tenant, artifact) with _ | a
  · exact .error _
  · rcases hs : a.state
    · simp only [Artifact.isActive, hs]
      exact .ok rfl h
    · simp only [Artifact.isActive, hs]
      exact .error _

theorem length_filter_eq_sub (as : List Artifact) (test : Artifact → Bool) :
    (as.filter test).length = as.length - (as.filter fun a => !test a).length := by
  have := List.length_eq_length_filter_add (l := as) test
  omega

theorem sweepResult_eq {l : Ledger} {m : Catalog} (h : Holds l m) (p : RetentionPolicy)
    (now : Millis) :
    let after := m.keep fun a => !(a.sweptBy p && a.isExpired p now)
    let gone := m.values.length - after.values.length
    l.sweepResult p now = ⟨p.tenant, m.values.countP (Artifact.sweptBy p), gone, gone⟩ := by
  simp only [Ledger.sweepResult, Keyed.values_keep, h.values, List.filter_filter,
    List.countP_eq_length_filter, ← length_filter_eq_sub]
  simp only [Bool.and_comm]

theorem sweep_agrees {l : Ledger} {m : Catalog} (h : Holds l m) (p : RetentionPolicy)
    (now : Millis) : Agrees l ((Ledger.sweep p now).run l) (m.sweep p now) := by
  rw [Ledger.run_sweep]
  unfold sweep
  rcases p.validate with e | _
  · exact .error _
  · exact .ok (sweepResult_eq h p now) (h.keep _)

theorem sweepDetailed_agrees {l : Ledger} {m : Catalog} (h : Holds l m) (p : RetentionPolicy)
    (now : Millis) : Agrees l ((Ledger.sweepDetailed p now).run l) (m.sweepDetailed p now) := by
  rw [Ledger.run_sweepDetailed]
  unfold sweepDetailed sweep
  rcases p.validate with e | _
  · exact .error _
  · have hafter : Holds (l.withoutExpired p now) _ := h.keep _
    refine .ok ?_ hafter
    simp only [ofTenant, h.values, hafter.values, Ledger.lost_eq_counting, sweepResult_eq h p now]
    rfl

/-- Of a scope, a tombstone stays as it is, so only what is active changes. -/
theorem entomb_of_inactive {a : Artifact} (h : a.isActive = false) : a.entomb = a := by
  unfold Artifact.isActive at h
  unfold Artifact.entomb
  rcases a with ⟨_, _, _, _, _, _, _ | _⟩
  · simp at h
  · rfl

theorem delete_agrees {l : Ledger} {m : Catalog} (h : Holds l m) (r : DeletionRequest) :
    Agrees l ((Ledger.delete r).run l) (m.delete r) := by
  rw [Ledger.run_delete]
  unfold delete
  rcases r.validate with e | _
  · exact .error _
  · rcases r.mode
    · refine .ok ?_ (h.keep _)
      rw [Keyed.values_keep, h.values, List.countP_eq_length_filter, ← length_filter_eq_sub]
    · -- the ledger entombs a tombstone again where the catalog passes it over
      have hflips : (l.artifacts.map fun a => if r.scope.covers a then a.entomb else a) =
          l.artifacts.map fun a => if r.scope.covers a && a.isActive then a.entomb else a := by
        apply List.map_congr_left
        intro a _
        rcases hc : r.scope.covers a
        · rfl
        · rcases ha : a.isActive
          · simp [entomb_of_inactive ha]
          · rfl
      have hafter : Holds ⟨l.artifacts.map fun a => if r.scope.covers a then a.entomb else a⟩
          (m.mapValues fun a => if r.scope.covers a && a.isActive then a.entomb else a) := by
        rw [hflips]
        apply h.mapValues
        · intro a
          split <;> rfl
        · intro a
          split <;> rfl
      refine .ok ?_ hafter
      simp only [h.values, List.countP_eq_length_filter, List.filter_filter, Bool.and_comm]

theorem settle_agrees {α : Type} {l : Ledger} {m : Catalog} (h : Holds l m)
    (answer : α → Ledger.Answer) {x : Ledger.Outcome α × Ledger}
    {y : Except LedgerError (α × Catalog)} (hxy : Agrees l x y) :
    x.1.map answer = (m.settle answer y).1 ∧ Holds x.2 (m.settle answer y).2 := by
  cases hxy with
  | ok hanswer hafter => exact ⟨by rw [hanswer]; rfl, hafter⟩
  | error e => exact ⟨rfl, h⟩

/-- Each call answers the same on a ledger and on its catalog, and leaves a
ledger and its catalog. -/
theorem call_agrees {l : Ledger} {m : Catalog} (h : Holds l m) (c : Ledger.Call) :
    (l.call c).1 = (call m c).1 ∧ Holds (l.call c).2 (call m c).2 := by
  rw [Ledger.call_eq]
  cases c with
  | add a => exact settle_agrees h _ (add_agrees h a)
  | sweep p now => exact settle_agrees h _ (sweep_agrees h p now)
  | sweepDetailed p now => exact settle_agrees h _ (sweepDetailed_agrees h p now)
  | sweepResolved source tenant now =>
    simp only [Ledger.run_sweepResolved, call]
    rcases source tenant with e | p
    · exact ⟨rfl, h⟩
    · exact settle_agrees h _ (sweepDetailed_agrees h p now)
  | delete r => exact settle_agrees h _ (delete_agrees h r)
  | read tenant artifact => exact settle_agrees h _ (read_agrees h tenant artifact)

/-! ## Runs -/

theorem run_agrees {l : Ledger} {m : Catalog} (h : Holds l m) (cs : List Ledger.Call) :
    (l.run cs).1 = (run m cs).1 ∧ Holds (l.run cs).2 (run m cs).2 := by
  induction cs generalizing l m with
  | nil => exact ⟨rfl, h⟩
  | cons c cs ih =>
    obtain ⟨hanswer, hafter⟩ := call_agrees h c
    obtain ⟨hanswers, hlast⟩ := ih hafter
    refine ⟨?_, hlast⟩
    simp only [Ledger.run, run]
    rw [hanswer, hanswers]

/-! ## Failures -/

/-- Whenever an operation fails, it leaves the ledger as it was. -/
def FailsSafely {α : Type} (op : StateM Ledger (Ledger.Outcome α)) : Prop :=
  ∀ l e, (op.run l).1 = .error e → (op.run l).2 = l

namespace FailsSafely

theorem answer {α : Type} {op : StateM Ledger (Ledger.Outcome α)} (h : FailsSafely op)
    (answer : α → Ledger.Answer) : FailsSafely (do return (← op).map answer) := by
  intro l e he
  rcases hop : (op.run l).1 with e' | a
  · exact h l e' hop
  · have hok : (op.run l).1.map answer = .error e := he
    rw [hop] at hok
    cases hok

theorem add (a : Artifact) : FailsSafely (Ledger.add a) := by
  intro l e
  rw [Ledger.run_add]
  rcases a.validate with _ | _
  · exact fun _ => rfl
  · rcases l.find? a.tenant a.artifact with _ | old
    · exact nofun
    · exact fun _ => rfl

theorem sweep (p : RetentionPolicy) (now : Millis) : FailsSafely (Ledger.sweep p now) := by
  intro l e
  rw [Ledger.run_sweep]
  rcases p.validate with _ | _
  · exact fun _ => rfl
  · exact nofun

theorem sweepDetailed (p : RetentionPolicy) (now : Millis) :
    FailsSafely (Ledger.sweepDetailed p now) := by
  intro l e
  rw [Ledger.run_sweepDetailed]
  rcases p.validate with _ | _
  · exact fun _ => rfl
  · exact nofun

theorem sweepResolved (source : PolicySource) (tenant : String) (now : Millis) :
    FailsSafely (Ledger.sweepResolved source tenant now) := by
  intro l e
  rw [Ledger.run_sweepResolved]
  rcases source tenant with _ | p
  · exact fun _ => rfl
  · exact sweepDetailed p now l e

theorem delete (r : DeletionRequest) : FailsSafely (Ledger.delete r) := by
  intro l e
  rw [Ledger.run_delete]
  rcases r.validate with _ | _
  · exact fun _ => rfl
  · rcases r.mode <;> exact nofun

end FailsSafely

theorem call_of_error {l : Ledger} {c : Ledger.Call} {e : LedgerError}
    (h : (l.call c).1 = .error e) : (l.call c).2 = l := by
  cases c with
  | add a => exact (FailsSafely.add a).answer _ l e h
  | sweep p now => exact (FailsSafely.sweep p now).answer _ l e h
  | sweepDetailed p now => exact (FailsSafely.sweepDetailed p now).answer _ l e h
  | sweepResolved source tenant now =>
    exact (FailsSafely.sweepResolved source tenant now).answer _ l e h
  | delete r => exact (FailsSafely.delete r).answer _ l e h
  | read tenant artifact => rfl

/-- Every run of calls from the empty ledger is a run of the same calls on the
empty catalog: each call answers what the catalog answers, and the ledger holds
the artifacts of the catalog in its order. No two of them share tenant and id,
all of them are valid, and a further call that fails changes nothing. -/
theorem every_run_is_a_run_of_the_catalog (cs : List Ledger.Call) :
    let l := (Ledger.empty.run cs).2
    let m := (run .empty cs).2
    (Ledger.empty.run cs).1 = (run .empty cs).1 ∧ l.artifacts = m.values ∧
      (l.artifacts.map Artifact.key).Nodup ∧ (∀ a ∈ l.artifacts, a.validate = .ok ()) ∧
      ∀ c e, (l.call c).1 = .error e → (l.call c).2 = l := by
  obtain ⟨hanswers, hlast⟩ := run_agrees holds_empty cs
  exact ⟨hanswers, hlast.values.symm, hlast.nodup, hlast.valid, fun _ _ h => call_of_error h⟩

end Catalog

end ReplayEvidence
