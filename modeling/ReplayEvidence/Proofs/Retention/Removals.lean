-- Sweeps and hard deletions in any order. Each of them takes the artifacts that pass a test of
-- its own, whatever was removed before, so a row of them leaves what passes none of the tests
-- and counts the rest. Artifacts only get older: a later sweep takes what an earlier one by the
-- same policy would have taken.
import ReplayEvidence.Proofs.Retention.Conservation

namespace ReplayEvidence

theorem Artifact.isExpired_of_le {p : RetentionPolicy} {a : Artifact} {earlier later : Millis}
    (h : a.isExpired p earlier = true) (hle : earlier ≤ later) : a.isExpired p later = true := by
  simp only [isExpired, Bool.and_eq_true, decide_eq_true_eq] at h ⊢
  have hage := Millis.age_le_age hle a.recordedAt
  exact ⟨Int64.le_trans h.1 hage, Int64.lt_of_lt_of_le h.2 hage⟩

namespace Ledger

/-! ## One removal -/

/-- The calls that take artifacts out of the ledger and do nothing else: sweeps by a valid policy
and valid hard deletions. -/
inductive Call.OnlyRemoves : Call → Prop
  | sweep {p : RetentionPolicy} (now : Millis) (hvalid : p.validate = .ok ()) :
    OnlyRemoves (.sweep p now)
  | hardDelete {r : DeletionRequest} (hvalid : r.validate = .ok ()) (hmode : r.mode = .hardDelete) :
    OnlyRemoves (.delete r)

/-- The artifacts that a removal takes. -/
def Call.takes : Call → Artifact → Bool
  | .sweep p now => fun a => a.sweptBy p && a.isExpired p now
  | .delete r => r.scope.covers
  | _ => fun _ => false

/-- The ledger without the artifacts that pass a test. -/
def outside (l : Ledger) (test : Artifact → Bool) : Ledger :=
  ⟨l.artifacts.filter fun a => !test a⟩

theorem length_outside (l : Ledger) (test : Artifact → Bool) :
    (l.artifacts.filter test).length + (l.outside test).artifacts.length = l.artifacts.length :=
  (List.length_eq_length_filter_add test).symm

theorem outside_eq_self {l : Ledger} {test : Artifact → Bool}
    (h : ∀ a ∈ l.artifacts, test a = false) : l.outside test = l := by
  rw [outside, List.filter_eq_self.2 fun a ha => by rw [h a ha, Bool.not_false]]

/-- How many artifacts some answers say were removed. -/
def removedCount (answers : List (Outcome Answer)) : Nat :=
  (answers.map fun answer => (tally answer).swept + (tally answer).hardDeleted).sum

theorem call_sweep (l : Ledger) {p : RetentionPolicy} (now : Millis)
    (hvalid : p.validate = .ok ()) :
    l.call (.sweep p now) =
      (.ok (.swept (l.sweepResult p now)), l.outside (Call.sweep p now).takes) := by
  simp only [call_eq, run_sweep, hvalid]
  rfl

theorem deleted_eq_length_takes (l : Ledger) (p : RetentionPolicy) (now : Millis) :
    (l.sweepResult p now).deleted = (l.artifacts.filter (Call.sweep p now).takes).length := by
  simp only [sweepResult, List.filter_filter]
  congr 2
  funext a
  exact Bool.and_comm ..

/-- A removal succeeds, leaves what it does not take, and counts the rest. -/
theorem call_of_onlyRemoves {c : Call} (h : c.OnlyRemoves) (l : Ledger) :
    ∃ answer, l.call c = (.ok answer, l.outside c.takes) ∧
      (tally (.ok answer)).swept + (tally (.ok answer)).hardDeleted =
        (l.artifacts.filter c.takes).length := by
  cases h with
  | sweep now hvalid => exact ⟨_, call_sweep l now hvalid, deleted_eq_length_takes ..⟩
  | hardDelete hvalid hmode =>
    refine ⟨_, by simp only [call_eq, run_delete, hvalid, hmode]; rfl, ?_⟩
    exact Nat.zero_add _

theorem takes_of_le {p : RetentionPolicy} {a : Artifact} {earlier later : Millis}
    (h : (Call.sweep p earlier).takes a = true) (hle : earlier ≤ later) :
    (Call.sweep p later).takes a = true := by
  simp only [Call.takes, Bool.and_eq_true] at h ⊢
  exact ⟨h.1, Artifact.isExpired_of_le h.2 hle⟩

/-! ## Removals in a row -/

/-- Whether one call of a row takes an artifact. -/
def takenBy (cs : List Call) (a : Artifact) : Bool := cs.any (·.takes a)

theorem outside_takenBy_cons (l : Ledger) (c : Call) (cs : List Call) :
    (l.outside c.takes).outside (takenBy cs) = l.outside (takenBy (c :: cs)) := by
  simp only [outside, takenBy, List.filter_filter, List.any_cons, Bool.not_or, Bool.and_comm]

/-- What comes of a row of calls that only remove. None fails, what is left is what none of them
takes, and they count the rest. -/
structure Thinned (l : Ledger) (cs : List Call) : Prop where
  succeeds : ∀ answer ∈ (l.run cs).1, answer.isOk = true
  left : (l.run cs).2 = l.outside (takenBy cs)
  counted : removedCount (l.run cs).1 + (l.run cs).2.artifacts.length = l.artifacts.length

theorem thinned_of_run {cs : List Call} (h : ∀ c ∈ cs, c.OnlyRemoves) (l : Ledger) :
    Thinned l cs := by
  induction cs generalizing l with
  | nil => exact ⟨nofun, (outside_eq_self fun _ _ => rfl).symm, Nat.zero_add _⟩
  | cons c cs ih =>
    rw [List.forall_mem_cons] at h
    obtain ⟨answer, hcall, hcount⟩ := call_of_onlyRemoves h.1 l
    obtain ⟨hsucceeds, hleft, hcounted⟩ := ih h.2 (l.outside c.takes)
    have hrun : l.run (c :: cs) =
        (.ok answer :: ((l.outside c.takes).run cs).1, ((l.outside c.takes).run cs).2) := by
      rw [run, hcall]
    constructor
    case succeeds =>
      rw [hrun, List.forall_mem_cons]
      exact ⟨rfl, hsucceeds⟩
    case left => rw [hrun, hleft, outside_takenBy_cons]
    case counted =>
      have hsplit := l.length_outside c.takes
      simp only [hrun, removedCount, List.map_cons, List.sum_cons, hcount] at hcounted ⊢
      omega

/-- Two rows that take the same leave the same and count as many. -/
theorem run_congr {cs ds : List Call} (hcs : ∀ c ∈ cs, c.OnlyRemoves)
    (hds : ∀ c ∈ ds, c.OnlyRemoves) (h : takenBy ds = takenBy cs) (l : Ledger) :
    (l.run ds).2 = (l.run cs).2 ∧ removedCount (l.run ds).1 = removedCount (l.run cs).1 := by
  obtain ⟨-, hleft, hcounted⟩ := thinned_of_run hcs l
  obtain ⟨-, hleft', hcounted'⟩ := thinned_of_run hds l
  have hsame : (l.run ds).2 = (l.run cs).2 := by rw [hleft, hleft', h]
  rw [hsame, ← hcounted] at hcounted'
  exact ⟨hsame, Nat.add_right_cancel hcounted'⟩

/-- Neither the order of the calls nor how often one is made matters to what they take. -/
theorem takenBy_congr {cs ds : List Call} (h : ∀ c, c ∈ ds ↔ c ∈ cs) : takenBy ds = takenBy cs := by
  funext a
  rw [Bool.eq_iff_iff, takenBy, takenBy, List.any_eq_true, List.any_eq_true]
  simp only [h]

/-! ## Sweeps by one policy -/

/-- The last sweep in time takes all that any of them takes. -/
theorem takenBy_sweeps {p : RetentionPolicy} {times : List Millis} {last : Millis}
    (hlast : last ∈ times) (hle : ∀ t ∈ times, t ≤ last) :
    takenBy (times.map (.sweep p)) = takenBy [.sweep p last] := by
  funext a
  rw [Bool.eq_iff_iff, takenBy, takenBy, List.any_map, List.any_eq_true, List.any_eq_true]
  constructor
  · rintro ⟨t, ht, htakes⟩
    exact ⟨_, List.mem_singleton_self _, takes_of_le htakes (hle t ht)⟩
  · rintro ⟨c, hc, htakes⟩
    obtain rfl := List.mem_singleton.1 hc
    exact ⟨last, hlast, htakes⟩

theorem onlyRemoves_sweeps {p : RetentionPolicy} (hvalid : p.validate = .ok ())
    (times : List Millis) : ∀ c ∈ times.map (Call.sweep p), c.OnlyRemoves := by
  intro c hc
  obtain ⟨t, -, rfl⟩ := List.mem_map.1 hc
  exact .sweep t hvalid

theorem run_sweeps_of_invalid {p : RetentionPolicy} {e : ValidationError}
    (hinvalid : p.validate = .error e) (l : Ledger) (times : List Millis) :
    (l.run (times.map (.sweep p))).2 = l ∧ removedCount (l.run (times.map (.sweep p))).1 = 0 := by
  induction times with
  | nil => exact ⟨rfl, rfl⟩
  | cons now times ih =>
    have hcall : l.call (.sweep p now) = (.error (.validation e), l) := by
      simp only [call_eq, run_sweep, hinvalid]
      rfl
    rw [List.map_cons, run, hcall]
    exact ⟨ih.1, (Nat.zero_add _).trans ih.2⟩

/-- Sweeps by one policy come to what the last of them in time comes to. -/
theorem run_sweeps (l : Ledger) (p : RetentionPolicy) {times : List Millis} {last : Millis}
    (hlast : last ∈ times) (hle : ∀ t ∈ times, t ≤ last) :
    (l.run (times.map (.sweep p))).2 = (l.run [.sweep p last]).2 ∧
      removedCount (l.run (times.map (.sweep p))).1 =
        removedCount (l.run [.sweep p last]).1 := by
  rcases hvalid : p.validate with e | _
  · obtain ⟨hleft, hcounted⟩ := run_sweeps_of_invalid hvalid l times
    obtain ⟨hleft', hcounted'⟩ := run_sweeps_of_invalid hvalid l [last]
    exact ⟨hleft.trans hleft'.symm, hcounted.trans hcounted'.symm⟩
  · exact run_congr (onlyRemoves_sweeps hvalid [last]) (onlyRemoves_sweeps hvalid times)
      (takenBy_sweeps hlast hle) l

/-- No earlier sweep by the policy of a sweep in the row takes what the row leaves. -/
theorem takes_eq_false_of_left {l : Ledger} {cs : List Call} (h : ∀ c ∈ cs, c.OnlyRemoves)
    {p : RetentionPolicy} {now earlier : Millis} (hmem : .sweep p now ∈ cs) (hle : earlier ≤ now)
    {a : Artifact} (ha : a ∈ (l.run cs).2.artifacts) : (Call.sweep p earlier).takes a = false := by
  rw [(thinned_of_run h l).left] at ha
  rw [Bool.eq_false_iff]
  intro htakes
  have htaken : takenBy cs a = true := List.any_eq_true.2 ⟨_, hmem, takes_of_le htakes hle⟩
  have hleft := (List.mem_filter.1 ha).2
  rw [htaken] at hleft
  cases hleft

/-! ## The law -/

/-- Removals do not depend on their order. On any ledger a row of sweeps by valid policies and of
valid hard deletions has no failure. Called in any other order, and any number of times each, they
leave the same artifacts in the same order and count as many as removed. Sweeps by one policy come
to what a single one at the last of their times comes to, and after a sweep another one by the same
policy at no later time removes nothing. -/
theorem removals_do_not_depend_on_their_order (l : Ledger) :
    (∀ cs ds : List Call, (∀ c ∈ cs, c.OnlyRemoves) → (∀ c, c ∈ ds ↔ c ∈ cs) →
      (∀ answer ∈ (l.run cs).1, answer.isOk = true) ∧ (l.run ds).2 = (l.run cs).2 ∧
      removedCount (l.run ds).1 = removedCount (l.run cs).1) ∧
    (∀ p (times : List Millis) last, last ∈ times → (∀ t ∈ times, t ≤ last) →
      (l.run (times.map (.sweep p))).2 = (l.run [.sweep p last]).2 ∧
      removedCount (l.run (times.map (.sweep p))).1 = removedCount (l.run [.sweep p last]).1) ∧
    ∀ p now earlier (cs : List Call), (∀ c ∈ cs, c.OnlyRemoves) → .sweep p now ∈ cs →
      earlier ≤ now →
      ∃ r, (l.run cs).2.call (.sweep p earlier) = (.ok (.swept r), (l.run cs).2) ∧
        r.deleted = 0 := by
  refine ⟨?_, fun p times last hlast hle => run_sweeps l p hlast hle, ?_⟩
  · intro cs ds h hsame
    have hds : ∀ c ∈ ds, c.OnlyRemoves := fun c hc => h c ((hsame c).1 hc)
    exact ⟨(thinned_of_run h l).succeeds, run_congr h hds (takenBy_congr hsame) l⟩
  · intro p now earlier cs h hmem hle
    have hvalid : p.validate = .ok () := by
      cases h _ hmem with
      | sweep _ hvalid => exact hvalid
    have hkept (a : Artifact) (ha : a ∈ (l.run cs).2.artifacts) :
        (Call.sweep p earlier).takes a = false := takes_eq_false_of_left h hmem hle ha
    refine ⟨(l.run cs).2.sweepResult p earlier, ?_, ?_⟩
    · rw [call_sweep _ earlier hvalid, outside_eq_self hkept]
    · rw [deleted_eq_length_takes, List.length_eq_zero_iff, List.filter_eq_nil_iff]
      exact fun a ha => Bool.eq_false_iff.1 (hkept a ha)

/-- Two old artifacts of one tenant and one of another, and one that is newer than a sweep. -/
def shelf : Ledger :=
  ⟨[⟨"rec-1", "tenant-a", "sess-1", some "turn-1", .textRaw, 1000, .active⟩,
    ⟨"rec-2", "tenant-a", "sess-1", none, .pii, 1000, .active⟩,
    ⟨"rec-1", "tenant-b", "sess-1", none, .phi, 1000, .active⟩,
    ⟨"rec-3", "tenant-a", "sess-2", none, .textRaw, 2000 * Millis.day, .active⟩]⟩

/-- A deletion of a session of one tenant, a sweep of that tenant and a sweep of the other. -/
def clearings : List Call :=
  [.delete ⟨.ofSession "tenant-a" "sess-1", .hardDelete, "operator", 2000⟩,
    .sweep (.conservative "tenant-a") (1000 * Millis.day),
    .sweep (.conservative "tenant-b") (1000 * Millis.day)]

theorem clearings_made_twice_leave_the_newest_artifact :
    (shelf.run (clearings.reverse ++ clearings)).2.artifacts.map Artifact.key =
        [("tenant-a", "rec-3")] ∧
      removedCount (shelf.run (clearings.reverse ++ clearings)).1 = 3 ∧
      (shelf.run [.sweep (.conservative "tenant-a") (1000 * Millis.day),
        .sweep (.conservative "tenant-a") 0]).2 =
          (shelf.run [.sweep (.conservative "tenant-a") (1000 * Millis.day)]).2 ∧
      ∃ r, (shelf.run clearings).2.call (.sweep (.conservative "tenant-b") 0) =
        (.ok (.swept r), (shelf.run clearings).2) ∧ r.deleted = 0 := by
  obtain ⟨horder, hsweeps, hagain⟩ := removals_do_not_depend_on_their_order shelf
  have hremoves : ∀ c ∈ clearings, c.OnlyRemoves := by
    simp only [clearings, List.forall_mem_cons]
    exact ⟨.hardDelete rfl rfl, .sweep _ rfl, .sweep _ rfl, nofun⟩
  obtain ⟨-, hleft, hcount⟩ :=
    horder clearings (clearings.reverse ++ clearings) hremoves (by simp)
  refine ⟨by rw [hleft]; decide, by rw [hcount]; decide, ?_, ?_⟩
  · have hle : ∀ t ∈ [1000 * Millis.day, 0], t ≤ 1000 * Millis.day := by
      simp only [List.forall_mem_cons]
      exact ⟨by decide, by decide, nofun⟩
    exact (hsweeps _ _ _ (List.mem_cons_self ..) hle).1
  · exact hagain _ (1000 * Millis.day) 0 clearings hremoves (by simp [clearings]) (by decide)

end Ledger

end ReplayEvidence
