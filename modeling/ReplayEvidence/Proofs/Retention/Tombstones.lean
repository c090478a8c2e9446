-- The laws of tombstones. One call keeps a stored artifact as it is, turns it from
-- readable into a tombstone, or removes it; a tombstone is only removed by a deletion
-- that asks for it. So a tombstone stays, and nothing counts it again.
import ReplayEvidence.Proofs.Retention.Catalog

namespace ReplayEvidence

/-! ## What a call does to a stored artifact -/

/-- A valid deletion that removes an artifact. -/
def Ledger.Call.Removes (c : Ledger.Call) (a : Artifact) : Prop :=
  ∃ r, c = .delete r ∧ r.validate = .ok () ∧ r.mode = .hardDelete ∧ r.scope.covers a = true

/-- What can stand under the key of a stored artifact after a call. -/
inductive Fate (a : Artifact) (c : Ledger.Call) : Option Artifact → Prop
  | kept : Fate a c (some a)
  | entombed (active : a.state = .active) : Fate a c (some a.entomb)
  | removed (cause : a.state = .active ∨ c.Removes a) : Fate a c none

namespace Catalog

variable {m : Catalog} {key : String × String} {a : Artifact} {c : Ledger.Call}

theorem fate_keep (h : m.get? key = some a) {test : Artifact → Bool}
    (hcause : test a = false → a.state = .active ∨ c.Removes a) :
    Fate a c ((m.keep test).get? key) := by
  rw [Keyed.get?_keep, h]
  rcases htest : test a
  · simp only [Option.filter, htest]
    exact .removed (hcause htest)
  · simp only [Option.filter, htest]
    exact .kept

/-- An outcome of an operation that leaves the artifact a fate of the call. -/
def Fated {α : Type} (key : String × String) (a : Artifact) (c : Ledger.Call)
    (x : Except LedgerError (α × Catalog)) : Prop :=
  ∀ answer after, x = .ok (answer, after) → Fate a c (after.get? key)

theorem fated_error {α : Type} (e : LedgerError) :
    Fated key a c (.error e : Except LedgerError (α × Catalog)) := nofun

theorem fated_ok {α : Type} {after : Catalog} (answer : α) (h : Fate a c (after.get? key)) :
    Fated key a c (.ok (answer, after)) := by
  intro _ _ heq
  cases heq
  exact h

theorem add_fated (h : m.get? key = some a) (b : Artifact) :
    Fated key a c ((m.add b).map fun after => ((), after)) := by
  unfold add
  rcases b.validate with e | _
  · exact fated_error _
  · rcases hb : m.get? b.key with _ | old
    · -- a new key is not that of the stored artifact
      have hkey : b.key ≠ key := by
        rintro rfl
        rw [hb] at h
        cases h
      apply fated_ok
      rw [Keyed.get?_insert, if_neg hkey, h]
      exact .kept
    · exact fated_error _

theorem sweep_fated (h : m.get? key = some a) (p : RetentionPolicy) (now : Millis) :
    Fated key a c (m.sweep p now) := by
  unfold sweep
  rcases p.validate with e | _
  · exact fated_error _
  · apply fated_ok
    apply fate_keep h
    intro htest
    simp only [Bool.not_eq_false', Bool.and_eq_true, Artifact.sweptBy, Artifact.isActive,
      beq_iff_eq] at htest
    exact .inl htest.1.2

theorem sweepDetailed_fated (h : m.get? key = some a) (p : RetentionPolicy) (now : Millis) :
    Fated key a c (m.sweepDetailed p now) := by
  have hsweep := sweep_fated (c := c) h p now
  unfold sweepDetailed
  rcases hx : m.sweep p now with e | ⟨result, after⟩
  · exact fated_error _
  · exact fated_ok _ (hsweep result after hx)

theorem delete_fated (h : m.get? key = some a) (r : DeletionRequest) :
    Fated key a (.delete r) (m.delete r) := by
  unfold delete
  rcases hvalid : r.validate with e | _
  · exact fated_error _
  · rcases hmode : r.mode
    · apply fated_ok
      apply fate_keep h
      intro htest
      simp only [Bool.not_eq_false'] at htest
      exact .inr ⟨r, rfl, hvalid, hmode, htest⟩
    · apply fated_ok
      rw [Keyed.get?_mapValues, h, Option.map_some]
      split
      · next hflips =>
        simp only [Bool.and_eq_true, Artifact.isActive, beq_iff_eq] at hflips
        exact .entombed hflips.2
      · exact .kept

theorem read_fated (h : m.get? key = some a) (tenant artifact : String) :
    Fated key a c ((m.read tenant artifact).map fun b => (b, m)) := by
  rcases m.read tenant artifact with e | b
  · exact fated_error _
  · apply fated_ok
    rw [h]
    exact .kept

theorem fate_settle {α : Type} (h : m.get? key = some a) (answer : α → Ledger.Answer)
    {x : Except LedgerError (α × Catalog)} (hx : Fated key a c x) :
    Fate a c ((m.settle answer x).2.get? key) := by
  rcases x with e | ⟨b, after⟩
  · show Fate a c (m.get? key)
    rw [h]
    exact .kept
  · exact hx b after rfl

/-- One call keeps a stored artifact, entombs it when it can be read, or removes it,
and then the artifact could be read or the call is a deletion that asks for it. -/
theorem fate_of_call (h : m.get? key = some a) (c : Ledger.Call) :
    Fate a c ((call m c).2.get? key) := by
  cases c with
  | add b => exact fate_settle h _ (add_fated h b)
  | sweep p now => exact fate_settle h _ (sweep_fated h p now)
  | sweepDetailed p now => exact fate_settle h _ (sweepDetailed_fated h p now)
  | sweepResolved source tenant now =>
    simp only [call]
    rcases source tenant with e | p
    · simp only [h]
      exact .kept
    · exact fate_settle h _ (sweepDetailed_fated h p now)
  | delete r => exact fate_settle h _ (delete_fated h r)
  | read tenant artifact => exact fate_settle h _ (read_fated h tenant artifact)

/-! ## Tombstones -/

/-- A call that does not ask for its removal leaves a tombstone as it is. -/
theorem call_of_tombstone (h : m.get? key = some a) (hstate : a.state = .inaccessible)
    (hspared : ¬c.Removes a) : (call m c).2.get? key = some a := by
  have hfate := fate_of_call h c
  generalize (call m c).2.get? key = after at hfate
  cases hfate with
  | kept => rfl
  | entombed active =>
    rw [hstate] at active
    cases active
  | removed cause =>
    rcases cause with active | hremoves
    · rw [hstate] at active
      cases active
    · exact absurd hremoves hspared

theorem run_of_tombstone {cs : List Ledger.Call} (h : m.get? key = some a)
    (hstate : a.state = .inaccessible) (hspared : ∀ c ∈ cs, ¬c.Removes a) :
    (run m cs).2.get? key = some a := by
  induction cs generalizing m with
  | nil => exact h
  | cons c cs ih =>
    have hcall := call_of_tombstone h hstate (hspared c (List.mem_cons_self ..))
    exact ih hcall fun d hd => hspared d (List.mem_cons_of_mem _ hd)

/-- An artifact that is stored after each call of a run is the same at the end, or was
entombed on the way. -/
theorem run_of_stored {cs : List Ledger.Call} (h : m.get? key = some a)
    (hstored : ∀ pre, pre <+: cs → ((run m pre).2.get? key).isSome = true) :
    ∃ b, (run m cs).2.get? key = some b ∧ (b = a ∨ a.state = .active ∧ b = a.entomb) := by
  induction cs generalizing m a with
  | nil => exact ⟨a, h, .inl rfl⟩
  | cons c cs ih =>
    have hrest (pre : List Ledger.Call) (hpre : pre <+: cs) :
        ((run (call m c).2 pre).2.get? key).isSome = true :=
      hstored (c :: pre) (List.cons_prefix_cons.2 ⟨rfl, hpre⟩)
    have hnow := hrest [] (List.nil_prefix)
    have hfate := fate_of_call h c
    generalize hafter : (call m c).2.get? key = after at hfate
    cases hfate with
    | kept => exact ih hafter hrest
    | entombed active =>
      obtain ⟨b, hb, hsame⟩ := ih hafter hrest
      -- what is entombed is no longer active, so it is not entombed twice
      rcases hsame with rfl | ⟨hentombed, _⟩
      · exact ⟨_, hb, .inr ⟨active, rfl⟩⟩
      · cases hentombed
    | removed _ =>
      have hgone : ((call m c).2.get? key).isSome = true := hnow
      rw [hafter] at hgone
      cases hgone

end Catalog

/-! ## What is counted -/

/-- How many artifacts an answer says were looked at, found expired, removed and made
unreadable. -/
structure Counts where
  evaluated : Nat
  expired : Nat
  deleted : Nat
  inaccessible : Nat
deriving DecidableEq, Repr

theorem Artifact.isActive_of_inaccessible {a : Artifact} (h : a.state = .inaccessible) :
    a.isActive = false := by
  rw [isActive, h]
  rfl

namespace Ledger

/-- What an answer counts; an error, an addition and a reading count nothing. -/
def counts : Outcome Answer → Counts
  | .ok (.swept r) => ⟨r.evaluated, r.expired, r.deleted, 0⟩
  | .ok (.sweptDetailed r) => ⟨r.result.evaluated, r.result.expired, r.result.deleted, 0⟩
  | .ok (.deleted r) => ⟨0, 0, r.deleted, r.inaccessible⟩
  | _ => ⟨0, 0, 0, 0⟩

/-- The ledger as if an artifact was not in it. -/
def without (l : Ledger) (a : Artifact) : Ledger := ⟨l.artifacts.filter fun b => b ≠ a⟩

theorem filter_without {a : Artifact} {test : Artifact → Bool} (h : test a = false) (l : Ledger) :
    (l.without a).artifacts.filter test = l.artifacts.filter test := by
  unfold without
  rw [List.filter_filter]
  apply List.filter_congr
  intro b _
  by_cases hb : b = a
  · rw [hb, h, Bool.false_and]
  · simp [hb]

theorem sweepResult_without {a : Artifact} (h : a.isActive = false) (l : Ledger)
    (p : RetentionPolicy) (now : Millis) :
    (l.without a).sweepResult p now = l.sweepResult p now := by
  have hswept : a.sweptBy p = false := by
    rw [Artifact.sweptBy, h, Bool.and_false]
  unfold sweepResult
  rw [filter_without hswept]

theorem counts_sweep_without {a : Artifact} (h : a.isActive = false) (l : Ledger)
    (p : RetentionPolicy) (now : Millis) :
    counts (answering .swept ((sweep p now).run (l.without a))).1 =
      counts (answering .swept ((sweep p now).run l)).1 := by
  rw [run_sweep, run_sweep, sweepResult_without h]
  rcases p.validate with e | _ <;> rfl

theorem counts_sweepDetailed_without {a : Artifact} (h : a.isActive = false) (l : Ledger)
    (p : RetentionPolicy) (now : Millis) :
    counts (answering .sweptDetailed ((sweepDetailed p now).run (l.without a))).1 =
      counts (answering .sweptDetailed ((sweepDetailed p now).run l)).1 := by
  rw [run_sweepDetailed, run_sweepDetailed, sweepResult_without h]
  rcases p.validate with e | _ <;> rfl

theorem counts_delete_without {a : Artifact} (h : a.isActive = false) (l : Ledger)
    {r : DeletionRequest} (hspared : ¬(Call.delete r).Removes a) :
    counts (answering .deleted ((delete r).run (l.without a))).1 =
      counts (answering .deleted ((delete r).run l)).1 := by
  rw [run_delete, run_delete]
  rcases hvalid : r.validate with e | _
  · rfl
  · rcases hmode : r.mode
    · have hcovers : r.scope.covers a = false := by
        rcases hc : r.scope.covers a
        · rfl
        · exact absurd ⟨r, rfl, hvalid, hmode, hc⟩ hspared
      simp only [filter_without hcovers]
      rfl
    · have hflipped : ((l.without a).artifacts.filter fun b => b.isActive && r.scope.covers b) =
          l.artifacts.filter fun b => b.isActive && r.scope.covers b :=
        filter_without (by rw [h, Bool.false_and]) l
      simp only [answering, Except.map, counts, List.filter_filter, hflipped]

/-- A call whose answers count nothing counts nothing, whether it succeeds or fails. -/
theorem counts_answering {α : Type} {answer : α → Answer} {x : Outcome α × Ledger}
    (h : ∀ b, counts (.ok (answer b)) = ⟨0, 0, 0, 0⟩) :
    counts (answering answer x).1 = ⟨0, 0, 0, 0⟩ := by
  rcases x with ⟨e | b, after⟩
  · rfl
  · exact h b

/-- A call counts the same with and without a tombstone, unless it asks for its
removal. -/
theorem counts_without {a : Artifact} (h : a.isActive = false) (l : Ledger) {c : Call}
    (hspared : ¬c.Removes a) : counts ((l.without a).call c).1 = counts (l.call c).1 := by
  rw [call_eq, call_eq]
  cases c with
  | add b => exact (counts_answering fun _ => rfl).trans (counts_answering fun _ => rfl).symm
  | sweep p now => exact counts_sweep_without h l p now
  | sweepDetailed p now => exact counts_sweepDetailed_without h l p now
  | sweepResolved source tenant now =>
    simp only [run_sweepResolved]
    rcases source tenant with e | p
    · rfl
    · exact counts_sweepDetailed_without h l p now
  | delete r => exact counts_delete_without h l hspared
  | read tenant artifact =>
    exact (counts_answering fun _ => rfl).trans (counts_answering fun _ => rfl).symm

/-! ## Reading and adding under a tombstone's key -/

theorem read_of_tombstone {l : Ledger} {tenant artifact : String} {a : Artifact}
    (h : l.find? tenant artifact = some a) (hstate : a.state = .inaccessible) :
    l.read tenant artifact = .error (.inaccessible tenant artifact) := by
  unfold read
  simp only [h, Artifact.isActive_of_inaccessible hstate]
  rfl

theorem add_of_stored {l : Ledger} {tenant artifact : String} {a b : Artifact}
    (h : l.find? tenant artifact = some a) (hvalid : b.validate = .ok ())
    (hkey : b.key = (tenant, artifact)) :
    (add b).run l = (.error (.duplicate tenant artifact), l) := by
  obtain ⟨rfl, rfl⟩ := Prod.mk.inj hkey
  simp only [run_add, hvalid, h]

/-! ## Runs -/

/-- A tombstone stays. From any ledger that calls can reach, take any further calls
without a valid deletion that removes it: reading it answers that it is inaccessible,
adding under its key that it is a duplicate, it stands in the ledger unchanged, and any
call that does not remove it counts the same as if it was not there. And whatever is
stored after each call of a run is the same at the end, but that an active artifact may
have become a tombstone. -/
theorem a_tombstone_stays_until_it_is_removed (before : List Call) :
    let start := (empty.run before).2
    (∀ tenant artifact a cs, start.find? tenant artifact = some a → a.state = .inaccessible →
      (∀ c ∈ cs, ¬c.Removes a) →
      let l := (start.run cs).2
      l.read tenant artifact = .error (.inaccessible tenant artifact) ∧
        (∀ b, b.validate = .ok () → b.key = (tenant, artifact) →
          (add b).run l = (.error (.duplicate tenant artifact), l)) ∧
        a ∈ l.artifacts ∧
        ∀ c, ¬c.Removes a → counts (l.call c).1 = counts ((l.without a).call c).1) ∧
    ∀ tenant artifact a cs, start.find? tenant artifact = some a →
      (∀ pre, pre <+: cs → ((start.run pre).2.find? tenant artifact).isSome = true) →
      ∃ b, (start.run cs).2.find? tenant artifact = some b ∧
        (b = a ∨ a.state = .active ∧ b = a.entomb) := by
  intro start
  obtain ⟨_, hstart⟩ := Catalog.run_agrees Catalog.holds_empty before
  have hfind (cs : List Call) (tenant artifact : String) :
      (start.run cs).2.find? tenant artifact =
        (Catalog.run (Catalog.run .empty before).2 cs).2.get? (tenant, artifact) :=
    (Catalog.run_agrees hstart cs).2.find? tenant artifact
  constructor
  · intro tenant artifact a cs ha hstate hspared l
    have hfound : l.find? tenant artifact = some a := by
      rw [hfind]
      apply Catalog.run_of_tombstone _ hstate hspared
      rw [← hstart.find?, ha]
    refine ⟨read_of_tombstone hfound hstate, ?_, ?_, ?_⟩
    · exact fun b hvalid hkey => add_of_stored hfound hvalid hkey
    · exact List.mem_of_find?_eq_some hfound
    · intro c hc
      exact (counts_without (Artifact.isActive_of_inaccessible hstate) l hc).symm
  · intro tenant artifact a cs ha hstored
    simp only [hfind] at hstored ⊢
    apply Catalog.run_of_stored _ hstored
    rw [← hstart.find?, ha]

def recording : Artifact :=
  ⟨"rec-1", "tenant-a", "sess-1", some "turn-1", .textRaw, 1000, .active⟩

def sessionDeletion (session : String) (mode : DeletionMode) : DeletionRequest :=
  ⟨.ofSession "tenant-a" session, mode, "operator", 2000⟩

/-- Calls that come late and leave the session of the recording alone. -/
def lateCalls : List Call :=
  [.sweep (.conservative "tenant-a") (1000 * Millis.day), .add recording,
    .delete (sessionDeletion "sess-1" .cryptoInaccessible),
    .delete (sessionDeletion "sess-2" .hardDelete)]

theorem a_tombstone_outlives_late_calls :
    let start := (empty.run
      [.add recording, .delete (sessionDeletion "sess-1" .cryptoInaccessible)]).2
    start.find? "tenant-a" "rec-1" = some recording.entomb ∧
      recording.entomb.state = .inaccessible ∧
      (∀ c ∈ lateCalls, ¬c.Removes recording.entomb) ∧
      (start.run lateCalls).2.read "tenant-a" "rec-1" =
        .error (.inaccessible "tenant-a" "rec-1") := by
  intro start
  have hfound : start.find? "tenant-a" "rec-1" = some recording.entomb := rfl
  have hspared : ∀ c ∈ lateCalls, ¬c.Removes recording.entomb := by
    rintro c hc ⟨r, rfl, _, hmode, hcovers⟩
    simp only [lateCalls, List.mem_cons, reduceCtorEq, Call.delete.injEq, List.not_mem_nil,
      or_false, false_or] at hc
    rcases hc with rfl | rfl
    · cases hmode
    · cases hcovers
  exact ⟨hfound, rfl, hspared,
    ((a_tombstone_stays_until_it_is_removed _).1 _ _ _ _ hfound rfl hspared).1⟩

end Ledger

end ReplayEvidence
