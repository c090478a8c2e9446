-- The law of replaying evidence against itself. Every point is compared with itself, so
-- nothing is found along the trace, from wherever the run starts. The lineage is compared
-- by event: each record with the first one of its event. So a divergence is reported
-- exactly when the lineage gives two accounts of one event.
import ReplayEvidence.Proofs.Run.Resumed

namespace ReplayEvidence

/-! ## Points -/

theorem alongside_self {α β : Type} {compare : Nat → α → α → List β}
    (h : ∀ place a, compare place a a = []) (place : Nat) (as : List α) :
    alongside compare place as as = [] := by
  induction as generalizing place with
  | nil => rfl
  | cons a as ih => rw [alongside, h, ih, List.nil_append]

theorem Decision.compareAt_self (place : Nat) (d : Decision) : compareAt place d d = [] := by
  unfold compareAt
  rw [differing_eq_nil.2 rfl]
  rfl

namespace TracePoint

theorem Equivalent.refl (tolerance : Int) (p : TracePoint) : Equivalent tolerance p p := by
  refine ⟨rfl, rfl, rfl, rfl, rfl, rfl, ?_⟩
  have hapart : p.apart p = 0 := by
    unfold apart
    omega
  unfold reportedApart
  omega

theorem compareAt_self (tolerance : Tolerance) (place : Nat) (p : TracePoint) :
    compareAt tolerance.effective place p p = [] := by
  have hentries := map_entry_compareAt tolerance place p p
  rw [entries_eq_nil.2 (Equivalent.refl _ p)] at hentries
  exact List.map_eq_nil_iff.1 hentries

end TracePoint

theorem ReplayMode.compare_self (mode : ReplayMode) (tolerance : Tolerance)
    (points : List PlacedPoint) : mode.compare tolerance points points = [] := by
  cases mode with
  | replayDecisions =>
    unfold compare Decision.compareAll
    rw [alongside_self Decision.compareAt_self, bne_self_eq_false]
    rfl
  | _ =>
    unfold compare TracePoint.compareAll
    rw [alongside_self (TracePoint.compareAt_self tolerance), bne_self_eq_false]
    rfl

/-! ## Lineage -/

namespace LineageRecord

/-- Two records that say the same of their event. -/
def Agree (a b : LineageRecord) : Prop := a.dropped = b.dropped ∧ a.mergeGroup = b.mergeGroup

/-- Of a record nothing is found exactly when it agrees with the one that is held of its
event. -/
theorem findings_eq_nil {held : Option LineageRecord} {b : LineageRecord} :
    b.findings held = [] ↔ ∃ c, held = some c ∧ b.Agree c := by
  unfold findings
  rcases held with _ | c
  · simp only [List.cons_ne_nil, reduceCtorEq, false_and, exists_false]
  · simp only [List.append_eq_nil_iff, whenever_eq_nil, bne_eq_false_iff_eq, Option.some.injEq,
      exists_eq_left', Agree]

/-- A lineage that says one thing of each event, though it may say it in many records. -/
def OneAccount (records : List LineageRecord) : Prop :=
  ∀ a ∈ records, ∀ b ∈ records, a.event = b.event → a.Agree b

/-- A lineage does not differ from itself exactly when it gives one account of each
event. -/
theorem compareAll_self_eq_nil {records : List LineageRecord} :
    compareAll records records = [] ↔ OneAccount records := by
  unfold compareAll
  simp only [List.flatMap_eq_nil_iff, List.map_eq_nil_iff, get?_byEvent, findings_eq_nil]
  constructor
  · intro h a ha b hb hevent
    obtain ⟨c, hc, hac⟩ := h a ha
    obtain ⟨c', hc', hbc⟩ := h b hb
    -- both records have the same first record of their event
    rw [hevent, hc'] at hc
    cases hc
    exact ⟨hac.1.trans hbc.1.symm, hac.2.trans hbc.2.symm⟩
  · intro h b hb
    have hfound : (records.find? fun c => c.event = b.event).isSome = true := by
      rw [List.find?_isSome]
      exact ⟨b, hb, decide_eq_true rfl⟩
    obtain ⟨c, hc⟩ := Option.isSome_iff_exists.1 hfound
    have hevent : c.event = b.event := by simpa using List.find?_some hc
    exact ⟨c, hc, h b hb c (List.mem_of_find?_eq_some hc) hevent.symm⟩

end LineageRecord

/-! ## Runs -/

theorem Resumption.find_self {points : List PlacedPoint} {cursor : Option Cursor}
    {start : Resumption} (h : find points points cursor = .ok start) :
    ∃ i, start = ⟨i, i, []⟩ := by
  unfold find at h
  rcases cursor with _ | c
  · cases h
    exact ⟨0, rfl⟩
  · rcases hi : PlacedPoint.find? points c with _ | i
    · simp only [hi] at h
      cases h
    · simp only [hi] at h
      cases h
      exact ⟨i, rfl⟩

/-- All that can be found of evidence compared with itself is found in its lineage. -/
theorem RunSettings.compareEvidence_self {s : RunSettings} {r : RunRequest} {e : Evidence}
    {o : RunOutcome} (h : s.compareEvidence r e e = .ok o) :
    o.divergences = LineageRecord.compareAll e.lineage e.lineage := by
  unfold compareEvidence at h
  rw [bind_eq_ok] at h
  obtain ⟨start, hstart, h⟩ := h
  obtain ⟨i, rfl⟩ := Resumption.find_self hstart
  cases h
  show [] ++ r.mode.compare _ _ _ ++ _ = _
  rw [ReplayMode.compare_self, List.append_nil, List.nil_append]

namespace Replayer

variable {σ : Type}

/-- Take any replayer and any request, in any mode and from any start, for which both
references give the same evidence. A run with a result reports of it no more than what its
lineage differs from itself in, and that is nothing exactly when the lineage gives one
account of each event. -/
theorem evidence_with_one_account_never_diverges_from_itself {e : Replayer σ} {r : RunRequest}
    {b : Evidence} {st : σ} {result : RunResult}
    (hb : e.source r.baseline = .ok b) (hc : e.source r.candidate = .ok b)
    (hrun : ((e.run r).run st).1 = .ok result) :
    result.divergences = LineageRecord.compareAll b.lineage b.lineage ∧
      (result.divergences = [] ↔ LineageRecord.OneAccount b.lineage) := by
  have hcompare := compareEvidence_of_run hb hc hrun
  have hdivergences : result.divergences =
      LineageRecord.compareAll b.lineage b.lineage :=
    RunSettings.compareEvidence_self hcompare
  refine ⟨hdivergences, ?_⟩
  rw [hdivergences, LineageRecord.compareAll_self_eq_nil]

/-- A session of one point whose lineage has two records of one event. -/
def sessionWithLineage (first second : Bool) : Evidence :=
  { sessionOf none with
    lineage := [⟨"evt-0", "sess-1", none, first, none⟩, ⟨"evt-0", "sess-1", none, second, none⟩] }

/-- Replays a session with a lineage against itself. -/
def replaysSessionWithLineage (first second : Bool) : Replayer Millis where
  source := fun _ => .ok (sessionWithLineage first second)
  settings := .standard
  runId := do return timedRunId (← get)
  now := get

theorem a_session_with_one_account_twice_does_not_diverge :
    ∃ result, (((replaysSessionWithLineage true true).run
        (replayFrom (some ⟨"sess-1", none, .control, 10, "evt-1"⟩))).run 1000).1 = .ok result ∧
      result.divergences = [] := by
  have hrun : (((replaysSessionWithLineage true true).run
    (replayFrom (some ⟨"sess-1", none, .control, 10, "evt-1"⟩))).run 1000).1 = .ok _ := rfl
  refine ⟨_, hrun, (evidence_with_one_account_never_diverges_from_itself
    (b := sessionWithLineage true true) rfl rfl hrun).2.2 ?_⟩
  intro a ha b hb _
  simp only [sessionWithLineage, List.mem_cons, List.not_mem_nil, or_false, or_self] at ha hb
  rw [ha, hb]
  exact ⟨rfl, rfl⟩

/-- Evidence can diverge from itself: two records of one event are both valid when only
one says that the event was dropped, and the second is then compared with the first. -/
theorem a_session_with_two_accounts_diverges_from_itself :
    (sessionWithLineage true false).validate = .ok () ∧ (replayFrom none).cursor = none ∧
      (∀ reference, (replaysSessionWithLineage true false).source reference =
        .ok (sessionWithLineage true false)) ∧
      ∃ result, (((replaysSessionWithLineage true false).run (replayFrom none)).run 1000).1 =
          .ok result ∧
        result.divergences = [(Finding.dropped "evt-0" false true).diverge "session:sess-1"] :=
  ⟨rfl, rfl, fun _ => rfl, _, rfl, rfl⟩

end Replayer

end ReplayEvidence
