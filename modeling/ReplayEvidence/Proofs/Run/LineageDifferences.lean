-- The laws of a comparison of lineages. What it reports is said here without the index of the
-- candidate: each record of the baseline is held against the first record that the candidate has
-- of its event. So what the candidate says of other events, or says again of one, is not looked
-- at.
import ReplayEvidence.Proofs.Run.SelfReplay

namespace ReplayEvidence

namespace LineageRecord

variable {baseline candidate : List LineageRecord}

/-! ## First records -/

/-- A record is the first of some records that is about an event. -/
def FirstOf (records : List LineageRecord) (event : String) (c : LineageRecord) : Prop :=
  ∃ before after, records = before ++ c :: after ∧ c.event = event ∧
    ∀ d ∈ before, d.event ≠ event

theorem get?_byEvent_eq_some_iff {records : List LineageRecord} {event : String}
    {c : LineageRecord} : (byEvent records).get? event = some c ↔ FirstOf records event c := by
  rw [get?_byEvent, List.find?_eq_some_iff_append]
  simp only [decide_eq_true_eq, Bool.not_eq_true', decide_eq_false_iff_not]
  constructor
  · rintro ⟨hevent, before, after, hrecords, hbefore⟩
    exact ⟨before, after, hrecords, hevent, hbefore⟩
  · rintro ⟨before, after, hrecords, hevent, hbefore⟩
    exact ⟨hevent, before, after, hrecords, hbefore⟩

theorem get?_byEvent_eq_none_iff {records : List LineageRecord} {event : String} :
    (byEvent records).get? event = none ↔ ∀ c ∈ records, c.event ≠ event := by
  rw [get?_byEvent, List.find?_eq_none]
  simp only [decide_eq_true_eq, ne_eq]

theorem get?_byEvent_congr {records others : List LineageRecord} {event : String}
    (h : ∀ c, FirstOf others event c ↔ FirstOf records event c) :
    (byEvent others).get? event = (byEvent records).get? event := by
  apply Option.ext
  intro c
  rw [get?_byEvent_eq_some_iff, get?_byEvent_eq_some_iff, h c]

/-- Of an event nothing else is found when records are put in that are about other events, or
come after a record of their own event. -/
theorem get?_byEvent_added {before added after : List LineageRecord} {event : String}
    (h : ∀ d ∈ added, d.event ≠ event ∨ ∃ c ∈ before, c.event = d.event) :
    (byEvent (before ++ added ++ after)).get? event = (byEvent (before ++ after)).get? event := by
  simp only [get?_byEvent, List.find?_append]
  rcases hbefore : before.find? fun r => r.event = event with _ | c
  · -- no record came before, so none that is put in can repeat one
    have hadded : (added.find? fun r => r.event = event) = none := by
      rw [List.find?_eq_none] at hbefore ⊢
      intro d hd hevent
      rcases h d hd with hother | ⟨c, hc, hrepeat⟩
      · exact hother (of_decide_eq_true hevent)
      · exact hbefore c hc (decide_eq_true (hrepeat.trans (of_decide_eq_true hevent)))
    rw [hadded, Option.or_none]
  · rw [hbefore, Option.some_or]

/-! ## Reports -/

/-- The divergence in outcome that a finding about a record is, in the scope of the record. -/
def outcome (b : LineageRecord) (f : Finding) : Divergence :=
  ⟨.outcome, b.divergenceScope, f.message, none⟩

/-- What a record of the baseline and the one held against it disagree on. A group that only one
of them names is a disagreement. -/
def disagreements (b c : LineageRecord) : List Divergence :=
  (if b.dropped = c.dropped then []
    else [b.outcome (.dropped b.event b.dropped c.dropped)]) ++
  (if b.mergeGroup = c.mergeGroup then []
    else [b.outcome (.mergeGroup b.event b.mergeGroup c.mergeGroup)])

/-- What there is to report of the records of a baseline, one after the other: that the candidate
says nothing of the event, or else what the first record that it has of the event disagrees on. -/
inductive Report (candidate : List LineageRecord) :
    List LineageRecord → List Divergence → Prop
  | nil : Report candidate [] []
  | absent {b : LineageRecord} {bs : List LineageRecord} {ds : List Divergence}
      (h : ∀ c ∈ candidate, c.event ≠ b.event) (rest : Report candidate bs ds) :
      Report candidate (b :: bs) (b.outcome (.absence b.event) :: ds)
  | held {b c : LineageRecord} {bs : List LineageRecord} {ds : List Divergence}
      (h : FirstOf candidate b.event c) (rest : Report candidate bs ds) :
      Report candidate (b :: bs) (b.disagreements c ++ ds)

theorem map_diverge_findings (b c : LineageRecord) :
    (b.findings (some c)).map (Finding.diverge b.divergenceScope) = b.disagreements c := by
  unfold findings disagreements
  rw [List.map_append, map_whenever, map_whenever, whenever_eq_ite bne_eq_false_iff_eq,
    whenever_eq_ite bne_eq_false_iff_eq]
  rfl

theorem compareAll_cons (b : LineageRecord) (bs candidate : List LineageRecord) :
    compareAll (b :: bs) candidate =
      (b.findings ((byEvent candidate).get? b.event)).map (Finding.diverge b.divergenceScope) ++
        compareAll bs candidate := List.flatMap_cons

theorem report_compareAll (baseline candidate : List LineageRecord) :
    Report candidate baseline (compareAll baseline candidate) := by
  induction baseline with
  | nil => exact .nil
  | cons b bs ih =>
    rw [compareAll_cons]
    rcases hfound : (byEvent candidate).get? b.event with _ | c
    · exact .absent (get?_byEvent_eq_none_iff.1 hfound) ih
    · rw [map_diverge_findings]
      exact .held (get?_byEvent_eq_some_iff.1 hfound) ih

/-- There is no other report than the one that a comparison makes. -/
theorem compareAll_eq_of_report {ds : List Divergence} (h : Report candidate baseline ds) :
    compareAll baseline candidate = ds := by
  induction h with
  | nil => rfl
  | absent hnone _ ih =>
    rw [compareAll_cons, get?_byEvent_eq_none_iff.2 hnone, ih]
    rfl
  | held hfirst _ ih =>
    rw [compareAll_cons, get?_byEvent_eq_some_iff.2 hfirst, map_diverge_findings, ih]

/-! ## What makes no difference -/

/-- Two candidates in which the same is found of each event of the baseline compare alike. -/
theorem compareAll_congr {other : List LineageRecord}
    (h : ∀ b ∈ baseline, (byEvent other).get? b.event = (byEvent candidate).get? b.event) :
    compareAll baseline other = compareAll baseline candidate := by
  induction baseline with
  | nil => rfl
  | cons b bs ih =>
    rw [List.forall_mem_cons] at h
    rw [compareAll_cons, compareAll_cons, h.1, ih h.2]

/-- A comparison reports nothing exactly when each record of the baseline agrees with the first
record that the candidate has of its event. -/
theorem compareAll_eq_nil :
    compareAll baseline candidate = [] ↔
      ∀ b ∈ baseline, ∃ c, FirstOf candidate b.event c ∧ b.Agree c := by
  unfold compareAll
  simp only [List.flatMap_eq_nil_iff, List.map_eq_nil_iff, findings_eq_nil,
    get?_byEvent_eq_some_iff]

/-! ## The law -/

/-- A lineage is held against the first record of each event. Take any two lineages, with any
events said twice in either. What a comparison reports is the one report that there is of the
baseline against the candidate. It stays the same for every candidate that has the same first
record of each event of the baseline, in whatever order its records stand; and for every candidate
that is made from this one by putting in records of events that the baseline does not have, or
records that come after one of their event. And it is empty exactly when each record of the
baseline agrees with the first record of its event. -/
theorem a_lineage_is_held_against_first_records (baseline candidate : List LineageRecord) :
    (∀ ds, compareAll baseline candidate = ds ↔ Report candidate baseline ds) ∧
      (∀ other : List LineageRecord,
        (∀ b ∈ baseline, ∀ c, FirstOf other b.event c ↔ FirstOf candidate b.event c) →
        compareAll baseline other = compareAll baseline candidate) ∧
      (∀ before added after : List LineageRecord, candidate = before ++ after →
        (∀ d ∈ added, (∀ b ∈ baseline, d.event ≠ b.event) ∨ ∃ c ∈ before, c.event = d.event) →
        compareAll baseline (before ++ added ++ after) = compareAll baseline candidate) ∧
      (compareAll baseline candidate = [] ↔
        ∀ b ∈ baseline, ∃ c, FirstOf candidate b.event c ∧ b.Agree c) := by
  refine ⟨?report, ?order, ?added, compareAll_eq_nil⟩
  case report =>
    intro ds
    constructor
    · rintro rfl
      exact report_compareAll baseline candidate
    · exact compareAll_eq_of_report
  case order =>
    intro other h
    apply compareAll_congr
    intro b hb
    exact get?_byEvent_congr (h b hb)
  case added =>
    rintro before added after rfl h
    apply compareAll_congr
    intro b hb
    apply get?_byEvent_added
    intro d hd
    rcases h d hd with hother | hrepeat
    · exact .inl (hother b hb)
    · exact .inr hrepeat

/-- A record of an event that was not dropped, and may have been merged. -/
def merged (event : String) (group : Option String) : LineageRecord :=
  ⟨event, "sess-1", none, false, group⟩

/-- A group that is called like none at all still differs from none. The candidate says again,
and otherwise, what became of the event, and speaks of an event that the baseline does not know;
what it says first stays what is compared, also when it says it last. -/
theorem a_second_account_of_an_event_is_not_looked_at :
    let baseline := [merged "evt-0" (some "-"), merged "evt-1" none]
    let report := [(merged "evt-0" none).outcome (.mergeGroup "evt-0" (some "-") none),
      (merged "evt-1" none).outcome (.absence "evt-1")]
    Report [merged "evt-0" none] baseline report ∧
      compareAll baseline [merged "evt-0" none] = report ∧
      compareAll baseline [merged "evt-0" none, merged "evt-2" none, merged "evt-0" (some "-")] =
        report ∧
      compareAll baseline [merged "evt-2" none, merged "evt-0" none] = report := by
  intro baseline report
  obtain ⟨hreport, horder, hadded, -⟩ :=
    a_lineage_is_held_against_first_records baseline [merged "evt-0" none]
  have hfirst : FirstOf [merged "evt-0" none] "evt-0" (merged "evt-0" none) :=
    ⟨[], [], rfl, rfl, nofun⟩
  have hnone : ∀ c ∈ [merged "evt-0" none], c.event ≠ (merged "evt-1" none).event := by decide
  have hmade : Report [merged "evt-0" none] baseline report :=
    .held (b := merged "evt-0" (some "-")) hfirst (.absent hnone .nil)
  have hcompare := (hreport report).2 hmade
  refine ⟨hmade, hcompare, ?_, ?_⟩
  · rw [← hcompare]
    exact hadded [merged "evt-0" none] [merged "evt-2" none, merged "evt-0" (some "-")] [] rfl
      (by decide)
  · rw [← hcompare]
    apply horder
    intro b hb c
    rw [← get?_byEvent_eq_some_iff, ← get?_byEvent_eq_some_iff]
    simp only [baseline, List.mem_cons, List.not_mem_nil, or_false] at hb
    rcases hb with rfl | rfl
    · exact Iff.rfl
    · exact Iff.rfl

end LineageRecord

end ReplayEvidence
