-- The laws of a comparison of traces. What it reports is said here without its
-- findings: one entry when the lengths differ, and then, place by place, one for
-- each dimension in which whole records or exact times differ.
import ReplayEvidence.Run.Comparison

namespace ReplayEvidence

/-! ## Entries -/

/-- What a divergence says besides its message. -/
structure Entry where
  kind : DivergenceClass
  scope : String
  drift : Option Int
deriving DecidableEq, Repr

def Divergence.entry (d : Divergence) : Entry := ⟨d.kind, d.scope, d.drift.map Int64.toInt⟩

namespace Divergence

theorem entry_plain (kind : DivergenceClass) (scope message : String) :
    (plain kind scope message).entry = ⟨kind, scope, none⟩ := rfl

theorem entry_timing (scope message : String) (drift : Millis) :
    (timing scope message drift).entry =
      ⟨.timing, scope, some (Millis.magnitude drift).toInt⟩ := rfl

end Divergence

/-! ## Lists of what is given -/

theorem map_whenever {α β : Type} (f : α → β) (condition : Bool) (a : α) :
    (whenever condition a).map f = whenever condition (f a) := by
  cases condition <;> rfl

theorem whenever_eq_ite {α : Type} {condition : Bool} {p : Prop} [Decidable p]
    (h : condition = false ↔ p) (a : α) : whenever condition a = if p then [] else [a] := by
  cases condition with
  | false =>
    rw [if_pos (h.1 rfl)]
    rfl
  | true =>
    have hp : ¬p := fun hp => nomatch h.2 hp
    rw [if_neg hp]
    rfl

/-- An item given under a condition is mapped to what its counterpart is. -/
theorem map_whenever_eq_map_ite {α β γ : Type} {condition : Bool} {p : Prop} [Decidable p]
    (h : condition = false ↔ p) {f : α → γ} {g : β → γ} {a : α} {b : β} (hab : f a = g b) :
    (whenever condition a).map f = (if p then [] else [b]).map g := by
  rw [map_whenever, hab, ← map_whenever, whenever_eq_ite h]

theorem append_congr {α : Type} {as bs cs ds : List α} (h : as = bs) (h' : cs = ds) :
    as ++ cs = bs ++ ds := by
  rw [h, h']

/-- What is given along two lists is given pair by pair, when it does not hang on
the place. -/
theorem map_alongside {α β γ : Type} {compare : Nat → α → α → List β} {f : β → γ}
    {g : α → α → List γ} (h : ∀ place a b, (compare place a b).map f = g a b) (place : Nat)
    (as bs : List α) :
    (alongside compare place as bs).map f = (as.zip bs).flatMap fun x => g x.1 x.2 := by
  induction as generalizing place bs with
  | nil => rfl
  | cons a as ih =>
    cases bs with
    | nil => rfl
    | cons b bs =>
      rw [alongside, List.map_append, h, ih, List.zip_cons_cons, List.flatMap_cons]

theorem flatMap_zip_eq_nil {α β : Type} {f : α → α → List β} {as bs : List α} :
    ((as.zip bs).flatMap fun x => f x.1 x.2) = [] ↔
      ∀ (i : Nat) a b, as[i]? = some a → bs[i]? = some b → f a b = [] := by
  rw [List.flatMap_eq_nil_iff]
  constructor
  · intro h i a b ha hb
    have hab : (as.zip bs)[i]? = some (a, b) := List.getElem?_zip_eq_some.2 ⟨ha, hb⟩
    exact h (a, b) (List.mem_of_getElem? hab)
  · intro h x hx
    obtain ⟨i, hi⟩ := List.mem_iff_getElem?.1 hx
    obtain ⟨ha, hb⟩ := List.getElem?_zip_eq_some.1 hi
    exact h i x.1 x.2 ha hb

/-! ## Records that differ in no part -/

namespace Provenance

theorem Part.mem_all (p : Part) : p ∈ Part.all := by cases p <;> decide

theorem differing_eq_nil {a b : Provenance} : a.differing b = [] ↔ a = b := by
  unfold differing
  rw [List.filter_eq_nil_iff]
  constructor
  · intro h
    have hget (p : Part) : a.get p = b.get p := by simpa using h p (Part.mem_all p)
    cases a
    cases b
    simp only [mk.injEq]
    exact ⟨hget .routingView, hget .admissionPolicy, hget .abiCompatibility,
      hget .versionResolution, hget .policyResolution, hget .providerHealth⟩
  · rintro rfl p _
    simp

end Provenance

namespace Decision

theorem Part.mem_all (p : Part) : p ∈ Part.all := by cases p <;> decide

theorem eq_of_agree {a b : Decision} (h : ∀ p, a.agree b p = true) : a = b := by
  have hkind := h .kind
  have hphase := h .phase
  have hscope := h .scope
  have hsession := h .session
  have hturn := h .turn
  have hevent := h .event
  have hruntime := h .runtimeAt
  have hwall := h .wallClockAt
  have hemitter := h .emitter
  have hreason := h .reason
  have hepoch := h .epoch
  cases a
  cases b
  simp only [agree, beq_iff_eq] at *
  simp only [*]

theorem differing_eq_nil {a b : Decision} : a.differing b = [] ↔ a = b := by
  unfold differing
  rw [List.filter_eq_nil_iff]
  constructor
  · intro h
    apply eq_of_agree
    intro p
    simpa using h p (Part.mem_all p)
  · rintro rfl p _
    cases p <;> simp [agree]

/-- The decision as if it was taken at no time. -/
def untimed (d : Decision) : Decision := { d with runtimeAt := 0, wallClockAt := 0 }

theorem differingUntimed_eq (a b : Decision) :
    a.differingUntimed b = a.untimed.differing b.untimed := by
  unfold differingUntimed differing
  rw [List.filter_filter]
  apply List.filter_congr
  intro p _
  cases p <;> simp [Part.isTime, agree, untimed]

end Decision

/-! ## Differences of two points -/

/-- The tolerance in force is the given one, and never below 0. -/
theorem Tolerance.toInt_effective (t : Tolerance) : t.effective.toInt = max 0 t.timing.toInt := by
  unfold effective
  split
  · next h =>
    rw [Int64.lt_iff_toInt_lt] at h
    rw [Int64.toInt_zero] at h ⊢
    omega
  · next h =>
    rw [Int64.lt_iff_toInt_lt, Int64.toInt_zero] at h
    omega

namespace TracePoint

/-- How far apart in time two points lie. -/
def apart (b c : TracePoint) : Int := (b.runtimeAt.toInt - c.runtimeAt.toInt).natAbs

/-- How far apart two points are reported to lie: what fits 63 bits. -/
def reportedApart (b c : TracePoint) : Int := min (b.apart c) 9223372036854775807

/-- Two points that agree in every dimension, and in time up to the tolerance. -/
structure Equivalent (tolerance : Int) (b c : TracePoint) : Prop where
  planHash : b.planHash = c.planHash
  provenance : b.provenance = c.provenance
  decision : b.decision.untimed = c.decision.untimed
  marker : b.marker = c.marker
  epoch : b.epoch = c.epoch
  provider : b.provider = c.provider
  time : b.reportedApart c ≤ max 0 tolerance

/-- The dimensions in which two points differ, in order, that of time with how far
they lie apart. -/
def differences (tolerance : Int) (b c : TracePoint) : List (DivergenceClass × Option Int) :=
  (if b.planHash = c.planHash then [] else [(.plan, none)]) ++
  (if b.provenance = c.provenance then [] else [(.plan, none)]) ++
  (if b.decision.untimed = c.decision.untimed then [] else [(.outcome, none)]) ++
  (if b.marker = c.marker then [] else [(.ordering, none)]) ++
  (if b.epoch = c.epoch then [] else [(.authority, none)]) ++
  (if b.provider = c.provider then [] else [(.providerChoice, none)]) ++
  (if b.reportedApart c ≤ max 0 tolerance then [] else [(.timing, some (b.reportedApart c))])

/-- The entries about two points at one place, all in the scope of the first. -/
def entries (tolerance : Int) (b c : TracePoint) : List Entry :=
  (differences tolerance b c).map fun d => ⟨d.1, b.divergenceScope, d.2⟩

/-- The entry about the lengths of two traces, when they differ. Its scope is that
of the first point of the baseline, or else of the candidate. -/
def lengthEntries : List TracePoint → List TracePoint → List Entry
  | [], [] => []
  | [], c :: _ => [⟨.outcome, c.divergenceScope, none⟩]
  | b :: bs, cs =>
    if (b :: bs).length = cs.length then [] else [⟨.outcome, b.divergenceScope, none⟩]

theorem toInt_distance (b c : TracePoint) :
    (Millis.distance b.runtimeAt c.runtimeAt).toInt = b.reportedApart c := by
  rw [Millis.toInt_distance]
  rfl

theorem toInt_magnitude_distance (b c : TracePoint) :
    (Millis.magnitude (Millis.distance b.runtimeAt c.runtimeAt)).toInt = b.reportedApart c := by
  rw [Millis.toInt_magnitude, toInt_distance]
  unfold reportedApart apart
  omega

theorem map_entry_compareAt (tolerance : Tolerance) (place : Nat) (b c : TracePoint) :
    (compareAt tolerance.effective place b c).map Divergence.entry =
      entries tolerance.timing.toInt b c := by
  have htime : decide (tolerance.effective < Millis.distance b.runtimeAt c.runtimeAt) = false ↔
      b.reportedApart c ≤ max 0 tolerance.timing.toInt := by
    rw [decide_eq_false_iff_not, Int64.lt_iff_toInt_lt, toInt_distance, Tolerance.toInt_effective]
    omega
  unfold compareAt findings entries differences
  rw [List.map_map]
  simp only [List.map_append]
  refine append_congr (append_congr (append_congr (append_congr (append_congr (append_congr
    ?plan ?provenance) ?decision) ?marker) ?epoch) ?provider) ?time
  case plan => exact map_whenever_eq_map_ite bne_eq_false_iff_eq rfl
  case provenance =>
    refine map_whenever_eq_map_ite ?_ rfl
    rw [Bool.not_eq_false', List.isEmpty_iff, Provenance.differing_eq_nil]
  case decision =>
    refine map_whenever_eq_map_ite ?_ rfl
    rw [Bool.not_eq_false', List.isEmpty_iff, Decision.differingUntimed_eq,
      Decision.differing_eq_nil]
  case marker => exact map_whenever_eq_map_ite bne_eq_false_iff_eq rfl
  case epoch => exact map_whenever_eq_map_ite bne_eq_false_iff_eq rfl
  case provider => exact map_whenever_eq_map_ite bne_eq_false_iff_eq rfl
  case time =>
    refine map_whenever_eq_map_ite htime ?_
    simp only [Function.comp_apply, Finding.diverge, Divergence.entry_timing,
      toInt_magnitude_distance]

theorem entries_eq_nil {tolerance : Int} {b c : TracePoint} :
    entries tolerance b c = [] ↔ Equivalent tolerance b c := by
  unfold entries differences
  simp only [List.map_eq_nil_iff, List.append_eq_nil_iff, ite_eq_left_iff, List.cons_ne_nil,
    imp_false, Decidable.not_not]
  constructor
  · rintro ⟨⟨⟨⟨⟨⟨hplan, hprovenance⟩, hdecision⟩, hmarker⟩, hepoch⟩, hprovider⟩, htime⟩
    exact ⟨hplan, hprovenance, hdecision, hmarker, hepoch, hprovider, htime⟩
  · rintro ⟨hplan, hprovenance, hdecision, hmarker, hepoch, hprovider, htime⟩
    exact ⟨⟨⟨⟨⟨⟨hplan, hprovenance⟩, hdecision⟩, hmarker⟩, hepoch⟩, hprovider⟩, htime⟩

theorem lengthEntries_eq_nil {bs cs : List TracePoint} :
    lengthEntries bs cs = [] ↔ bs.length = cs.length := by
  cases bs with
  | nil => cases cs <;> simp [lengthEntries]
  | cons b bs => simp [lengthEntries]

theorem map_entry_traceCount (bs cs : List TracePoint) :
    (whenever (bs.length != cs.length)
      ((Finding.traceCount bs.length cs.length).diverge
        (leadingScope divergenceScope bs cs))).map Divergence.entry = lengthEntries bs cs := by
  cases bs with
  | nil => cases cs <;> rfl
  | cons b bs =>
    by_cases h : (b :: bs).length = cs.length
    · rw [lengthEntries, if_pos h, h, bne_self_eq_false]
      rfl
    · rw [lengthEntries, if_neg h, bne_iff_ne.2 h]
      rfl

/-- What a comparison reports: the entry about the lengths, and then the
differences of each pair of points. -/
theorem map_entry_compareAll (tolerance : Tolerance) (bs cs : List TracePoint) :
    (compareAll tolerance bs cs).map Divergence.entry =
      lengthEntries bs cs ++
        (bs.zip cs).flatMap fun x => entries tolerance.timing.toInt x.1 x.2 := by
  unfold compareAll
  rw [List.map_append, map_entry_traceCount, map_alongside (map_entry_compareAt tolerance)]

/-- Times that are not negative lie no further apart than fits. -/
theorem reportedApart_of_nonneg {b c : TracePoint} (hb : 0 ≤ b.runtimeAt) (hc : 0 ≤ c.runtimeAt) :
    b.reportedApart c = b.apart c := by
  rw [Millis.nonneg_iff] at hb hc
  have hb' := b.runtimeAt.toInt_lt
  have hc' := c.runtimeAt.toInt_lt
  unfold reportedApart apart
  omega

/-- Time is among the differences when two points lie further apart than the
tolerance, and then with how far they do. -/
theorem timing_mem_differences {tolerance : Int} {b c : TracePoint} {drift : Option Int} :
    (.timing, drift) ∈ differences tolerance b c ↔
      max 0 tolerance < b.reportedApart c ∧ drift = some (b.reportedApart c) := by
  -- no other dimension is that of time
  have hother {p : Prop} [Decidable p] {kind : DivergenceClass} (h : kind ≠ .timing) :
      (.timing, drift) ∉ (if p then [] else [(kind, (none : Option Int))]) := by
    split <;> simp [h.symm]
  unfold differences
  simp only [List.mem_append, hother, ne_eq, reduceCtorEq, not_false_eq_true, false_or]
  split
  · next h => simp only [List.not_mem_nil, Int.not_lt.2 h, false_and]
  · next h => simp only [List.mem_singleton, Prod.mk.injEq, true_and, Int.not_le.1 h]

theorem timing_mem_entries {tolerance : Int} {b c : TracePoint} {drift : Option Int} :
    ⟨.timing, b.divergenceScope, drift⟩ ∈ entries tolerance b c ↔
      (.timing, drift) ∈ differences tolerance b c := by
  unfold entries
  rw [List.mem_map]
  constructor
  · rintro ⟨⟨kind, d⟩, hd, heq⟩
    cases heq
    exact hd
  · intro h
    exact ⟨_, h, rfl⟩

/-- A comparison of two traces, valid or not, reports exactly what differs: one
entry when the lengths do, and then, pair by pair and in a fixed order, one for each
dimension that does, in the scope of the baseline. So it reports nothing exactly of
traces of one length that are equivalent pair by pair. Of times that are not negative
it reports just those that lie further apart than the tolerance, and how far. -/
theorem a_comparison_reports_exactly_what_differs (tolerance : Tolerance)
    (bs cs : List TracePoint) :
    (compareAll tolerance bs cs).map Divergence.entry =
        lengthEntries bs cs ++
          (bs.zip cs).flatMap (fun x => entries tolerance.timing.toInt x.1 x.2) ∧
      (compareAll tolerance bs cs = [] ↔
        bs.length = cs.length ∧ ∀ (i : Nat) b c, bs[i]? = some b → cs[i]? = some c →
          Equivalent tolerance.timing.toInt b c) ∧
      ∀ place b c drift, 0 ≤ b.runtimeAt → 0 ≤ c.runtimeAt →
        (⟨.timing, b.divergenceScope, drift⟩ ∈
            (compareAt tolerance.effective place b c).map Divergence.entry ↔
          max 0 tolerance.timing.toInt < b.apart c ∧ drift = some (b.apart c)) := by
  have hentries := map_entry_compareAll tolerance bs cs
  refine ⟨hentries, ?_, ?_⟩
  · rw [← List.map_eq_nil_iff (f := Divergence.entry), hentries, List.append_eq_nil_iff,
      lengthEntries_eq_nil, flatMap_zip_eq_nil]
    simp only [entries_eq_nil]
  · intro place b c drift hb hc
    rw [map_entry_compareAt, timing_mem_entries, timing_mem_differences,
      reportedApart_of_nonneg hb hc]

/-- A point at a time. -/
def pointAt (time : Millis) : TracePoint where
  planHash := "plan-a"
  provenance := ⟨"routing/1", "admission/1", "abi/1", "version/1", "policy/1", "health/1"⟩
  decision := {
    kind := .admitted, phase := .preTurn, scope := .session, session := "sess-1", turn := none
    event := "evt-1", runtimeAt := time, wallClockAt := time
    emitter := "turn_arbiter", reason := "admitted", epoch := none }
  marker := ""
  epoch := 0
  provider := .unset
  runtimeAt := time
  lane := none

/-- The first and the last time that is not negative lie exactly what fits apart. -/
theorem both_ends_of_time_are_reported_apart :
    0 ≤ (pointAt 0).runtimeAt ∧ 0 ≤ (pointAt Int64.maxValue).runtimeAt ∧
      ⟨.timing, (pointAt 0).divergenceScope, some 9223372036854775807⟩ ∈
        (compareAt Tolerance.standard.effective 0 (pointAt 0) (pointAt Int64.maxValue)).map
          Divergence.entry := by
  have hfirst : 0 ≤ (pointAt 0).runtimeAt := by decide
  have hlast : 0 ≤ (pointAt Int64.maxValue).runtimeAt := by decide
  obtain ⟨_, _, htiming⟩ := a_comparison_reports_exactly_what_differs .standard [] []
  exact ⟨hfirst, hlast, (htiming _ _ _ _ hfirst hlast).2 ⟨by decide, by decide⟩⟩

end TracePoint

end ReplayEvidence
