-- The laws that tie comparisons to each other. What a comparison reports is the same from both
-- sides but for scopes and messages, and a larger tolerance only leaves entries in timing out.
-- Decisions are compared without any tolerance, so only equal lists of them compare as equal.
import ReplayEvidence.Proofs.Run.Differences

namespace ReplayEvidence

/-! ## From both sides -/

/-- The dimension of an entry and its length of time, without what it is about. -/
def Entry.unscoped (e : Entry) : DivergenceClass × Option Int := (e.kind, e.drift)

/-- The dimensions of divergences and their lengths of time. -/
def unscoped (ds : List Divergence) : List (DivergenceClass × Option Int) :=
  ds.map fun d => d.entry.unscoped

theorem unscoped_eq (ds : List Divergence) :
    unscoped ds = (ds.map Divergence.entry).map Entry.unscoped := by
  rw [List.map_map]
  rfl

theorem ite_eq_comm {α β : Type} [DecidableEq α] (a b : α) (x y : β) :
    (if a = b then x else y) = if b = a then x else y := by
  by_cases h : a = b
  · subst h
    rfl
  · rw [if_neg h, if_neg (Ne.symm h)]

/-- Pairs of two lists can be gone through from both sides, when a pair gives the same from
both. -/
theorem flatMap_zip_comm {α β : Type} {f : α → α → List β} (h : ∀ a b, f a b = f b a)
    (as bs : List α) :
    ((as.zip bs).flatMap fun x => f x.1 x.2) = (bs.zip as).flatMap fun x => f x.1 x.2 := by
  induction as generalizing bs with
  | nil => simp
  | cons a as ih =>
    cases bs with
    | nil => rfl
    | cons b bs =>
      rw [List.zip_cons_cons, List.zip_cons_cons, List.flatMap_cons, List.flatMap_cons, ih, h a b]

namespace TracePoint

theorem reportedApart_comm (b c : TracePoint) : b.reportedApart c = c.reportedApart b := by
  rw [← toInt_distance, Millis.distance_comm, toInt_distance]

theorem differences_comm (tolerance : Int) (b c : TracePoint) :
    differences tolerance b c = differences tolerance c b := by
  unfold differences
  rw [reportedApart_comm b c]
  refine append_congr (append_congr (append_congr (append_congr (append_congr (append_congr
    ?_ ?_) ?_) ?_) ?_) ?_) rfl
  all_goals exact ite_eq_comm ..

theorem map_unscoped_entries (tolerance : Int) (b c : TracePoint) :
    (entries tolerance b c).map Entry.unscoped = differences tolerance b c := by
  unfold entries
  rw [List.map_map]
  exact List.map_id' _

theorem map_unscoped_lengthEntries (bs cs : List TracePoint) :
    (lengthEntries bs cs).map Entry.unscoped =
      if bs.length = cs.length then [] else [(.outcome, none)] := by
  cases bs with
  | nil => cases cs <;> rfl
  | cons b bs =>
    by_cases h : (b :: bs).length = cs.length
    · rw [lengthEntries, if_pos h, if_pos h]
      rfl
    · rw [lengthEntries, if_neg h, if_neg h]
      rfl

theorem unscoped_compareAll_comm (tolerance : Tolerance) (bs cs : List TracePoint) :
    unscoped (compareAll tolerance bs cs) = unscoped (compareAll tolerance cs bs) := by
  have hreport (bs cs : List TracePoint) : unscoped (compareAll tolerance bs cs) =
      (if bs.length = cs.length then [] else [(.outcome, none)]) ++
        (bs.zip cs).flatMap fun x => differences tolerance.timing.toInt x.1 x.2 := by
    rw [unscoped_eq, map_entry_compareAll, List.map_append, map_unscoped_lengthEntries,
      List.map_flatMap]
    simp only [map_unscoped_entries]
  rw [hreport, hreport, flatMap_zip_comm (differences_comm tolerance.timing.toInt), ite_eq_comm]

end TracePoint

namespace Decision

/-- The entry about two decisions at one place, when they differ. -/
def entries (b c : Decision) : List Entry :=
  if b = c then [] else [⟨.outcome, b.divergenceScope, none⟩]

theorem map_entry_compareAt (place : Nat) (b c : Decision) :
    (compareAt place b c).map Divergence.entry = entries b c := by
  have hsame : (!(b.differing c).isEmpty) = false ↔ b = c := by
    rw [Bool.not_eq_false', List.isEmpty_iff, differing_eq_nil]
  unfold compareAt entries
  rw [map_whenever, whenever_eq_ite hsame]
  rfl

/-- What a comparison of decisions reports: one entry when the lengths differ, and then one
for each pair that differs. -/
theorem map_entry_compareAll (bs cs : List Decision) :
    (compareAll bs cs).map Divergence.entry =
      (if bs.length = cs.length then []
        else [⟨.outcome, leadingScope divergenceScope bs cs, none⟩]) ++
        (bs.zip cs).flatMap fun x => entries x.1 x.2 := by
  unfold compareAll
  rw [List.map_append, map_alongside map_entry_compareAt, map_whenever,
    whenever_eq_ite bne_eq_false_iff_eq]
  rfl

theorem unscoped_compareAll_comm (bs cs : List Decision) :
    unscoped (compareAll bs cs) = unscoped (compareAll cs bs) := by
  have hreport (bs cs : List Decision) : unscoped (compareAll bs cs) =
      (if bs.length = cs.length then [] else [(.outcome, none)]) ++
        (bs.zip cs).flatMap fun x => if x.1 = x.2 then [] else [(.outcome, none)] := by
    rw [unscoped_eq, map_entry_compareAll, List.map_append, List.map_flatMap]
    simp only [entries, apply_ite (List.map Entry.unscoped)]
    rfl
  rw [hreport, hreport]
  exact append_congr (ite_eq_comm ..) (flatMap_zip_comm (fun b c => ite_eq_comm b c _ _) bs cs)

theorem compareAll_eq_nil {bs cs : List Decision} : compareAll bs cs = [] ↔ bs = cs := by
  rw [← List.map_eq_nil_iff (f := Divergence.entry), map_entry_compareAll,
    List.append_eq_nil_iff, flatMap_zip_eq_nil]
  simp only [entries, ite_eq_left_iff, List.cons_ne_nil, imp_false, Decidable.not_not]
  constructor
  · rintro ⟨hlength, hplaces⟩
    apply List.ext_getElem hlength
    intro i hb hc
    exact hplaces i _ _ (List.getElem?_eq_getElem hb) (List.getElem?_eq_getElem hc)
  · rintro rfl
    refine ⟨rfl, ?_⟩
    intro i b c hb hc
    rw [hb] at hc
    exact Option.some.inj hc

end Decision

/-! ## Under a larger tolerance -/

/-- An entry in timing that a tolerance has no report of, since it is no longer than that. -/
def Entry.isTolerated (tolerance : Int) (e : Entry) : Bool :=
  e.kind = .timing && e.drift.any fun d => d ≤ max 0 tolerance

namespace TracePoint

/-- Under a larger tolerance the entries about two points are the same, less those that it
tolerates. -/
theorem entries_of_le {s t : Int} (h : s ≤ t) (b c : TracePoint) :
    entries t b c = (entries s b c).filter fun e => !e.isTolerated t := by
  -- no other dimension than that of time is tolerated
  have hother {p : Prop} [Decidable p] {kind : DivergenceClass} (hkind : kind ≠ .timing) :
      (if p then [] else [(kind, (none : Option Int))]).filter
          (fun d => !(⟨d.1, b.divergenceScope, d.2⟩ : Entry).isTolerated t) =
        if p then [] else [(kind, none)] := by
    split
    · rfl
    · simp [Entry.isTolerated, hkind]
  have htime : (if b.reportedApart c ≤ max 0 s then []
        else [(DivergenceClass.timing, some (b.reportedApart c))]).filter
          (fun d => !(⟨d.1, b.divergenceScope, d.2⟩ : Entry).isTolerated t) =
        if b.reportedApart c ≤ max 0 t then [] else [(.timing, some (b.reportedApart c))] := by
    by_cases ht : b.reportedApart c ≤ max 0 t
    · rw [if_pos ht]
      split
      · rfl
      · simp only [List.filter_cons, List.filter_nil, Entry.isTolerated, Option.any_some, ht,
          decide_true, Bool.and_self, Bool.not_true, Bool.false_eq_true, if_false]
    · have hs : ¬b.reportedApart c ≤ max 0 s := by omega
      rw [if_neg ht, if_neg hs]
      simp only [List.filter_cons, List.filter_nil, Entry.isTolerated, Option.any_some, ht,
        decide_false, Bool.and_false, Bool.not_false, if_true]
  unfold entries
  rw [List.filter_map]
  congr 1
  unfold differences
  simp only [List.filter_append, Function.comp_def]
  rw [htime]
  simp only [hother, ne_eq, reduceCtorEq, not_false_eq_true]

theorem filter_lengthEntries (tolerance : Int) (bs cs : List TracePoint) :
    (lengthEntries bs cs).filter (fun e => !e.isTolerated tolerance) = lengthEntries bs cs := by
  cases bs with
  | nil => cases cs <;> rfl
  | cons b bs =>
    by_cases h : (b :: bs).length = cs.length
    · rw [lengthEntries, if_pos h]
      rfl
    · rw [lengthEntries, if_neg h]
      rfl

/-- Under a larger tolerance the same is reported of two traces, less what it tolerates. -/
theorem map_entry_compareAll_of_le {s t : Tolerance} (h : s.timing ≤ t.timing)
    (bs cs : List TracePoint) :
    (compareAll t bs cs).map Divergence.entry =
      ((compareAll s bs cs).map Divergence.entry).filter
        fun e => !e.isTolerated t.timing.toInt := by
  rw [map_entry_compareAll, map_entry_compareAll, List.filter_append, filter_lengthEntries,
    List.filter_flatMap]
  simp only [entries_of_le (Int64.le_iff_toInt_le.1 h)]

end TracePoint

/-! ## The law -/

/-- Comparisons are tied to each other. Of any two traces under any tolerance, and of any two lists
of decisions, the same dimensions with the same lengths of time are reported in the same order when
the sides are swapped. Of two lists of decisions nothing is reported exactly when they are the
same. And under a larger tolerance the entries about two traces are those under the smaller one, in
their order, less the entries in timing by no more than the larger tolerance. -/
theorem sides_can_be_swapped_and_tolerances_only_leave_out :
    (∀ (tolerance : Tolerance) (bs cs : List TracePoint),
        unscoped (TracePoint.compareAll tolerance bs cs) =
          unscoped (TracePoint.compareAll tolerance cs bs)) ∧
      (∀ bs cs : List Decision,
        unscoped (Decision.compareAll bs cs) = unscoped (Decision.compareAll cs bs) ∧
          (Decision.compareAll bs cs = [] ↔ bs = cs)) ∧
      ∀ s t : Tolerance, s.timing ≤ t.timing → ∀ bs cs : List TracePoint,
        (TracePoint.compareAll t bs cs).map Divergence.entry =
          ((TracePoint.compareAll s bs cs).map Divergence.entry).filter
            fun e => !e.isTolerated t.timing.toInt := by
  refine ⟨TracePoint.unscoped_compareAll_comm, ?_, ?_⟩
  · intro bs cs
    exact ⟨Decision.unscoped_compareAll_comm bs cs, Decision.compareAll_eq_nil⟩
  · intro s t h bs cs
    exact TracePoint.map_entry_compareAll_of_le h bs cs

namespace TracePoint

/-- A negative tolerance is none at all, so two drifts are reported under it; the standard one
still reports that of 40, but not that of 15, which it just allows. -/
theorem a_drift_of_the_tolerance_is_left_out :
    let report (tolerance : Tolerance) :=
      (compareAll tolerance [pointAt 0, pointAt 0]
        [pointAt 15, pointAt 40, pointAt 0]).map Divergence.entry
    (-5 : Millis) ≤ Tolerance.standard.timing ∧
      report ⟨-5⟩ = [⟨.outcome, "session:sess-1", none⟩, ⟨.timing, "session:sess-1", some 15⟩,
        ⟨.timing, "session:sess-1", some 40⟩] ∧
      report .standard =
        [⟨.outcome, "session:sess-1", none⟩, ⟨.timing, "session:sess-1", some 40⟩] := by
  intro report
  have hle : (-5 : Millis) ≤ Tolerance.standard.timing := by decide
  have hreport : report ⟨-5⟩ = [⟨.outcome, "session:sess-1", none⟩,
      ⟨.timing, "session:sess-1", some 15⟩, ⟨.timing, "session:sess-1", some 40⟩] := by decide
  obtain ⟨-, -, hlarger⟩ := sides_can_be_swapped_and_tolerances_only_leave_out
  have hfiltered : report .standard =
      (report ⟨-5⟩).filter fun e => !e.isTolerated Tolerance.standard.timing.toInt :=
    hlarger ⟨-5⟩ .standard hle _ _
  refine ⟨hle, hreport, ?_⟩
  rw [hfiltered, hreport]
  decide

end TracePoint

end ReplayEvidence
