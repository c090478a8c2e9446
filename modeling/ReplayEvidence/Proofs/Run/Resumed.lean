-- The laws of runs that are taken up at a cursor. Points are placed before they
-- are cut off at the cursor, so the rest of both traces is compared as the run from
-- the start compares it; only the places are counted from the cursor on.
import ReplayEvidence.Proofs.Run.Differences
import ReplayEvidence.Proofs.Run.Results

namespace ReplayEvidence

/-! ## Places along two lists -/

/-- What `compare` gives for the items at place `i` of one list and place `j` of
another, if both are there. -/
def atPlaces {α β : Type} (compare : α → α → List β) (as bs : List α) (i j : Nat) : List β :=
  match as[i]?, bs[j]? with
  | some a, some b => compare a b
  | _, _ => []

theorem atPlaces_drop {α β : Type} (compare : α → α → List β) (as bs : List α) (i j m n : Nat) :
    atPlaces compare (as.drop i) (bs.drop j) m n = atPlaces compare as bs (i + m) (j + n) := by
  unfold atPlaces
  rw [List.getElem?_drop, List.getElem?_drop]

/-- What is given along two lists is given place by place, for as many places as
both have. -/
theorem alongside_eq_flatMap {α β : Type} (compare : Nat → α → α → List β) (place : Nat)
    (as bs : List α) :
    alongside compare place as bs =
      (List.range (min as.length bs.length)).flatMap fun n =>
        atPlaces (compare (place + n)) as bs n n := by
  induction as generalizing place bs with
  | nil => simp [alongside]
  | cons a as ih =>
    cases bs with
    | nil => simp [alongside]
    | cons b bs =>
      have hmin : min (a :: as).length (b :: bs).length = min as.length bs.length + 1 := by
        simp only [List.length_cons]
        omega
      -- the first place is taken off the range, and the rest is counted from the next one
      rw [alongside, ih, hmin, List.range_succ_eq_map, List.flatMap_cons, List.flatMap_map]
      simp only [Nat.add_assoc, Nat.add_comm 1]
      rfl

theorem alongside_map {α β γ : Type} (compare : Nat → β → β → List γ) (f : α → β) (place : Nat)
    (as bs : List α) :
    alongside compare place (as.map f) (bs.map f) =
      alongside (fun place a b => compare place (f a) (f b)) place as bs := by
  induction as generalizing place bs with
  | nil => rfl
  | cons a as ih =>
    cases bs with
    | nil => rfl
    | cons b bs => rw [List.map_cons, List.map_cons, alongside, alongside, ih]

/-! ## Findings further on -/

namespace Finding

/-- A finding as it is made `n` places further on. -/
def later (n : Nat) : Finding → Finding
  | .decisionParts place event parts => .decisionParts (n + place) event parts
  | .planHash place b c => .planHash (n + place) b c
  | .provenance place parts => .provenance (n + place) parts
  | .embeddedDecision place event parts => .embeddedDecision (n + place) event parts
  | .ordering place b c => .ordering (n + place) b c
  | .authority place b c => .authority (n + place) b c
  | .provider place b c => .provider (n + place) b c
  | .drift place length tolerance => .drift (n + place) length tolerance
  | f => f

theorem entry_diverge_later (n : Nat) (scope : String) (f : Finding) :
    ((f.later n).diverge scope).entry = (f.diverge scope).entry := by
  cases f <;> simp only [later, diverge, kind, Divergence.entry_plain, Divergence.entry_timing]

end Finding

/-- The findings about two points do not hang on their place. -/
theorem TracePoint.findings_later (tolerance : Millis) (n place : Nat) (b c : TracePoint) :
    b.findings tolerance (n + place) c = (b.findings tolerance place c).map (Finding.later n) := by
  unfold findings
  simp only [List.map_append, map_whenever, Finding.later]

/-- Two reports of one place under two numbers: the same findings in one scope, those
of the second `n` places further on. -/
def SameButLater (n : Nat) (ds ds' : List Divergence) : Prop :=
  ∃ (scope : String) (fs : List Finding), ds = fs.map (Finding.diverge scope) ∧
    ds' = fs.map fun f => (f.later n).diverge scope

theorem SameButLater.entries {n : Nat} {ds ds' : List Divergence} (h : SameButLater n ds ds') :
    ds.map Divergence.entry = ds'.map Divergence.entry := by
  obtain ⟨scope, fs, rfl, rfl⟩ := h
  rw [List.map_map, List.map_map]
  apply List.map_congr_left
  intro f _
  exact (Finding.entry_diverge_later n scope f).symm

/-! ## Reports of a mode -/

namespace ReplayMode

/-- What a mode finds about two points under the number of a place. -/
def findings (mode : ReplayMode) (tolerance : Tolerance) (place : Nat) (b c : PlacedPoint) :
    List Finding :=
  match mode with
  | .replayDecisions =>
    let parts := b.point.decision.differing c.point.decision
    whenever (!parts.isEmpty) (.decisionParts place b.point.decision.event parts)
  | _ => b.point.findings tolerance.effective place c.point

/-- What a mode reports of two points, in the scope of the first. -/
def placeReport (mode : ReplayMode) (tolerance : Tolerance) (place : Nat) (b c : PlacedPoint) :
    List Divergence :=
  (mode.findings tolerance place b c).map (Finding.diverge b.point.divergenceScope)

/-- What a mode reports of the lengths of two windows. -/
def lengthReport (mode : ReplayMode) (bs cs : List PlacedPoint) : List Divergence :=
  let count : Finding := match mode with
    | .replayDecisions => .decisionCount bs.length cs.length
    | _ => .traceCount bs.length cs.length
  whenever (bs.length != cs.length)
    (count.diverge (leadingScope (fun p => p.point.divergenceScope) bs cs))

theorem leadingScope_map {α β : Type} (scope : β → String) (f : α → β) (bs cs : List α) :
    leadingScope scope (bs.map f) (cs.map f) = leadingScope (fun a => scope (f a)) bs cs := by
  cases bs <;> cases cs <;> rfl

/-- In every mode two windows are compared by their lengths and then place by
place. -/
theorem compare_eq (mode : ReplayMode) (tolerance : Tolerance) (bs cs : List PlacedPoint) :
    mode.compare tolerance bs cs =
      mode.lengthReport bs cs ++ (List.range (min bs.length cs.length)).flatMap fun n =>
        atPlaces (mode.placeReport tolerance n) bs cs n n := by
  have hplaces := alongside_eq_flatMap (mode.placeReport tolerance) 0 bs cs
  simp only [Nat.zero_add] at hplaces
  rw [← hplaces]
  cases mode with
  | replayDecisions =>
    have hcompare (place : Nat) (b c : PlacedPoint) :
        Decision.compareAt place b.point.decision c.point.decision =
          placeReport .replayDecisions tolerance place b c := by
      unfold Decision.compareAt placeReport findings
      exact (map_whenever ..).symm
    simp only [compare, Decision.compareAll, alongside_map, leadingScope_map, List.length_map,
      hcompare]
    rfl
  | _ =>
    simp only [compare, TracePoint.compareAll, alongside_map, leadingScope_map, List.length_map]
    rfl

/-- A mode reports the same of two points under any number but for the place. -/
theorem placeReport_later (mode : ReplayMode) (tolerance : Tolerance) (n place : Nat)
    (b c : PlacedPoint) :
    SameButLater n (mode.placeReport tolerance place b c)
      (mode.placeReport tolerance (n + place) b c) := by
  have hfindings : mode.findings tolerance (n + place) b c =
      (mode.findings tolerance place b c).map (Finding.later n) := by
    cases mode with
    | replayDecisions => simp only [findings, map_whenever, Finding.later]
    | _ => exact TracePoint.findings_later tolerance.effective n place b.point c.point
  refine ⟨b.point.divergenceScope, mode.findings tolerance place b c, rfl, ?_⟩
  rw [placeReport, hfindings, List.map_map]
  rfl

theorem atPlaces_later (mode : ReplayMode) (tolerance : Tolerance) (bs cs : List PlacedPoint)
    (n place i j : Nat) :
    SameButLater n (atPlaces (mode.placeReport tolerance place) bs cs i j)
      (atPlaces (mode.placeReport tolerance (n + place)) bs cs i j) := by
  unfold atPlaces
  rcases bs[i]? with _ | b
  · exact ⟨"", [], rfl, rfl⟩
  · rcases cs[j]? with _ | c
    · exact ⟨"", [], rfl, rfl⟩
    · exact placeReport_later mode tolerance n place b c

theorem map_kind_lengthReport (mode : ReplayMode) (bs cs : List PlacedPoint) :
    (mode.lengthReport bs cs).map Divergence.kind =
      whenever (bs.length != cs.length) .outcome := by
  unfold lengthReport
  rw [map_whenever]
  cases mode <;> rfl

/-- Lengths that get less by the same number of points still differ. -/
theorem map_kind_lengthReport_drop (mode : ReplayMode) {bs cs : List PlacedPoint} {i : Nat}
    (hb : i < bs.length) (hc : i < cs.length) :
    (mode.lengthReport (bs.drop i) (cs.drop i)).map Divergence.kind =
      whenever (bs.length != cs.length) .outcome := by
  have hlength : ((bs.drop i).length != (cs.drop i).length) = (bs.length != cs.length) := by
    rw [List.length_drop, List.length_drop, Bool.eq_iff_iff, bne_iff_ne, bne_iff_ne]
    omega
  rw [map_kind_lengthReport, hlength]

end ReplayMode

/-! ## Runs from a cursor -/

/-- What is compared from place `i` of the baseline and place `j` of the candidate
on: the lengths of what is left, and then each place that both have left, counted
from there. -/
def ReplayMode.reportFrom (mode : ReplayMode) (tolerance : Tolerance) (bs cs : List PlacedPoint)
    (i j : Nat) : List Divergence :=
  mode.lengthReport (bs.drop i) (cs.drop j) ++
    (List.range (min (bs.length - i) (cs.length - j))).flatMap fun n =>
      atPlaces (mode.placeReport tolerance n) bs cs (i + n) (j + n)

theorem ReplayMode.compare_drop (mode : ReplayMode) (tolerance : Tolerance)
    (bs cs : List PlacedPoint) (i j : Nat) :
    mode.compare tolerance (bs.drop i) (cs.drop j) = mode.reportFrom tolerance bs cs i j := by
  rw [compare_eq]
  simp only [atPlaces_drop, List.length_drop]
  rfl

/-- The start of a run: the first points of both traces, or those that the cursor
names. -/
def RunRequest.StartsAt (r : RunRequest) (bs cs : List PlacedPoint) (i j : Nat) : Prop :=
  Resumption.find bs cs r.cursor = .ok ⟨i, j, []⟩

theorem RunRequest.startsAt_zero (r : RunRequest) (bs cs : List PlacedPoint) :
    { r with cursor := none }.StartsAt bs cs 0 0 := rfl

theorem RunRequest.startsAt_cursor (r : RunRequest) {bs cs : List PlacedPoint} {c : Cursor}
    {i j : Nat} (hi : PlacedPoint.find? bs c = some i) (hj : PlacedPoint.find? cs c = some j) :
    { r with cursor := some c }.StartsAt bs cs i j := by
  unfold StartsAt Resumption.find
  simp only [hi, hj]

/-- What is found from a start that both traces have, and where it ends. -/
theorem RunSettings.compareEvidence_of_startsAt {s : RunSettings} {r : RunRequest} {b c : Evidence}
    {i j : Nat} (hstart : r.StartsAt (PlacedPoint.ofTrace s.defaultLane b.trace)
      (PlacedPoint.ofTrace s.defaultLane c.trace) i j) :
    let bs := PlacedPoint.ofTrace s.defaultLane b.trace
    let cs := PlacedPoint.ofTrace s.defaultLane c.trace
    s.compareEvidence r b c = .ok {
      divergences := r.mode.reportFrom s.compare bs cs i j ++
        LineageRecord.compareAll b.lineage c.lineage
      cursor := ((bs.drop i).getLast?.map PlacedPoint.cursor).or r.cursor } := by
  unfold RunRequest.StartsAt at hstart
  unfold compareEvidence
  simp only [hstart, ← ReplayMode.compare_drop]
  rfl

theorem PlacedPoint.lt_of_find? {points : List PlacedPoint} {c : Cursor} {i : Nat}
    (h : find? points c = some i) : i < points.length :=
  (List.findIdx?_eq_some_iff_findIdx_eq.1 h).1

/-! ## Runs that have a result -/

theorem rephrase_eq_ok {ε δ α : Type} {f : ε → δ} {x : Except ε α} {a : α} :
    rephrase f x = .ok a ↔ x = .ok a := by
  cases x <;> simp [rephrase]

theorem Side.accept_eq_ok {side : Side} {reference : String} {given : Except SourceError Evidence}
    {e : Evidence} :
    side.accept reference given = .ok e ↔ given = .ok e ∧ e.validate = .ok () := by
  unfold accept
  simp only [bind_eq_ok, rephrase_eq_ok, pure, Except.pure, Except.ok.injEq]
  constructor
  · rintro ⟨a, ha, _, hvalid, rfl⟩
    exact ⟨ha, hvalid⟩
  · rintro ⟨he, hvalid⟩
    exact ⟨e, he, (), hvalid, rfl⟩

namespace Replayer

variable {σ : Type}

/-- A run finds something exactly when the request and the evidence of both sides are
valid and can be compared. -/
theorem outcome_eq_ok {e : Replayer σ} {r : RunRequest} {o : RunOutcome} :
    e.outcome r = .ok o ↔ r.validate = .ok () ∧
      ∃ b, (e.source r.baseline = .ok b ∧ b.validate = .ok ()) ∧
        ∃ c, (e.source r.candidate = .ok c ∧ c.validate = .ok ()) ∧
          e.settings.compareEvidence r b c = .ok o := by
  rw [outcome_eq]
  simp only [bind_eq_ok, rephrase_eq_ok, Side.accept_eq_ok]
  constructor
  · rintro ⟨_, hr, h⟩
    exact ⟨hr, h⟩
  · rintro ⟨hr, h⟩
    exact ⟨(), hr, h⟩

theorem result_of_conclude {r : RunRequest} {o : RunOutcome} {runId : String} {result : RunResult}
    (h : conclude r o runId = .ok result) : result = ⟨runId, r.mode, o.divergences, o.cursor⟩ := by
  unfold conclude at h
  rw [rephrase_eq_ok] at h
  rcases hv : RunResult.validate ⟨runId, r.mode, o.divergences, o.cursor⟩ with err | _
  · rw [hv] at h
    cases h
  · rw [hv] at h
    cases h
    rfl

/-- A run with a result has compared the evidence of both sides, and its result says
what was found. -/
theorem compareEvidence_of_run {e : Replayer σ} {r : RunRequest} {b c : Evidence} {st : σ}
    {result : RunResult} (hb : e.source r.baseline = .ok b) (hc : e.source r.candidate = .ok c)
    (h : ((e.run r).run st).1 = .ok result) :
    e.settings.compareEvidence r b c = .ok ⟨result.divergences, result.cursor⟩ := by
  obtain ⟨o, ho, hconclude⟩ := outcome_of_run h
  obtain ⟨_, b', ⟨hb', _⟩, c', ⟨hc', _⟩, hcompare⟩ := outcome_eq_ok.1 ho
  cases hb.symm.trans hb'
  cases hc.symm.trans hc'
  rw [result_of_conclude hconclude]
  exact hcompare

/-- A run that is taken up at a cursor reports the rest of what the run from the start
reports. Let the cursor name place `i` of the baseline and place `j` of the candidate.
Both runs report the lengths, then place by place, then the lineage, and end at the same
cursor; the resumed one compares place `i + n` with place `j + n`. When the cursor names
one place of both, then it reports the lengths exactly when the full run does, and of
each place from there on the same findings in the same scope, with only the number of
the place less by `i`. -/
theorem a_resumed_run_reports_the_rest {e : Replayer σ} {r : RunRequest} {cursor : Cursor}
    {b c : Evidence} {i j : Nat} {st st' : σ} {full resumed : RunResult}
    (hb : e.source r.baseline = .ok b) (hc : e.source r.candidate = .ok c)
    (hi : PlacedPoint.find? (PlacedPoint.ofTrace e.settings.defaultLane b.trace) cursor = some i)
    (hj : PlacedPoint.find? (PlacedPoint.ofTrace e.settings.defaultLane c.trace) cursor = some j)
    (hfull : ((e.run { r with cursor := none }).run st).1 = .ok full)
    (hresumed : ((e.run { r with cursor := some cursor }).run st').1 = .ok resumed) :
    let bs := PlacedPoint.ofTrace e.settings.defaultLane b.trace
    let cs := PlacedPoint.ofTrace e.settings.defaultLane c.trace
    let report (place : Nat) := atPlaces (r.mode.placeReport e.settings.compare place) bs cs
    let lineage := LineageRecord.compareAll b.lineage c.lineage
    full.divergences = r.mode.lengthReport bs cs ++
        (List.range (min bs.length cs.length)).flatMap (fun k => report k k k) ++ lineage ∧
      resumed.divergences = r.mode.lengthReport (bs.drop i) (cs.drop j) ++
        (List.range (min (bs.length - i) (cs.length - j))).flatMap
          (fun n => report n (i + n) (j + n)) ++ lineage ∧
      resumed.cursor = full.cursor ∧
      (i = j →
        (r.mode.lengthReport bs cs).map Divergence.kind =
            whenever (bs.length != cs.length) .outcome ∧
          (r.mode.lengthReport (bs.drop i) (cs.drop j)).map Divergence.kind =
            whenever (bs.length != cs.length) .outcome ∧
          ∀ n, (report n (i + n) (j + n)).map Divergence.entry =
              (report (i + n) (i + n) (i + n)).map Divergence.entry ∧
            SameButLater i (report n (i + n) (j + n)) (report (i + n) (i + n) (i + n))) := by
  intro bs cs report lineage
  have hfull := compareEvidence_of_run (r := { r with cursor := none }) hb hc hfull
  rw [RunSettings.compareEvidence_of_startsAt (r.startsAt_zero bs cs)] at hfull
  have hresumed := compareEvidence_of_run (r := { r with cursor := some cursor }) hb hc hresumed
  rw [RunSettings.compareEvidence_of_startsAt (r.startsAt_cursor hi hj)] at hresumed
  simp only [Except.ok.injEq, RunOutcome.mk.injEq] at hfull hresumed
  refine ⟨?_, ?_, ?_, ?_⟩
  · rw [← hfull.1]
    simp only [ReplayMode.reportFrom, List.drop_zero, Nat.sub_zero, Nat.zero_add]
    rfl
  · exact hresumed.1.symm
  · rw [← hfull.2, ← hresumed.2, getLast?_window (PlacedPoint.lt_of_find? hi)]
    simp
  · rintro rfl
    have hib : i < bs.length := PlacedPoint.lt_of_find? hi
    have hic : i < cs.length := PlacedPoint.lt_of_find? hj
    refine ⟨ReplayMode.map_kind_lengthReport ..,
      ReplayMode.map_kind_lengthReport_drop _ hib hic, ?_⟩
    intro n
    have hsame : SameButLater i (report n (i + n) (i + n)) (report (i + n) (i + n) (i + n)) :=
      ReplayMode.atPlaces_later ..
    exact ⟨hsame.entries, hsame⟩

/-- A session of three points and more. The second has a blank marker, and its first
and third stand under a plan. -/
def plannedSession (plan : String) (more : List TracePoint) : Evidence :=
  let point (event plan marker : String) : TracePoint := {
    planHash := plan
    provenance := ⟨"routing/1", "admission/1", "abi/1", "version/1", "policy/1", "health/1"⟩
    decision := {
      kind := .admitted, phase := .preTurn, scope := .session, session := "sess-1", turn := none
      event := event, runtimeAt := 100, wallClockAt := 1700000000000
      emitter := "turn_arbiter", reason := "admitted", epoch := none }
    marker := marker
    epoch := 3
    provider := ⟨"stt-a", "model-1"⟩
    runtimeAt := 100
    lane := none }
  { trace := [point "evt-1" plan "runtime_sequence:10", point "evt-2" "plan-a" " ",
      point "evt-3" plan "turn-end"] ++ more
    lineage := [⟨"evt-0", "sess-1", none, true, none⟩] }

/-- Replays a planned session against one under another plan that goes on for longer. -/
def replaysReplannedSession : Replayer Millis where
  source := fun reference =>
    if reference = "base" then .ok (plannedSession "plan-a" [])
    else .ok (plannedSession "plan-b" (plannedSession "plan-b" []).trace)
  settings := .standard
  runId := do return timedRunId (← get)
  now := get

def replanRequest : RunRequest := ⟨"base", "cand", .recomputeDecisions, none⟩

/-- The cursor of the second point, whose sequence is its place. -/
def secondPoint : Cursor := ⟨"sess-1", none, .control, 1, "evt-2"⟩

theorem a_run_from_the_second_point_reports_the_third :
    ∃ full resumed : RunResult,
      ((replaysReplannedSession.run replanRequest).run 1000).1 = .ok full ∧
      ((replaysReplannedSession.run { replanRequest with cursor := some secondPoint }).run 2000).1 =
        .ok resumed ∧
      full.divergences.map Divergence.kind = [.outcome, .plan, .plan] ∧
      resumed.divergences.map Divergence.kind = [.outcome, .plan] ∧
      resumed.cursor = full.cursor := by
  have hfull : ((replaysReplannedSession.run replanRequest).run 1000).1 = .ok _ := rfl
  have hresumed : ((replaysReplannedSession.run
    { replanRequest with cursor := some secondPoint }).run 2000).1 = .ok _ := rfl
  refine ⟨_, _, hfull, hresumed, rfl, rfl, ?_⟩
  exact (a_resumed_run_reports_the_rest (i := 1) (j := 1) rfl rfl rfl rfl hfull hresumed).2.2.1

end Replayer

end ReplayEvidence
