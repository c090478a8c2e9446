-- Sweeps in exact time. No artifact of a ledger was recorded before the epoch, so the time since
-- then is cut off only where it is below every window, and a sweep at any time of 64 bits takes
-- what is overdue in the integers. Under a valid policy every window is positive, and those of
-- personal and health data stay within their ceilings.
import ReplayEvidence.Proofs.Retention.Removals
import ReplayEvidence.Proofs.Retention.Tiers

namespace ReplayEvidence

/-! ## Windows -/

namespace RetentionPolicy

variable {p : RetentionPolicy} {payload : PayloadClass}

theorem ceiling_pos (h : p.Sound) {ceiling : Millis} (hc : p.ceiling? payload = some ceiling) :
    0 < ceiling := by
  cases payload with
  | pii =>
    cases hc
    exact h.piiCeiling
  | phi =>
    cases hc
    exact h.phiCeiling
  | metadata | textRaw | audioRaw | derivedSummary => cases hc

theorem own_of_get? (h : p.Sound) {own : Millis} (hown : p.windows.get? payload = some own) :
    0 < own ∧ ∀ ceiling, p.ceiling? payload = some ceiling → own ≤ ceiling :=
  validateWindow_eq_ok.1 (h.windows _ (Keyed.get?_eq_some_iff.1 hown))

theorem window_le_ceiling {ceiling : Millis} (hc : p.ceiling? payload = some ceiling) :
    p.window payload ≤ ceiling := by
  unfold window
  simp only [hc]
  exact Std.min_le_right

/-- A ceiling never cuts off a window that a valid policy sets. -/
theorem window_of_get? (h : p.Sound) {own : Millis} (hown : p.windows.get? payload = some own) :
    p.window payload = own := by
  unfold window
  simp only [hown, Option.getD_some]
  rcases hc : p.ceiling? payload with _ | ceiling
  · rfl
  · have hbelow : own ≤ ceiling := (own_of_get? h hown).2 ceiling hc
    exact Std.LawfulOrderLeftLeaningMin.min_eq_left _ _ hbelow

theorem window_pos (h : p.Sound) (payload : PayloadClass) : 0 < p.window payload := by
  rcases hown : p.windows.get? payload with _ | own
  · unfold window
    simp only [hown, Option.getD_none]
    rcases hc : p.ceiling? payload with _ | ceiling
    · exact h.defaultWindow
    · rcases Std.min_eq_or (a := p.defaultWindow) (b := ceiling) with hmin | hmin
      · simp only [hmin]
        exact h.defaultWindow
      · simp only [hmin]
        exact ceiling_pos h hc
  · rw [window_of_get? h hown]
    exact (own_of_get? h hown).1

end RetentionPolicy

/-! ## Overdue artifacts -/

namespace Artifact

/-- A readable artifact of the policy's tenant that was recorded longer ago than its window. The
time since is taken in the integers. -/
def Overdue (p : RetentionPolicy) (now : Millis) (a : Artifact) : Prop :=
  a.tenant = p.tenant ∧ a.state = .active ∧
    (p.window a.payload).toInt < now.toInt - a.recordedAt.toInt

instance (p : RetentionPolicy) (now : Millis) (a : Artifact) : Decidable (a.Overdue p now) :=
  inferInstanceAs (Decidable (_ ∧ _ ∧ _))

/-- What was recorded at the epoch or later is never cut off at the end of the range, and what
comes after now is below every window, exactly as it is when cut off. -/
theorem isExpired_iff {p : RetentionPolicy} {now : Millis} {a : Artifact}
    (hwindow : 0 < p.window a.payload) (hrecorded : 0 ≤ a.recordedAt) :
    a.isExpired p now = true ↔ (p.window a.payload).toInt < now.toInt - a.recordedAt.toInt := by
  have hnow := Int64.toInt_le now
  have hmax : Int64.maxValue.toInt = 9223372036854775807 := by decide
  have hage := Millis.toInt_age now a.recordedAt
  rw [Millis.pos_iff] at hwindow
  rw [Millis.nonneg_iff] at hrecorded
  simp only [isExpired, Bool.and_eq_true, decide_eq_true_eq, Int64.le_iff_toInt_le,
    Int64.lt_iff_toInt_lt, Int64.toInt_zero, hage]
  omega

theorem recordedAt_nonneg {a : Artifact} (h : a.validate = .ok ()) : 0 ≤ a.recordedAt := by
  unfold validate at h
  simp only [Validity.bind_eq_ok, Validity.requireNonNegative_eq_ok] at h
  exact h.2.2.2.2

end Artifact

/-! ## The law -/

namespace Ledger

/-- Of the artifacts that a ledger can hold, a sweep takes those that are overdue. -/
theorem takes_sweep {p : RetentionPolicy} (hp : p.Sound) (now : Millis) {a : Artifact}
    (ha : a.validate = .ok ()) : (Call.sweep p now).takes a = decide (a.Overdue p now) := by
  rw [Bool.eq_iff_iff, decide_eq_true_iff]
  simp only [Call.takes, Artifact.sweptBy, Artifact.isActive, Bool.and_eq_true, beq_iff_eq,
    Artifact.isExpired_iff (RetentionPolicy.window_pos hp _) (Artifact.recordedAt_nonneg ha),
    Artifact.Overdue, and_assoc]

theorem outside_sweep {l : Ledger} (hl : ∀ a ∈ l.artifacts, a.validate = .ok ())
    {p : RetentionPolicy} (hp : p.Sound) (now : Millis) :
    l.outside (Call.sweep p now).takes = ⟨l.artifacts.filter fun a => ¬ a.Overdue p now⟩ := by
  unfold outside
  congr 1
  apply List.filter_congr
  intro a ha
  rw [takes_sweep hp now (hl a ha), decide_not]

theorem sweepResult_eq {l : Ledger} (hl : ∀ a ∈ l.artifacts, a.validate = .ok ())
    {p : RetentionPolicy} (hp : p.Sound) (now : Millis) :
    l.sweepResult p now =
      ⟨p.tenant, l.artifacts.countP fun a => a.tenant = p.tenant ∧ a.state = .active,
        l.artifacts.countP fun a => a.Overdue p now,
        l.artifacts.countP fun a => a.Overdue p now⟩ := by
  have hgone : (l.artifacts.filter (Call.sweep p now).takes).length =
      l.artifacts.countP fun a => a.Overdue p now := by
    rw [← List.countP_eq_length_filter]
    apply List.countP_congr
    intro a ha
    rw [takes_sweep hp now (hl a ha)]
  have hlooked : (l.artifacts.filter (Artifact.sweptBy p)).length =
      l.artifacts.countP fun a => a.tenant = p.tenant ∧ a.state = .active := by
    rw [← List.countP_eq_length_filter]
    apply List.countP_congr
    intro a _
    simp [Artifact.sweptBy, Artifact.isActive]
  rw [← hgone, ← hlooked, ← deleted_eq_length_takes]
  rfl

/-- What a sweep leaves of the tenant is within the window, and so within any ceiling. -/
theorem within_ceiling {p : RetentionPolicy} {now : Millis} {a : Artifact}
    (hleft : ¬ a.Overdue p now) (htenant : a.tenant = p.tenant) (hactive : a.state = .active)
    {ceiling : Millis} (hc : p.ceiling? a.payload = some ceiling) :
    now.toInt - a.recordedAt.toInt ≤ ceiling.toInt := by
  have hwindow := RetentionPolicy.window_le_ceiling hc
  rw [Int64.le_iff_toInt_le] at hwindow
  by_contra hover
  apply hleft
  refine ⟨htenant, hactive, ?_⟩
  omega

/-- A sweep takes exactly what is overdue. After any calls, under any valid policy and at any time
of 64 bits, it removes the readable artifacts of the policy's tenant that were recorded longer ago
than the window of their payload class, where the time since is taken in the integers; all others
stay as they are and in order. It counts the readable artifacts of the tenant that were there and
those it removed. Each window is positive, and it is the one that the policy sets for the class
when it sets one. So none of the tenant's readable personal or health data is left that is older
than its ceiling, whatever the default window is. -/
theorem a_sweep_takes_exactly_what_is_overdue (calls : List Call) {p : RetentionPolicy}
    (hvalid : p.validate = .ok ()) (now : Millis) :
    let l := (empty.run calls).2
    let gone := l.artifacts.countP fun a => a.Overdue p now
    let after : Ledger := ⟨l.artifacts.filter fun a => ¬ a.Overdue p now⟩
    l.call (.sweep p now) =
        (.ok (.swept ⟨p.tenant,
          l.artifacts.countP fun a => a.tenant = p.tenant ∧ a.state = .active, gone, gone⟩),
          after) ∧
      (∀ payload, 0 < p.window payload ∧
        ∀ own, p.windows.get? payload = some own → p.window payload = own) ∧
      ∀ a ∈ after.artifacts, a.tenant = p.tenant → a.state = .active →
        (a.payload = .pii → now.toInt - a.recordedAt.toInt ≤ p.piiCeiling.toInt) ∧
        (a.payload = .phi → now.toInt - a.recordedAt.toInt ≤ p.phiCeiling.toInt) := by
  intro l gone after
  have hp : p.Sound := RetentionPolicy.validate_eq_ok.1 hvalid
  have hl : ∀ a ∈ l.artifacts, a.validate = .ok () :=
    (Catalog.run_agrees Catalog.holds_empty calls).2.valid
  refine ⟨?_, ?_, ?_⟩
  · rw [call_sweep l now hvalid, sweepResult_eq hl hp, outside_sweep hl hp]
  · intro payload
    exact ⟨RetentionPolicy.window_pos hp payload, fun own => RetentionPolicy.window_of_get? hp⟩
  · intro a ha htenant hactive
    have hleft : ¬ a.Overdue p now := of_decide_eq_true (List.mem_filter.1 ha).2
    constructor
    · intro hpii
      exact within_ceiling hleft htenant hactive (by rw [hpii]; rfl)
    · intro hphi
      exact within_ceiling hleft htenant hactive (by rw [hphi]; rfl)

/-- A policy that keeps most artifacts for as long as 64 bits can tell, audio for an hour, and
personal and health data for a day. -/
def longestPolicy : RetentionPolicy where
  tenant := "tenant-a"
  defaultWindow := Int64.maxValue
  piiCeiling := Millis.day
  phiCeiling := Millis.day
  windows := .ofList [(.audioRaw, Millis.hour)]

/-- Artifacts from the first and the last hour of the epoch. -/
def spanningCalls : List Call :=
  [.add ⟨"rec-1", "tenant-a", "sess-1", none, .textRaw, 0, .active⟩,
    .add ⟨"rec-2", "tenant-a", "sess-1", none, .pii, 0, .active⟩,
    .add ⟨"rec-3", "tenant-a", "sess-1", none, .phi, Int64.maxValue - Millis.hour, .active⟩,
    .add ⟨"rec-4", "tenant-a", "sess-1", none, .audioRaw, Int64.maxValue - Millis.hour - 1,
      .active⟩,
    .add ⟨"rec-2", "tenant-b", "sess-1", none, .pii, 0, .active⟩]

theorem a_sweep_at_either_end_of_time :
    let l := (empty.run spanningCalls).2
    longestPolicy.validate = .ok () ∧
      (l.call (.sweep longestPolicy Int64.maxValue)).1 = .ok (.swept ⟨"tenant-a", 4, 2, 2⟩) ∧
      (l.call (.sweep longestPolicy Int64.maxValue)).2.artifacts.map Artifact.key =
        [("tenant-a", "rec-1"), ("tenant-a", "rec-3"), ("tenant-b", "rec-2")] ∧
      (l.call (.sweep longestPolicy Int64.minValue)).2 = l := by
  have hvalid : longestPolicy.validate = .ok () := rfl
  obtain ⟨hlast, -, -⟩ :=
    a_sweep_takes_exactly_what_is_overdue spanningCalls hvalid Int64.maxValue
  obtain ⟨hfirst, -, -⟩ :=
    a_sweep_takes_exactly_what_is_overdue spanningCalls hvalid Int64.minValue
  refine ⟨hvalid, ?_, ?_, ?_⟩
  · rw [hlast]
    decide +kernel
  · rw [hlast]
    decide +kernel
  · rw [hfirst]
    decide +kernel

end Ledger

end ReplayEvidence
