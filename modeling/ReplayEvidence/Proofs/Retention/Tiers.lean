-- The laws of tiers. Whatever the tiers answer, a tenant that is not blank gets a
-- policy that is its own and valid: that of the first tier that gives one, and the
-- conservative policy when no tier does. For a blank tenant no tier is asked.
import ReplayEvidence.Retention.Ledger

namespace ReplayEvidence

namespace RetentionPolicy

/-! ## The conservative policy -/

theorem entries_conservative (tenant : String) :
    (conservative tenant).windows.entries =
      [(.audioRaw, 24 * Millis.hour), (.pii, 24 * Millis.hour), (.phi, 24 * Millis.hour)] :=
  Keyed.entries_ofList (by decide)

theorem validateWindow_eq_ok {p : RetentionPolicy} {entry : PayloadClass × Millis} :
    p.validateWindow entry = .ok () ↔
      0 < entry.2 ∧ ∀ ceiling, p.ceiling? entry.1 = some ceiling → entry.2 ≤ ceiling := by
  unfold validateWindow
  rw [Validity.bind_eq_ok, Validity.requirePositive_eq_ok]
  apply and_congr_right
  intro _
  rcases p.ceiling? entry.1 with _ | ceiling
  · exact ⟨fun _ => nofun, fun _ => rfl⟩
  · simp only [Option.some.injEq, forall_eq', ← Int64.not_lt]
    split
    · next habove => exact ⟨nofun, fun h => absurd habove h⟩
    · next hbelow => exact ⟨fun _ => hbelow, fun _ => rfl⟩

/-- What the check of a policy asks for. -/
structure Sound (p : RetentionPolicy) : Prop where
  tenant : Text.isBlank p.tenant = false
  defaultWindow : 0 < p.defaultWindow
  piiCeiling : 0 < p.piiCeiling
  phiCeiling : 0 < p.phiCeiling
  windows : ∀ entry ∈ p.windows.entries, p.validateWindow entry = .ok ()

theorem validate_eq_ok {p : RetentionPolicy} : p.validate = .ok () ↔ p.Sound := by
  unfold validate
  simp only [Validity.bind_eq_ok, Validity.require_eq_ok, Validity.requirePositive_eq_ok,
    Validity.all_eq_ok]
  constructor
  · rintro ⟨htenant, hdefault, hpii, hphi, hwindows⟩
    exact ⟨htenant, hdefault, hpii, hphi, hwindows⟩
  · intro h
    exact ⟨h.tenant, h.defaultWindow, h.piiCeiling, h.phiCeiling, h.windows⟩

/-- The conservative policy keeps its own ceilings, so all it needs is a tenant. -/
theorem validate_conservative {tenant : String} :
    (conservative tenant).validate = .ok () ↔ Text.isBlank tenant = false := by
  have hday : (0 : Millis) < 24 * Millis.hour := by decide
  have hweek : (0 : Millis) < 7 * Millis.day := by decide
  have hwindows : ∀ entry ∈ (conservative tenant).windows.entries,
      (conservative tenant).validateWindow entry = .ok () := by
    intro entry hentry
    rw [entries_conservative] at hentry
    have hwindow : entry.2 = 24 * Millis.hour := by
      simp only [List.mem_cons, List.not_mem_nil, or_false] at hentry
      rcases hentry with rfl | rfl | rfl <;> rfl
    rw [validateWindow_eq_ok, hwindow]
    refine ⟨hday, fun ceiling hceiling => ?_⟩
    -- both ceilings are the window itself
    have hsame : ceiling = 24 * Millis.hour := by
      unfold ceiling? at hceiling
      split at hceiling <;> cases hceiling <;> rfl
    rw [hsame]
    exact Int64.le_refl _
  rw [validate_eq_ok]
  constructor
  · intro h
    exact h.tenant
  · intro h
    exact ⟨h, hweek, hday, hday, hwindows⟩

/-! ## Taking a policy over -/

/-- A policy with the tenant filled in where it names none. -/
def filledIn (p : RetentionPolicy) (tenant : String) : RetentionPolicy :=
  if p.tenant = "" then { p with tenant := tenant } else p

theorem tenant_filledIn_iff {p : RetentionPolicy} {tenant : String} :
    (p.filledIn tenant).tenant = tenant ↔ ¬(p.tenant ≠ "" ∧ p.tenant ≠ tenant) := by
  unfold filledIn
  by_cases hempty : p.tenant = ""
  · simp [hempty]
  · simp [hempty]

/-- A policy that is not another tenant's is filled in as if it named no tenant. -/
theorem filledIn_eq {p : RetentionPolicy} {tenant : String}
    (h : (p.filledIn tenant).tenant = tenant) :
    p.filledIn tenant = { p with tenant := tenant } := by
  unfold filledIn at h ⊢
  split
  · rfl
  · next hempty =>
    rw [if_neg hempty] at h
    rw [← h]

/-- A policy is made a tenant's own when, filled in, it is of that tenant and valid. -/
theorem alignTo_eq_ok {p q : RetentionPolicy} {tenant : String} :
    p.alignTo tenant = .ok q ↔
      q = p.filledIn tenant ∧ q.tenant = tenant ∧ q.validate = .ok () := by
  unfold alignTo
  split
  · next hother =>
    constructor
    · nofun
    · rintro ⟨rfl, htenant, -⟩
      exact absurd hother (tenant_filledIn_iff.1 htenant)
  · next hother =>
    have htenant := tenant_filledIn_iff.2 hother
    simp only [← filledIn_eq htenant]
    split
    · next hvalid =>
      constructor
      · intro h
        cases h
        exact ⟨rfl, htenant, hvalid⟩
      · rintro ⟨rfl, -, -⟩
        rfl
    · next e hinvalid =>
      constructor
      · nofun
      · rintro ⟨rfl, -, hvalid⟩
        cases hinvalid.symm.trans hvalid

end RetentionPolicy

namespace PolicySource

/-! ## Tiers -/

/-- A tier gives a policy to a tenant: its answer, filled in where it names no tenant,
is of that tenant and valid. -/
def Gives (tier : PolicySource) (tenant : String) (p : RetentionPolicy) : Prop :=
  ∃ answer, tier tenant = .ok answer ∧
    p = answer.filledIn tenant ∧ p.tenant = tenant ∧ p.validate = .ok ()

/-- What a tier gives to a tenant, if anything. -/
def given? (tenant : String) (tier : PolicySource) : Option RetentionPolicy :=
  match tier tenant with
  | .error _ => none
  | .ok answer =>
    match answer.alignTo tenant with
    | .error _ => none
    | .ok p => some p

theorem given?_eq_some_iff {tier : PolicySource} {tenant : String} {p : RetentionPolicy} :
    given? tenant tier = some p ↔ tier.Gives tenant p := by
  unfold given? Gives
  rcases tier tenant with e | answer
  · exact ⟨nofun, nofun⟩
  · simp only [Except.ok.injEq, exists_eq_left', ← RetentionPolicy.alignTo_eq_ok]
    rcases answer.alignTo tenant with e | q
    · exact ⟨nofun, nofun⟩
    · simp only [Option.some.injEq, Except.ok.injEq]

theorem given?_eq_none_iff {tier : PolicySource} {tenant : String} :
    given? tenant tier = none ↔ ∀ p, ¬ tier.Gives tenant p := by
  simp only [Option.eq_none_iff_forall_ne_some, ne_eq, given?_eq_some_iff]

theorem firstAligned_eq (tenant : String) (tiers : List PolicySource) :
    firstAligned (m := Id) tenant tiers = tiers.findSome? (given? tenant) := by
  induction tiers with
  | nil => rfl
  | cons tier tiers ih =>
    rw [List.findSome?_cons, ← ih, given?, firstAligned]
    rcases tier tenant with e | answer
    · rfl
    · rcases h : answer.alignTo tenant with e | p
      · simp only [bind, h]
      · simp only [bind, h]
        rfl

/-- A policy is the one that the first of the tiers gives that gives any. -/
def FirstGives (tiers : List PolicySource) (tenant : String) (p : RetentionPolicy) : Prop :=
  ∃ before tier after, tiers = before ++ tier :: after ∧ tier.Gives tenant p ∧
    ∀ earlier ∈ before, ∀ q, ¬ earlier.Gives tenant q

theorem firstAligned_eq_some_iff {tiers : List PolicySource} {tenant : String}
    {p : RetentionPolicy} :
    firstAligned (m := Id) tenant tiers = some p ↔ FirstGives tiers tenant p := by
  rw [firstAligned_eq, List.findSome?_eq_some_iff]
  simp only [given?_eq_some_iff, given?_eq_none_iff]
  rfl

theorem firstAligned_eq_none_iff {tiers : List PolicySource} {tenant : String} :
    firstAligned (m := Id) tenant tiers = none ↔
      ∀ tier ∈ tiers, ∀ p, ¬ tier.Gives tenant p := by
  rw [firstAligned_eq, List.findSome?_eq_none_iff]
  simp only [given?_eq_none_iff]

/-- A tenant that is not blank gets what the tiers give it first, and otherwise the
conservative policy. -/
theorem ofTiers_of_named (tiers : List PolicySource) {tenant : String}
    (h : Text.isBlank tenant = false) :
    ofTiers tiers tenant =
      .ok ((firstAligned (m := Id) tenant tiers).getD (.conservative tenant)) := by
  have hconservative : (RetentionPolicy.conservative tenant).alignTo tenant =
      .ok (.conservative tenant) := by
    apply RetentionPolicy.alignTo_eq_ok.2
    refine ⟨?_, rfl, RetentionPolicy.validate_conservative.2 h⟩
    unfold RetentionPolicy.filledIn
    split <;> rfl
  unfold ofTiers tryTiers
  rw [if_neg (by simp [h])]
  show (match firstAligned (m := Id) tenant tiers with
    | some p => .ok p
    | none => (RetentionPolicy.conservative tenant).alignTo tenant : Except _ _) = _
  rcases firstAligned (m := Id) tenant tiers with _ | p
  · exact hconservative
  · rfl

theorem own_of_ofTiers {tiers : List PolicySource} {tenant : String}
    (h : Text.isBlank tenant = false) {p : RetentionPolicy} (hp : ofTiers tiers tenant = .ok p) :
    p.tenant = tenant ∧ p.validate = .ok () := by
  rw [ofTiers_of_named tiers h] at hp
  cases hp
  rcases hgiven : firstAligned (m := Id) tenant tiers with _ | p
  · exact ⟨rfl, RetentionPolicy.validate_conservative.2 h⟩
  · obtain ⟨_, _, _, _, ⟨_, _, _, hown⟩, _⟩ := firstAligned_eq_some_iff.1 hgiven
    exact hown

theorem sweepResolved_of_valid {source : PolicySource} {tenant : String} {p : RetentionPolicy}
    (hp : source tenant = .ok p) (hvalid : p.validate = .ok ()) (l : Ledger) (now : Millis) :
    ∃ report after, (Ledger.sweepResolved source tenant now).run l = (.ok report, after) := by
  simp only [Ledger.run_sweepResolved, Ledger.run_sweepDetailed, hp, hvalid]
  exact ⟨_, _, rfl⟩

/-- For a blank tenant no tier is asked, whatever asking it would do. -/
theorem tryTiers_of_blank {m : Type → Type} [Monad m] {tenant : String}
    (h : Text.isBlank tenant = true)
    (tiers : List (String → m (Except PolicyError RetentionPolicy))) :
    tryTiers tiers tenant =
      return .error (.invalid tenant (.missing "retention_policy" "tenant_id")) := by
  unfold tryTiers
  rw [if_pos h]

/-! ## The law -/

/-- Every tenant gets a policy of its own. Take any tiers, whatever they answer. A tenant
that is not blank gets a policy of exactly that tenant which is valid: what the first tier
gives that gives any, and the conservative policy when no tier does. So a sweep by the
tiers never fails for it. For a blank tenant the answer is that the tenant is missing, and
no tier is asked. -/
theorem every_tenant_gets_a_policy_of_its_own (tenant : String) :
    (Text.isBlank tenant = false → ∀ tiers : List PolicySource, ∃ given p,
      ofTiers tiers tenant = .ok p ∧ p.tenant = tenant ∧ p.validate = .ok () ∧
        p = given.getD (.conservative tenant) ∧
        (∀ q, given = some q ↔ FirstGives tiers tenant q) ∧
        (given = none ↔ ∀ tier ∈ tiers, ∀ q, ¬ tier.Gives tenant q) ∧
        ∀ (l : Ledger) now, ∃ report after,
          (Ledger.sweepResolved (ofTiers tiers) tenant now).run l = (.ok report, after)) ∧
    (Text.isBlank tenant = true →
      let missing := .error (.invalid tenant (.missing "retention_policy" "tenant_id"))
      (∀ tiers : List PolicySource, ofTiers tiers tenant = missing) ∧
        ∀ {m : Type → Type} [Monad m]
          (tiers : List (String → m (Except PolicyError RetentionPolicy))),
          tryTiers tiers tenant = return missing) := by
  constructor
  · intro h tiers
    have hanswer := ofTiers_of_named tiers h
    obtain ⟨htenant, hvalid⟩ := own_of_ofTiers h hanswer
    refine ⟨_, _, hanswer, htenant, hvalid, rfl, ?_, firstAligned_eq_none_iff, ?_⟩
    · exact fun q => firstAligned_eq_some_iff
    · exact sweepResolved_of_valid hanswer hvalid
  · intro h
    exact ⟨fun tiers => tryTiers_of_blank (m := Id) h tiers, fun tiers => tryTiers_of_blank h tiers⟩

/-- Tiers that fail, that answer for another tenant, with a window that is not valid, and
at last with two policies that can be taken over. -/
def mixedTiers : List PolicySource :=
  [.ofFile none, .ofList [.conservative "tenant-b"], fun _ => .ok (.conservative "tenant-b"),
    fun _ => .ok { RetentionPolicy.conservative "" with defaultWindow := 0 },
    fun _ => .ok { RetentionPolicy.conservative "" with defaultWindow := Millis.hour },
    fun _ => .ok { RetentionPolicy.conservative "" with defaultWindow := Millis.day }]

theorem a_padded_tenant_gets_what_the_fifth_tier_gives :
    Text.isBlank " tenant-a" = false ∧ Text.isBlank "\u3000" = true ∧
      ofTiers mixedTiers " tenant-a" =
        .ok { RetentionPolicy.conservative " tenant-a" with defaultWindow := Millis.hour } ∧
      ofTiers mixedTiers "\u3000" =
        .error (.invalid "\u3000" (.missing "retention_policy" "tenant_id")) := by
  have hnamed : Text.isBlank " tenant-a" = false := by decide
  have hblank : Text.isBlank "\u3000" = true := by decide
  obtain ⟨given, p, hanswer, _, _, hp, hgiven, _⟩ :=
    (every_tenant_gets_a_policy_of_its_own " tenant-a").1 hnamed mixedTiers
  have hfirst : FirstGives mixedTiers " tenant-a"
      { RetentionPolicy.conservative " tenant-a" with defaultWindow := Millis.hour } := by
    refine ⟨mixedTiers.take 4, _, mixedTiers.drop 5, rfl, ?_, ?_⟩
    · exact given?_eq_some_iff.1 rfl
    · intro earlier hmem
      apply given?_eq_none_iff.1
      simp only [mixedTiers, List.take_succ_cons, List.take_zero, List.mem_cons,
        List.not_mem_nil, or_false] at hmem
      rcases hmem with rfl | rfl | rfl | rfl <;> rfl
  refine ⟨hnamed, hblank, ?_, ?_⟩
  · rw [hanswer, hp, (hgiven _).2 hfirst]
    rfl
  · exact ((every_tenant_gets_a_policy_of_its_own "\u3000").2 hblank).1 mixedTiers

end PolicySource

end ReplayEvidence
