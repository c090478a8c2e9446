-- Sweeps by trees of policy sources. Whatever policies are held, files say and tiers are
-- nested, a tree answers for the tenant that it is asked for and for no other. So a sweep by
-- it takes only from that tenant, and one that fails takes nothing.
import ReplayEvidence.Proofs.Retention.Tiers

namespace ReplayEvidence

/-! ## Trees -/

/-- Policies held by tenant, a file with its bytes or one that cannot be read, or tiers of
such sources. -/
inductive SourceTree where
  | held (policies : List RetentionPolicy)
  | file (content : Option ByteArray)
  | tiers (trees : List SourceTree)

namespace SourceTree

mutual

/-- The source that a tree is. -/
def source : SourceTree → PolicySource
  | .held policies => .ofList policies
  | .file content => .ofFile content
  | .tiers trees => .ofTiers (sources trees)

def sources : List SourceTree → List PolicySource
  | [] => []
  | tree :: trees => tree.source :: sources trees

end

end SourceTree

/-! ## Whose policies the sources give -/

namespace PolicySource

variable {tenant : String} {p : RetentionPolicy}

theorem tenant_of_ofList {policies : List RetentionPolicy} (h : ofList policies tenant = .ok p) :
    p.tenant = tenant := by
  unfold ofList at h
  rcases hheld : (Keyed.ofList (policies.map fun p => (p.tenant, p))).get? tenant with _ | q
  · simp only [hheld] at h
    cases h
  · simp only [hheld] at h
    cases h
    rw [Keyed.get?_ofList, Option.map_eq_some_iff] at hheld
    obtain ⟨entry, hfound, rfl⟩ := hheld
    obtain ⟨q, -, rfl⟩ := List.mem_map.1 (List.mem_reverse.1 (List.mem_of_find?_eq_some hfound))
    have hkey := List.find?_some hfound
    exact of_decide_eq_true hkey

/-- A policy of a file is made the tenant's own, with one policy in the file as with many. -/
theorem own_of_policyFor {d : PolicyDocument} (h : d.policyFor tenant = .ok p) :
    p.tenant = tenant ∧ p.validate = .ok () := by
  cases d with
  | one q => exact (RetentionPolicy.alignTo_eq_ok.1 h).2
  | many qs =>
    unfold PolicyDocument.policyFor at h
    rcases hfound : qs.find? fun q => q.tenant = tenant with _ | q
    · simp only [hfound] at h
      cases h
    · simp only [hfound] at h
      exact (RetentionPolicy.alignTo_eq_ok.1 h).2

theorem own_of_ofFile {content : Option ByteArray} (h : ofFile content tenant = .ok p) :
    p.tenant = tenant ∧ p.validate = .ok () := by
  unfold ofFile at h
  rcases content with _ | bytes
  · cases h
  · rcases hdocument : PolicyDocument.ofBytes? bytes with _ | d
    · simp only [hdocument] at h
      cases h
    · simp only [hdocument] at h
      exact own_of_policyFor h

end PolicySource

namespace SourceTree

variable {tree : SourceTree} {tenant : String} {p : RetentionPolicy}

/-- A tree answers with a policy of the tenant that it is asked for. The policy is valid, unless
the tree is held policies, which are handed out without a check. -/
theorem own_of_source (h : tree.source tenant = .ok p) :
    p.tenant = tenant ∧ (p.validate = .ok () ∨ ∃ policies, tree = .held policies) := by
  cases tree with
  | held policies => exact ⟨PolicySource.tenant_of_ofList h, .inr ⟨policies, rfl⟩⟩
  | file content =>
    obtain ⟨htenant, hvalid⟩ := PolicySource.own_of_ofFile h
    exact ⟨htenant, .inl hvalid⟩
  | tiers trees =>
    rw [source] at h
    rcases hblank : Text.isBlank tenant
    · obtain ⟨htenant, hvalid⟩ := PolicySource.own_of_ofTiers hblank h
      exact ⟨htenant, .inl hvalid⟩
    · -- for a blank tenant the tiers have no policy
      rw [PolicySource.ofTiers, PolicySource.tryTiers_of_blank hblank] at h
      cases h

end SourceTree

namespace Ledger

variable {source : PolicySource} {tenant : String} {now : Millis} {l : Ledger}

/-! ## Sweeps by a source -/

/-- What can come of a sweep by a source: there is no policy or one that is not valid, and the
ledger stays as it is, or the expired artifacts of the policy's tenant are removed. -/
inductive Resolved (source : PolicySource) (tenant : String) (now : Millis) (l : Ledger) :
    Outcome Answer → Ledger → Prop
  | unresolved {e : PolicyError} (hsource : source tenant = .error e) :
    Resolved source tenant now l (.error (.policy e)) l
  | invalid {p : RetentionPolicy} {e : ValidationError} (hsource : source tenant = .ok p)
      (hvalid : p.validate = .error e) : Resolved source tenant now l (.error (.validation e)) l
  | swept {p : RetentionPolicy} (hsource : source tenant = .ok p) (hvalid : p.validate = .ok ()) :
    Resolved source tenant now l
      (.ok (.sweptDetailed ⟨l.sweepResult p now, lost l (l.withoutExpired p now) p.tenant⟩))
      (l.withoutExpired p now)

theorem resolved_of_call (source : PolicySource) (tenant : String) (now : Millis) (l : Ledger) :
    Resolved source tenant now l (l.call (.sweepResolved source tenant now)).1
      (l.call (.sweepResolved source tenant now)).2 := by
  simp only [call_eq, run_sweepResolved, run_sweepDetailed]
  rcases hsource : source tenant with e | p
  · exact .unresolved hsource
  · rcases hvalid : p.validate with e | _
    · simp only [hvalid]
      exact .invalid hsource hvalid
    · simp only [hvalid]
      exact .swept hsource hvalid

/-! ## The law -/

/-- What a sweep for a tenant may do to the ledger. It removes readable artifacts of the tenant,
and all others stay as they are and in order; when it fails nothing changes. -/
structure TouchesOnly (tenant : String) (l : Ledger) (answer : Outcome Answer)
    (after : Ledger) : Prop where
  left : ∃ gone : Artifact → Bool, (∀ a, gone a = true → a.tenant = tenant ∧ a.state = .active) ∧
    after.artifacts = l.artifacts.filter fun a => !gone a
  failed : ∀ e, answer = .error e → after = l

theorem TouchesOnly.same (answer : Outcome Answer) : TouchesOnly tenant l answer l := by
  refine ⟨⟨fun _ => false, nofun, ?_⟩, fun _ _ => rfl⟩
  exact (List.filter_eq_self.2 fun _ _ => rfl).symm

theorem TouchesOnly.swept {p : RetentionPolicy} (h : p.tenant = tenant) (answer : Answer) :
    TouchesOnly tenant l (.ok answer) (l.withoutExpired p now) := by
  refine ⟨⟨fun a => a.sweptBy p && a.isExpired p now, fun a ha => ?_, rfl⟩, nofun⟩
  simp only [Artifact.sweptBy, Artifact.isActive, Bool.and_eq_true, beq_iff_eq] at ha
  exact ⟨ha.1.1.trans h, ha.1.2⟩

/-- A sweep by a tree of sources touches one tenant only. Whatever policies are held, whatever the
files hold and however deep tiers are nested, a policy that a tree gives is of exactly the tenant
that was asked for. So on any ledger at any time a sweep removes readable artifacts of that tenant
and leaves all others as they are, in order, and a sweep that fails leaves the ledger as it was.
It fails when the tree has no policy for the tenant, or one that is not valid, which a tree gives
only when it is no more than held policies. -/
theorem a_sweep_by_a_tree_touches_one_tenant (tree : SourceTree) (tenant : String) :
    (∀ p, tree.source tenant = .ok p → p.tenant = tenant) ∧
      ∀ (l : Ledger) now,
        let x := l.call (.sweepResolved tree.source tenant now)
        TouchesOnly tenant l x.1 x.2 ∧ Resolved tree.source tenant now l x.1 x.2 ∧
          ∀ v, x.1 = .error (.validation v) → ∃ policies, tree = .held policies := by
  refine ⟨fun p hp => (SourceTree.own_of_source hp).1, fun l now => ?_⟩
  have hresolved := resolved_of_call tree.source tenant now l
  generalize l.call (.sweepResolved tree.source tenant now) = x at hresolved ⊢
  obtain ⟨answer, after⟩ := x
  refine ⟨?_, hresolved, ?_⟩
  · cases hresolved with
    | unresolved | invalid => exact .same _
    | swept hsource _ => exact .swept (SourceTree.own_of_source hsource).1 _
  · rintro v rfl
    cases hresolved with
    | invalid hsource hinvalid =>
      rcases (SourceTree.own_of_source hsource).2 with hvalid | hheld
      · rw [hvalid] at hinvalid
        cases hinvalid
      · exact hheld

/-- A policy of a tenant that no check passes. -/
def unchecked (tenant : String) : RetentionPolicy :=
  { RetentionPolicy.conservative tenant with defaultWindow := 0 }

/-- Tiers whose first two have no valid policy for a tenant and whose third has tiers of its own. -/
def nestedTree : SourceTree :=
  .tiers [.file none, .held [.conservative "tenant-b", unchecked "tenant-a"],
    .tiers [.held [.conservative "tenant-b"], .file none]]

/-- An old artifact of each of two tenants. -/
def oldRecords : Ledger :=
  ⟨[⟨"rec-1", "tenant-a", "sess-1", none, .textRaw, 1000, .active⟩,
    ⟨"rec-1", "tenant-b", "sess-1", none, .textRaw, 1000, .active⟩]⟩

theorem a_nested_tree_sweeps_the_tenant_it_is_asked_for :
    let now := 1000 * Millis.day
    let swept := oldRecords.call (.sweepResolved nestedTree.source "tenant-a" now)
    let failed := oldRecords.call
      (.sweepResolved (SourceTree.held [unchecked "tenant-a"]).source "tenant-a" now)
    (RetentionPolicy.conservative "tenant-a").tenant = "tenant-a" ∧
      TouchesOnly "tenant-a" oldRecords swept.1 swept.2 ∧
      swept.2.artifacts.map Artifact.tenant = ["tenant-b"] ∧ failed.2 = oldRecords := by
  obtain ⟨hown, hsweeps⟩ := a_sweep_by_a_tree_touches_one_tenant nestedTree "tenant-a"
  obtain ⟨-, hfails⟩ :=
    a_sweep_by_a_tree_touches_one_tenant (.held [unchecked "tenant-a"]) "tenant-a"
  exact ⟨hown _ rfl, (hsweeps _ _).1, by decide +kernel, (hfails _ _).1.failed _ rfl⟩

end Ledger

end ReplayEvidence
