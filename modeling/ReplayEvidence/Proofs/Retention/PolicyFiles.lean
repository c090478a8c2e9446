-- Policies in a file. A list of policies reads back from its file, as one policy does from a file
-- of its own. A file hands out only what is valid and fails in other ways than held policies do,
-- but tiers make the same of both: what one of them gives to a tenant, the other gives.
import ReplayEvidence.Proofs.Retention.SourceTrees
import ReplayEvidence.Proofs.Wire.Schemas

namespace ReplayEvidence

/-! ## Reading a file of policies -/

namespace RetentionPolicy

theorem holdable_millis (depth : Nat) (n : Millis) : (Wire.encode n).holdable depth = true := by
  have hlo := Int64.le_toInt n
  have hhi := Int64.toInt_lt n
  have hsize : UInt64.size = 2 ^ 64 := rfl
  apply Json.fitsDouble_of_lt
  omega

theorem holdable_encode (depth : Nat) (p : RetentionPolicy) :
    (Wire.encode p).holdable (depth + 2) = true := by
  have hwindows : (Wire.encode p.windows).holdable (depth + 1) = true := by
    apply Json.holdable_record.2
    intro m hm
    obtain ⟨entry, -, rfl⟩ := List.mem_map.1 hm
    exact holdable_millis depth entry.2
  have hmembers : fields.members p =
      [("tenant_id", Wire.encode p.tenant), ("default_retention_ms", Wire.encode p.defaultWindow),
        ("pii_max_retention_ms", Wire.encode p.piiCeiling),
        ("phi_max_retention_ms", Wire.encode p.phiCeiling),
        ("class_retention_ms", Wire.encode p.windows)] := rfl
  apply Json.holdable_record.2
  rw [hmembers]
  simp only [List.forall_mem_cons]
  exact ⟨rfl, holdable_millis .., holdable_millis .., holdable_millis .., hwindows, nofun⟩

end RetentionPolicy

namespace PolicyDocument

theorem ofBytes?_file_many (policies : List RetentionPolicy) :
    ofBytes? (Wire.file policies) = some (.many policies) := by
  have hholdable : (Wire.encode policies).holdable depthLimit = true := by
    apply Json.holdable_array.2
    intro v hv
    obtain ⟨p, -, rfl⟩ := List.mem_map.1 hv
    exact RetentionPolicy.holdable_encode 124 p
  unfold ofBytes? ofJson?
  rw [Wire.parseBytes?_file, Option.bind_some, if_pos hholdable, LawfulWire.decode_encode]

/-- A single policy is no list, so it is read as what it is. -/
theorem ofBytes?_file_one (p : RetentionPolicy) : ofBytes? (Wire.file p) = some (.one p) := by
  have hholdable : (Wire.encode p).holdable depthLimit = true :=
    RetentionPolicy.holdable_encode 125 p
  have hlist : Wire.decode (α := List RetentionPolicy) (Wire.encode p) = .error .malformed := rfl
  unfold ofBytes? ofJson?
  rw [Wire.parseBytes?_file, Option.bind_some, if_pos hholdable, hlist,
    LawfulWire.decode_encode]

/-! ## What a document gives -/

variable {tenant : String} {p q : RetentionPolicy}

theorem policyFor_many_eq_ok {policies : List RetentionPolicy} :
    (many policies).policyFor tenant = .ok q ↔
      ∃ p, policies.find? (fun p => p.tenant = tenant) = some p ∧ p.alignTo tenant = .ok q := by
  unfold policyFor
  rcases hfound : policies.find? fun p => p.tenant = tenant with _ | p
  · simp [hfound]
  · simp [hfound]

/-- A single policy that names a tenant gives what it gives as the only one of a list. -/
theorem policyFor_one_eq_ok (h : p.tenant ≠ "") :
    (one p).policyFor tenant = .ok q ↔ (many [p]).policyFor tenant = .ok q := by
  rw [policyFor_many_eq_ok]
  unfold policyFor
  by_cases htenant : p.tenant = tenant
  · simp [htenant]
  · have hother : p.tenant ≠ "" ∧ p.tenant ≠ tenant := ⟨h, htenant⟩
    simp [RetentionPolicy.alignTo, hother]

end PolicyDocument

/-! ## Tiers that give the same -/

theorem RetentionPolicy.alignTo_self {p : RetentionPolicy} (hvalid : p.validate = .ok ()) :
    p.alignTo p.tenant = .ok p := by
  apply alignTo_eq_ok.2
  refine ⟨?_, rfl, hvalid⟩
  unfold filledIn
  split
  · rfl
  · rfl

namespace PolicySource

variable {tenant : String} {p : RetentionPolicy}

theorem gives_iff {tier : PolicySource} :
    tier.Gives tenant p ↔ ∃ answer, tier tenant = .ok answer ∧ answer.alignTo tenant = .ok p := by
  simp only [Gives, RetentionPolicy.alignTo_eq_ok]

/-- Among policies of different tenants the one that is held for a tenant is the one found first. -/
theorem ofList_eq_ok {policies : List RetentionPolicy}
    (hdistinct : (policies.map RetentionPolicy.tenant).Nodup) :
    ofList policies tenant = .ok p ↔ policies.find? (fun p => p.tenant = tenant) = some p := by
  have hheld : (Keyed.ofList (policies.map fun p => (p.tenant, p))).get? tenant =
      policies.find? fun p => p.tenant = tenant := by
    have hkeys : ((policies.map fun p => (p.tenant, p)).map Prod.fst).Nodup := by
      rw [List.map_map]
      exact hdistinct
    rw [Keyed.get?_ofList_of_nodup hkeys, List.find?_map, Option.map_map]
    exact Option.map_id'
  unfold ofList
  rw [hheld]
  rcases hfound : policies.find? fun p => p.tenant = tenant with _ | p
  · simp [hfound]
  · simp [hfound]

/-- A file gives what its document gives, which is aligned already. -/
theorem gives_ofFile {bytes : ByteArray} {d : PolicyDocument}
    (h : PolicyDocument.ofBytes? bytes = some d) :
    (ofFile (some bytes)).Gives tenant p ↔ d.policyFor tenant = .ok p := by
  have hfile : ofFile (some bytes) tenant = d.policyFor tenant := by
    unfold ofFile
    simp only [h]
  have haligned (q : RetentionPolicy) (hq : d.policyFor tenant = .ok q) :
      q.alignTo tenant = .ok q := by
    obtain ⟨rfl, hvalid⟩ := own_of_policyFor hq
    exact RetentionPolicy.alignTo_self hvalid
  rw [gives_iff, hfile]
  constructor
  · rintro ⟨answer, hanswer, hp⟩
    rw [haligned answer hanswer] at hp
    cases hp
    exact hanswer
  · intro hp
    exact ⟨p, hp, haligned p hp⟩

theorem gives_file_many_iff {policies : List RetentionPolicy}
    (hdistinct : (policies.map RetentionPolicy.tenant).Nodup) :
    (ofFile (some (Wire.file policies))).Gives tenant p ↔ (ofList policies).Gives tenant p := by
  rw [gives_ofFile (PolicyDocument.ofBytes?_file_many policies),
    PolicyDocument.policyFor_many_eq_ok, gives_iff]
  simp only [ofList_eq_ok hdistinct]

theorem gives_file_one_iff {held : RetentionPolicy} (h : held.tenant ≠ "") :
    (ofFile (some (Wire.file held))).Gives tenant p ↔ (ofList [held]).Gives tenant p := by
  have hdistinct : ([held].map RetentionPolicy.tenant).Nodup := List.nodup_singleton _
  rw [gives_ofFile (PolicyDocument.ofBytes?_file_one held), PolicyDocument.policyFor_one_eq_ok h,
    ← gives_file_many_iff hdistinct, gives_ofFile (PolicyDocument.ofBytes?_file_many [held])]

/-- What tiers answer hangs on what each of them gives. -/
theorem ofTiers_congr {tier other : PolicySource}
    (h : ∀ tenant p, tier.Gives tenant p ↔ other.Gives tenant p)
    (before after : List PolicySource) :
    ofTiers (before ++ tier :: after) = ofTiers (before ++ other :: after) := by
  funext tenant
  have hgiven : given? tenant tier = given? tenant other := by
    apply Option.ext
    intro p
    rw [given?_eq_some_iff, given?_eq_some_iff, h]
  rcases hblank : Text.isBlank tenant
  · rw [ofTiers_of_named _ hblank, ofTiers_of_named _ hblank]
    simp only [firstAligned_eq, List.findSome?_append, List.findSome?_cons, hgiven]
  · rw [ofTiers, ofTiers, tryTiers_of_blank hblank, tryTiers_of_blank hblank]

/-! ## The law -/

/-- A file tier answers as held policies do. Take policies of different tenants, valid or not, and
tiers before and after. Whether the tier between them holds the policies or reads them from the
file that the list is written to, the tiers are one and the same source: every tenant that is not
blank gets the same policy from both, and so does whoever has them as a tier. The same holds of a
single policy that names a tenant, in a file of its own. -/
theorem a_file_tier_answers_as_held_policies_do (before after : List PolicySource)
    {policies : List RetentionPolicy}
    (hdistinct : (policies.map RetentionPolicy.tenant).Nodup) :
    let held := ofTiers (before ++ ofList policies :: after)
    ofTiers (before ++ ofFile (some (Wire.file policies)) :: after) = held ∧
      (∀ p, policies = [p] → p.tenant ≠ "" →
        ofTiers (before ++ ofFile (some (Wire.file p)) :: after) = held) ∧
      ∀ tenant, Text.isBlank tenant = false → ∃ p, held tenant = .ok p := by
  intro held
  refine ⟨?_, ?_, ?_⟩
  · exact ofTiers_congr (fun tenant p => gives_file_many_iff hdistinct) before after
  · rintro p rfl hnamed
    exact ofTiers_congr (fun tenant q => gives_file_one_iff hnamed) before after
  · intro tenant hnamed
    exact ⟨_, ofTiers_of_named _ hnamed⟩

/-- A policy with a window of its own. -/
def daily : RetentionPolicy :=
  { RetentionPolicy.conservative "tenant-b" with defaultWindow := Millis.day }

/-- A policy without a valid window and one with a window of its own. -/
def filedPolicies : List RetentionPolicy :=
  [{ RetentionPolicy.conservative "tenant-a" with defaultWindow := 0 }, daily]

theorem filed_policies_are_taken_between_other_tiers :
    let tiers (content : ByteArray) : PolicySource :=
      ofTiers ([ofFile none] ++ ofFile (some content) :: [ofList [.conservative "tenant-a"]])
    (filedPolicies.map RetentionPolicy.tenant).Nodup ∧ ([daily].map RetentionPolicy.tenant).Nodup ∧
      tiers (Wire.file filedPolicies) "tenant-a" = .ok (.conservative "tenant-a") ∧
      tiers (Wire.file filedPolicies) "tenant-b" = .ok daily ∧
      tiers (Wire.file daily) "tenant-a" = .ok (.conservative "tenant-a") ∧
      tiers (Wire.file daily) "tenant-b" = .ok daily := by
  intro tiers
  have hfiled : (filedPolicies.map RetentionPolicy.tenant).Nodup := by decide
  have hdaily : ([daily].map RetentionPolicy.tenant).Nodup := by decide
  obtain ⟨hmany, -, -⟩ := a_file_tier_answers_as_held_policies_do [ofFile none]
    [ofList [.conservative "tenant-a"]] hfiled
  obtain ⟨-, hone, -⟩ := a_file_tier_answers_as_held_policies_do [ofFile none]
    [ofList [.conservative "tenant-a"]] hdaily
  have hsingle := hone daily rfl (by decide)
  refine ⟨hfiled, hdaily, ?_, ?_, ?_, ?_⟩
  · rw [show tiers (Wire.file filedPolicies) = _ from hmany]
    rfl
  · rw [show tiers (Wire.file filedPolicies) = _ from hmany]
    rfl
  · rw [show tiers (Wire.file daily) = _ from hsingle]
    rfl
  · rw [show tiers (Wire.file daily) = _ from hsingle]
    rfl

end PolicySource

end ReplayEvidence
