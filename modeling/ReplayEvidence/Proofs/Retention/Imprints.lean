-- The laws of imprints. A text is hashed after its length, so it ends where it ends
-- whatever follows, and an imprint gives back each field of the artifact, but for a turn
-- that is missing, which is hashed as an empty one. A valid artifact names no empty turn,
-- and nothing but such a turn is lost.
import ReplayEvidence.Retention.Fingerprint

namespace ReplayEvidence

theorem Text.utf8_inj {s t : String} (h : utf8 s = utf8 t) : s = t := by
  unfold utf8 at h
  have hdata : s.toUTF8.data = t.toUTF8.data := Array.toList_inj.1 h
  exact String.toByteArray_inj.1 (ByteArray.ext hdata)

namespace Artifact

/-- The number of bytes of a text fits the eight bytes that are hashed of it, as it does
for every text that is held in memory. -/
def Sized (s : String) : Prop := (Text.utf8 s).length < Nat.pow 2 64

/-- All texts of an artifact have a number of bytes that fits. -/
structure Fits (a : Artifact) : Prop where
  artifact : Sized a.artifact
  tenant : Sized a.tenant
  session : Sized a.session
  turn : Sized (a.turn.getD "")

theorem sized_payload (p : PayloadClass) : Sized (Named.name p) := by
  unfold Sized
  cases p <;> decide

/-- A text after its length is told apart from whatever follows. -/
theorem lengthAndBytes_append_inj {s t : String} {xs ys : List UInt8} (hs : Sized s) (ht : Sized t)
    (h : lengthAndBytes s ++ xs = lengthAndBytes t ++ ys) : s = t ∧ xs = ys := by
  unfold lengthAndBytes at h
  simp only [List.append_assoc] at h
  obtain ⟨hcount, hrest⟩ := List.append_inj h (by rw [length_lowBytes, length_lowBytes])
  have hlength := lowBytes_inj hs ht hcount
  obtain ⟨hbytes, hfollowing⟩ := List.append_inj hrest hlength
  exact ⟨Text.utf8_inj hbytes, hfollowing⟩

theorem timeBytes_append_inj {s t : Millis} {xs ys : List UInt8}
    (h : lowBytes 8 s.toUInt64.toNat ++ xs = lowBytes 8 t.toUInt64.toNat ++ ys) :
    s = t ∧ xs = ys := by
  obtain ⟨hbytes, hfollowing⟩ := List.append_inj h (by rw [length_lowBytes, length_lowBytes])
  have hnat := lowBytes_inj s.toUInt64.toNat_lt t.toUInt64.toNat_lt hbytes
  have hword := UInt64.toNat_inj.1 hnat
  cases s
  cases t
  exact ⟨congrArg Int64.ofUInt64 hword, hfollowing⟩

/-- A valid artifact never names an empty turn, which stands for none. -/
theorem turn_ne_some_empty {a : Artifact} (h : a.validate = .ok ()) : a.turn ≠ some "" := by
  unfold validate at h
  simp only [Validity.bind_eq_ok, Validity.requireSome_eq_ok] at h
  intro hturn
  exact absurd (h.2.2.2.1 "" hturn) (by decide)

theorem getD_eq_iff {o o' : Option String} (h : o ≠ o') :
    o.getD "" = o'.getD "" ↔ (o = none ∧ o' = some "") ∨ (o' = none ∧ o = some "") := by
  rcases o with _ | s <;> rcases o' with _ | t
  · exact absurd rfl h
  · simp [eq_comm]
  · simp
  · simpa using h

/-- The artifact as it is hashed: with an empty turn when it names none. -/
def asHashed (a : Artifact) : Artifact := { a with turn := some (a.turn.getD "") }

/-- Artifacts are hashed from the same bytes when they are the same as they are hashed. -/
theorem imprint_eq_iff {a b : Artifact} (hfa : a.Fits) (hfb : b.Fits) :
    a.imprint = b.imprint ↔ a.asHashed = b.asHashed := by
  constructor
  · intro h
    unfold imprint at h
    simp only [List.append_assoc] at h
    -- the fields are read off from the left, each leaving the bytes after it
    obtain ⟨hartifact, h⟩ := lengthAndBytes_append_inj hfa.artifact hfb.artifact h
    obtain ⟨htenant, h⟩ := lengthAndBytes_append_inj hfa.tenant hfb.tenant h
    obtain ⟨hsession, h⟩ := lengthAndBytes_append_inj hfa.session hfb.session h
    obtain ⟨hturn, h⟩ := lengthAndBytes_append_inj hfa.turn hfb.turn h
    obtain ⟨hpayload, h⟩ := lengthAndBytes_append_inj (sized_payload _) (sized_payload _) h
    obtain ⟨hrecorded, hstate⟩ := timeBytes_append_inj h
    have hpayload := Named.name_inj _ _ hpayload
    have hstate := Named.name_inj _ _ (Text.utf8_inj hstate)
    unfold asHashed
    simp only [mk.injEq]
    exact ⟨hartifact, htenant, hsession, congrArg some hturn, hpayload, hrecorded, hstate⟩
  · -- the imprint of an artifact is that of the artifact as it is hashed
    intro h
    have himprint : a.asHashed.imprint = b.asHashed.imprint := congrArg imprint h
    exact himprint

/-- All that tells two artifacts apart is that one of them names no turn and the other an
empty one. -/
def DifferInEmptyTurn (a b : Artifact) : Prop :=
  (a.turn = none ∧ b = { a with turn := some "" }) ∨
    (b.turn = none ∧ a = { b with turn := some "" })

instance (a b : Artifact) : Decidable (DifferInEmptyTurn a b) :=
  inferInstanceAs (Decidable (_ ∨ _))

/-- Two artifacts that differ are hashed alike when only an empty turn tells them apart. -/
theorem asHashed_eq_iff {a b : Artifact} (h : a ≠ b) :
    a.asHashed = b.asHashed ↔ DifferInEmptyTurn a b := by
  unfold asHashed DifferInEmptyTurn
  constructor
  · rcases a with ⟨artifact, tenant, session, turn, payload, recordedAt, state⟩
    rcases b with ⟨artifact', tenant', session', turn', payload', recordedAt', state'⟩
    simp only [mk.injEq, Option.some.injEq]
    rintro ⟨rfl, rfl, rfl, hturn, rfl, rfl, rfl⟩
    have hne : turn ≠ turn' := fun heq => h (by rw [heq])
    rcases (getD_eq_iff hne).1 hturn with ⟨rfl, rfl⟩ | ⟨rfl, rfl⟩
    · simp
    · simp
  · rintro (⟨ha, rfl⟩ | ⟨hb, rfl⟩)
    · rw [ha]
      rfl
    · rw [hb]
      rfl

theorem imprint_inj {a b : Artifact} (ha : a.validate = .ok ()) (hb : b.validate = .ok ())
    (hfa : a.Fits) (hfb : b.Fits) (h : a.imprint = b.imprint) : a = b := by
  rcases Decidable.em (a = b) with heq | hne
  · exact heq
  · rw [imprint_eq_iff hfa hfb, asHashed_eq_iff hne] at h
    rcases h with ⟨_, rfl⟩ | ⟨_, rfl⟩
    · exact absurd rfl (turn_ne_some_empty hb)
    · exact absurd rfl (turn_ne_some_empty ha)

/-- Two artifacts that differ in any field are hashed from different bytes, unless one
names no turn, the other an empty one, and all else is the same: these two are hashed from
the same bytes. The same holds of their fingerprints when the hash tells their bytes
apart. -/
theorem artifacts_are_hashed_alike_only_over_an_empty_turn {a b : Artifact} (hfa : a.Fits)
    (hfb : b.Fits) (hne : a ≠ b) :
    (a.imprint = b.imprint ↔ DifferInEmptyTurn a b) ∧
      ((a.fingerprint = b.fingerprint → a.imprint = b.imprint) →
        (a.fingerprint = b.fingerprint ↔ DifferInEmptyTurn a b)) := by
  have himprint : a.imprint = b.imprint ↔ DifferInEmptyTurn a b := by
    rw [imprint_eq_iff hfa hfb, asHashed_eq_iff hne]
  refine ⟨himprint, fun hfree => ?_⟩
  rw [← himprint]
  exact ⟨hfree, congrArg Hash.Blake3.hexDigest⟩

/-- An artifact of no turn. -/
def turnless : Artifact := ⟨"rec-1", "tenant-a", "sess-1", none, .metadata, 0, .active⟩

/-- A letter that moves from the artifact's id to the tenant's is seen, though the letters
of both in a row stay the same. -/
theorem a_letter_that_moves_changes_the_fingerprint :
    let shifted : Artifact := { turnless with artifact := "rec-", tenant := "1tenant-a" }
    turnless.Fits ∧ shifted.Fits ∧ turnless ≠ shifted ∧
      (turnless.fingerprint = shifted.fingerprint → turnless.imprint = shifted.imprint) ∧
      turnless.imprint ≠ shifted.imprint ∧ turnless.fingerprint ≠ shifted.fingerprint := by
  intro shifted
  have hfits : turnless.Fits := by
    constructor <;> unfold Sized <;> decide
  have hshifted : shifted.Fits := by
    constructor <;> unfold Sized <;> decide
  have hne : turnless ≠ shifted := by decide
  have hfree : turnless.fingerprint = shifted.fingerprint →
      turnless.imprint = shifted.imprint := by
    decide +kernel
  have hdiffer : ¬ DifferInEmptyTurn turnless shifted := by decide
  obtain ⟨himprint, hfingerprint⟩ :=
    artifacts_are_hashed_alike_only_over_an_empty_turn hfits hshifted hne
  exact ⟨hfits, hshifted, hne, hfree, mt himprint.1 hdiffer, mt (hfingerprint hfree).1 hdiffer⟩

theorem an_empty_turn_is_hashed_as_no_turn :
    let emptied : Artifact := { turnless with turn := some "" }
    turnless ≠ emptied ∧ turnless.imprint = emptied.imprint ∧
      turnless.fingerprint = emptied.fingerprint :=
  ⟨by decide, rfl, rfl⟩

end Artifact

end ReplayEvidence
