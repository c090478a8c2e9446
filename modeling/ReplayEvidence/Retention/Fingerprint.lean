-- Fingerprints of stored artifacts. Every text is hashed after its length, and
-- all else has one place, so valid artifacts that differ are hashed from
-- different bytes. A missing turn stands as an empty one, which is not valid.
import ReplayEvidence.Hash.Blake3
import ReplayEvidence.Retention.Artifact
import ReplayEvidence.Text.Utf8

namespace ReplayEvidence.Artifact

/-- The lowest bytes of a number, least first. -/
def lowBytes : Nat → Nat → List UInt8
  | 0, _ => []
  | count + 1, n => UInt8.ofNat n :: lowBytes count (n / 256)

theorem length_lowBytes (count n : Nat) : (lowBytes count n).length = count := by
  induction count generalizing n with
  | zero => rfl
  | succ count ih => rw [lowBytes, List.length_cons, ih]

/-- Enough of its lowest bytes tell a number. -/
theorem lowBytes_inj {count m n : Nat} (hm : m < Nat.pow 256 count)
    (hn : n < Nat.pow 256 count)
    (h : lowBytes count m = lowBytes count n) : m = n := by
  induction count generalizing m n with
  | zero =>
    have hpow : Nat.pow 256 0 = 1 := rfl
    omega
  | succ count ih =>
    rw [lowBytes, lowBytes, List.cons.injEq] at h
    have hbyte := congrArg UInt8.toNat h.1
    rw [UInt8.toNat_ofNat', UInt8.toNat_ofNat'] at hbyte
    have hpow : Nat.pow 256 (count + 1) = Nat.pow 256 count * 256 := rfl
    rw [hpow] at hm hn
    have hrest := ih (by omega) (by omega) h.2
    omega

/-- The bytes of a text after their number. -/
def lengthAndBytes (s : String) : List UInt8 :=
  let bytes := Text.utf8 s
  lowBytes 8 bytes.length ++ bytes

/-- What is hashed of an artifact. -/
def imprint (a : Artifact) : List UInt8 :=
  lengthAndBytes a.artifact ++ lengthAndBytes a.tenant ++ lengthAndBytes a.session ++
  lengthAndBytes (a.turn.getD "") ++ lengthAndBytes (Named.name a.payload) ++
  lowBytes 8 a.recordedAt.toUInt64.toNat ++ Text.utf8 (Named.name a.state)

def fingerprint (a : Artifact) : String := Hash.Blake3.hexDigest a.imprint

end ReplayEvidence.Artifact
