-- Milliseconds since the epoch as 64-bit numbers. Differences are taken in
-- the integers and brought back into range, so that none of them wraps.

namespace ReplayEvidence

/-- Milliseconds, of the epoch or of a length of time. -/
abbrev Millis := Int64

namespace Millis

/-- The number of 64 bits that is nearest to an integer. -/
def clamp (n : Int) : Millis := Int64.ofIntClamp n

/-- The time from `recorded` to `now`; negative when `now` comes first. -/
def age (now recorded : Millis) : Millis := clamp (now.toInt - recorded.toInt)

/-- How far two times lie apart. -/
def distance (a b : Millis) : Millis := clamp (a.toInt - b.toInt).natAbs

/-- A length of time without its sign. -/
def magnitude (a : Millis) : Millis := clamp a.toInt.natAbs

def hour : Millis := 3600000

def day : Millis := 24 * hour

/-! ## In the integers -/

theorem nonneg_iff {a : Int64} : 0 ≤ a ↔ 0 ≤ a.toInt := by
  rw [Int64.le_iff_toInt_le, Int64.toInt_zero]

theorem pos_iff {a : Int64} : 0 < a ↔ 0 < a.toInt := by
  rw [Int64.lt_iff_toInt_lt, Int64.toInt_zero]

theorem toInt_clamp (n : Int) :
    (clamp n).toInt = max (-9223372036854775808) (min n 9223372036854775807) := by
  have hlo : Int64.minValue.toInt = -9223372036854775808 := by decide
  have hhi : Int64.maxValue.toInt = 9223372036854775807 := by decide
  unfold clamp Int64.ofIntClamp
  split
  · split
    · rw [Int64.toInt_ofIntLE]
      omega
    · omega
  · omega

/-- The time from `recorded` to `now`, cut off at the ends of the range. -/
theorem toInt_age (now recorded : Millis) :
    (age now recorded).toInt =
      max (-9223372036854775808) (min (now.toInt - recorded.toInt) 9223372036854775807) :=
  toInt_clamp _

/-- The time since a record does not shrink as time goes on. -/
theorem age_le_age {earlier later : Millis} (h : earlier ≤ later) (recorded : Millis) :
    age earlier recorded ≤ age later recorded := by
  rw [Int64.le_iff_toInt_le] at h ⊢
  rw [toInt_age, toInt_age]
  omega

/-- How far two times lie apart, cut off at the end of the range. -/
theorem toInt_distance (a b : Millis) :
    (distance a b).toInt = min ((a.toInt - b.toInt).natAbs : Int) 9223372036854775807 := by
  rw [distance, toInt_clamp]
  omega

theorem distance_comm (a b : Millis) : distance a b = distance b a := by
  rw [distance, distance, ← Int.natAbs_neg, Int.neg_sub]

theorem toInt_magnitude (a : Millis) :
    (magnitude a).toInt = min (a.toInt.natAbs : Int) 9223372036854775807 := by
  rw [magnitude, toInt_clamp]
  omega

theorem magnitude_nonneg (a : Millis) : 0 ≤ magnitude a := by
  rw [nonneg_iff, toInt_magnitude]
  omega

end Millis

/-- A clock that stands until it is moved. -/
structure Clock where
  now : Millis
deriving DecidableEq, Repr

namespace Clock

def set (_ : Clock) (now : Millis) : Clock := ⟨now⟩

/-- The clock moved on; a time beyond 64 bits wraps. -/
def advance (c : Clock) (delta : Millis) : Clock := ⟨c.now + delta⟩

end Clock

end ReplayEvidence
