-- What a reader can hold that takes a whole text in before it decides what
-- the text means: nesting up to a depth, numbers that become a double, and
-- strings that spell text, also where no value is wanted.
import ReplayEvidence.Json.Basic

namespace ReplayEvidence.Json

/-- A number rounded to the 53 binary digits that a double keeps, to the even
neighbour when it is halfway. -/
def roundDouble (n : Nat) : Nat :=
  let unit := 1 <<< (n.log2 - 52)
  let below := n / unit
  let rest := n % unit
  if unit < 2 * rest ∨ (2 * rest = unit ∧ below % 2 = 1) then (below + 1) * unit
  else below * unit

/-- The least magnitude that rounds past every double: 2¹⁰²⁴ less half a unit
of the last place. -/
def doubleOverflow : Nat := (1 <<< 1024) - (1 <<< 970)

/-- The leading digits of a coefficient that fit 64 bits, and the power of ten
with the digits left out counted in. -/
def leading (coefficient : Nat) (exponent : Int) : Nat × Int :=
  let spare := (Nat.toDigits 10 coefficient).length - 20
  let head := coefficient / Nat.pow 10 spare
  if head < UInt64.size then (head, exponent + spare)
  else (head / 10, exponent + spare + 1)

/-- Whether a coefficient times a power of ten is read as a double. The leading
digits and the power are each rounded to a double, and so is their product,
which has to be finite. -/
def fitsDouble (coefficient : Nat) (exponent : Int) : Bool :=
  let (head, power) := leading coefficient exponent
  head = 0 || power < 0 ||
    (power ≤ 308 && roundDouble head * roundDouble (Nat.pow 10 power.toNat) < doubleOverflow)

mutual

/-- Whether a value can be held whole with at most `depth` levels of nesting. -/
def holdable (depth : Nat) : Json → Bool
  | .null | .bool _ => true
  | .int n => fitsDouble n.natAbs 0
  | .decimal c e => fitsDouble c e
  | .string s => s.isSome
  | .array vs => 0 < depth && holdableItems (depth - 1) vs
  | .object ms => 0 < depth && holdableMembers (depth - 1) ms

def holdableItems (depth : Nat) : List Json → Bool
  | [] => true
  | v :: vs => holdable depth v && holdableItems depth vs

def holdableMembers (depth : Nat) : List (Option String × Json) → Bool
  | [] => true
  | (k, v) :: ms => k.isSome && holdable depth v && holdableMembers depth ms

end

/-! ## Laws -/

/-- A number of at most 53 binary digits is not rounded. -/
theorem roundDouble_of_lt {n : Nat} (h : n < 1 <<< 53) : roundDouble n = n := by
  rw [Nat.shiftLeft_eq, Nat.one_mul] at h
  have hlog : n.log2 - 52 = 0 := by
    by_cases hn : n = 0
    · rw [hn]
      rfl
    · have := (Nat.log2_lt hn).2 h
      omega
  simp only [roundDouble, hlog, Nat.shiftLeft_zero, Nat.div_one, Nat.mod_one, Nat.mul_one]
  rw [if_neg (by omega)]

theorem roundDouble_le {n : Nat} (h : n ≠ 0) : roundDouble n ≤ 2 * n := by
  unfold roundDouble
  have hunit : 1 <<< (n.log2 - 52) ≤ n := by
    rw [Nat.shiftLeft_eq, Nat.one_mul]
    exact Nat.le_trans (Nat.pow_le_pow_right (by omega) (Nat.sub_le ..)) (Nat.log2_self_le h)
  have hbelow := Nat.div_mul_le_self n (1 <<< (n.log2 - 52))
  simp only
  split
  · rw [Nat.add_mul, Nat.one_mul]
    omega
  · omega

/-- Zero is read as a double whatever its power of ten. -/
theorem fitsDouble_zero (exponent : Int) : fitsDouble 0 exponent = true := by
  simp [fitsDouble, leading]

theorem fitsDouble_of_lt {n : Nat} (h : n < UInt64.size) : fitsDouble n 0 = true := by
  have hsize : UInt64.size < 10 ^ 20 := by decide
  have hdigits : (Nat.toDigits 10 n).length ≤ 20 :=
    (Nat.length_toDigits_le_iff (by omega) (by omega)).2 (by omega)
  have hleading : leading n 0 = (n, 0) := by
    simp [leading, Nat.sub_eq_zero_of_le hdigits, h]
  by_cases hzero : n = 0
  · rw [hzero]
    exact fitsDouble_zero 0
  · have hround := roundDouble_le hzero
    have hone : roundDouble (Nat.pow 10 0) = 1 := roundDouble_of_lt (by decide)
    have hlarge : 2 * UInt64.size < doubleOverflow := by decide
    unfold fitsDouble
    rw [hleading]
    simp only [Int.toNat_zero, hone, Nat.mul_one, Bool.or_eq_true, Bool.and_eq_true,
      decide_eq_true_eq]
    right
    omega

/-! ## What can be held -/

theorem holdableItems_iff {depth : Nat} {vs : List Json} :
    holdableItems depth vs = true ↔ ∀ v ∈ vs, v.holdable depth = true := by
  induction vs with
  | nil => simp [holdableItems]
  | cons v vs ih => simp [holdableItems, ih]

theorem holdableMembers_iff {depth : Nat} {ms : List (Option String × Json)} :
    holdableMembers depth ms = true ↔
      ∀ m ∈ ms, m.1.isSome = true ∧ m.2.holdable depth = true := by
  induction ms with
  | nil => simp [holdableMembers]
  | cons m ms ih => simp [holdableMembers, ih, and_assoc]

/-- A list needs one level more than its items. -/
theorem holdable_array {depth : Nat} {vs : List Json} :
    (Json.array vs).holdable (depth + 1) = true ↔ ∀ v ∈ vs, v.holdable depth = true := by
  simp [holdable, holdableItems_iff]

theorem holdable_record {depth : Nat} {ms : List (String × Json)} :
    (record ms).holdable (depth + 1) = true ↔ ∀ m ∈ ms, m.2.holdable depth = true := by
  rw [record, holdable, Nat.add_sub_cancel, Bool.and_eq_true, holdableMembers_iff,
    List.forall_mem_map]
  simp

end ReplayEvidence.Json
