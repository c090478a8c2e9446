-- Whole numbers in decimal: writing one, and reading one that may carry a
-- sign and leading zeros. Reading what was written gives the number back.

namespace ReplayEvidence.Decimal

/-! ## Writing -/

def digits (n : Nat) : List Char := Nat.toDigits 10 n

def ofNat (n : Nat) : String := String.ofList (digits n)

/-- The characters of a number with a minus sign in front when it is negative. -/
def intDigits : Int → List Char
  | .ofNat n => digits n
  | .negSucc n => '-' :: digits (n + 1)

/-- The number in decimal, with a minus sign in front when it is negative. -/
def ofInt (n : Int) : String := String.ofList (intDigits n)

/-! ## Reading -/

/-- The value of one or more decimal digits. -/
def natOfChars? (cs : List Char) : Option Nat :=
  if cs ≠ [] ∧ cs.all Char.isDigit then some (Nat.ofDigitChars 10 cs 0) else none

/-- A number of digits with an optional plus sign. -/
def unsigned? : List Char → Option Nat
  | '+' :: cs => natOfChars? cs
  | cs => natOfChars? cs

/-- A number of digits with an optional sign of either kind. -/
def signed? : List Char → Option Int
  | '-' :: cs => (natOfChars? cs).map fun n => -(n : Int)
  | cs => (unsigned? cs).map Int.ofNat

def int64? (s : String) : Option Int64 :=
  (signed? s.toList).bind fun n =>
    if Int64.minValue.toInt ≤ n ∧ n ≤ Int64.maxValue.toInt then some (Int64.ofInt n) else none

def uint64? (s : String) : Option UInt64 :=
  (unsigned? s.toList).bind fun n => if n < UInt64.size then some (UInt64.ofNat n) else none

def uint32? (s : String) : Option UInt32 :=
  (unsigned? s.toList).bind fun n => if n < UInt32.size then some (UInt32.ofNat n) else none

/-! ## Laws -/

theorem digits_ne_nil (n : Nat) : digits n ≠ [] := Nat.toDigits_ne_nil

theorem digits_all_isDigit (n : Nat) : (digits n).all Char.isDigit = true :=
  List.all_eq_true.2 fun _ h => Nat.isDigit_of_mem_toDigits (by decide) (by decide) h

theorem natOfChars?_digits (n : Nat) : natOfChars? (digits n) = some n := by
  rw [natOfChars?, if_pos ⟨digits_ne_nil n, digits_all_isDigit n⟩, digits,
    Nat.ofDigitChars_toDigits (by decide) (by decide)]

/-- The digits of a number start with a digit, so with no sign. -/
theorem digits_eq_cons (n : Nat) : ∃ c cs, digits n = c :: cs ∧ c.isDigit = true := by
  rcases h : digits n with _ | ⟨c, cs⟩
  · exact absurd h (digits_ne_nil n)
  · have := digits_all_isDigit n
    rw [h, List.all_cons, Bool.and_eq_true] at this
    exact ⟨c, cs, rfl, this.1⟩

theorem unsigned?_digits (n : Nat) : unsigned? (digits n) = some n := by
  obtain ⟨c, cs, h, hc⟩ := digits_eq_cons n
  have hn := natOfChars?_digits n
  rw [h] at hn ⊢
  unfold unsigned?
  split
  · next heq =>
    cases heq
    exact absurd hc (by decide)
  · exact hn

theorem signed?_digits (n : Nat) : signed? (digits n) = some (n : Int) := by
  obtain ⟨c, cs, h, hc⟩ := digits_eq_cons n
  have hn := unsigned?_digits n
  rw [h] at hn ⊢
  unfold signed?
  split
  · next heq =>
    cases heq
    exact absurd hc (by decide)
  · rw [hn]
    rfl

theorem signed?_intDigits (n : Int) : signed? (intDigits n) = some n := by
  cases n with
  | ofNat n => exact signed?_digits n
  | negSucc n =>
    rw [intDigits, signed?, natOfChars?_digits]
    rfl

end ReplayEvidence.Decimal
