-- What reads as a whole number: decimal digits, and before them a plus sign, or a sign of
-- either kind where numbers may be negative. Every numeral is read as its value, and nothing
-- but a numeral is read.
import ReplayEvidence.Decimal
import ReplayEvidence.Text.Blank

namespace ReplayEvidence.Decimal

/-! ## Digits -/

/-- The value of one digit. -/
def digitValue (c : Char) : Nat := c.toNat - '0'.toNat

/-- One or more decimal digits and the number they stand for: the digits before the last
count ten times as much as it does. -/
inductive Digits : List Char → Nat → Prop where
  | one {c : Char} : c.isDigit = true → Digits [c] (digitValue c)
  | more {cs : List Char} {n : Nat} {c : Char} : Digits cs n → c.isDigit = true →
      Digits (cs ++ [c]) (10 * n + digitValue c)

theorem Digits.isDigit {cs : List Char} {n : Nat} (h : Digits cs n) :
    ∀ c ∈ cs, c.isDigit = true := by
  induction h with
  | one hc => simpa using hc
  | more _ hc ih =>
    intro d hd
    rcases List.mem_append.1 hd with hd | hd
    · exact ih d hd
    · rw [List.mem_singleton.1 hd]
      exact hc

theorem Digits.ne_nil {cs : List Char} {n : Nat} (h : Digits cs n) : cs ≠ [] := by
  cases h <;> simp

theorem Digits.ofDigitChars_eq {cs : List Char} {n : Nat} (h : Digits cs n) :
    Nat.ofDigitChars 10 cs 0 = n := by
  induction h with
  | one => simp [Nat.ofDigitChars_cons, digitValue]
  | more _ _ ih => rw [Nat.ofDigitChars_append, ih, Nat.ofDigitChars_cons, Nat.ofDigitChars_nil,
      digitValue]

theorem Digits.append {cs ds : List Char} {n : Nat} (h : Digits cs n)
    (hds : ∀ d ∈ ds, d.isDigit = true) : Digits (cs ++ ds) (Nat.ofDigitChars 10 ds n) := by
  induction ds generalizing cs n with
  | nil =>
    rw [List.append_nil, Nat.ofDigitChars_nil]
    exact h
  | cons d ds ih =>
    rw [List.forall_mem_cons] at hds
    have hrest := ih (h.more hds.1) hds.2
    rw [List.append_assoc] at hrest
    rw [Nat.ofDigitChars_cons]
    exact hrest

theorem natOfChars?_eq_some_iff {cs : List Char} {n : Nat} :
    natOfChars? cs = some n ↔ Digits cs n := by
  unfold natOfChars?
  constructor
  · intro h
    split at h
    · next hdigits =>
      cases h
      rcases cs with _ | ⟨c, cs⟩
      · exact absurd rfl hdigits.1
      · have hall := List.all_eq_true.1 hdigits.2
        rw [List.forall_mem_cons] at hall
        have hone := (Digits.one hall.1).append hall.2
        rw [Nat.ofDigitChars_cons, Nat.mul_zero, Nat.zero_add]
        exact hone
    · cases h
  · intro h
    rw [if_pos ⟨h.ne_nil, List.all_eq_true.2 h.isDigit⟩, h.ofDigitChars_eq]

/-! ## Numerals -/

/-- A number in decimal digits, with or without a plus sign before them. -/
inductive Numeral : List Char → Nat → Prop where
  | plain {cs : List Char} {n : Nat} : Digits cs n → Numeral cs n
  | plus {cs : List Char} {n : Nat} : Digits cs n → Numeral ('+' :: cs) n

theorem unsigned?_eq_some_iff {cs : List Char} {n : Nat} :
    unsigned? cs = some n ↔ Numeral cs n := by
  unfold unsigned?
  split
  · next ds =>
    rw [natOfChars?_eq_some_iff]
    constructor
    · exact .plus
    · intro h
      cases h with
      | plain hdigits => exact absurd (hdigits.isDigit '+' (List.mem_cons_self ..)) (by decide)
      | plus hdigits => exact hdigits
  · next hplus =>
    rw [natOfChars?_eq_some_iff]
    constructor
    · exact .plain
    · intro h
      cases h with
      | plain hdigits => exact hdigits
      | plus hdigits => exact absurd rfl (hplus _)

theorem Numeral.isSpace_eq_false {cs : List Char} {n : Nat} (h : Numeral cs n) :
    ∀ c ∈ cs, Text.isSpace c = false := by
  cases h with
  | plain hdigits => exact fun c hc => Text.isSpace_eq_false_of_isDigit (hdigits.isDigit c hc)
  | plus hdigits =>
    rw [List.forall_mem_cons]
    exact ⟨by decide, fun c hc => Text.isSpace_eq_false_of_isDigit (hdigits.isDigit c hc)⟩

theorem numeral_ofNat (n : Nat) : Numeral (ofNat n).toList n := by
  rw [ofNat, String.toList_ofList]
  exact .plain (natOfChars?_eq_some_iff.1 (natOfChars?_digits n))

/-! ## Signed numerals -/

/-- A number in decimal digits, with or without a sign of either kind before them. -/
inductive Signed : List Char → Int → Prop where
  | unsigned {cs : List Char} {n : Nat} : Numeral cs n → Signed cs n
  | minus {cs : List Char} {n : Nat} : Digits cs n → Signed ('-' :: cs) (-n)

/-- After a minus sign digits are read and the number is taken below zero. -/
theorem signed?_minus (cs : List Char) :
    signed? ('-' :: cs) = (natOfChars? cs).map fun n : Nat => -(n : Int) := by
  rw [signed?]
  cases natOfChars? cs <;> rfl

theorem signed?_eq_some_iff {cs : List Char} {n : Int} : signed? cs = some n ↔ Signed cs n := by
  by_cases hminus : ∃ ds, cs = '-' :: ds
  · obtain ⟨ds, rfl⟩ := hminus
    simp only [signed?_minus, Option.map_eq_some_iff, natOfChars?_eq_some_iff]
    constructor
    · rintro ⟨k, hdigits, rfl⟩
      exact .minus hdigits
    · intro h
      cases h with
      | unsigned hnumeral =>
        cases hnumeral with
        | plain hdigits => exact absurd (hdigits.isDigit '-' (List.mem_cons_self ..)) (by decide)
      | minus hdigits => exact ⟨_, hdigits, rfl⟩
  · have hsigned : signed? cs = (unsigned? cs).map Int.ofNat := by
      unfold signed?
      split
      · next ds => exact absurd ⟨ds, rfl⟩ hminus
      · rfl
    simp only [hsigned, Option.map_eq_some_iff, unsigned?_eq_some_iff]
    constructor
    · rintro ⟨k, hnumeral, rfl⟩
      exact .unsigned hnumeral
    · intro h
      cases h with
      | unsigned hnumeral => exact ⟨_, hnumeral, rfl⟩
      | minus hdigits => exact absurd ⟨_, rfl⟩ hminus

theorem Signed.unique {cs : List Char} {m n : Int} (hm : Signed cs m) (hn : Signed cs n) :
    m = n :=
  Option.some.inj ((signed?_eq_some_iff.2 hm).symm.trans (signed?_eq_some_iff.2 hn))

theorem Signed.isSpace_eq_false {cs : List Char} {n : Int} (h : Signed cs n) :
    ∀ c ∈ cs, Text.isSpace c = false := by
  cases h with
  | unsigned hnumeral => exact hnumeral.isSpace_eq_false
  | minus hdigits =>
    rw [List.forall_mem_cons]
    exact ⟨by decide, (Numeral.plain hdigits).isSpace_eq_false⟩

theorem Signed.trim_eq {s : String} {n : Int} (h : Signed s.toList n) : Text.trim s = s := by
  rw [Text.trim, Text.trimChars_eq_self h.isSpace_eq_false, String.ofList_toList]

theorem signed_ofInt (n : Int) : Signed (ofInt n).toList n := by
  rw [ofInt, String.toList_ofList]
  exact signed?_eq_some_iff.1 (signed?_intDigits n)

/-! ## Words -/

/-- A number of 64 bits with a sign is read from its signed numerals and from no other text. -/
theorem int64?_eq_some_iff {s : String} {n : Int64} :
    int64? s = some n ↔ Signed s.toList n.toInt := by
  unfold int64?
  simp only [Option.bind_eq_some_iff, signed?_eq_some_iff]
  constructor
  · rintro ⟨m, hm, heq⟩
    split at heq
    · next hrange =>
      cases heq
      rwa [Int64.toInt_ofInt_of_le hrange.1 (Int.lt_add_one_of_le hrange.2)]
    · cases heq
  · intro h
    exact ⟨n.toInt, h, by
      rw [if_pos ⟨Int64.minValue_le_toInt n, Int64.toInt_le n⟩, Int64.ofInt_toInt]⟩

/-- Words of a number type of so many values. The reader gives a word exactly for the
numerals of its value. -/
structure Reads {α : Type} (read? : String → Option α) (value : α → Nat) (size : Nat) :
    Prop where
  eq_some_iff : ∀ s n, read? s = some n ↔ Numeral s.toList (value n)
  value_lt : ∀ n, value n < size
  exists_value : ∀ k, k < size → ∃ n, value n = k

/-- A reader of numerals that takes those below the number of words. -/
theorem reads_of_size {α : Type} {word : Nat → α} {value : α → Nat} {size : Nat}
    (hvalue : ∀ n, value n < size) (hword : ∀ n, n < size → value (word n) = n)
    (hback : ∀ n, word (value n) = n) :
    Reads (fun s => (unsigned? s.toList).bind fun n => if n < size then some (word n) else none)
      value size where
  eq_some_iff s n := by
    simp only [Option.bind_eq_some_iff, unsigned?_eq_some_iff]
    constructor
    · rintro ⟨m, hm, heq⟩
      split at heq
      · next hlt =>
        cases heq
        rwa [hword m hlt]
      · cases heq
    · intro h
      exact ⟨value n, h, by rw [if_pos (hvalue n), hback]⟩
  value_lt := hvalue
  exists_value k hk := ⟨word k, hword k hk⟩

theorem uint64?_reads : Reads uint64? UInt64.toNat UInt64.size :=
  reads_of_size UInt64.toNat_lt (fun _ => UInt64.toNat_ofNat_of_lt') (fun _ => UInt64.ofNat_toNat)

theorem uint32?_reads : Reads uint32? UInt32.toNat UInt32.size :=
  reads_of_size UInt32.toNat_lt (fun _ => UInt32.toNat_ofNat_of_lt') (fun _ => UInt32.ofNat_toNat)

namespace Reads

variable {α : Type} {read? : String → Option α} {value : α → Nat} {size : Nat}

/-- The reader gives nothing for a text that is no numeral of a value that fits. -/
theorem eq_none_iff (h : Reads read? value size) {s : String} :
    read? s = none ↔ ∀ k, k < size → ¬ Numeral s.toList k := by
  rw [Option.eq_none_iff_forall_ne_some]
  constructor
  · intro hnone k hk hnumeral
    obtain ⟨n, rfl⟩ := h.exists_value k hk
    exact hnone n ((h.eq_some_iff s n).2 hnumeral)
  · intro hno n hn
    exact hno _ (h.value_lt n) ((h.eq_some_iff s n).1 hn)

theorem value_inj (h : Reads read? value size) {m n : α} (hvalue : value m = value n) :
    m = n := by
  have hm := (h.eq_some_iff _ m).2 (numeral_ofNat _)
  rw [hvalue] at hm
  exact Option.some.inj (hm.symm.trans ((h.eq_some_iff _ n).2 (numeral_ofNat _)))

end Reads

end ReplayEvidence.Decimal
