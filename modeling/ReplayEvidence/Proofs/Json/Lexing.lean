-- Cutting a text into tokens undoes spelling them. A number takes in all that
-- could be more of it, so the one condition is that no number is followed by
-- another. No token is spelled with a control character.
import Mathlib.Data.List.Chain
import Mathlib.Tactic.SplitIfs
import ReplayEvidence.Json.Token

namespace ReplayEvidence.Json

open Text (Scalar)

/-! ## Digits -/

/-- Whether a text does not start with a digit. -/
def NoDigit (text : List Scalar) : Prop := ∀ c r, text = some c :: r → c.isDigit = false

theorem ofDigitChars_digits (n : Nat) : Nat.ofDigitChars 10 (Decimal.digits n) 0 = n :=
  Nat.ofDigitChars_toDigits (by decide) (by decide)

theorem takeDigits_append {ds : List Char} {rest : List Scalar} (hds : ds.all Char.isDigit = true)
    (hrest : NoDigit rest) : takeDigits (ds.map some ++ rest) = (ds, rest) := by
  induction ds with
  | nil =>
    rcases rest with _ | ⟨_ | c, r⟩
    · rfl
    · rfl
    · rw [List.map_nil, List.nil_append, takeDigits, hrest c r rfl]
      rfl
  | cons d ds ih =>
    rw [List.all_cons, Bool.and_eq_true] at hds
    rw [List.map_cons, List.cons_append, takeDigits, if_pos hds.1, ih hds.2]

theorem exists_digits (n : Nat) {rest : List Scalar} (h : NoDigit rest) :
    ∃ c cs, Decimal.digits n = c :: cs ∧ c.isDigit = true ∧ Nat.ofDigitChars 10 (c :: cs) 0 = n ∧
      takeDigits (some c :: (cs.map some ++ rest)) = (c :: cs, rest) := by
  obtain ⟨c, cs, hcs, hc⟩ := Decimal.digits_eq_cons n
  have hvalue := ofDigitChars_digits n
  have htake := takeDigits_append (Decimal.digits_all_isDigit n) h
  rw [hcs] at hvalue htake
  exact ⟨c, cs, hcs, hc, hvalue, htake⟩

theorem head?_digits_ne_zero {n : Nat} (h : 0 < n) : (Decimal.digits n).head? ≠ some '0' := by
  induction n using Nat.strongRecOn with
  | _ n ih =>
    rcases Nat.lt_or_ge n 10 with hn | hn
    · rw [Decimal.digits, Nat.toDigits_of_lt_base hn]
      have : ∀ m < 10, 0 < m → [Nat.digitChar m].head? ≠ some '0' := by decide
      exact this n hn h
    · have hlead := ih (n / 10) (by omega) (by omega)
      obtain ⟨c, cs, hcs, -⟩ := Decimal.digits_eq_cons (n / 10)
      have hdigits : Decimal.digits n = Decimal.digits (n / 10) ++ [Nat.digitChar (n % 10)] :=
        Nat.toDigits_of_base_le (by decide) hn
      rw [hcs] at hlead hdigits
      rw [hdigits]
      exact hlead

theorem wholePart_digits (n : Nat) {rest : List Scalar} (h : NoDigit rest) :
    wholePart ((Decimal.digits n).map some ++ rest) = some (Decimal.digits n, rest) := by
  rcases Nat.eq_zero_or_pos n with rfl | hn
  · rfl
  · obtain ⟨c, cs, hcs, -, -, htake⟩ := exists_digits n h
    have hzero := head?_digits_ne_zero hn
    rw [hcs] at hzero ⊢
    rw [List.map_cons, List.cons_append, wholePart, if_neg fun he => hzero (congrArg some he),
      htake]

/-! ## Numbers -/

/-- Whether nothing at the start of a text is taken for more of a number. -/
structure EndsNumber (text : List Scalar) : Prop where
  noDigit : NoDigit text
  noPoint : ∀ r, text ≠ some '.' :: r
  noPower : ∀ c r, text = some c :: r → ¬ (c = 'e' ∨ c = 'E')

theorem fraction_eq_self {text : List Scalar} (h : ∀ r, text ≠ some '.' :: r) :
    fraction text = some ([], text) := by
  unfold fraction
  split
  · exact absurd rfl (h _)
  · rfl

theorem exponent_eq_self {text : List Scalar}
    (h : ∀ c r, text = some c :: r → ¬ (c = 'e' ∨ c = 'E')) :
    exponent text = some (none, text) := by
  unfold exponent
  split
  · rw [if_neg (h _ _ rfl)]
  · rfl

theorem number_digits (negative : Bool) (n : Nat) {rest : List Scalar} (h : EndsNumber rest) :
    number negative ((Decimal.digits n).map some ++ rest) =
      some (if negative then if n = 0 then .decimal 0 0 else .int (-(n : Int)) else .int n,
        rest) := by
  simp only [number, Option.bind_eq_bind, Option.bind_some, wholePart_digits n h.noDigit,
    fraction_eq_self h.noPoint, exponent_eq_self h.noPower, List.append_nil, ofDigitChars_digits]
  cases negative <;> rfl

theorem exponent_intDigits (e : Int) {rest : List Scalar} (h : NoDigit rest) :
    exponent (some 'e' :: ((Decimal.intDigits e).map some ++ rest)) = some (some e, rest) := by
  cases e with
  | ofNat n =>
    obtain ⟨c, cs, hcs, hc, hvalue, htake⟩ := exists_digits n h
    have hminus : c ≠ '-' := by
      rintro rfl
      exact absurd hc (by decide)
    have hplus : c ≠ '+' := by
      rintro rfl
      exact absurd hc (by decide)
    simp [Decimal.intDigits, exponent, hcs, hminus, hplus, htake, hvalue]
  | negSucc n =>
    obtain ⟨c, cs, hcs, hc, hvalue, htake⟩ := exists_digits (n + 1) h
    simp [Decimal.intDigits, exponent, hcs, htake, hvalue, Int.negSucc_eq]

theorem number_decimal (c : Nat) (e : Int) {rest : List Scalar} (h : NoDigit rest) :
    number false ((Decimal.digits c).map some ++
      some 'e' :: ((Decimal.intDigits e).map some ++ rest)) = some (.decimal c e, rest) := by
  have hdigit : NoDigit (some 'e' :: ((Decimal.intDigits e).map some ++ rest)) := by
    rintro _ _ ⟨⟩
    rfl
  have hpoint (r : List Scalar) : some 'e' :: ((Decimal.intDigits e).map some ++ rest) ≠
      some '.' :: r := by simp
  simp only [number, Option.bind_eq_bind, Option.bind_some, wholePart_digits c hdigit,
    fraction_eq_self hpoint, exponent_intDigits e h, List.append_nil, ofDigitChars_digits]
  simp

/-! ## Strings -/

theorem stringBody_quote (r : List Scalar) : stringBody (some '"' :: r) = some ([], r) := by
  rw [stringBody.eq_def]
  simp

theorem stringBody_char {c : Char} (hquote : c ≠ '"') (hback : c ≠ '\\')
    (hcontrol : ¬ c.toNat < 0x20) (r : List Scalar) :
    stringBody (some c :: r) = withPiece (.char c) (stringBody r) := by
  rw [stringBody.eq_def]
  simp [hquote, hback, hcontrol]

theorem stringBody_escape {e c : Char} (h : escape? e = some c) (r : List Scalar) :
    stringBody (some '\\' :: some e :: r) = withPiece (.char c) (stringBody r) := by
  have hu : e ≠ 'u' := by
    rintro rfl
    cases h
  rw [stringBody.eq_def]
  simp [hu, h]

theorem stringBody_unit {a b c d : Char} {n : Nat} (h : unit? a b c d = some n)
    (r : List Scalar) :
    stringBody (some '\\' :: some 'u' :: some a :: some b :: some c :: some d :: r) =
      withPiece (.unit n) (stringBody r) := by
  rw [stringBody.eq_def]
  simp [h]

theorem unit?_hex4 : ∀ n < 0x20, ∃ a b c d, hex4 n = [a, b, c, d] ∧ unit? a b c d = some n := by
  intro n hn
  refine ⟨_, _, _, _, rfl, ?_⟩
  have : ∀ n < 0x20, unit? (Nat.digitChar (n / 4096 % 16)) (Nat.digitChar (n / 256 % 16))
      (Nat.digitChar (n / 16 % 16)) (Nat.digitChar (n % 16)) = some n := by decide
  exact this n hn

theorem exists_piece (c : Char) :
    ∃ p, (∀ rest, stringBody ((escaped c).map some ++ rest) = withPiece p (stringBody rest)) ∧
      ∀ ps, spelled (p :: ps) = (spelled ps).map (c :: ·) := by
  unfold escaped
  split_ifs with hquote hback hb hf hn hr ht hcontrol
  · exact ⟨.char '"', stringBody_escape rfl, fun _ => by rw [hquote, spelled]⟩
  · exact ⟨.char '\\', stringBody_escape rfl, fun _ => by rw [hback, spelled]⟩
  · exact ⟨.char '\x08', stringBody_escape rfl, fun _ => by rw [hb, spelled]⟩
  · exact ⟨.char '\x0c', stringBody_escape rfl, fun _ => by rw [hf, spelled]⟩
  · exact ⟨.char '\n', stringBody_escape rfl, fun _ => by rw [hn, spelled]⟩
  · exact ⟨.char '\r', stringBody_escape rfl, fun _ => by rw [hr, spelled]⟩
  · exact ⟨.char '\t', stringBody_escape rfl, fun _ => by rw [ht, spelled]⟩
  · obtain ⟨h₁, h₂, h₃, h₄, hhex, hunit⟩ := unit?_hex4 c.toNat hcontrol
    have hhigh : isHigh c.toNat = false := by simp [isHigh]; omega
    have hlow : isLow c.toNat = false := by simp [isLow]; omega
    refine ⟨.unit c.toNat, fun rest => ?_, fun _ => ?_⟩
    · rw [hhex]
      exact stringBody_unit hunit rest
    · rw [spelled.eq_def]
      simp [hhigh, hlow]
  · exact ⟨.char c, stringBody_char hquote hback hcontrol, fun _ => by rw [spelled]⟩

/-- The characters of a text read back up to the closing quote. -/
theorem exists_pieces (cs : List Char) :
    ∃ ps, (∀ rest, stringBody ((cs.flatMap escaped).map some ++ some '"' :: rest) =
      some (ps, rest)) ∧ spelled ps = some cs := by
  induction cs with
  | nil => exact ⟨[], stringBody_quote, rfl⟩
  | cons c cs ih =>
    obtain ⟨p, hp, hspelled⟩ := exists_piece c
    obtain ⟨ps, hps, hcs⟩ := ih
    refine ⟨p :: ps, fun rest => ?_, by rw [hspelled, hcs]; rfl⟩
    rw [List.flatMap_cons, List.map_append, List.append_assoc, hp, hps]
    rfl

/-! ## Tokens -/

/-- Whether a token takes in digits that follow it. -/
def Token.isNumber : Token → Bool
  | .int _ | .decimal .. => true
  | _ => false

theorem endsNumber_nil : EndsNumber [] := ⟨nofun, nofun, nofun⟩

theorem endsNumber_cons {c : Char} (h : (c.isDigit || c = '.' || c = 'e' || c = 'E') = false)
    (r : List Scalar) : EndsNumber (some c :: r) := by
  simp only [Bool.or_eq_false_iff, decide_eq_false_iff_not] at h
  refine ⟨?_, ?_, ?_⟩
  · rintro _ _ ⟨⟩
    exact h.1.1.1
  · rintro _ ⟨⟩
    exact h.1.1.2 rfl
  · rintro _ _ ⟨⟩
    exact not_or.2 ⟨h.1.2, h.2⟩

/-- A token that is no number starts with nothing that a number takes in. -/
theorem endsNumber_spell {t : Token} (h : t.isNumber = false) (rest : List Scalar) :
    EndsNumber (t.spell.map some ++ rest) := by
  cases t with
  | int | decimal => cases h
  | bool b => cases b <;> exact endsNumber_cons (by decide) _
  | string s => cases s <;> exact endsNumber_cons (by decide) _
  | leftBrace | rightBrace | leftBracket | rightBracket | comma | colon | null =>
    exact endsNumber_cons (by decide) _

theorem oneToken_of_isDigit {c : Char} (h : c.isDigit = true) (r : List Scalar) :
    oneToken (some c :: r) = (number false (some c :: r)).map fun (t, r) => (some t, r) := by
  have hne (d : Char) (hd : d.isDigit = false) : c ≠ d := by
    rintro rfl
    exact absurd h (by simp [hd])
  simp [oneToken, isGap, h, hne ' ' rfl, hne '\n' rfl, hne '\t' rfl, hne '\r' rfl, hne '\x7b' rfl,
    hne '\x7d' rfl, hne '[' rfl, hne ']' rfl, hne ',' rfl, hne ':' rfl, hne '"' rfl, hne '-' rfl]

theorem oneToken_intDigits (n : Int) {rest : List Scalar} (hrest : EndsNumber rest) :
    oneToken ((Decimal.intDigits n).map some ++ rest) = some (some (.int n), rest) := by
  cases n with
  | ofNat n =>
    obtain ⟨c, cs, hcs, hc⟩ := Decimal.digits_eq_cons n
    have hnumber := number_digits false n hrest
    rw [Decimal.intDigits]
    rw [hcs, List.map_cons, List.cons_append] at hnumber ⊢
    rw [oneToken_of_isDigit hc, hnumber]
    rfl
  | negSucc n =>
    have hnumber := number_digits true (n + 1) hrest
    rw [if_pos rfl, if_neg (Nat.succ_ne_zero n)] at hnumber
    show (number true ((Decimal.digits (n + 1)).map some ++ rest)).map _ = _
    rw [hnumber]
    rfl

theorem oneToken_decimal (c : Nat) (e : Int) {rest : List Scalar} (hrest : EndsNumber rest) :
    oneToken ((Token.decimal c e).spell.map some ++ rest) = some (some (.decimal c e), rest) := by
  obtain ⟨d, ds, hds, hd⟩ := Decimal.digits_eq_cons c
  have hnumber := number_decimal c e hrest.noDigit
  rw [Token.spell, List.map_append, List.map_cons, List.append_assoc, List.cons_append]
  rw [hds, List.map_cons, List.cons_append] at hnumber ⊢
  rw [oneToken_of_isDigit hd, hnumber]
  rfl

/-- The string that stands for those that spell no text spells none. -/
theorem oneToken_noText (rest : List Scalar) :
    oneToken ((Token.string none).spell.map some ++ rest) = some (some (.string none), rest) := by
  have hbody : stringBody (['\\', 'u', 'd', '8', '0', '0', '"'].map some ++ rest) =
      some ([.unit 0xd800], rest) := by
    have hunit : unit? 'd' '8' '0' '0' = some 0xd800 := by decide
    refine (stringBody_unit hunit (some '"' :: rest)).trans ?_
    rw [stringBody_quote]
    rfl
  show (stringBody (['\\', 'u', 'd', '8', '0', '0', '"'].map some ++ rest)).map _ = _
  rw [hbody]
  simp [spelled, isHigh]

theorem oneToken_spellString (s : String) (rest : List Scalar) :
    oneToken ((spellString s).map some ++ rest) = some (some (.string (some s)), rest) := by
  obtain ⟨ps, hps, hspelled⟩ := exists_pieces s.toList
  have hbody : (spellString s).map some ++ rest =
      some '"' :: ((s.toList.flatMap escaped).map some ++ some '"' :: rest) := by
    simp [spellString]
  rw [hbody]
  show (stringBody _).map _ = _
  rw [hps]
  simp [hspelled]

/-- A token reads back, and what follows it is left. -/
theorem oneToken_spell (t : Token) (rest : List Scalar)
    (h : t.isNumber = true → EndsNumber rest) :
    oneToken (t.spell.map some ++ rest) = some (some t, rest) := by
  cases t with
  | leftBrace | rightBrace | leftBracket | rightBracket | comma | colon | null => rfl
  | bool b => cases b <;> rfl
  | int n => exact oneToken_intDigits n (h rfl)
  | decimal c e => exact oneToken_decimal c e (h rfl)
  | string s =>
    cases s with
    | none => exact oneToken_noText rest
    | some s => exact oneToken_spellString s rest

/-- No number is followed by another. -/
abbrev Apart (ts : List Token) : Prop :=
  ts.IsChain fun t u => t.isNumber = true → u.isNumber = false

theorem spell_ne_nil (t : Token) : t.spell ≠ [] := by
  cases t with
  | int n => cases n <;> simp [Token.spell, Decimal.intDigits, Decimal.digits_ne_nil]
  | bool b => cases b <;> simp [Token.spell]
  | string s => cases s <;> simp [Token.spell, spellString]
  | _ => simp [Token.spell]

theorem tokensWithin_of_oneToken {text rest : List Scalar} {t : Token}
    (h : oneToken text = some (some t, rest)) (bound : Nat) :
    tokensWithin (bound + 1) text = (tokensWithin bound rest).map (t :: ·) := by
  cases text with
  | nil => cases h
  | cons c r =>
    simp only [tokensWithin, h, Option.bind_eq_bind, Option.bind_some]
    cases tokensWithin bound rest <;> rfl

theorem tokensWithin_spell {ts : List Token} (h : Apart ts) {bound : Nat}
    (hbound : (ts.flatMap Token.spell).length ≤ bound) :
    tokensWithin bound ((ts.flatMap Token.spell).map some) = some ts := by
  induction ts generalizing bound with
  | nil => cases bound <;> rfl
  | cons t ts ih =>
    obtain ⟨hnext, hts⟩ := List.isChain_cons.1 h
    rw [List.flatMap_cons, List.length_append] at hbound
    have hpos := List.length_pos_of_ne_nil (spell_ne_nil t)
    have hend : t.isNumber = true → EndsNumber ((ts.flatMap Token.spell).map some) := by
      intro ht
      cases ts with
      | nil => exact endsNumber_nil
      | cons u us =>
        rw [List.flatMap_cons, List.map_append]
        exact endsNumber_spell (hnext u rfl ht) _
    obtain ⟨bound, rfl⟩ := Nat.exists_eq_succ_of_ne_zero (show bound ≠ 0 by omega)
    rw [List.flatMap_cons, List.map_append, tokensWithin_of_oneToken (oneToken_spell t _ hend),
      ih hts (by omega)]
    rfl

theorem tokensOf_spell {ts : List Token} (h : Apart ts) :
    tokensOf ((ts.flatMap Token.spell).map some) = some ts :=
  tokensWithin_spell h (Nat.le_of_eq (List.length_map _).symm)

/-! ## No control characters -/

/-- A given text is gone through by its own length. A claim about each of its
characters could be decided over all characters there are, which takes too long. -/
theorem le_toNat_of_all {cs : List Char} (h : (cs.all fun c => 0x20 ≤ c.toNat) = true) :
    ∀ c ∈ cs, 0x20 ≤ c.toNat :=
  fun c hc => of_decide_eq_true (List.all_eq_true.1 h c hc)

theorem le_toNat_of_mem_escaped (c : Char) : ∀ d ∈ escaped c, 0x20 ≤ d.toNat := by
  unfold escaped
  split_ifs with hquote hback hb hf hn hr ht hcontrol
  · exact le_toNat_of_all rfl
  · exact le_toNat_of_all rfl
  · exact le_toNat_of_all rfl
  · exact le_toNat_of_all rfl
  · exact le_toNat_of_all rfl
  · exact le_toNat_of_all rfl
  · exact le_toNat_of_all rfl
  · have : ∀ n < 0x20, ((['\\', 'u'] ++ hex4 n).all fun d => 0x20 ≤ d.toNat) = true := by decide
    exact le_toNat_of_all (this c.toNat hcontrol)
  · rintro d hd
    rw [List.mem_singleton.1 hd]
    omega

theorem le_toNat_of_isDigit {c : Char} (h : c.isDigit = true) : 0x20 ≤ c.toNat := by
  have : 48 ≤ c.val ∧ c.val ≤ 57 := by simpa [Char.isDigit] using h
  have := UInt32.le_iff_toNat_le.1 this.1
  exact Nat.le_trans (by decide) this

theorem le_toNat_of_mem_digits (n : Nat) : ∀ c ∈ Decimal.digits n, 0x20 ≤ c.toNat :=
  fun c hc => le_toNat_of_isDigit (List.all_eq_true.1 (Decimal.digits_all_isDigit n) c hc)

theorem le_toNat_of_mem_intDigits (n : Int) : ∀ c ∈ Decimal.intDigits n, 0x20 ≤ c.toNat := by
  cases n with
  | ofNat n => exact le_toNat_of_mem_digits n
  | negSucc n =>
    exact List.forall_mem_cons.2 ⟨by decide, le_toNat_of_mem_digits (n + 1)⟩

theorem le_toNat_of_mem_spell (t : Token) : ∀ c ∈ t.spell, 0x20 ≤ c.toNat := by
  cases t with
  | leftBrace | rightBrace | leftBracket | rightBracket | comma | colon | null =>
    exact le_toNat_of_all rfl
  | bool b => cases b <;> exact le_toNat_of_all rfl
  | int n => exact le_toNat_of_mem_intDigits n
  | decimal c e =>
    exact List.forall_mem_append.2 ⟨le_toNat_of_mem_digits c,
      List.forall_mem_cons.2 ⟨by decide, le_toNat_of_mem_intDigits e⟩⟩
  | string s =>
    cases s with
    | none => exact le_toNat_of_all rfl
    | some s =>
      have hbody : ∀ d ∈ s.toList.flatMap escaped, 0x20 ≤ d.toNat := by
        intro d hd
        obtain ⟨c, -, hd⟩ := List.mem_flatMap.1 hd
        exact le_toNat_of_mem_escaped c d hd
      exact List.forall_mem_cons.2
        ⟨by decide, List.forall_mem_append.2 ⟨hbody, le_toNat_of_all rfl⟩⟩

end ReplayEvidence.Json
