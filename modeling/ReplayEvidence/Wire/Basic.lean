-- Wire forms: how a value of the library is written as JSON and read back.
-- A reading fails for a field that is missing, a name that is not known, or
-- a value of the wrong shape; the first two say so.
import ReplayEvidence.Named
import ReplayEvidence.Json.Basic

namespace ReplayEvidence

/-! ## Failures -/

/-- Why a value could not be read. -/
inductive DecodeError where
  | missingField (name : String)
  | unknownVariant (value : String) (known : List String)
  | malformed
deriving DecidableEq, Repr

namespace DecodeError

def listed (names : List String) : String :=
  ", ".intercalate (names.map fun n => "`" ++ n ++ "`")

/-- What the known names are called in a message. -/
def expectation : List String → String
  | [a, b] => "`" ++ a ++ "` or `" ++ b ++ "`"
  | names => "one of " ++ listed names

/-- The message of a failure that has one. -/
def message? : DecodeError → Option String
  | .missingField name => some ("missing field `" ++ name ++ "`")
  | .unknownVariant value known =>
    some ("unknown variant `" ++ value ++ "`, expected " ++ expectation known)
  | .malformed => none

end DecodeError

theorem bind_eq_ok {ε α β : Type} {x : Except ε α} {next : α → Except ε β} {b : β} :
    (x >>= next) = .ok b ↔ ∃ a, x = .ok a ∧ next a = .ok b := by
  cases x with
  | error e => exact ⟨nofun, fun ⟨_, h, _⟩ => nomatch h⟩
  | ok a => exact ⟨fun h => ⟨a, rfl, h⟩, fun ⟨_, ha, h⟩ => by cases ha; exact h⟩

theorem bind_eq_error {ε α β : Type} {x : Except ε α} {next : α → Except ε β} {e : ε} :
    (x >>= next) = .error e ↔ x = .error e ∨ ∃ a, x = .ok a ∧ next a = .error e := by
  cases x with
  | error d =>
    constructor
    · intro h
      cases h
      exact .inl rfl
    · rintro (h | ⟨_, h, _⟩)
      · cases h
        rfl
      · cases h
  | ok a =>
    constructor
    · exact fun h => .inr ⟨a, rfl, h⟩
    · rintro (h | ⟨_, ha, h⟩)
      · cases h
      · cases ha
        exact h

theorem map_eq_ok {ε α β : Type} {f : α → β} {x : Except ε α} {b : β} :
    x.map f = .ok b ↔ ∃ a, x = .ok a ∧ f a = b := by
  cases x <;> simp [Except.map]

/-! ## Forms -/

/-- A type with a wire form. -/
class Wire (α : Type) where
  encode : α → Json
  decode : Json → Except DecodeError α

/-- A wire form that reads back every value it writes. -/
class LawfulWire (α : Type) [Wire α] : Prop where
  decode_encode : ∀ a : α, Wire.decode (Wire.encode a) = .ok a

attribute [simp] LawfulWire.decode_encode

/-- A type none of whose values is written as null. -/
class NonNull (α : Type) [Wire α] : Prop where
  encode_ne_null : ∀ a : α, Wire.encode a ≠ Json.null

namespace Wire

/-! ## Text, truth values and numbers -/

instance : Wire String where
  encode := Json.text
  decode
    | .string (some s) => .ok s
    | _ => .error .malformed

instance : Wire Bool where
  encode := .bool
  decode
    | .bool b => .ok b
    | _ => .error .malformed

def boundedInt (lo hi : Int) : Json → Except DecodeError Int
  | .int n => if lo ≤ n ∧ n ≤ hi then .ok n else .error .malformed
  | _ => .error .malformed

def boundedNat (bound : Nat) (v : Json) : Except DecodeError Nat :=
  (boundedInt 0 (bound - 1) v).map Int.toNat

instance : Wire Int64 where
  encode n := .int n.toInt
  decode v := (boundedInt Int64.minValue.toInt Int64.maxValue.toInt v).map Int64.ofInt

instance : Wire UInt64 where
  encode n := .int n.toNat
  decode v := (boundedNat UInt64.size v).map UInt64.ofNat

instance : Wire UInt32 where
  encode n := .int n.toNat
  decode v := (boundedNat UInt32.size v).map UInt32.ofNat

/-- A count is written whole and read when it fits 64 bits. -/
instance : Wire Nat where
  encode n := .int n
  decode := boundedNat UInt64.size

/-! ## Names -/

/-- The value that a name stands for. -/
def variant {α : Type} [Named α] (s : String) : Except DecodeError α :=
  match Named.ofName? s with
  | some a => .ok a
  | none => .error (.unknownVariant s (Named.names α))

/-- A named value is its name, or an object whose one key is its name and
whose value is null. -/
instance {α : Type} [Named α] : Wire α where
  encode a := Json.text (Named.name a)
  decode
    | .string (some s) => variant s
    | .object [(some s, v)] =>
      match variant s, v with
      | .ok a, .null => .ok a
      | .ok _, _ => .error .malformed
      | .error e, _ => .error e
    | _ => .error .malformed

/-! ## Options and lists -/

/-- Reads a value, or nothing from null. -/
def decodeOption {α : Type} [Wire α] : Json → Except DecodeError (Option α)
  | .null => .ok none
  | v => (decode v).map some

/-- Nothing is written as null. -/
instance {α : Type} [Wire α] : Wire (Option α) where
  encode
    | none => .null
    | some a => encode a
  decode := decodeOption

/-- Reads the items of a list in order; the first failure ends it. -/
def decodeItems {α : Type} [Wire α] : List Json → Except DecodeError (List α)
  | [] => .ok []
  | v :: vs => do
    let a ← decode v
    let as ← decodeItems vs
    return a :: as

instance {α : Type} [Wire α] : Wire (List α) where
  encode as := .array (as.map encode)
  decode
    | .array vs => decodeItems vs
    | _ => .error .malformed

/-! ## Reading what was written -/

theorem boundedInt_eq_ok {lo hi n : Int} (h : lo ≤ n ∧ n ≤ hi) :
    boundedInt lo hi (.int n) = .ok n := if_pos h

theorem boundedNat_eq_ok {bound n : Nat} (h : n < bound) : boundedNat bound (.int n) = .ok n := by
  rw [boundedNat, boundedInt_eq_ok (by omega)]
  rfl

instance : LawfulWire String := ⟨fun _ => rfl⟩

instance : LawfulWire Bool := ⟨fun _ => rfl⟩

instance : LawfulWire Int64 where
  decode_encode n := by
    change (boundedInt Int64.minValue.toInt Int64.maxValue.toInt (.int n.toInt)).map _ = _
    rw [boundedInt_eq_ok ⟨Int64.minValue_le_toInt n, Int64.toInt_le n⟩, Except.map,
      Int64.ofInt_toInt]

instance : LawfulWire UInt64 where
  decode_encode n := by
    change (boundedNat UInt64.size (.int n.toNat)).map _ = _
    rw [boundedNat_eq_ok n.toNat_lt, Except.map, UInt64.ofNat_toNat]

instance : LawfulWire UInt32 where
  decode_encode n := by
    change (boundedNat UInt32.size (.int n.toNat)).map _ = _
    rw [boundedNat_eq_ok n.toNat_lt, Except.map, UInt32.ofNat_toNat]

theorem decode_encode_nat {n : Nat} (h : n < UInt64.size) : decode (encode n) = .ok n :=
  boundedNat_eq_ok h

theorem variant_name {α : Type} [Named α] (a : α) : variant (Named.name a) = .ok a := by
  rw [variant, Named.ofName?_name]

instance {α : Type} [Named α] : LawfulWire α := ⟨variant_name⟩

theorem decodeItems_map_encode {α : Type} [Wire α] [LawfulWire α] (as : List α) :
    decodeItems (as.map encode) = .ok as := by
  induction as with
  | nil => rfl
  | cons a as ih =>
    rw [List.map_cons, decodeItems, LawfulWire.decode_encode, ih]
    rfl

instance {α : Type} [Wire α] [LawfulWire α] : LawfulWire (List α) := ⟨decodeItems_map_encode⟩

instance : NonNull String := ⟨nofun⟩

instance : NonNull Int64 := ⟨nofun⟩

instance {α : Type} [Named α] : NonNull α := ⟨nofun⟩

theorem decodeOption_of_ne_null {α : Type} [Wire α] {v : Json} (h : v ≠ .null) :
    decodeOption (α := α) v = (decode v).map some := by
  unfold decodeOption
  split
  · exact absurd rfl h
  · rfl

/-- A value that may be there reads back. -/
instance {α : Type} [Wire α] [LawfulWire α] [NonNull α] : LawfulWire (Option α) where
  decode_encode
    | none => rfl
    | some a =>
      (decodeOption_of_ne_null (NonNull.encode_ne_null a)).trans
        (by rw [LawfulWire.decode_encode]; rfl)

end Wire

end ReplayEvidence
