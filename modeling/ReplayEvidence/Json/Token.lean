-- The tokens of a JSON text: how each is spelled, and how a text is cut into
-- them. White space between tokens is skipped; a text that holds anything
-- but tokens and white space has no tokens.
import ReplayEvidence.Decimal
import ReplayEvidence.Text.Utf8

namespace ReplayEvidence.Json

open Text (Scalar)

/-- A token. A string is `none` when what stands between its quotes spells no
text. -/
inductive Token where
  | leftBrace | rightBrace | leftBracket | rightBracket | comma | colon
  | null
  | bool (value : Bool)
  | int (value : Int)
  | decimal (coefficient : Nat) (exponent : Int)
  | string (text : Option String)
deriving DecidableEq, Repr

/-! ## Spelling -/

def hex4 (n : Nat) : List Char :=
  [Nat.digitChar (n / 4096 % 16), Nat.digitChar (n / 256 % 16), Nat.digitChar (n / 16 % 16),
    Nat.digitChar (n % 16)]

/-- One character inside a string: a quote, a backslash and the controls below
the space are escaped, all else stands as it is. -/
def escaped (c : Char) : List Char :=
  if c = '"' then ['\\', '"']
  else if c = '\\' then ['\\', '\\']
  else if c = '\x08' then ['\\', 'b']
  else if c = '\x0c' then ['\\', 'f']
  else if c = '\n' then ['\\', 'n']
  else if c = '\r' then ['\\', 'r']
  else if c = '\t' then ['\\', 't']
  else if c.toNat < 0x20 then ['\\', 'u'] ++ hex4 c.toNat
  else [c]

def spellString (s : String) : List Char := '"' :: s.toList.flatMap escaped ++ ['"']

/-- The characters of a token. A string that spells no text is shown by the
shortest one: half of a surrogate pair. -/
def Token.spell : Token → List Char
  | .leftBrace => ['\x7b']
  | .rightBrace => ['\x7d']
  | .leftBracket => ['[']
  | .rightBracket => [']']
  | .comma => [',']
  | .colon => [':']
  | .null => ['n', 'u', 'l', 'l']
  | .bool true => ['t', 'r', 'u', 'e']
  | .bool false => ['f', 'a', 'l', 's', 'e']
  | .int n => Decimal.intDigits n
  | .decimal c e => Decimal.digits c ++ 'e' :: Decimal.intDigits e
  | .string (some s) => spellString s
  | .string none => ['"', '\\', 'u', 'd', '8', '0', '0', '"']

/-! ## Numbers -/

/-- The digits that a text starts with, and what follows them. -/
def takeDigits : List Scalar → List Char × List Scalar
  | some c :: r =>
    if c.isDigit then
      let (ds, rest) := takeDigits r
      (c :: ds, rest)
    else ([], some c :: r)
  | r => ([], r)

/-- The digits before the point: a zero alone, or digits that do not start
with one. -/
def wholePart : List Scalar → Option (List Char × List Scalar)
  | some c :: r =>
    if c = '0' then some (['0'], r)
    else match takeDigits (some c :: r) with
      | ([], _) => none
      | found => some found
  | _ => none

/-- The digits after a point, if there is one. -/
def fraction : List Scalar → Option (List Char × List Scalar)
  | some '.' :: r =>
    match takeDigits r with
    | ([], _) => none
    | found => some found
  | r => some ([], r)

/-- The power of ten after the digits, if one is written. -/
def exponent : List Scalar → Option (Option Int × List Scalar)
  | some c :: r =>
    if c = 'e' ∨ c = 'E' then
      let (negative, r) := match r with
        | some '-' :: r => (true, r)
        | some '+' :: r => (false, r)
        | r => (false, r)
      match takeDigits r with
      | ([], _) => none
      | (ds, rest) =>
        let n : Int := Nat.ofDigitChars 10 ds 0
        some (some (if negative then -n else n), rest)
    else some (none, some c :: r)
  | r => some (none, r)

def number (negative : Bool) (r : List Scalar) : Option (Token × List Scalar) := do
  let (whole, r) ← wholePart r
  let (part, r) ← fraction r
  let (power, r) ← exponent r
  let value := Nat.ofDigitChars 10 (whole ++ part) 0
  match part, power with
  | [], none =>
    if negative then
      return (if value = 0 then .decimal 0 0 else .int (-(value : Int)), r)
    else return (.int value, r)
  | _, _ => return (.decimal value (power.getD 0 - part.length), r)

/-! ## Strings -/

/-- What a string is made of: a character, a byte outside UTF-8, or a code
unit written as an escape. -/
inductive Piece where
  | char (c : Char)
  | hole
  | unit (n : Nat)
deriving DecidableEq, Repr

def hexDigit? (c : Char) : Option Nat :=
  if '0' ≤ c ∧ c ≤ '9' then some (c.toNat - '0'.toNat)
  else if 'a' ≤ c ∧ c ≤ 'f' then some (c.toNat - 'a'.toNat + 10)
  else if 'A' ≤ c ∧ c ≤ 'F' then some (c.toNat - 'A'.toNat + 10)
  else none

def unit? (a b c d : Char) : Option Nat := do
  return (((← hexDigit? a) * 16 + (← hexDigit? b)) * 16 + (← hexDigit? c)) * 16 + (← hexDigit? d)

/-- The character that a backslash and a letter stand for. -/
def escape? (c : Char) : Option Char :=
  if c = '"' ∨ c = '\\' ∨ c = '/' then some c
  else if c = 'b' then some '\x08'
  else if c = 'f' then some '\x0c'
  else if c = 'n' then some '\n'
  else if c = 'r' then some '\r'
  else if c = 't' then some '\t'
  else none

/-- Puts a piece in front of what was read after it. -/
def withPiece (p : Piece) : Option (List Piece × List Scalar) → Option (List Piece × List Scalar)
  | some (ps, r) => some (p :: ps, r)
  | none => none

/-- The pieces up to the closing quote, and what follows it. -/
def stringBody : List Scalar → Option (List Piece × List Scalar)
  | [] => none
  | none :: r => withPiece .hole (stringBody r)
  | some c :: r =>
    if c = '"' then some ([], r)
    else if c = '\\' then
      match r with
      | some e :: r =>
        if e = 'u' then
          match r with
          | some h₁ :: some h₂ :: some h₃ :: some h₄ :: r =>
            match unit? h₁ h₂ h₃ h₄ with
            | some n => withPiece (.unit n) (stringBody r)
            | none => none
          | _ => none
        else match escape? e with
          | some c => withPiece (.char c) (stringBody r)
          | none => none
      | _ => none
    else if c.toNat < 0x20 then none
    else withPiece (.char c) (stringBody r)

/-- The first unit of a surrogate pair. -/
def isHigh (n : Nat) : Bool := 0xD800 ≤ n && n < 0xDC00

/-- The second unit of a surrogate pair. -/
def isLow (n : Nat) : Bool := 0xDC00 ≤ n && n < 0xE000

/-- The text that pieces spell: two units of a pair make one character, and a
hole or half a pair spells nothing. -/
def spelled : List Piece → Option (List Char)
  | [] => some []
  | .char c :: ps => (spelled ps).map (c :: ·)
  | .hole :: _ => none
  | .unit n :: ps =>
    if isHigh n then
      match ps with
      | .unit m :: ps =>
        if isLow m then
          (spelled ps).map (Char.ofNat (0x10000 + (n - 0xD800) * 0x400 + (m - 0xDC00)) :: ·)
        else none
      | _ => none
    else if isLow n then none
    else (spelled ps).map (Char.ofNat n :: ·)

/-! ## Cutting a text into tokens -/

def isGap (c : Char) : Bool := c = ' ' || c = '\n' || c = '\t' || c = '\r'

/-- The token that a text starts with, `none` for white space, and the rest. -/
def oneToken : List Scalar → Option (Option Token × List Scalar)
  | some c :: r =>
    if isGap c then some (none, r)
    else if c = '\x7b' then some (some .leftBrace, r)
    else if c = '\x7d' then some (some .rightBrace, r)
    else if c = '[' then some (some .leftBracket, r)
    else if c = ']' then some (some .rightBracket, r)
    else if c = ',' then some (some .comma, r)
    else if c = ':' then some (some .colon, r)
    else if c = '"' then
      (stringBody r).map fun (ps, r) => (some (.string ((spelled ps).map String.ofList)), r)
    else if c = '-' then (number true r).map fun (t, r) => (some t, r)
    else if c.isDigit then (number false (some c :: r)).map fun (t, r) => (some t, r)
    else match c, r with
      | 'n', some 'u' :: some 'l' :: some 'l' :: r => some (some .null, r)
      | 't', some 'r' :: some 'u' :: some 'e' :: r => some (some (.bool true), r)
      | 'f', some 'a' :: some 'l' :: some 's' :: some 'e' :: r => some (some (.bool false), r)
      | _, _ => none
  | _ => none

/-- The tokens of a text of at most `bound` characters. -/
def tokensWithin : Nat → List Scalar → Option (List Token)
  | _, [] => some []
  | 0, _ :: _ => none
  | bound + 1, text => do
    match ← oneToken text with
    | (some t, rest) => return t :: (← tokensWithin bound rest)
    | (none, rest) => tokensWithin bound rest

def tokensOf (text : List Scalar) : Option (List Token) := tokensWithin text.length text

end ReplayEvidence.Json
