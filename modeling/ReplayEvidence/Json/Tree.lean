-- From tokens to a tree and back. A tree is read by a machine that keeps a
-- stack of the arrays and objects still open, so nesting has no limit of its
-- own; a tree is written as its tokens, one after the other.
import ReplayEvidence.Json.Basic
import ReplayEvidence.Json.Token

namespace ReplayEvidence.Json

/-! ## Reading -/

/-- An array or object that is still open. What it holds so far stands in
reverse. -/
inductive Frame where
  | items (before : List Json)
  | members (before : List Member)
  | valueOf (before : List Member) (key : Option String)

/-- What may come next. -/
inductive Expect where
  | value
  | itemOrEnd
  | keyOrEnd
  | key
  | colon (key : Option String)
  | after (value : Json)

/-- What may come next, inside which arrays and objects. -/
structure Reading where
  next : Expect
  inside : List Frame

/-- The value that a token is by itself. -/
def Token.leaf? : Token → Option Json
  | .null => some .null
  | .bool b => some (.bool b)
  | .int n => some (.int n)
  | .decimal c e => some (.decimal c e)
  | .string s => some (.string s)
  | _ => none

/-- Starts a value with its first token. -/
def startValue (inside : List Frame) : Token → Option Reading
  | .leftBracket => some ⟨.itemOrEnd, .items [] :: inside⟩
  | .leftBrace => some ⟨.keyOrEnd, .members [] :: inside⟩
  | t => t.leaf?.map fun v => ⟨.after v, inside⟩

/-- Takes one more token. -/
def Reading.take (r : Reading) (t : Token) : Option Reading :=
  match r.next, r.inside, t with
  | .value, inside, t => startValue inside t
  | .itemOrEnd, .items _ :: inside, .rightBracket => some ⟨.after (.array []), inside⟩
  | .itemOrEnd, inside, t => startValue inside t
  | .keyOrEnd, .members _ :: inside, .rightBrace => some ⟨.after (.object []), inside⟩
  | .keyOrEnd, inside, .string k => some ⟨.colon k, inside⟩
  | .key, inside, .string k => some ⟨.colon k, inside⟩
  | .colon k, .members ms :: inside, .colon => some ⟨.value, .valueOf ms k :: inside⟩
  | .after v, .items vs :: inside, .comma => some ⟨.value, .items (v :: vs) :: inside⟩
  | .after v, .items vs :: inside, .rightBracket =>
    some ⟨.after (.array (v :: vs).reverse), inside⟩
  | .after v, .valueOf ms k :: inside, .comma => some ⟨.key, .members ((k, v) :: ms) :: inside⟩
  | .after v, .valueOf ms k :: inside, .rightBrace =>
    some ⟨.after (.object ((k, v) :: ms).reverse), inside⟩
  | _, _, _ => none

/-- The value that was read, when nothing is left open. -/
def Reading.value? : Reading → Option Json
  | ⟨.after v, []⟩ => some v
  | _ => none

/-- The value that the tokens spell. -/
def ofTokens? (ts : List Token) : Option Json :=
  (ts.foldlM Reading.take ⟨.value, []⟩).bind Reading.value?

def ofScalars? (text : List Text.Scalar) : Option Json := (tokensOf text).bind ofTokens?

def parse? (s : String) : Option Json := ofScalars? (Text.scalarsOf s)

def parseBytes? (bytes : ByteArray) : Option Json := ofScalars? (Text.scalars bytes)

/-! ## Writing -/

mutual

def tokens : Json → List Token
  | .null => [.null]
  | .bool b => [.bool b]
  | .int n => [.int n]
  | .decimal c e => [.decimal c e]
  | .string s => [.string s]
  | .array [] => [.leftBracket, .rightBracket]
  | .array (v :: vs) => .leftBracket :: (tokens v ++ moreItems vs)
  | .object [] => [.leftBrace, .rightBrace]
  | .object ((k, v) :: ms) => .leftBrace :: .string k :: .colon :: (tokens v ++ moreMembers ms)

/-- The tokens of the items after the first, and the closing bracket. -/
def moreItems : List Json → List Token
  | [] => [.rightBracket]
  | v :: vs => .comma :: (tokens v ++ moreItems vs)

/-- The tokens of the members after the first, and the closing brace. -/
def moreMembers : List (Option String × Json) → List Token
  | [] => [.rightBrace]
  | (k, v) :: ms => .comma :: .string k :: .colon :: (tokens v ++ moreMembers ms)

end

/-- The value as a text without white space. -/
def compact (v : Json) : String := String.ofList (v.tokens.flatMap Token.spell)

end ReplayEvidence.Json
