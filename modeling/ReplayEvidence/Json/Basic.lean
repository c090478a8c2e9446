-- The tree of a JSON text, with the members of an object in written order.
-- A string token may spell no text; the tree keeps it, so that a reader that
-- does not want its value can pass it over.

namespace ReplayEvidence

/-- A JSON value. A string is `none` when its token spells no text: half of a
surrogate pair, or bytes that are not UTF-8. A number not written as an
integer is a coefficient times a power of ten, without its sign; so is minus
zero, which no integer is written as. -/
inductive Json where
  | null
  | bool (value : Bool)
  | int (value : Int)
  | decimal (coefficient : Nat) (exponent : Int)
  | string (text : Option String)
  | array (items : List Json)
  | object (members : List (Option String × Json))
deriving Repr, Inhabited

namespace Json

/-- One member of an object: its key and its value. -/
abbrev Member := Option String × Json

def text (s : String) : Json := .string (some s)

def member (key : String) (value : Json) : Member := (some key, value)

def record (members : List (String × Json)) : Json :=
  .object (members.map fun m => (some m.1, m.2))

/-- The value of the first member with a key. -/
def get? (key : String) : Json → Option Json
  | .object members => (members.find? fun m => m.1 == some key).map (·.2)
  | _ => none

end Json

end ReplayEvidence
