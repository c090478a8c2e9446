-- Quoted text: how a message shows a text it was given, between double
-- quotes, with everything that would not be seen written as an escape.
import ReplayEvidence.Text.Printable
import ReplayEvidence.Text.GraphemeExtend

namespace ReplayEvidence.Text

/-- A number in lower-case hexadecimal, without leading zeros. -/
def hex (n : Nat) : List Char := Nat.toDigits 16 n

/-- Whether a character is a mark with no place of its own, which would join
the quote before it. The two sound marks of half-width kana (U+FF9E,
U+FF9F) extend the character before them too, but stand in a cell of their own. -/
def joinsBefore (c : Char) : Bool := isGraphemeExtend c && c != '\uff9e' && c != '\uff9f'

/-- One character of a quoted text. A mark that would join the quote before it
is escaped like a character that cannot be seen. -/
def quotedChar (c : Char) : List Char :=
  if c = '"' then ['\\', '"']
  else if c = '\\' then ['\\', '\\']
  else if c = '\n' then ['\\', 'n']
  else if c = '\r' then ['\\', 'r']
  else if c = '\t' then ['\\', 't']
  else if c = '\x00' then ['\\', '0']
  else if joinsBefore c || !isPrintable c then
    ['\\', 'u', '\x7b'] ++ hex c.toNat ++ ['\x7d']
  else [c]

/-- The text between double quotes. -/
def quoted (s : String) : String :=
  String.ofList ('"' :: s.toList.flatMap quotedChar ++ ['"'])

end ReplayEvidence.Text
