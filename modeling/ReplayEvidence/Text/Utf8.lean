-- Reading bytes as UTF-8, leniently: a byte that belongs to no character is
-- kept as a hole, so that a reader may pass over it where it need not read.

namespace ReplayEvidence.Text

/-- A character, or a byte that belongs to none. -/
abbrev Scalar := Option Char

/-- The characters of the bytes from position `i` on. -/
def scalarsFrom (bytes : ByteArray) (i : Nat) : List Scalar :=
  if _ : i < bytes.size then
    match bytes.utf8DecodeChar? i with
    | some c => some c :: scalarsFrom bytes (i + c.utf8Size)
    | none => none :: scalarsFrom bytes (i + 1)
  else []
termination_by bytes.size - i
decreasing_by
  · have := c.utf8Size_pos
    omega
  · omega

/-- The characters of the bytes, with a hole for each byte outside UTF-8. -/
def scalars (bytes : ByteArray) : List Scalar := scalarsFrom bytes 0

def scalarsOf (s : String) : List Scalar := s.toList.map some

def utf8 (s : String) : List UInt8 := s.toUTF8.data.toList

end ReplayEvidence.Text
