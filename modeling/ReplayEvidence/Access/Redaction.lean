-- Redacting a payload: what is let out of it under the markers of a decision.
-- Nothing is let out of a payload whose class has no marker.
import ReplayEvidence.Access.Request
import ReplayEvidence.Hash.Blake3
import ReplayEvidence.Text.Utf8

namespace ReplayEvidence

def maskText : String := "***REDACTED***"

def hashed (value : String) : String := "blake3:" ++ Hash.Blake3.hexDigest (Text.utf8 value)

def RedactionAction.apply : RedactionAction → String → Option String
  | .allow, value => some value
  | .mask, _ => some maskText
  | .hash, value => some (hashed value)
  | .drop, _ => none

/-- What the first marker for a payload class lets out of a payload. -/
def redact (markers : List RedactionMarker) (payload : PayloadClass) (value : String) :
    Option String :=
  (markers.find? fun m => m.payload = payload).bind fun m => m.action.apply value

end ReplayEvidence
