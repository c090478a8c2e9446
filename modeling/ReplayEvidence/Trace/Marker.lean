-- Ordering markers. A marker with the sequence label in front may carry a
-- runtime sequence; any other marker carries none.
import ReplayEvidence.Decimal
import ReplayEvidence.Millis
import ReplayEvidence.Text.Blank

namespace ReplayEvidence.Marker

/-- What stands in front of a runtime sequence. -/
def label : String := "runtime_sequence:"

/-- The marker of a sequence. -/
def ofSequence (n : Int64) : String := label ++ Decimal.ofInt n.toInt

/-- The runtime sequence that a marker carries. White space around the number
is passed over, and a negative number is no sequence. -/
def sequence? (marker : String) : Option Int64 :=
  (List.isPrefixOf? label.toList marker.toList).bind fun rest =>
    (Decimal.int64? (String.ofList (Text.trimChars rest))).filter fun n => 0 ≤ n

end ReplayEvidence.Marker
