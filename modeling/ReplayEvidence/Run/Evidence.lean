-- The evidence recorded for one side of a replay, and the sources that give
-- the evidence of a reference: a map held in memory, or a directory with one
-- file for each reference.
import ReplayEvidence.FileTree
import ReplayEvidence.Json.Tree
import ReplayEvidence.Keyed
import ReplayEvidence.Trace.Lineage
import ReplayEvidence.Trace.Point

namespace ReplayEvidence

open Wire (Fields)

structure Evidence where
  trace : List TracePoint
  lineage : List LineageRecord
deriving DecidableEq, Repr

namespace Evidence

/-- Every point and every lineage record must be valid. -/
def validate (e : Evidence) : Validity := do
  Validity.all TracePoint.validate e.trace
  Validity.all LineageRecord.validate e.lineage

def fields : Fields Evidence Evidence :=
  (Fields.make Evidence.mk)
    |>.defaulted "artifacts" [] trace
    |>.listed "lineage" lineage

instance : Wire Evidence := fields.wire

end Evidence

/-! ## Sources -/

/-- Why a reference has no evidence. -/
inductive SourceError where
  | notFound (reference : String)
  | invalidReference (reference : String)
  | unreadable (reference : String)
  | undecodable (reference : String)
deriving DecidableEq, Repr

/-- The wording of a source error, when it has one of its own. -/
def SourceError.message? : SourceError → Option String
  | .notFound r => some ("replay artifacts not found for reference " ++ Text.quoted r)
  | .invalidReference r => some ("invalid replay artifact reference " ++ Text.quoted r)
  | .unreadable _ => none
  | .undecodable _ => none

/-- Gives the evidence of a reference. References are stable: the same one
gives the same evidence again. -/
abbrev EvidenceSource := String → Except SourceError Evidence

/-- A source that may depend on a state, and give something else each time. -/
abbrev EvidenceSource.Stateful (σ : Type) := String → StateM σ (Except SourceError Evidence)

namespace EvidenceSource

def inMemory (held : Keyed String Evidence) : EvidenceSource := fun reference =>
  match held.get? reference with
  | some e => .ok e
  | none => .error (.notFound reference)

/-- Whether a reference can name a file of a directory: it says something, is
no step to this directory or the one above, and holds no separator. -/
def namesFile (reference : String) : Bool :=
  !Text.isBlank reference && !reference.toList.any (fun c => c = '/' || c = '\\') &&
    reference != "." && reference != ".."

/-- The file that holds the evidence of a reference. -/
def fileName (reference : String) : String := reference ++ ".json"

/-- The evidence that the files of a directory hold, each under its name. -/
def directory (read : String → Except ReadFailure ByteArray) : EvidenceSource := fun reference =>
  if namesFile reference then
    match read (fileName reference) with
    | .error .absent => .error (.notFound reference)
    | .error .other => .error (.unreadable reference)
    | .ok bytes =>
      match (Json.parseBytes? bytes).map Wire.decode with
      | some (.ok e) => .ok e
      | _ => .error (.undecodable reference)
  else .error (.invalidReference reference)

def inTree (t : FileTree) (dir : String) : EvidenceSource :=
  directory fun name => t.read (FileTree.join dir name)

end EvidenceSource

end ReplayEvidence
