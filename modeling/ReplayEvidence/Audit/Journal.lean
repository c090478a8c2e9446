-- Audit journals: one file for each tenant, one line for each event. A tenant
-- is filed under the part of its id that is safe in a file name.
import ReplayEvidence.Audit.Sink
import ReplayEvidence.FileTree
import ReplayEvidence.Json.Tree

namespace ReplayEvidence

open Wire (Fields)

/-- Where the files are kept, and with which permissions they are made. -/
structure JournalConfig where
  dir : String
  dirMode : UInt32
  fileMode : UInt32
deriving DecidableEq, Repr

namespace JournalConfig

def standard : JournalConfig := ⟨"replay-audit", 0o755, 0o600⟩

def fields : Fields JournalConfig JournalConfig :=
  (Fields.make JournalConfig.mk)
    |>.defaulted "dir" standard.dir dir
    |>.defaulted "dir_mode" standard.dirMode dirMode
    |>.defaulted "file_mode" standard.fileMode fileMode

instance : Wire JournalConfig := fields.wire

end JournalConfig

namespace Journal

/-! ## File names -/

/-- A character as it stands in a file name. -/
def safeChar (c : Char) : Char := if c.isAlphanum || c = '_' || c = '-' then c else '_'

/-- The list without the underscores at its two ends. -/
def trimUnderscores (cs : List Char) : List Char :=
  ((cs.dropWhile (· = '_')).reverse.dropWhile (· = '_')).reverse

/-- The part of a tenant id that names its file, when there is one. -/
def stem? (tenant : String) : Option String :=
  match trimUnderscores (tenant.toList.map safeChar) with
  | [] => none
  | cs => some (String.ofList cs)

/-- What follows the stem in a file name. -/
def suffix : String := ".replay-audit.jsonl"

def pathFor (config : JournalConfig) (tenant : String) : Except AuditError String :=
  match stem? tenant with
  | some stem => .ok (FileTree.join config.dir (stem ++ suffix))
  | none => .error (.invalidTenant tenant)

/-! ## Appending -/

/-- A store of files: makes a directory with a mode, and adds bytes to the end
of a file that is made with a mode when it is not there. Each says whether it
succeeded. -/
structure Store (σ : Type) where
  ensureDir : String → UInt32 → StateM σ Bool
  append : String → UInt32 → List UInt8 → StateM σ Bool

def Store.tree : Store FileTree := ⟨FileTree.ensureDir, FileTree.append⟩

def line (event : AuditEvent) : List UInt8 :=
  Text.utf8 (Json.compact (Wire.encode event)) ++ [10]

/-- Writes a line to a file of the directory, which is made when it is not there. -/
def write {σ : Type} (store : Store σ) (config : JournalConfig) (path : String)
    (bytes : List UInt8) : StateM σ Taken := do
  if ← store.ensureDir config.dir config.dirMode then
    if ← store.append path config.fileMode bytes then return .ok ()
    else return .error (.io path)
  else return .error (.io config.dir)

/-- The sink that writes a line for each event. -/
def sink {σ : Type} (store : Store σ) (config : JournalConfig) : Sink σ where
  append event :=
    match event.validate with
    | .error e => return .error (.invalidEvent e)
    | .ok () =>
      match pathFor config event.tenant with
      | .error e => return .error e
      | .ok path => write store config path (line event)

end Journal

end ReplayEvidence
