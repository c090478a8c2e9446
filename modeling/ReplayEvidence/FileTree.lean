-- A tree of directories and files. A path is followed name by name: from the
-- root when it begins with a slash, and from the current directory otherwise.
-- A name is looked up only in a directory. Links and permissions to read or to
-- write are not part of the tree.
import ReplayEvidence.Keyed
import ReplayEvidence.Text.Cut

namespace ReplayEvidence

inductive ReadFailure where
  | absent
  | other
deriving DecidableEq, Repr

/-- A directory, or a file with its bytes; each with its permissions. -/
inductive FileNode where
  | dir (mode : Nat)
  | file (mode : Nat) (content : List UInt8)
deriving DecidableEq, Repr

/-- Directories and files under their full names, which are the names along
the way from the root, and the full name of the current directory. The root is
always there. -/
structure FileTree where
  nodes : Keyed (List String) FileNode
  current : List String

namespace FileTree

/-- Nothing but the root, which is the current directory. -/
def empty : FileTree := ⟨.empty, []⟩

def get? (t : FileTree) (name : List String) : Option FileNode :=
  if name.isEmpty then some (.dir 0o755) else t.nodes.get? name

def put (t : FileTree) (name : List String) (node : FileNode) : FileTree :=
  { t with nodes := t.nodes.insert name node }

/-! ## Paths -/

/-- A name inside a directory. -/
def join (dir name : String) : String :=
  if dir.isEmpty || dir.toList.getLast? = some '/' then dir ++ name else dir ++ "/" ++ name

/-- The pieces of a path between slashes. -/
def pieces (path : String) : List String := (Text.cut '/' path.toList).map String.ofList

/-- Whether a piece of a path leads nowhere else. -/
def stays (piece : String) : Bool := piece == "" || piece == "."

/-- The names along a path: the pieces that lead somewhere. -/
def steps (path : String) : List String := (pieces path).filter fun s => !stays s

/-- Whether a name is short enough for a file or directory. -/
def fits (name : String) : Bool := name.utf8ByteSize ≤ 255

/-- Whether a path can be asked for: it holds no NUL and at most 4095 bytes. -/
def askable (path : String) : Bool :=
  !path.toList.contains '\x00' && path.utf8ByteSize ≤ 4095

/-- Where a path starts: at the root when it begins with a slash, and in the
current directory otherwise. -/
def start (t : FileTree) (path : String) : List String :=
  if path.toList.head? = some '/' then [] else t.current

/-- Goes one step, which only a directory allows. Above the root is the root. -/
def step (t : FileTree) (here : List String) (name : String) :
    Except ReadFailure (List String) :=
  match t.get? here with
  | some (.dir _) =>
    if stays name then .ok here
    else if name = ".." then .ok here.dropLast
    else if fits name then .ok (here ++ [name])
    else .error .other
  | some (.file ..) => .error .other
  | none => .error .absent

/-- The full name at the end of a path. Whether something is there is not
asked. -/
def follow (t : FileTree) (path : String) : Except ReadFailure (List String) :=
  if !askable path then .error .other
  else if path.isEmpty then .error .absent
  else (pieces path).foldlM t.step (t.start path)

def isDir (t : FileTree) (path : String) : Bool :=
  match t.follow path with
  | .error _ => false
  | .ok name => t.get? name matches some (.dir _)

def read (t : FileTree) (path : String) : Except ReadFailure ByteArray := do
  match t.get? (← t.follow path) with
  | some (.file _ content) => return ⟨content.toArray⟩
  | some (.dir _) => .error .other
  | none => .error .absent

/-! ## Writing -/

/-- The permissions a new directory gets of those asked for: group and others
may not write to it. -/
def dirPermissions (mode : UInt32) : Nat := mode.toNat &&& 0o1755

/-- The permissions a new file gets of those asked for: group and others may
not write to it. -/
def filePermissions (mode : UInt32) : Nat := mode.toNat &&& 0o7755

/-- Makes the directories along some names that are not there yet, up to the
first name that cannot be followed. -/
def makeDirs (mode : Nat) : List String → List String → FileTree → FileTree
  | _, [], t => t
  | here, name :: names, t =>
    match t.step here name with
    | .error _ => t
    | .ok next =>
      match t.get? next with
      | some _ => makeDirs mode next names t
      | none => makeDirs mode next names (t.put next (.dir mode))

/-- Whether a path ends in a dot that stands for the directory before it. -/
def endsInDot (path : String) : Bool :=
  (pieces path).reverse.find? (· != "") == some "."

/-- Makes a directory and those above it. Where the path ends in a dot, the
directory before the dot is not made: it has to be there. -/
def ensureDir (path : String) (mode : UInt32) : StateM FileTree Bool := fun t =>
  if path.isEmpty then (true, t)
  else if askable path then
    let names := if endsInDot path then (steps path).dropLast else steps path
    let t := makeDirs (dirPermissions mode) (t.start path) names t
    (t.isDir path, t)
  else (false, t)

/-- Adds bytes to the end of a file, which is made when it is not there. -/
def append (path : String) (mode : UInt32) (bytes : List UInt8) : StateM FileTree Bool := fun t =>
  match t.follow path with
  | .error _ => (false, t)
  | .ok name =>
    match t.get? name with
    | some (.file mode content) => (true, t.put name (.file mode (content ++ bytes)))
    | some (.dir _) => (false, t)
    | none =>
      match t.get? name.dropLast with
      | some (.dir _) => (true, t.put name (.file (filePermissions mode) bytes))
      | _ => (false, t)

end FileTree

end ReplayEvidence
