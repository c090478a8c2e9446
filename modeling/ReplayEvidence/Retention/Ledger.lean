-- The ledger of stored artifacts. Artifacts stand in the order in which they
-- were added, and none of them twice under one tenant and id. Operations check
-- their input before they touch the ledger.
import ReplayEvidence.Retention.Fingerprint
import ReplayEvidence.Retention.Source

namespace ReplayEvidence

/-- Why a call on the ledger failed. -/
inductive LedgerError where
  | validation (source : ValidationError)
  | duplicate (tenant artifact : String)
  | notFound (tenant artifact : String)
  | inaccessible (tenant artifact : String)
  | policy (source : PolicyError)
deriving DecidableEq, Repr

/-- The wording of an error, when the error inside it has one. -/
def LedgerError.message? : LedgerError → Option String
  | .validation source => some ("invalid retention input: " ++ source.message)
  | .duplicate tenant artifact =>
    some ("artifact " ++ Text.quoted artifact ++ " already recorded for tenant " ++
      Text.quoted tenant)
  | .notFound tenant artifact =>
    some ("artifact " ++ Text.quoted artifact ++ " not found for tenant " ++ Text.quoted tenant)
  | .inaccessible tenant artifact =>
    some ("artifact " ++ Text.quoted artifact ++ " for tenant " ++ Text.quoted tenant ++
      " is cryptographically inaccessible")
  | .policy source => source.message?.map fun m => "retention policy unavailable: " ++ m

/-! ## Artifacts under a policy or a deletion -/

namespace Artifact

def isActive (a : Artifact) : Bool := a.state == .active

/-- Whether a sweep looks at an artifact. -/
def sweptBy (p : RetentionPolicy) (a : Artifact) : Bool := a.tenant == p.tenant && a.isActive

/-- Whether an artifact is older than its window. One from the future is not. -/
def isExpired (p : RetentionPolicy) (now : Millis) (a : Artifact) : Bool :=
  let age := Millis.age now a.recordedAt
  0 ≤ age && p.window a.payload < age

/-- The artifact as a tombstone. -/
def entomb (a : Artifact) : Artifact := { a with state := .inaccessible }

end Artifact

/-! ## The ledger -/

/-- The stored artifacts in the order in which they were added. -/
structure Ledger where
  artifacts : List Artifact
deriving DecidableEq, Repr

namespace Ledger

def empty : Ledger := ⟨[]⟩

def find? (l : Ledger) (tenant artifact : String) : Option Artifact :=
  l.artifacts.find? fun a => a.tenant == tenant && a.artifact == artifact

/-- The artifact of a tenant under an id, if it can be read. -/
def read (l : Ledger) (tenant artifact : String) : Except LedgerError Artifact :=
  match l.find? tenant artifact with
  | none => .error (.notFound tenant artifact)
  | some a => if a.isActive then .ok a else .error (.inaccessible tenant artifact)

/-! ## Operations -/

/-- What an operation gives, or why it gives nothing. -/
abbrev Outcome (α : Type) := Except LedgerError α

/-- The operation, if its input has passed a check. -/
def checked {α : Type} (check : Validity) (op : StateM Ledger (Outcome α)) :
    StateM Ledger (Outcome α) :=
  match check with
  | .error e => return .error (.validation e)
  | .ok () => op

/-- Adds an artifact that is valid and new. -/
def add (a : Artifact) : StateM Ledger (Outcome Unit) :=
  checked a.validate do
    let l ← get
    if (l.find? a.tenant a.artifact).isSome then
      return .error (.duplicate a.tenant a.artifact)
    else
      set (⟨l.artifacts ++ [a]⟩ : Ledger)
      return .ok ()

/-! ## Sweeps -/

/-- The ledger without the expired artifacts of a policy's tenant. -/
def withoutExpired (l : Ledger) (p : RetentionPolicy) (now : Millis) : Ledger :=
  ⟨l.artifacts.filter fun a => !(a.sweptBy p && a.isExpired p now)⟩

/-- What a sweep counts. -/
def sweepResult (l : Ledger) (p : RetentionPolicy) (now : Millis) : SweepResult :=
  let looked := l.artifacts.filter (Artifact.sweptBy p)
  let gone := looked.filter (Artifact.isExpired p now)
  ⟨p.tenant, looked.length, gone.length, gone.length⟩

/-- Removes the expired artifacts of a policy's tenant, and counts them. -/
def removeExpired (p : RetentionPolicy) (now : Millis) : StateM Ledger SweepResult :=
  modifyGet fun l => (l.sweepResult p now, l.withoutExpired p now)

def sweep (p : RetentionPolicy) (now : Millis) : StateM Ledger (Outcome SweepResult) :=
  checked p.validate do
    return .ok (← removeExpired p now)

/-- The payload class under each fingerprint of a tenant's artifacts. -/
def fingerprints (l : Ledger) (tenant : String) : Keyed String PayloadClass :=
  .ofList ((l.artifacts.filter fun a => a.tenant == tenant).map fun a =>
    (a.fingerprint, a.payload))

/-- The fingerprints that are gone from one ledger to the next, counted by
payload class. -/
def lost (before after : Ledger) (tenant : String) : ClassCounts :=
  let left := after.fingerprints tenant
  ((before.fingerprints tenant).entries.filter fun e => (left.get? e.1).isNone).foldl
    (fun counts e => counts.tally e.2) .empty

/-- A sweep that reports by payload class what it removed. -/
def sweepDetailed (p : RetentionPolicy) (now : Millis) : StateM Ledger (Outcome SweepReport) :=
  checked p.validate do
    let before ← get
    let result ← removeExpired p now
    let after ← get
    return .ok ⟨result, lost before after p.tenant⟩

/-- Sweeps by the policy that a source gives for a tenant. -/
def sweepResolved (source : PolicySource) (tenant : String) (now : Millis) :
    StateM Ledger (Outcome SweepReport) :=
  match source tenant with
  | .error e => return .error (.policy e)
  | .ok p => sweepDetailed p now

/-! ## Deletions -/

/-- Applies a deletion to the artifacts in its scope: they are removed, or stay
as tombstones. -/
def delete (r : DeletionRequest) : StateM Ledger (Outcome DeletionResult) :=
  checked r.validate do
    let l ← get
    let covered := l.artifacts.filter r.scope.covers
    match r.mode with
    | .hardDelete =>
      set (⟨l.artifacts.filter fun a => !r.scope.covers a⟩ : Ledger)
      return .ok ⟨some r.mode, covered.length, covered.length, 0⟩
    | .cryptoInaccessible =>
      set (⟨l.artifacts.map fun a => if r.scope.covers a then a.entomb else a⟩ : Ledger)
      return .ok ⟨some r.mode, covered.length, 0, (covered.filter Artifact.isActive).length⟩

/-! ## Calls -/

inductive Call where
  | add (artifact : Artifact)
  | sweep (policy : RetentionPolicy) (now : Millis)
  | sweepDetailed (policy : RetentionPolicy) (now : Millis)
  | sweepResolved (source : PolicySource) (tenant : String) (now : Millis)
  | delete (request : DeletionRequest)
  | read (tenant artifact : String)

/-- The answer to a call that succeeded. -/
inductive Answer where
  | added
  | swept (result : SweepResult)
  | sweptDetailed (report : SweepReport)
  | deleted (result : DeletionResult)
  | found (artifact : Artifact)
deriving DecidableEq, Repr

/-- The operation that a call asks for. -/
def Call.op : Call → StateM Ledger (Outcome Answer)
  | .add a => return (← Ledger.add a).map fun () => .added
  | .sweep p now => return (← Ledger.sweep p now).map .swept
  | .sweepDetailed p now => return (← Ledger.sweepDetailed p now).map .sweptDetailed
  | .sweepResolved source tenant now =>
    return (← Ledger.sweepResolved source tenant now).map .sweptDetailed
  | .delete r => return (← Ledger.delete r).map .deleted
  | .read tenant artifact => return ((← get).read tenant artifact).map .found

/-- The answer to a call, and the ledger after it. -/
def call (l : Ledger) (c : Call) : Outcome Answer × Ledger := c.op.run l

def run : Ledger → List Call → List (Outcome Answer) × Ledger
  | l, [] => ([], l)
  | l, c :: cs =>
    let (answer, after) := l.call c
    let (answers, last) := after.run cs
    (answer :: answers, last)

/-! ## What operations give and leave -/

theorem run_add (l : Ledger) (a : Artifact) :
    (Ledger.add a).run l =
      match a.validate with
      | .error e => (.error (.validation e), l)
      | .ok () =>
        match l.find? a.tenant a.artifact with
        | some _ => (.error (.duplicate a.tenant a.artifact), l)
        | none => (.ok (), ⟨l.artifacts ++ [a]⟩) := by
  unfold Ledger.add checked
  rcases a.validate with e | _
  · rfl
  · rcases hfound : l.find? a.tenant a.artifact with _ | old <;>
      simp only [StateT.run_bind, StateT.run_get, pure_bind, hfound] <;> rfl

theorem run_sweep (l : Ledger) (p : RetentionPolicy) (now : Millis) :
    (Ledger.sweep p now).run l =
      match p.validate with
      | .error e => (.error (.validation e), l)
      | .ok () => (.ok (l.sweepResult p now), l.withoutExpired p now) := by
  unfold Ledger.sweep checked
  rcases p.validate with e | _ <;> rfl

theorem run_sweepDetailed (l : Ledger) (p : RetentionPolicy) (now : Millis) :
    (Ledger.sweepDetailed p now).run l =
      match p.validate with
      | .error e => (.error (.validation e), l)
      | .ok () =>
        (.ok ⟨l.sweepResult p now, lost l (l.withoutExpired p now) p.tenant⟩,
          l.withoutExpired p now) := by
  unfold Ledger.sweepDetailed checked
  rcases p.validate with e | _ <;> rfl

theorem run_sweepResolved (l : Ledger) (source : PolicySource) (tenant : String) (now : Millis) :
    (Ledger.sweepResolved source tenant now).run l =
      match source tenant with
      | .error e => (.error (.policy e), l)
      | .ok p => (Ledger.sweepDetailed p now).run l := by
  unfold Ledger.sweepResolved
  rcases source tenant with e | p <;> rfl

theorem run_delete (l : Ledger) (r : DeletionRequest) :
    (Ledger.delete r).run l =
      match r.validate with
      | .error e => (.error (.validation e), l)
      | .ok () =>
        let covered := l.artifacts.filter r.scope.covers
        match r.mode with
        | .hardDelete =>
          (.ok ⟨some .hardDelete, covered.length, covered.length, 0⟩,
            ⟨l.artifacts.filter fun a => !r.scope.covers a⟩)
        | .cryptoInaccessible =>
          (.ok ⟨some .cryptoInaccessible, covered.length, 0,
              (covered.filter Artifact.isActive).length⟩,
            ⟨l.artifacts.map fun a => if r.scope.covers a then a.entomb else a⟩) := by
  unfold Ledger.delete checked
  rcases r.validate with e | _
  · rfl
  · rcases r.mode <;> rfl

/-- An answer that is made of what an operation gives, and what the operation leaves. -/
def answering {α : Type} (answer : α → Answer) (x : Outcome α × Ledger) :
    Outcome Answer × Ledger :=
  (x.1.map answer, x.2)

theorem call_eq (l : Ledger) (c : Call) :
    l.call c =
      match c with
      | .add a => answering (fun () => .added) ((Ledger.add a).run l)
      | .sweep p now => answering .swept ((Ledger.sweep p now).run l)
      | .sweepDetailed p now => answering .sweptDetailed ((Ledger.sweepDetailed p now).run l)
      | .sweepResolved source tenant now =>
        answering .sweptDetailed ((Ledger.sweepResolved source tenant now).run l)
      | .delete r => answering .deleted ((Ledger.delete r).run l)
      | .read tenant artifact => answering .found (l.read tenant artifact, l) := by
  cases c <;> rfl

end Ledger

end ReplayEvidence
