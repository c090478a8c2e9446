-- What a replay run is asked for, what it finds, and the report that keeps
-- both together.
import ReplayEvidence.Divergence
import ReplayEvidence.Trace.Cursor

namespace ReplayEvidence

open Wire (Fields)

/-! ## Requests -/

/-- Compares a candidate with a baseline, from a cursor on when one is given. -/
structure RunRequest where
  baseline : String
  candidate : String
  mode : ReplayMode
  cursor : Option Cursor
deriving DecidableEq, Repr

/-- A cursor that is given must be valid. -/
def Cursor.validateSome : Option Cursor → Validity
  | some c => c.validate
  | none => .ok ()

namespace RunRequest

/-- Both references must be there and the cursor be valid. -/
def validate (r : RunRequest) : Validity := do
  let schema := "replay_run_request"
  Validity.require schema "baseline_ref" r.baseline
  Validity.require schema "candidate_plan_ref" r.candidate
  Cursor.validateSome r.cursor

def fields : Fields RunRequest RunRequest :=
  (Fields.make RunRequest.mk)
    |>.required "baseline_ref" baseline
    |>.required "candidate_plan_ref" candidate
    |>.required "mode" mode
    |>.optional "cursor" cursor

instance : Wire RunRequest := fields.wire

end RunRequest

/-! ## Results -/

/-- What a run found, and the cursor of the last point it looked at. -/
structure RunResult where
  runId : String
  mode : ReplayMode
  divergences : List Divergence
  cursor : Option Cursor
deriving DecidableEq, Repr

namespace RunResult

/-- The run must have an identity, and its divergences and cursor be valid. -/
def validate (r : RunResult) : Validity := do
  Validity.require "replay_run_result" "run_id" r.runId
  Validity.all Divergence.validate r.divergences
  Cursor.validateSome r.cursor

/-- Whether baseline and candidate agree. -/
def isEquivalent (r : RunResult) : Bool := r.divergences.isEmpty

def fields : Fields RunResult RunResult :=
  (Fields.make RunResult.mk)
    |>.required "run_id" runId
    |>.required "mode" mode
    |>.defaulted "divergences" [] divergences
    |>.optional "cursor" cursor

instance : Wire RunResult := fields.wire

end RunResult

/-! ## Reports -/

/-- A request with its result and the time it was made. -/
structure RunReport where
  request : RunRequest
  result : RunResult
  generatedAt : Millis
deriving DecidableEq, Repr

namespace RunReport

/-- Both halves must be valid and speak of one mode. -/
def validate (r : RunReport) : Validity := do
  let schema := "replay_run_report"
  r.request.validate
  r.result.validate
  Validity.requireNonNegative schema "generated_at_ms" r.generatedAt
  if r.request.mode = r.result.mode then .ok ()
  else .error (.invalid schema "mode" (.modesDiffer r.request.mode r.result.mode))

def fields : Fields RunReport RunReport :=
  (Fields.make RunReport.mk)
    |>.required "request" request
    |>.required "result" result
    |>.required "generated_at_ms" generatedAt

instance : Wire RunReport := fields.wire

end RunReport

end ReplayEvidence
