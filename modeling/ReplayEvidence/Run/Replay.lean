-- Replay runs. A run takes the evidence of both sides, places their points,
-- goes to the cursor when one is given, and compares what follows on both
-- sides in the way its mode asks for.
import ReplayEvidence.Run.Comparison
import ReplayEvidence.Run.Request
import ReplayEvidence.Trace.Placed

namespace ReplayEvidence

open Wire (Fields)

/-! ## Settings -/

structure RunSettings where
  compare : Tolerance
  defaultLane : Lane
deriving DecidableEq, Repr

namespace RunSettings

def standard : RunSettings := ⟨.standard, .control⟩

def fields : Fields RunSettings RunSettings :=
  (Fields.make RunSettings.mk)
    |>.defaulted "compare" standard.compare compare
    |>.defaulted "default_lane" standard.defaultLane defaultLane

instance : Wire RunSettings := fields.wire

end RunSettings

/-! ## Errors -/

inductive Side where
  | baseline
  | candidate
deriving DecidableEq, Repr

def Side.label : Side → String
  | .baseline => "baseline"
  | .candidate => "candidate"

/-- Why a run has no result. -/
inductive RunError where
  | invalidRequest (source : ValidationError)
  | resolution (side : Side) (source : SourceError)
  | invalidEvidence (side : Side) (reference : String) (source : ValidationError)
  | cursorNotFound (cursor : Cursor)
  | invalidResult (source : ValidationError)
deriving DecidableEq, Repr

/-- The wording of a run error, when the error inside it has one. -/
def RunError.message? : RunError → Option String
  | .invalidRequest source => some ("invalid replay request: " ++ source.message)
  | .resolution side source =>
    source.message?.map fun m => "failed to resolve " ++ side.label ++ " artifacts: " ++ m
  | .invalidEvidence side reference source =>
    some (side.label ++ " artifacts " ++ Text.quoted reference ++ " are invalid: " ++
      source.message)
  | .cursorNotFound cursor =>
    some ("resume cursor " ++ cursor.label ++ " not found in baseline trace")
  | .invalidResult source => some ("replay result failed validation: " ++ source.message)

/-! ## Runs -/

/-- Restates an error in terms of the run. -/
def rephrase {ε δ α : Type} (f : ε → δ) : Except ε α → Except δ α
  | .ok a => .ok a
  | .error e => .error (f e)

/-- The valid evidence of one side, from what a source gave for its reference. -/
def Side.accept (side : Side) (reference : String) (given : Except SourceError Evidence) :
    Except RunError Evidence := do
  let evidence ← rephrase (RunError.resolution side) given
  rephrase (RunError.invalidEvidence side reference) evidence.validate
  return evidence

/-- Where the comparison starts on each side, and what is found on the way. -/
structure Resumption where
  baseline : Nat
  candidate : Nat
  divergences : List Divergence
deriving DecidableEq, Repr

namespace Resumption

/-- The finding about a cursor that the candidate does not have. -/
def missing (c : Cursor) (place length : Nat) : Divergence :=
  (if place < length then Finding.resumedAt c place else Finding.exhaustedAt c length).diverge
    (Divergence.scopeOf c.session c.turn)

/-- Goes to the cursor on both sides. A candidate without it resumes at the
place of the baseline, or at its end. -/
def find (baseline candidate : List PlacedPoint) : Option Cursor → Except RunError Resumption
  | none => .ok ⟨0, 0, []⟩
  | some c =>
    match PlacedPoint.find? baseline c with
    | none => .error (.cursorNotFound c)
    | some i =>
      match PlacedPoint.find? candidate c with
      | some j => .ok ⟨i, j, []⟩
      | none => .ok ⟨i, min i candidate.length, [missing c i candidate.length]⟩

end Resumption

/-- Compares two windows of points: recorded decisions replayed as they are
by their decisions alone, all else by every dimension. -/
def ReplayMode.compare (mode : ReplayMode) (tolerance : Tolerance)
    (baseline candidate : List PlacedPoint) : List Divergence :=
  match mode with
  | .replayDecisions =>
    Decision.compareAll (baseline.map fun p => p.point.decision)
      (candidate.map fun p => p.point.decision)
  | _ => TracePoint.compareAll tolerance (baseline.map (·.point)) (candidate.map (·.point))

/-- What a run found, before it is given an identity. -/
structure RunOutcome where
  divergences : List Divergence
  cursor : Option Cursor
deriving DecidableEq, Repr

/-- Compares two sides that are valid. -/
def RunSettings.compareEvidence (settings : RunSettings) (request : RunRequest)
    (baseline candidate : Evidence) : Except RunError RunOutcome := do
  let b := PlacedPoint.ofTrace settings.defaultLane baseline.trace
  let c := PlacedPoint.ofTrace settings.defaultLane candidate.trace
  let start ← Resumption.find b c request.cursor
  let window := b.drop start.baseline
  return {
    divergences := start.divergences ++
      request.mode.compare settings.compare window (c.drop start.candidate) ++
      LineageRecord.compareAll baseline.lineage candidate.lineage
    cursor := (window.getLast?.map PlacedPoint.cursor).or request.cursor }

/-- What a run finds, before it is given an identity. A valid request asks for
the baseline, and for the candidate when there is valid evidence of the
baseline. Asking may do something else as well. -/
def RunSettings.outcome {m : Type → Type} [Monad m] (settings : RunSettings)
    (ask : String → m (Except SourceError Evidence)) (request : RunRequest) :
    m (Except RunError RunOutcome) := do
  match rephrase .invalidRequest request.validate with
  | .error err => return .error err
  | .ok () =>
    match Side.baseline.accept request.baseline (← ask request.baseline) with
    | .error err => return .error err
    | .ok baseline =>
      match Side.candidate.accept request.candidate (← ask request.candidate) with
      | .error err => return .error err
      | .ok candidate => return settings.compareEvidence request baseline candidate

/-- What replays: where evidence comes from, how it is compared, and how a run
comes by its identity and its time. The last two may depend on a state. -/
structure Replayer (σ : Type) where
  source : EvidenceSource
  settings : RunSettings
  runId : StateM σ String
  now : StateM σ Millis

namespace Replayer

variable {σ : Type}

/-- The identity of a run that is named after its time. -/
def timedRunId (now : Millis) : String := "replay-" ++ Decimal.ofInt now.toInt

/-- What a run finds in the source of a replayer. -/
def outcome (e : Replayer σ) (request : RunRequest) : Except RunError RunOutcome :=
  e.settings.outcome (m := Id) e.source request

/-- The result of an outcome under an identity, when it is valid. -/
def conclude (request : RunRequest) (outcome : RunOutcome) (runId : String) :
    Except RunError RunResult :=
  let result : RunResult := ⟨runId, request.mode, outcome.divergences, outcome.cursor⟩
  rephrase .invalidResult (result.validate.map fun _ => result)

/-- One run on the evidence of another source. An identity is taken only when
there is an outcome for it. -/
def runAsking (e : Replayer σ) (ask : EvidenceSource.Stateful σ) (request : RunRequest) :
    StateM σ (Except RunError RunResult) := do
  match ← e.settings.outcome ask request with
  | .error err => return .error err
  | .ok outcome => return conclude request outcome (← e.runId)

/-- One run on the evidence of the replayer's own source. -/
def run (e : Replayer σ) (request : RunRequest) : StateM σ (Except RunError RunResult) :=
  e.runAsking (fun reference => return e.source reference) request

def reportOn (request : RunRequest) (result : RunResult) (now : Millis) :
    Except RunError RunReport :=
  let report : RunReport := ⟨request, result, now⟩
  rephrase .invalidResult (report.validate.map fun _ => report)

def runReport (e : Replayer σ) (request : RunRequest) : StateM σ (Except RunError RunReport) := do
  match ← e.run request with
  | .error err => return .error err
  | .ok result => return reportOn request result (← e.now)

/-! ## What a run comes to -/

/-- In a source without a state a run finds the same, whatever asking could do. -/
theorem outcome_pure {m : Type → Type} [Monad m] [LawfulMonad m] (settings : RunSettings)
    (source : EvidenceSource) (request : RunRequest) :
    settings.outcome (fun reference => (pure (source reference) : m _)) request = pure (do
      rephrase .invalidRequest request.validate
      let baseline ← Side.baseline.accept request.baseline (source request.baseline)
      let candidate ← Side.candidate.accept request.candidate (source request.candidate)
      settings.compareEvidence request baseline candidate) := by
  unfold RunSettings.outcome
  rcases rephrase RunError.invalidRequest request.validate with err | _
  · rfl
  · simp only [pure_bind]
    rcases Side.baseline.accept request.baseline (source request.baseline) with err | b
    · rfl
    · rcases Side.candidate.accept request.candidate (source request.candidate) with err | c <;>
        rfl

theorem outcome_eq (e : Replayer σ) (request : RunRequest) :
    e.outcome request = (do
      rephrase .invalidRequest request.validate
      let baseline ← Side.baseline.accept request.baseline (e.source request.baseline)
      let candidate ← Side.candidate.accept request.candidate (e.source request.candidate)
      e.settings.compareEvidence request baseline candidate) :=
  outcome_pure (m := Id) e.settings e.source request

theorem run_of_error {e : Replayer σ} {r : RunRequest} {err : RunError}
    (h : e.outcome r = .error err) (st : σ) : (e.run r).run st = (.error err, st) := by
  unfold run runAsking
  rw [outcome_pure, ← outcome_eq, h]
  rfl

theorem run_of_ok {e : Replayer σ} {r : RunRequest} {o : RunOutcome} (h : e.outcome r = .ok o)
    (st : σ) : (e.run r).run st = (conclude r o (e.runId.run st).1, (e.runId.run st).2) := by
  unfold run runAsking
  rw [outcome_pure, ← outcome_eq, h]
  rfl

end Replayer

end ReplayEvidence
