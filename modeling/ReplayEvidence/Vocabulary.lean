-- The closed vocabularies of replay evidence, each with the name of every value
-- on the wire. Values stand in their order.
import ReplayEvidence.Named
import ReplayEvidence.SortedSet

namespace ReplayEvidence

/-- How sensitive a piece of stored evidence is. -/
inductive PayloadClass where
  | metadata | textRaw | audioRaw | derivedSummary | pii | phi
deriving DecidableEq, Repr, Inhabited

instance : Named PayloadClass where
  all := [.metadata, .textRaw, .audioRaw, .derivedSummary, .pii, .phi]
  name
    | .metadata => "metadata"
    | .textRaw => "text_raw"
    | .audioRaw => "audio_raw"
    | .derivedSummary => "derived_summary"
    | .pii => "pii"
    | .phi => "phi"
  mem_all a := by cases a <;> decide
  name_inj a b := by cases a <;> cases b <;> decide

/-- How much detail of the evidence is shown, least first. -/
inductive Fidelity where
  | l0 | l1 | l2
deriving DecidableEq, Repr, Inhabited

instance : Named Fidelity where
  all := [.l0, .l1, .l2]
  name
    | .l0 => "L0"
    | .l1 => "L1"
    | .l2 => "L2"
  mem_all a := by cases a <;> decide
  name_inj a b := by cases a <;> cases b <;> decide

/-- What is done with a payload before it leaves. -/
inductive RedactionAction where
  | allow | mask | hash | drop
deriving DecidableEq, Repr, Inhabited

instance : Named RedactionAction where
  all := [.allow, .mask, .hash, .drop]
  name
    | .allow => "allow"
    | .mask => "mask"
    | .hash => "hash"
    | .drop => "drop"
  mem_all a := by cases a <;> decide
  name_inj a b := by cases a <;> cases b <;> decide

/-- What was decided about a piece of work. -/
inductive OutcomeKind where
  | admitted | rejected | deferred | shed | staleEpochRejected | deauthorizedDrained
deriving DecidableEq, Repr, Inhabited

instance : Named OutcomeKind where
  all := [.admitted, .rejected, .deferred, .shed, .staleEpochRejected, .deauthorizedDrained]
  name
    | .admitted => "admit"
    | .rejected => "reject"
    | .deferred => "defer"
    | .shed => "shed"
    | .staleEpochRejected => "stale_epoch_reject"
    | .deauthorizedDrained => "deauthorized_drain"
  mem_all a := by cases a <;> decide
  name_inj a b := by cases a <;> cases b <;> decide

/-- The phase of a turn that a decision was taken in. -/
inductive OutcomePhase where
  | preTurn | schedulingPoint | activeTurn | postTurn
deriving DecidableEq, Repr, Inhabited

instance : Named OutcomePhase where
  all := [.preTurn, .schedulingPoint, .activeTurn, .postTurn]
  name
    | .preTurn => "pre_turn"
    | .schedulingPoint => "scheduling_point"
    | .activeTurn => "active_turn"
    | .postTurn => "post_turn"
  mem_all a := by cases a <;> decide
  name_inj a b := by cases a <;> cases b <;> decide

/-- The unit of work that a decision is about. -/
inductive OutcomeScope where
  | session | turn | edgeEnqueue | edgeDequeue | nodeDispatch
deriving DecidableEq, Repr, Inhabited

instance : Named OutcomeScope where
  all := [.session, .turn, .edgeEnqueue, .edgeDequeue, .nodeDispatch]
  name
    | .session => "session"
    | .turn => "turn"
    | .edgeEnqueue => "edge_enqueue"
    | .edgeDequeue => "edge_dequeue"
    | .nodeDispatch => "node_dispatch"
  mem_all a := by cases a <;> decide
  name_inj a b := by cases a <;> cases b <;> decide

/-- The lane on which evidence was recorded. -/
inductive Lane where
  | data | control | telemetry
deriving DecidableEq, Repr, Inhabited

instance : Named Lane where
  all := [.data, .control, .telemetry]
  name
    | .data => "data"
    | .control => "control"
    | .telemetry => "telemetry"
  mem_all a := by cases a <;> decide
  name_inj a b := by cases a <;> cases b <;> decide

/-- The dimension along which two runs part. -/
inductive DivergenceClass where
  | plan | outcome | ordering | timing | authority | providerChoice
deriving DecidableEq, Repr, Inhabited

instance : Named DivergenceClass where
  all := [.plan, .outcome, .ordering, .timing, .authority, .providerChoice]
  name
    | .plan => "PLAN"
    | .outcome => "OUTCOME"
    | .ordering => "ORDERING"
    | .timing => "TIMING"
    | .authority => "AUTHORITY"
    | .providerChoice => "PROVIDER_CHOICE"
  mem_all a := by cases a <;> decide
  name_inj a b := by cases a <;> cases b <;> decide

/-- How the candidate side of a replay came about. -/
inductive ReplayMode where
  | reSimulateNodes | playbackRecordedProviderOutputs | replayDecisions | recomputeDecisions
deriving DecidableEq, Repr, Inhabited

instance : Named ReplayMode where
  all := [.reSimulateNodes, .playbackRecordedProviderOutputs, .replayDecisions, .recomputeDecisions]
  name
    | .reSimulateNodes => "re_simulate_nodes"
    | .playbackRecordedProviderOutputs => "playback_recorded_provider_outputs"
    | .replayDecisions => "replay_decisions"
    | .recomputeDecisions => "recompute_decisions"
  mem_all a := by cases a <;> decide
  name_inj a b := by cases a <;> cases b <;> decide

/-- Whether a stored artifact can be read. -/
inductive ArtifactState where
  | active | inaccessible
deriving DecidableEq, Repr, Inhabited

instance : Named ArtifactState where
  all := [.active, .inaccessible]
  name
    | .active => "active"
    | .inaccessible => "cryptographically_inaccessible"
  mem_all a := by cases a <;> decide
  name_inj a b := by cases a <;> cases b <;> decide

/-- How the artifacts in a scope are removed. -/
inductive DeletionMode where
  | hardDelete | cryptoInaccessible
deriving DecidableEq, Repr, Inhabited

instance : Named DeletionMode where
  all := [.hardDelete, .cryptoInaccessible]
  name
    | .hardDelete => "hard_delete"
    | .cryptoInaccessible => "crypto_inaccessible"
  mem_all a := by cases a <;> decide
  name_inj a b := by cases a <;> cases b <;> decide

/-- The place of a fidelity, least detail first. -/
def Fidelity.level : Fidelity → Nat
  | .l0 => 0
  | .l1 => 1
  | .l2 => 2

instance : Ranked Fidelity where
  less a b := a.level < b.level
  irrefl a := by simp
  trans a b c h₁ h₂ := by
    simp only [decide_eq_true_eq] at *
    omega
  tri a b := by cases a <;> cases b <;> decide

end ReplayEvidence
