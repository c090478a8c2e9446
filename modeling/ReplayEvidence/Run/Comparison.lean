-- Comparing two sides of a replay. What is found at one place is a finding
-- with its numbers; a divergence is a finding put into words. Findings come in
-- a fixed order, and equal sides have none.
import ReplayEvidence.Run.Evidence
import ReplayEvidence.Trace.Cursor

namespace ReplayEvidence

open Wire (Fields)

/-! ## Settings -/

/-- How far apart in time two points may lie. -/
structure Tolerance where
  timing : Millis
deriving DecidableEq, Repr

namespace Tolerance

def standard : Tolerance := ⟨15⟩

/-- The tolerance in force: none when a negative one is given. -/
def effective (t : Tolerance) : Millis := if t.timing < 0 then 0 else t.timing

def fields : Fields Tolerance Tolerance :=
  (Fields.make Tolerance.mk) |>.defaulted "timing_tolerance_ms" standard.timing timing

instance : Wire Tolerance := fields.wire

end Tolerance

/-! ## Findings -/

/-- One mismatch, at a place in the sequences or about an event. -/
inductive Finding where
  | decisionCount (baseline candidate : Nat)
  | traceCount (baseline candidate : Nat)
  | decisionParts (place : Nat) (event : String) (parts : List Decision.Part)
  | planHash (place : Nat) (baseline candidate : String)
  | provenance (place : Nat) (parts : List Provenance.Part)
  | embeddedDecision (place : Nat) (event : String) (parts : List Decision.Part)
  | ordering (place : Nat) (baseline candidate : String)
  | authority (place : Nat) (baseline candidate : Int64)
  | provider (place : Nat) (baseline candidate : Provider)
  | drift (place : Nat) (length tolerance : Millis)
  | absence (event : String)
  | dropped (event : String) (baseline candidate : Bool)
  | mergeGroup (event : String) (baseline candidate : Option String)
  | resumedAt (cursor : Cursor) (place : Nat)
  | exhaustedAt (cursor : Cursor) (length : Nat)
deriving DecidableEq, Repr

namespace Finding

/-- The dimension that a finding belongs to. -/
def kind : Finding → DivergenceClass
  | .planHash .. | .provenance .. => .plan
  | .ordering .. | .resumedAt .. | .exhaustedAt .. => .ordering
  | .authority .. => .authority
  | .provider .. => .providerChoice
  | .drift .. => .timing
  | _ => .outcome

/-- The two sides of a mismatch, as a message shows them. -/
def sides (baseline candidate : String) : String :=
  "baseline=" ++ baseline ++ " candidate=" ++ candidate

/-- A truth value, as a message shows it. -/
def flag (b : Bool) : String := if b then "true" else "false"

def message : Finding → String
  | .decisionCount b c =>
    "decision outcome count mismatch: " ++ sides (Decimal.ofNat b) (Decimal.ofNat c)
  | .traceCount b c =>
    "trace artifact count mismatch: " ++ sides (Decimal.ofNat b) (Decimal.ofNat c)
  | .decisionParts i event parts =>
    "decision outcome mismatch at index " ++ Decimal.ofNat i ++ " (event " ++ event ++ "): " ++
      ", ".intercalate (parts.map Decision.Part.key)
  | .planHash i b c => "plan hash mismatch at index " ++ Decimal.ofNat i ++ ": " ++ sides b c
  | .provenance i parts =>
    "snapshot provenance mismatch at index " ++ Decimal.ofNat i ++ ": " ++
      ", ".intercalate (parts.map Provenance.Part.key)
  | .embeddedDecision i event parts =>
    "decision mismatch at index " ++ Decimal.ofNat i ++ " (event " ++ event ++ "): " ++
      ", ".intercalate (parts.map Decision.Part.key)
  | .ordering i b c =>
    "ordering marker mismatch at index " ++ Decimal.ofNat i ++ ": " ++ sides b c
  | .authority i b c =>
    "authority epoch mismatch at index " ++ Decimal.ofNat i ++ ": " ++
      sides (Decimal.ofInt b.toInt) (Decimal.ofInt c.toInt)
  | .provider i b c =>
    "provider choice mismatch at index " ++ Decimal.ofNat i ++ ": " ++ sides b.label c.label
  | .drift i d tolerance =>
    "runtime timestamp drift at index " ++ Decimal.ofNat i ++ ": " ++ Decimal.ofInt d.toInt ++
      "ms exceeds tolerance " ++ Decimal.ofInt tolerance.toInt ++ "ms"
  | .absence event => "upstream absence without drop/merge lineage marker for event " ++ event
  | .dropped event b c =>
    "lineage dropped flag mismatch for event " ++ event ++ ": " ++ sides (flag b) (flag c)
  | .mergeGroup event b c =>
    "lineage merge group mismatch for event " ++ event ++ ": " ++
      sides (b.getD "-") (c.getD "-")
  | .resumedAt cursor i =>
    "candidate trace has no artifact at resume cursor " ++ cursor.label ++
      "; resuming candidate at position " ++ Decimal.ofNat i
  | .exhaustedAt cursor n =>
    "candidate trace has no artifact at resume cursor " ++ cursor.label ++
      "; candidate exhausted after " ++ Decimal.ofNat n ++ " artifacts"

/-- The divergence that a finding is, in a scope. -/
def diverge (scope : String) (f : Finding) : Divergence :=
  match f with
  | .drift _ d _ => .timing scope f.message d
  | _ => .plain f.kind scope f.message

end Finding

/-! ## Sequences -/

/-- What `compare` gives for each place that both lists have, from a place on. -/
def alongside {α β : Type} (compare : Nat → α → α → List β) : Nat → List α → List α → List β
  | place, a :: as, b :: bs => compare place a b ++ alongside compare (place + 1) as bs
  | _, _, _ => []

/-- A single item when a condition holds. -/
def whenever {α : Type} (condition : Bool) (a : α) : List α := if condition then [a] else []

theorem mem_whenever {α : Type} {condition : Bool} {a b : α} :
    b ∈ whenever condition a ↔ condition = true ∧ b = a := by
  cases condition <;> simp [whenever]

theorem whenever_eq_nil {α : Type} {condition : Bool} {a : α} :
    whenever condition a = [] ↔ condition = false := by
  cases condition <;> simp [whenever]

/-- What is given along two lists is given at some place of both. -/
theorem mem_alongside {α β : Type} {compare : Nat → α → α → List β} {place : Nat}
    {as bs : List α} {x : β} :
    x ∈ alongside compare place as bs ↔
      ∃ i a b, as[i]? = some a ∧ bs[i]? = some b ∧ x ∈ compare (place + i) a b := by
  induction as generalizing place bs with
  | nil => simp [alongside]
  | cons a as ih =>
    cases bs with
    | nil => simp [alongside]
    | cons b bs =>
      rw [alongside, List.mem_append, ih]
      constructor
      · rintro (h | ⟨i, c, d, hc, hd, hx⟩)
        · exact ⟨0, a, b, rfl, rfl, h⟩
        · exact ⟨i + 1, c, d, hc, hd, by rwa [Nat.add_assoc, Nat.add_comm 1 i] at hx⟩
      · rintro ⟨i, c, d, hc, hd, hx⟩
        cases i with
        | zero =>
          cases hc
          cases hd
          exact .inl hx
        | succ i =>
          exact .inr ⟨i, c, d, hc, hd, by rwa [Nat.add_assoc, Nat.add_comm 1 i]⟩

/-- The scope of the first item of the baseline, or else of the candidate. -/
def leadingScope {α : Type} (scope : α → String) (baseline candidate : List α) : String :=
  ((baseline.head?.or candidate.head?).map scope).getD ""

namespace Decision

def compareAt (place : Nat) (b c : Decision) : List Divergence :=
  whenever (!(b.differing c).isEmpty)
    ((Finding.decisionParts place b.event (b.differing c)).diverge b.divergenceScope)

/-- The mismatches of two sequences of decisions: first of their lengths, then
of each place that both have. -/
def compareAll (baseline candidate : List Decision) : List Divergence :=
  whenever (baseline.length != candidate.length)
      ((Finding.decisionCount baseline.length candidate.length).diverge
        (leadingScope divergenceScope baseline candidate)) ++
    alongside compareAt 0 baseline candidate

end Decision

namespace TracePoint

/-- The findings about two points at one place. Each dimension is looked at by
itself, in a fixed order. -/
def findings (tolerance : Millis) (place : Nat) (b c : TracePoint) : List Finding :=
  let provenance := b.provenance.differing c.provenance
  let decision := b.decision.differingUntimed c.decision
  let drift := Millis.distance b.runtimeAt c.runtimeAt
  whenever (b.planHash != c.planHash) (.planHash place b.planHash c.planHash) ++
  whenever (!provenance.isEmpty) (.provenance place provenance) ++
  whenever (!decision.isEmpty) (.embeddedDecision place b.decision.event decision) ++
  whenever (b.marker != c.marker) (.ordering place b.marker c.marker) ++
  whenever (b.epoch != c.epoch) (.authority place b.epoch c.epoch) ++
  whenever (b.provider != c.provider) (.provider place b.provider c.provider) ++
  whenever (tolerance < drift) (.drift place drift tolerance)

def compareAt (tolerance : Millis) (place : Nat) (b c : TracePoint) : List Divergence :=
  (b.findings tolerance place c).map (Finding.diverge b.divergenceScope)

/-- The mismatches of two traces: first of their lengths, then of each place
that both have. -/
def compareAll (tolerance : Tolerance) (baseline candidate : List TracePoint) :
    List Divergence :=
  whenever (baseline.length != candidate.length)
      ((Finding.traceCount baseline.length candidate.length).diverge
        (leadingScope divergenceScope baseline candidate)) ++
    alongside (compareAt tolerance.effective) 0 baseline candidate

end TracePoint

/-! ## Lineage -/

namespace LineageRecord

/-- The first record of each event, under the event. -/
def byEvent (records : List LineageRecord) : Keyed String LineageRecord :=
  .ofFirsts (records.map fun r => (r.event, r))

/-- The findings about a record of the baseline, against the record that the
candidate has of its event. -/
def findings (b : LineageRecord) : Option LineageRecord → List Finding
  | none => [.absence b.event]
  | some c =>
    whenever (b.dropped != c.dropped) (.dropped b.event b.dropped c.dropped) ++
    whenever (b.mergeGroup != c.mergeGroup) (.mergeGroup b.event b.mergeGroup c.mergeGroup)

/-- The mismatches of two lineages, in the order of the baseline. -/
def compareAll (baseline candidate : List LineageRecord) : List Divergence :=
  let held := byEvent candidate
  baseline.flatMap fun b =>
    (b.findings (held.get? b.event)).map (Finding.diverge b.divergenceScope)

theorem get?_byEvent (records : List LineageRecord) (event : String) :
    (byEvent records).get? event = records.find? fun r => r.event = event := by
  rw [byEvent, Keyed.get?_ofFirsts, List.find?_map, Option.map_map]
  exact Option.map_id'

end LineageRecord

end ReplayEvidence
