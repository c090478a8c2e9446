-- Every schema reads back what it writes. The schemas are listed as one type,
-- so that what holds of each of them is said once. Only counts have values
-- that do not fit the wire; every other value reads back, valid or not.
import ReplayEvidence.Access.Policy
import ReplayEvidence.Audit.HttpConfig
import ReplayEvidence.Audit.Journal
import ReplayEvidence.Proofs.Json.Trees
import ReplayEvidence.Proofs.Retention.LostByClass
import ReplayEvidence.Proofs.Wire.Records
import ReplayEvidence.Run.Replay

namespace ReplayEvidence

open Wire (Fields)

/-! ## Records that always read back -/

instance : LawfulWire Cursor :=
  Cursor.fields.lawful (by decide) (fun _ => by simp [Cursor.fields]) fun _ => rfl

instance : NonNull Cursor := ⟨nofun⟩

instance : LawfulWire Decision :=
  Decision.fields.lawful (by decide) (fun _ => by simp [Decision.fields]) fun _ => rfl

instance : LawfulWire Provenance :=
  Provenance.fields.lawful (by decide) (fun _ => by simp [Provenance.fields]) fun _ => rfl

instance : LawfulWire Provider :=
  Provider.fields.lawful (by decide) (fun _ => by simp [Provider.fields]) fun _ => rfl

instance : LawfulWire TracePoint :=
  TracePoint.fields.lawful (by decide) (fun _ => by simp [TracePoint.fields]) fun _ => rfl

instance : LawfulWire LineageRecord :=
  LineageRecord.fields.lawful (by decide) (fun _ => by simp [LineageRecord.fields]) fun _ => rfl

instance : LawfulWire Evidence :=
  Evidence.fields.lawful (by decide) (fun _ => by simp [Evidence.fields]) fun _ => rfl

instance : LawfulWire Divergence :=
  Divergence.fields.lawful (by decide) (fun _ => by simp [Divergence.fields]) fun _ => rfl

instance : LawfulWire RunRequest :=
  RunRequest.fields.lawful (by decide) (fun _ => by simp [RunRequest.fields]) fun _ => rfl

instance : LawfulWire RunResult :=
  RunResult.fields.lawful (by decide) (fun _ => by simp [RunResult.fields]) fun _ => rfl

instance : LawfulWire RunReport :=
  RunReport.fields.lawful (by decide) (fun _ => by simp [RunReport.fields]) fun _ => rfl

instance : LawfulWire Tolerance :=
  Tolerance.fields.lawful (by decide) (fun _ => by simp [Tolerance.fields]) fun _ => rfl

instance : LawfulWire RunSettings :=
  RunSettings.fields.lawful (by decide) (fun _ => by simp [RunSettings.fields]) fun _ => rfl

instance : LawfulWire AccessRequest :=
  AccessRequest.fields.lawful (by decide) (fun _ => by simp [AccessRequest.fields]) fun _ => rfl

instance : LawfulWire RedactionMarker :=
  RedactionMarker.fields.lawful (by decide) (fun _ => by simp [RedactionMarker.fields]) fun _ => rfl

instance : LawfulWire AccessDecision :=
  AccessDecision.fields.lawful (by decide) (fun _ => by simp [AccessDecision.fields]) fun _ => rfl

instance : LawfulWire AuditEvent :=
  AuditEvent.fields.lawful (by decide) (fun _ => by simp [AuditEvent.fields]) fun _ => rfl

instance : LawfulWire AccessPolicy :=
  AccessPolicy.fields.lawful (by decide) (fun _ => by simp [AccessPolicy.fields]) fun _ => rfl

instance : LawfulWire RetentionPolicy :=
  RetentionPolicy.fields.lawful (by decide) (fun _ => by simp [RetentionPolicy.fields]) fun _ => rfl

instance : LawfulWire Artifact :=
  Artifact.fields.lawful (by decide) (fun _ => by simp [Artifact.fields]) fun _ => rfl

instance : LawfulWire DeletionScope :=
  DeletionScope.fields.lawful (by decide) (fun _ => by simp [DeletionScope.fields]) fun _ => rfl

instance : LawfulWire DeletionRequest :=
  DeletionRequest.fields.lawful (by decide) (fun _ => by simp [DeletionRequest.fields]) fun _ => rfl

instance : LawfulWire JournalConfig :=
  JournalConfig.fields.lawful (by decide) (fun _ => by simp [JournalConfig.fields]) fun _ => rfl

instance : LawfulWire HttpConfig :=
  HttpConfig.fields.lawful (by decide) (fun _ => by simp [HttpConfig.fields]) fun _ => rfl

/-! ## Counts -/

theorem Wire.lt_of_decode_nat {v : Json} {n : Nat} (h : Wire.decode v = .ok n) :
    n < UInt64.size := by
  change (Wire.boundedInt 0 (UInt64.size - 1) v).map Int.toNat = .ok n at h
  obtain ⟨i, hi, rfl⟩ := map_eq_ok.1 h
  unfold Wire.boundedInt at hi
  split at hi
  · split at hi
    · cases hi
      omega
    · cases hi
  · cases hi

namespace DeletionResult

/-- Whether the counts fit 64 bits. -/
structure InRange (r : DeletionResult) : Prop where
  matched : r.matched < UInt64.size
  deleted : r.deleted < UInt64.size
  inaccessible : r.inaccessible < UInt64.size

theorem decode_encode {r : DeletionResult} (h : r.InRange) : Wire.decode (Wire.encode r) = .ok r :=
  fields.decode_encode (by decide)
    (by simp [fields, Wire.decode_encode_nat, h.matched, h.deleted, h.inaccessible]) rfl

theorem inRange_of_decode {v : Json} {r : DeletionResult} (h : Wire.decode v = .ok r) :
    r.InRange := by
  obtain ⟨_, inaccessible, _, hthree, hinaccessible, rfl⟩ :=
    Fields.makes_required (Fields.makes_of_decode h)
  obtain ⟨_, deleted, _, htwo, hdeleted, rfl⟩ := Fields.makes_required hthree
  obtain ⟨_, matched, _, hone, hmatched, rfl⟩ := Fields.makes_required htwo
  obtain ⟨_, mode, rfl, -, rfl⟩ := hone
  exact ⟨Wire.lt_of_decode_nat hmatched, Wire.lt_of_decode_nat hdeleted,
    Wire.lt_of_decode_nat hinaccessible⟩

end DeletionResult

namespace SweepResult

/-- Whether the counts fit 64 bits. -/
structure InRange (r : SweepResult) : Prop where
  evaluated : r.evaluated < UInt64.size
  expired : r.expired < UInt64.size
  deleted : r.deleted < UInt64.size

theorem decode_encode {r : SweepResult} (h : r.InRange) : Wire.decode (Wire.encode r) = .ok r :=
  fields.decode_encode (by decide)
    (by simp [fields, Wire.decode_encode_nat, h.evaluated, h.expired, h.deleted]) rfl

theorem inRange_of_decode {v : Json} {r : SweepResult} (h : Wire.decode v = .ok r) :
    r.InRange := by
  obtain ⟨_, deleted, _, hthree, hdeleted, rfl⟩ :=
    Fields.makes_required (Fields.makes_of_decode h)
  obtain ⟨_, expired, _, htwo, hexpired, rfl⟩ := Fields.makes_required hthree
  obtain ⟨_, evaluated, _, hone, hevaluated, rfl⟩ := Fields.makes_required htwo
  obtain ⟨_, tenant, _, rfl, -, rfl⟩ := Fields.makes_required hone
  exact ⟨Wire.lt_of_decode_nat hevaluated, Wire.lt_of_decode_nat hexpired,
    Wire.lt_of_decode_nat hdeleted⟩

end SweepResult

namespace ClassCounts

/-- Whether every count fits 64 bits. -/
def InRange (c : ClassCounts) : Prop := ∀ p n, c.get? p = some n → n < UInt64.size

theorem get?_set (c : ClassCounts) (p q : PayloadClass) (n : Nat) :
    (c.set p n).get? q = if p = q then some n else c.get? q := by
  cases p <;> cases q <;> rfl

/-- Setting the counts of some payload classes one after the other. -/
theorem get?_foldl_set (c d : ClassCounts) (ps : List PayloadClass) (q : PayloadClass) :
    ((ps.filterMap fun p => (c.get? p).map fun n => (p, n)).foldl
      (fun d e => d.set e.1 e.2) d).get? q =
        if q ∈ ps then (c.get? q).or (d.get? q) else d.get? q := by
  induction ps generalizing d with
  | nil => rfl
  | cons p ps ih =>
    rcases hp : c.get? p with _ | n
    · simp only [List.filterMap_cons, hp, Option.map_none]
      rw [ih]
      by_cases hq : q = p
      · simp [hq, hp]
      · simp [hq]
    · simp only [List.filterMap_cons, hp, Option.map_some, List.foldl_cons]
      rw [ih, get?_set]
      by_cases hq : p = q
      · subst hq
        simp [hp]
      · have hne : ¬ q = p := fun he => hq he.symm
        simp [hq, hne]

theorem foldl_set_entries (c : ClassCounts) :
    c.entries.foldl (fun d e => d.set e.1 e.2) empty = c := by
  apply ext_get?
  intro p
  rw [entries, get?_foldl_set, if_pos (Named.mem_all p), get?_empty, Option.or_none]

theorem lt_of_mem_entries {c : ClassCounts} (h : c.InRange) {e : PayloadClass × Nat}
    (he : e ∈ c.entries) : e.2 < UInt64.size := by
  obtain ⟨p, -, he⟩ := List.mem_filterMap.1 he
  obtain ⟨n, hn, rfl⟩ := Option.map_eq_some_iff.1 he
  exact h p n hn

theorem decode_encode {c : ClassCounts} (h : c.InRange) : Wire.decode (Wire.encode c) = .ok c := by
  change (Wire.decodeEntries ((c.entries.map fun e => (Named.name e.1, Wire.encode e.2)).map
    fun e => (some e.1, e.2))).map _ = _
  rw [List.map_map]
  exact (congrArg (Except.map _)
    (Wire.decodeEntries_encode fun e he => Wire.decode_encode_nat (lt_of_mem_entries h he))).trans
      (congrArg Except.ok (foldl_set_entries c))

theorem inRange_foldl_set {es : List (PayloadClass × Nat)} (hes : ∀ e ∈ es, e.2 < UInt64.size)
    {c : ClassCounts} (hc : c.InRange) : (es.foldl (fun c e => c.set e.1 e.2) c).InRange := by
  induction es generalizing c with
  | nil => exact hc
  | cons e es ih =>
    rw [List.forall_mem_cons] at hes
    refine ih hes.2 fun p n hn => ?_
    rw [get?_set] at hn
    split at hn
    · cases hn
      exact hes.1
    · exact hc p n hn

theorem inRange_of_decode {v : Json} {c : ClassCounts} (h : Wire.decode v = .ok c) :
    c.InRange := by
  cases v with
  | object ms =>
    obtain ⟨es, hes, rfl⟩ := map_eq_ok.1 h
    refine inRange_foldl_set (fun e he => ?_) fun p n hn => ?_
    · obtain ⟨v, hv⟩ := Wire.exists_of_mem_decodeEntries hes he
      exact Wire.lt_of_decode_nat hv
    · rw [get?_empty] at hn
      cases hn
  | array | null | bool | int | decimal | string => cases h

end ClassCounts

namespace SweepReport

/-- Whether the counts fit 64 bits. -/
structure InRange (r : SweepReport) : Prop where
  result : r.result.InRange
  deletedByClass : r.deletedByClass.InRange

theorem decode_encode {r : SweepReport} (h : r.InRange) : Wire.decode (Wire.encode r) = .ok r :=
  fields.decode_encode (by decide)
    (by simp [fields, SweepResult.decode_encode h.result,
      ClassCounts.decode_encode h.deletedByClass]) rfl

theorem inRange_of_decode {v : Json} {r : SweepReport} (h : Wire.decode v = .ok r) :
    r.InRange := by
  obtain ⟨_, counts, _, hone, hcounts, rfl⟩ :=
    Fields.makes_required (Fields.makes_of_decode h)
  obtain ⟨_, result, _, rfl, hresult, rfl⟩ := Fields.makes_required hone
  exact ⟨SweepResult.inRange_of_decode hresult, ClassCounts.inRange_of_decode hcounts⟩

end SweepReport

/-! ## Values as files -/

namespace Wire

variable {α : Type} [Wire α]

/-- The bytes of a file that holds a value: those of its text. -/
def file (a : α) : ByteArray := ⟨(Text.utf8 (Json.compact (encode a))).toArray⟩

theorem parseBytes?_file (a : α) : Json.parseBytes? (file a) = some (encode a) := by
  rw [file, Json.parseBytes?_utf8, Json.parse?_compact]

end Wire

/-! ## All schemas -/

/-- The records that are written as text and read back. -/
inductive Schema where
  | decision | provenance | provider | tracePoint | lineage | cursor | divergence
  | runRequest | runResult | runReport
  | accessRequest | redactionMarker | accessDecision | auditEvent
  | retentionPolicy | artifact
  | deletionScope | deletionRequest | deletionResult | sweepResult | sweepReport
  | evidence
  | tolerance | runSettings | accessPolicy | journalConfig | httpConfig
deriving DecidableEq, Repr

namespace Schema

/-- The values of a schema. -/
abbrev Value : Schema → Type
  | .decision => Decision
  | .provenance => Provenance
  | .provider => Provider
  | .tracePoint => TracePoint
  | .lineage => LineageRecord
  | .cursor => Cursor
  | .divergence => Divergence
  | .runRequest => RunRequest
  | .runResult => RunResult
  | .runReport => RunReport
  | .accessRequest => AccessRequest
  | .redactionMarker => RedactionMarker
  | .accessDecision => AccessDecision
  | .auditEvent => AuditEvent
  | .retentionPolicy => RetentionPolicy
  | .artifact => Artifact
  | .deletionScope => DeletionScope
  | .deletionRequest => DeletionRequest
  | .deletionResult => DeletionResult
  | .sweepResult => SweepResult
  | .sweepReport => SweepReport
  | .evidence => Evidence
  | .tolerance => Tolerance
  | .runSettings => RunSettings
  | .accessPolicy => AccessPolicy
  | .journalConfig => JournalConfig
  | .httpConfig => HttpConfig

instance wire : (s : Schema) → Wire s.Value
  | .decision => inferInstanceAs (Wire Decision)
  | .provenance => inferInstanceAs (Wire Provenance)
  | .provider => inferInstanceAs (Wire Provider)
  | .tracePoint => inferInstanceAs (Wire TracePoint)
  | .lineage => inferInstanceAs (Wire LineageRecord)
  | .cursor => inferInstanceAs (Wire Cursor)
  | .divergence => inferInstanceAs (Wire Divergence)
  | .runRequest => inferInstanceAs (Wire RunRequest)
  | .runResult => inferInstanceAs (Wire RunResult)
  | .runReport => inferInstanceAs (Wire RunReport)
  | .accessRequest => inferInstanceAs (Wire AccessRequest)
  | .redactionMarker => inferInstanceAs (Wire RedactionMarker)
  | .accessDecision => inferInstanceAs (Wire AccessDecision)
  | .auditEvent => inferInstanceAs (Wire AuditEvent)
  | .retentionPolicy => inferInstanceAs (Wire RetentionPolicy)
  | .artifact => inferInstanceAs (Wire Artifact)
  | .deletionScope => inferInstanceAs (Wire DeletionScope)
  | .deletionRequest => inferInstanceAs (Wire DeletionRequest)
  | .deletionResult => inferInstanceAs (Wire DeletionResult)
  | .sweepResult => inferInstanceAs (Wire SweepResult)
  | .sweepReport => inferInstanceAs (Wire SweepReport)
  | .evidence => inferInstanceAs (Wire Evidence)
  | .tolerance => inferInstanceAs (Wire Tolerance)
  | .runSettings => inferInstanceAs (Wire RunSettings)
  | .accessPolicy => inferInstanceAs (Wire AccessPolicy)
  | .journalConfig => inferInstanceAs (Wire JournalConfig)
  | .httpConfig => inferInstanceAs (Wire HttpConfig)

/-- Whether every number of a value fits its type on the wire. Only counts have
a type of their own that is wider. -/
def InRange : (s : Schema) → s.Value → Prop
  | .deletionResult, r => DeletionResult.InRange r
  | .sweepResult, r => SweepResult.InRange r
  | .sweepReport, r => SweepReport.InRange r
  | _, _ => True

/-- A value as a text. -/
def write (s : Schema) (x : s.Value) : String := Json.compact (Wire.encode x)

/-- The value that a text holds. -/
def read (s : Schema) (text : String) : Option s.Value :=
  (Json.parse? text).bind fun v => (Wire.decode v).toOption

theorem decode_encode (s : Schema) {x : s.Value} (h : s.InRange x) :
    Wire.decode (Wire.encode x) = .ok x := by
  cases s with
  | deletionResult => exact DeletionResult.decode_encode h
  | sweepResult => exact SweepResult.decode_encode h
  | sweepReport => exact SweepReport.decode_encode h
  | _ => exact LawfulWire.decode_encode x

theorem inRange_of_decode (s : Schema) {v : Json} {x : s.Value} (h : Wire.decode v = .ok x) :
    s.InRange x := by
  cases s with
  | deletionResult => exact DeletionResult.inRange_of_decode h
  | sweepResult => exact SweepResult.inRange_of_decode h
  | sweepReport => exact SweepReport.inRange_of_decode h
  | _ => trivial

theorem read_write (s : Schema) {x : s.Value} (h : s.InRange x) :
    s.read (s.write x) = some x := by
  rw [read, write, Json.parse?_compact, Option.bind_some, decode_encode s h]
  rfl

theorem inRange_of_read (s : Schema) {text : String} {x : s.Value} (h : s.read text = some x) :
    s.InRange x := by
  obtain ⟨v, -, hv⟩ := Option.bind_eq_some_iff.1 h
  rcases hdecode : Wire.decode (α := s.Value) v with e | y
  · rw [hdecode] at hv
    cases hv
  · rw [hdecode] at hv
    cases hv
    exact inRange_of_decode s hdecode

/-- Every schema reads back the values it writes, so it writes different values
differently; and writing what was read from a text settles the text. -/
theorem every_schema_reads_back_what_it_writes (s : Schema) :
    (∀ x, s.InRange x → s.read (s.write x) = some x) ∧
    (∀ x y, s.InRange x → s.InRange y → s.write x = s.write y → x = y) ∧
    ∀ text settled, (s.read text).map s.write = some settled →
      (s.read settled).map s.write = some settled := by
  refine ⟨fun x hx => s.read_write hx, fun x y hx hy h => ?_, fun text settled h => ?_⟩
  · have hread := s.read_write hx
    rw [h, s.read_write hy] at hread
    exact (Option.some.inj hread).symm
  · obtain ⟨x, hx, rfl⟩ := Option.map_eq_some_iff.1 h
    rw [s.read_write (s.inRange_of_read hx)]
    rfl

/-- A policy of no valid tenant, with two windows in an order of its own. -/
def windowsInOrder (order : List PayloadClass) : RetentionPolicy where
  tenant := "\n\"\x01"
  defaultWindow := -1
  piiCeiling := 0
  phiCeiling := 0
  windows := .ofList (order.map fun p => (p, 1))

/-- A report of two artifacts that were found expired, one of them removed. -/
def sweptReport : SweepReport :=
  ⟨⟨"tenant-a", 3, 2, 1⟩, ClassCounts.empty.set .pii 1⟩

theorem windows_keep_their_order_and_counts_come_back :
    retentionPolicy.read (retentionPolicy.write (windowsInOrder [.phi, .metadata])) =
        some (windowsInOrder [.phi, .metadata]) ∧
      retentionPolicy.write (windowsInOrder [.phi, .metadata]) ≠
        retentionPolicy.write (windowsInOrder [.metadata, .phi]) ∧
      SweepReport.InRange sweptReport ∧
      sweepReport.read (sweepReport.write sweptReport) = some sweptReport ∧
      (sweepReport.read (sweepReport.write sweptReport)).map sweepReport.write =
        some (sweepReport.write sweptReport) := by
  obtain ⟨hpolicy, hdifferent, -⟩ := every_schema_reads_back_what_it_writes .retentionPolicy
  obtain ⟨hreport, -, hsettled⟩ := every_schema_reads_back_what_it_writes .sweepReport
  have hrange : SweepReport.InRange sweptReport := by
    refine ⟨⟨by decide, by decide, by decide⟩, fun p n hn => ?_⟩
    cases p <;> cases hn
    decide
  have hread := hreport sweptReport hrange
  refine ⟨hpolicy _ trivial, fun h => ?_, hrange, hread,
    hsettled _ _ (congrArg (Option.map sweepReport.write) hread)⟩
  exact absurd (hdifferent _ _ trivial trivial h) (by decide)

end Schema

end ReplayEvidence
