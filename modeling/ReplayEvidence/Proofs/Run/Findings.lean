-- The laws of what a comparison reports. Every divergence that a comparison
-- gives is valid, whatever it compares: its scope and its message say something,
-- and it carries a length of time exactly when it is one in timing.
import ReplayEvidence.Run.Replay

namespace ReplayEvidence

/-! ## Scopes -/

theorem Divergence.isBlank_scopeOf (session : String) (turn : Option String) :
    Text.isBlank (Divergence.scopeOf session turn) = false := by
  unfold Divergence.scopeOf
  split
  · exact Text.isBlank_append_of_left (by decide) _
  · exact Text.isBlank_append_of_left (by decide) _

theorem Decision.isBlank_divergenceScope (d : Decision) :
    Text.isBlank d.divergenceScope = false := Divergence.isBlank_scopeOf d.session d.turn

theorem TracePoint.isBlank_divergenceScope (p : TracePoint) :
    Text.isBlank p.divergenceScope = false := p.decision.isBlank_divergenceScope

theorem LineageRecord.isBlank_divergenceScope (r : LineageRecord) :
    Text.isBlank r.divergenceScope = false := Divergence.isBlank_scopeOf r.session r.turn

/-- Of two lists of different length one has a first item, so the leading scope
is a scope. -/
theorem isBlank_leadingScope {α : Type} {scope : α → String}
    (h : ∀ a, Text.isBlank (scope a) = false) {baseline candidate : List α}
    (hlen : (baseline.length != candidate.length) = true) :
    Text.isBlank (leadingScope scope baseline candidate) = false := by
  unfold leadingScope
  rcases baseline with _ | ⟨b, bs⟩
  · rcases candidate with _ | ⟨c, cs⟩
    · simp at hlen
    · exact h c
  · exact h b

/-! ## Findings -/

theorem Divergence.validate_plain {kind : DivergenceClass} {scope message : String}
    (hkind : kind ≠ .timing) (hscope : Text.isBlank scope = false)
    (hmessage : Text.isBlank message = false) :
    (Divergence.plain kind scope message).validate = .ok () := by
  unfold Divergence.plain Divergence.validate
  rw [Validity.bind_eq_ok, Validity.bind_eq_ok, Validity.require_eq_ok, Validity.require_eq_ok]
  refine ⟨hscope, hmessage, ?_⟩
  cases kind with
  | timing => exact absurd rfl hkind
  | _ => rfl

theorem Divergence.validate_timing {scope message : String} (drift : Millis)
    (hscope : Text.isBlank scope = false) (hmessage : Text.isBlank message = false) :
    (Divergence.timing scope message drift).validate = .ok () := by
  unfold Divergence.timing Divergence.validate
  rw [Validity.bind_eq_ok, Validity.bind_eq_ok, Validity.require_eq_ok, Validity.require_eq_ok]
  exact ⟨hscope, hmessage, if_pos (Millis.magnitude_nonneg drift)⟩

namespace Finding

theorem isBlank_message (f : Finding) : Text.isBlank f.message = false := by
  cases f <;> unfold message
  all_goals
    -- all that follows the text in front is dropped, from the end on
    repeat first
      | decide
      | apply Text.isBlank_append_of_left

/-- A finding in a scope that says something is a valid divergence. -/
theorem validate_diverge (f : Finding) {scope : String} (h : Text.isBlank scope = false) :
    (f.diverge scope).validate = .ok () := by
  cases f with
  | drift place length tolerance =>
    exact Divergence.validate_timing length h (isBlank_message _)
  | _ => exact Divergence.validate_plain nofun h (isBlank_message _)

end Finding

/-! ## Comparisons -/

/-- A comparison of two sequences reports their lengths, in a scope that says something, and what
is found at each place of both. What holds of these holds of all that it reports. -/
theorem of_mem_comparison {α : Type} {scope : α → String} {lengths : Finding}
    {compare : Nat → α → α → List Divergence} {baseline candidate : List α}
    {P : Divergence → Prop} (hscope : ∀ a, Text.isBlank (scope a) = false)
    (hlengths : ∀ {s}, Text.isBlank s = false → P (lengths.diverge s))
    (hplaces : ∀ {place b c d}, d ∈ compare place b c → P d) {d : Divergence}
    (h : d ∈ whenever (baseline.length != candidate.length)
        (lengths.diverge (leadingScope scope baseline candidate)) ++
      alongside compare 0 baseline candidate) : P d := by
  rcases List.mem_append.1 h with h | h
  · obtain ⟨hlength, rfl⟩ := mem_whenever.1 h
    exact hlengths (isBlank_leadingScope hscope hlength)
  · obtain ⟨_, _, _, _, _, hd⟩ := mem_alongside.1 h
    exact hplaces hd

namespace Decision

theorem validate_of_mem_compareAt {place : Nat} {b c : Decision} {d : Divergence}
    (h : d ∈ compareAt place b c) : d.validate = .ok () := by
  obtain ⟨_, rfl⟩ := mem_whenever.1 h
  exact Finding.validate_diverge _ b.isBlank_divergenceScope

theorem validate_of_mem_compareAll {baseline candidate : List Decision} {d : Divergence}
    (h : d ∈ compareAll baseline candidate) : d.validate = .ok () :=
  of_mem_comparison isBlank_divergenceScope (Finding.validate_diverge _)
    validate_of_mem_compareAt h

end Decision

namespace TracePoint

theorem validate_of_mem_compareAt {tolerance : Millis} {place : Nat} {b c : TracePoint}
    {d : Divergence} (h : d ∈ compareAt tolerance place b c) : d.validate = .ok () := by
  obtain ⟨f, _, rfl⟩ := List.mem_map.1 h
  exact Finding.validate_diverge f b.isBlank_divergenceScope

theorem validate_of_mem_compareAll {tolerance : Tolerance} {baseline candidate : List TracePoint}
    {d : Divergence} (h : d ∈ compareAll tolerance baseline candidate) :
    d.validate = .ok () :=
  of_mem_comparison isBlank_divergenceScope (Finding.validate_diverge _)
    validate_of_mem_compareAt h

end TracePoint

theorem LineageRecord.validate_of_mem_compareAll {baseline candidate : List LineageRecord}
    {d : Divergence} (h : d ∈ compareAll baseline candidate) : d.validate = .ok () := by
  obtain ⟨b, _, hd⟩ := List.mem_flatMap.1 h
  obtain ⟨f, _, rfl⟩ := List.mem_map.1 hd
  exact Finding.validate_diverge f b.isBlank_divergenceScope

theorem ReplayMode.validate_of_mem_compare {mode : ReplayMode} {tolerance : Tolerance}
    {baseline candidate : List PlacedPoint} {d : Divergence}
    (h : d ∈ mode.compare tolerance baseline candidate) : d.validate = .ok () := by
  cases mode with
  | replayDecisions => exact Decision.validate_of_mem_compareAll h
  | _ => exact TracePoint.validate_of_mem_compareAll h

theorem Resumption.validate_missing (c : Cursor) (place length : Nat) :
    (missing c place length).validate = .ok () :=
  Finding.validate_diverge _ (Divergence.isBlank_scopeOf c.session c.turn)

end ReplayEvidence
