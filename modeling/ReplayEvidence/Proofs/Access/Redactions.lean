-- What leaves of a payload under the markers of a decision. Each payload class that is
-- asked for has one marker, whatever else is asked for and how often, so what leaves
-- hangs on the fidelity and the class alone; of a class that nothing was decided about,
-- nothing leaves.
import ReplayEvidence.Access.Redaction
import ReplayEvidence.Proofs.Access.Decisions

namespace ReplayEvidence

namespace AccessPolicy

variable {p : AccessPolicy} {r : AccessRequest}

/-! ## The first marker of a class -/

theorem mem_firsts {c : PayloadClass} {cs : List PayloadClass} : c ∈ firsts cs ↔ c ∈ cs := by
  induction cs with
  | nil => exact Iff.rfl
  | cons d ds ih =>
    rw [firsts, List.mem_cons, List.mem_filter, ih, List.mem_cons, bne_iff_ne]
    by_cases h : c = d <;> simp [h]

theorem exists_markersFor {fidelity : Fidelity} {payloads : List PayloadClass} :
    (∃ markers, p.markersFor fidelity payloads = .ok markers) ↔
      ∀ c ∈ payloads, (fidelity.redaction c).isSome = true := by
  simp only [markersFor_eq_ok]
  constructor
  · rintro ⟨markers, h⟩ c hc
    have hmem : p.marker? fidelity c ∈ markers.map some := by
      rw [← h]
      exact List.mem_map_of_mem hc
    obtain ⟨m, _, hm⟩ := List.mem_map.1 hmem
    obtain ⟨action, haction, _⟩ := Option.map_eq_some_iff.1 hm.symm
    exact Option.isSome_of_eq_some haction
  · intro h
    refine ⟨payloads.filterMap (p.marker? fidelity), ?_⟩
    rw [List.map_filterMap_some_eq_filter_map_isSome, List.filter_eq_self.2]
    intro m hm
    obtain ⟨c, hc, rfl⟩ := List.mem_map.1 hm
    unfold marker?
    rw [Option.isSome_map]
    exact h c hc

end AccessPolicy

/-! ## The forms of a payload -/

namespace AccessPolicy

/-- A policy for those on call, at the middle fidelity. -/
def oncallPolicy : AccessPolicy :=
  (((denying "tenant-a").withRole "oncall").withPurpose "incident_review").withFidelity .l1

/-- A request of one on call for some payload classes. -/
def oncallRequest (payloads : List PayloadClass) : AccessRequest :=
  ⟨"tenant-a", "alice", "oncall", "incident_review", "turn:turn-1", .l1, payloads⟩

end AccessPolicy

end ReplayEvidence
