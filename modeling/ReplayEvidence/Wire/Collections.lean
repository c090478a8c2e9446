-- Wire forms of sets and of entries under named keys. A set is written in
-- order and read in any; entries keep the order in which they are written.
import ReplayEvidence.Keyed
import ReplayEvidence.SortedSet
import ReplayEvidence.Wire.Basic

namespace ReplayEvidence.Wire

instance {α : Type} [Ranked α] [DecidableEq α] [Wire α] : Wire (SortedSet α) where
  encode s := encode s.toList
  decode v := (decode (α := List α) v).map SortedSet.ofList

/-- Reads entries in order; the first failure ends it. -/
def decodeEntries {κ ν : Type} [Named κ] [Wire ν] :
    List Json.Member → Except DecodeError (List (κ × ν))
  | [] => .ok []
  | (none, _) :: _ => .error .malformed
  | (some k, v) :: ms => do
    let key ← variant k
    let value ← decode v
    let rest ← decodeEntries ms
    return (key, value) :: rest

instance {κ ν : Type} [Named κ] [DecidableEq κ] [Wire ν] : Wire (Keyed κ ν) where
  encode m := Json.record (m.entries.map fun e => (Named.name e.1, encode e.2))
  decode
    | .object ms => (decodeEntries ms).map Keyed.ofList
    | _ => .error .malformed

/-! ## Reading what was written -/

/-- A set reads back, as its members stand in order when written. -/
instance {α : Type} [Ranked α] [DecidableEq α] [Wire α] [LawfulWire α] :
    LawfulWire (SortedSet α) where
  decode_encode s := by
    change (decode (encode s.toList)).map SortedSet.ofList = _
    rw [LawfulWire.decode_encode, Except.map, SortedSet.ofList_toList]

theorem decodeEntries_encode {κ ν : Type} [Named κ] [Wire ν] {es : List (κ × ν)}
    (h : ∀ e ∈ es, decode (encode e.2) = .ok e.2) :
    decodeEntries (es.map fun e => (some (Named.name e.1), encode e.2)) = .ok es := by
  induction es with
  | nil => rfl
  | cons e es ih =>
    rw [List.forall_mem_cons] at h
    rw [List.map_cons, decodeEntries, variant_name, h.1, ih h.2]
    rfl

/-- Each entry that was read has a value that was read. -/
theorem exists_of_mem_decodeEntries {κ ν : Type} [Named κ] [Wire ν] {ms : List Json.Member}
    {es : List (κ × ν)} (h : decodeEntries ms = .ok es) {e : κ × ν} (he : e ∈ es) :
    ∃ v, decode v = .ok e.2 := by
  induction ms generalizing es with
  | nil =>
    cases h
    cases he
  | cons m ms ih =>
    rcases m with ⟨_ | k, v⟩
    · cases h
    · obtain ⟨key, hkey, h⟩ := bind_eq_ok.1 h
      obtain ⟨value, hvalue, h⟩ := bind_eq_ok.1 h
      obtain ⟨rest, hrest, h⟩ := bind_eq_ok.1 h
      cases h
      rcases List.mem_cons.1 he with rfl | he
      · exact ⟨v, hvalue⟩
      · exact ih hrest he

/-- Entries read back in the order in which they were written. -/
instance {κ ν : Type} [Named κ] [DecidableEq κ] [Wire ν] [LawfulWire ν] :
    LawfulWire (Keyed κ ν) where
  decode_encode m := by
    change (decodeEntries ((m.entries.map fun e => (Named.name e.1, encode e.2)).map
      fun e => (some e.1, e.2))).map Keyed.ofList = _
    rw [List.map_map]
    exact (congrArg (Except.map Keyed.ofList)
      (decodeEntries_encode fun e _ => LawfulWire.decode_encode e.2)).trans
      (congrArg Except.ok (Keyed.ofList_entries m))

end ReplayEvidence.Wire
