-- What a marker must say to carry a sequence: the label, and after it a whole number in
-- decimal that is not negative and fits 63 bits, with white space around it or none. A marker
-- spells one number at most, and the marker written for a sequence spells the sequence.
import Mathlib.Data.List.Basic
import ReplayEvidence.Proofs.Text.Numerals
import ReplayEvidence.Proofs.Text.Padding
import ReplayEvidence.Trace.Marker

namespace ReplayEvidence.Marker

open Decimal (Digits Signed)
open Text (Padded)

/-! ## Spelling -/

/-- The marker is the label and a number in decimal, which may have a sign before it and white
space around it. -/
def Spells (marker : String) (n : Int) : Prop :=
  ∃ number text, Signed number.toList n ∧ Padded number text ∧ marker = label ++ text

theorem spells_iff_trim {marker : String} {n : Int} :
    Spells marker n ↔ ∃ text, marker = label ++ text ∧ Signed (Text.trim text).toList n := by
  constructor
  · rintro ⟨number, text, hnumber, hpadded, rfl⟩
    refine ⟨text, rfl, ?_⟩
    rwa [hpadded.trim_eq, hnumber.trim_eq]
  · rintro ⟨text, rfl, hnumber⟩
    exact ⟨Text.trim text, text, hnumber, Text.padded_trim text, rfl⟩

theorem Spells.unique {marker : String} {m n : Int} (hm : Spells marker m)
    (hn : Spells marker n) : m = n := by
  obtain ⟨text, rfl, hnumber⟩ := spells_iff_trim.1 hm
  obtain ⟨text', htext, hnumber'⟩ := spells_iff_trim.1 hn
  rw [← (String.append_right_inj _).1 htext] at hnumber'
  exact hnumber.unique hnumber'

theorem spells_ofSequence (n : Int64) : Spells (ofSequence n) n.toInt :=
  ⟨_, _, Decimal.signed_ofInt n.toInt, .refl _, rfl⟩

/-! ## Reading -/

theorem sequence?_eq_some_iff_trim {marker : String} {n : Int64} :
    sequence? marker = some n ↔
      ∃ text, marker = label ++ text ∧ Decimal.int64? (Text.trim text) = some n ∧ 0 ≤ n := by
  unfold sequence?
  simp only [Option.bind_eq_some_iff, List.isPrefixOf?_eq_some_iff_append_eq,
    Option.filter_eq_some_iff, decide_eq_true_eq]
  constructor
  · rintro ⟨rest, hrest, hread⟩
    refine ⟨.ofList rest, ?_, ?_⟩
    · rw [← String.toList_inj, String.toList_append, String.toList_ofList, hrest]
    · rwa [Text.trim, String.toList_ofList]
  · rintro ⟨text, rfl, hread⟩
    exact ⟨text.toList, String.toList_append.symm, hread⟩

/-- A marker carries the number that it spells, unless it is negative. -/
theorem sequence?_eq_some_iff {marker : String} {n : Int64} :
    sequence? marker = some n ↔ Spells marker n.toInt ∧ 0 ≤ n := by
  simp only [sequence?_eq_some_iff_trim, spells_iff_trim, Decimal.int64?_eq_some_iff,
    ← and_assoc, exists_and_right]

theorem sequence?_nonneg {marker : String} {n : Int64} (h : sequence? marker = some n) : 0 ≤ n :=
  (sequence?_eq_some_iff.1 h).2

/-- The marker of a sequence carries the sequence, and that of a negative number carries
nothing. -/
theorem sequence?_ofSequence (n : Int64) :
    sequence? (ofSequence n) = if 0 ≤ n then some n else none := by
  split
  · next h => exact sequence?_eq_some_iff.2 ⟨spells_ofSequence n, h⟩
  · next h =>
    -- whatever were carried would be the one number that is spelled, and that is negative
    rw [Option.eq_none_iff_forall_ne_some]
    intro m hm
    obtain ⟨hspells, hnonneg⟩ := sequence?_eq_some_iff.1 hm
    cases Int64.toInt_inj.1 (hspells.unique (spells_ofSequence n))
    exact h hnonneg

/-! ## What is carried -/

end ReplayEvidence.Marker
