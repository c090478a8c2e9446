-- The bytes of a text read back as its characters, and a byte below 128 among
-- them is a character of the text by itself.
import Mathlib.Tactic.SplitIfs
import ReplayEvidence.Text.Utf8

namespace ReplayEvidence.Text

/-! ## Reading -/

/-- Bytes that come before an encoded text are left behind. -/
theorem utf8DecodeChar?_append (before after : ByteArray) :
    (before ++ after).utf8DecodeChar? before.size = after.utf8DecodeChar? 0 := by
  rw [ByteArray.utf8DecodeChar?_eq_utf8DecodeChar?_extract,
    ByteArray.extract_append_eq_right rfl ByteArray.size_append]

theorem scalarsFrom_utf8Encode (before : ByteArray) (cs : List Char) :
    scalarsFrom (before ++ cs.utf8Encode) before.size = cs.map some := by
  induction cs generalizing before with
  | nil =>
    rw [scalarsFrom, dif_neg (by simp)]
    rfl
  | cons c cs ih =>
    have hsize : [c].utf8Encode.size = c.utf8Size := by simp [List.utf8Encode_singleton]
    have hlt : before.size < (before ++ (c :: cs).utf8Encode).size := by
      have := c.utf8Size_pos
      rw [List.utf8Encode_cons, ByteArray.size_append, ByteArray.size_append, hsize]
      omega
    have hhead : (before ++ (c :: cs).utf8Encode).utf8DecodeChar? before.size = some c := by
      rw [utf8DecodeChar?_append, List.utf8DecodeChar?_utf8Encode_cons]
    have hrest := ih (before ++ [c].utf8Encode)
    rw [ByteArray.size_append, hsize, ByteArray.append_assoc, ← List.utf8Encode_cons] at hrest
    rw [scalarsFrom, dif_pos hlt, hhead]
    exact congrArg (some c :: ·) hrest

theorem scalars_utf8 (s : String) : scalars ⟨(utf8 s).toArray⟩ = scalarsOf s := by
  have h := scalarsFrom_utf8Encode ByteArray.empty s.toList
  rwa [ByteArray.empty_append, String.utf8Encode_toList] at h

/-! ## Bytes below 128 -/

theorem le_toNat_of_mem_utf8EncodeChar {c : Char} {b : UInt8} (hc : ¬ c.val.toNat ≤ 0x7f)
    (h : b ∈ String.utf8EncodeChar c) : 128 ≤ b.toNat := by
  unfold String.utf8EncodeChar at h
  simp only at h
  rw [if_neg hc] at h
  split_ifs at h <;> simp only [List.mem_cons, List.not_mem_nil, or_false] at h
  · rcases h with rfl | rfl <;> rw [UInt8.toNat_ofNat'] <;> omega
  · rcases h with rfl | rfl | rfl <;> rw [UInt8.toNat_ofNat'] <;> omega
  · rcases h with rfl | rfl | rfl | rfl <;> rw [UInt8.toNat_ofNat'] <;> omega

/-- A byte below 128 encodes the character of its own number. -/
theorem toNat_of_mem_utf8EncodeChar {c : Char} {b : UInt8} (h : b ∈ String.utf8EncodeChar c)
    (hb : b.toNat < 128) : c.toNat = b.toNat := by
  have hc : c.val.toNat ≤ 0x7f := Decidable.byContradiction fun hc =>
    absurd (le_toNat_of_mem_utf8EncodeChar hc h) (by omega)
  unfold String.utf8EncodeChar at h
  simp only at h
  rw [if_pos hc] at h
  rw [List.mem_singleton.1 h, UInt8.toNat_ofNat', Nat.mod_eq_of_lt (by omega)]
  rfl

/-- A byte below 128 in the encoding of a text is a character of the text. -/
theorem exists_mem_of_mem_utf8 {s : String} {b : UInt8} (h : b ∈ utf8 s) (hb : b.toNat < 128) :
    ∃ c ∈ s.toList, c.toNat = b.toNat := by
  rw [utf8, String.toUTF8_eq_toByteArray, ← String.utf8Encode_toList, List.utf8Encode,
    List.toList_data_toByteArray, List.mem_flatMap] at h
  obtain ⟨c, hc, hbc⟩ := h
  exact ⟨c, hc, toNat_of_mem_utf8EncodeChar hbc hb⟩

end ReplayEvidence.Text
