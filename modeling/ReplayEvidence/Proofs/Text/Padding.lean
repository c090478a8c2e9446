-- Text with white space around it. Trimming takes the white space away and nothing else,
-- so what is trimmed stays as it is. The pieces of a text are the same after trimming,
-- whether or not the text was trimmed before it was cut.
import ReplayEvidence.Text.Blank
import ReplayEvidence.Text.Cut

namespace ReplayEvidence.Text

/-! ## Trimming -/

/-- What trimming drops stands at the two ends and is white space. -/
theorem trimChars_between (cs : List Char) :
    ∃ before after, cs = before ++ trimChars cs ++ after ∧
      (∀ c ∈ before, isSpace c = true) ∧ ∀ c ∈ after, isSpace c = true := by
  refine ⟨cs.takeWhile isSpace,
    ((cs.dropWhile isSpace).reverse.takeWhile isSpace).reverse, ?_, ?_, ?_⟩
  · unfold trimChars
    rw [List.append_assoc, ← List.reverse_append, List.takeWhile_append_dropWhile,
      List.reverse_reverse, List.takeWhile_append_dropWhile]
  · exact List.all_eq_true.1 List.all_takeWhile
  · exact fun c hc => List.all_eq_true.1 List.all_takeWhile c (List.mem_reverse.1 hc)

theorem trimChars_append_left {before : List Char} (h : ∀ c ∈ before, isSpace c = true)
    (cs : List Char) : trimChars (before ++ cs) = trimChars cs := by
  unfold trimChars
  rw [List.dropWhile_append_of_pos h]

theorem trimChars_append_right {after : List Char} (h : ∀ c ∈ after, isSpace c = true)
    (cs : List Char) : trimChars (cs ++ after) = trimChars cs := by
  have hafter : after.dropWhile isSpace = [] := dropWhile_isSpace_eq_nil.2 (List.all_eq_true.2 h)
  unfold trimChars
  rw [List.dropWhile_append, hafter]
  split
  · next hcs => rw [List.isEmpty_iff.1 hcs]
  · rw [List.reverse_append, List.dropWhile_append_of_pos (by simpa using h)]

/-- The text with white space around it, or with none. -/
def Padded (core text : String) : Prop :=
  ∃ before after, isBlank before = true ∧ isBlank after = true ∧ text = before ++ core ++ after

theorem Padded.refl (text : String) : Padded text text :=
  ⟨"", "", rfl, rfl, by rw [String.empty_append, String.append_empty]⟩

theorem padded_trim (text : String) : Padded (trim text) text := by
  obtain ⟨before, after, htext, hbefore, hafter⟩ := trimChars_between text.toList
  refine ⟨.ofList before, .ofList after, ?_, ?_, ?_⟩
  · rw [isBlank, String.toList_ofList]
    exact List.all_eq_true.2 hbefore
  · rw [isBlank, String.toList_ofList]
    exact List.all_eq_true.2 hafter
  · rw [trim, ← String.ofList_append, ← String.ofList_append, ← htext, String.ofList_toList]

theorem Padded.trim_eq {core text : String} (h : Padded core text) : trim text = trim core := by
  obtain ⟨before, after, hbefore, hafter, rfl⟩ := h
  unfold isBlank at hbefore hafter
  unfold trim
  rw [String.toList_append, String.toList_append,
    trimChars_append_right (List.all_eq_true.1 hafter),
    trimChars_append_left (List.all_eq_true.1 hbefore)]

theorem trim_trim (text : String) : trim (trim text) = trim text :=
  (padded_trim text).trim_eq.symm

/-- Trimming gives a text when it stands in the other with white space around it, and has
none of its own at its ends. -/
theorem trim_eq_iff {core text : String} :
    trim text = core ↔ trim core = core ∧ Padded core text := by
  constructor
  · rintro rfl
    exact ⟨trim_trim text, padded_trim text⟩
  · rintro ⟨hcore, hpadded⟩
    rw [hpadded.trim_eq, hcore]

/-! ## Pieces -/

theorem cut_eq_splitOn (mark : Char) (cs : List Char) : cut mark cs = cs.splitOn mark := by
  unfold List.splitOn
  induction cs with
  | nil => rfl
  | cons c cs ih =>
    rw [cut, List.splitOnP_cons_eq_if_modifyHead, ← ih]
    simp only [beq_iff_eq]
    split
    · rfl
    · cases hcut : cut mark cs with
      | nil => exact absurd hcut (cut_ne_nil mark cs)
      | cons piece pieces => rfl

section

variable {mark : Char} (hmark : isSpace mark = false)
include hmark

theorem mark_notMem_spaces {spaces : List Char} (h : ∀ c ∈ spaces, isSpace c = true) :
    mark ∉ spaces := by
  intro hmem
  rw [h mark hmem] at hmark
  cases hmark

theorem Padded.mark_mem_iff {core text : String} (h : Padded core text) :
    mark ∈ text.toList ↔ mark ∈ core.toList := by
  obtain ⟨before, after, hbefore, hafter, rfl⟩ := h
  have hfront := mark_notMem_spaces hmark (List.all_eq_true.1 hbefore)
  have hback := mark_notMem_spaces hmark (List.all_eq_true.1 hafter)
  simp [hfront, hback]

/-- White space in front of a text is white space in front of its first piece. -/
theorem map_trimChars_cut_append_left {before : List Char} (h : ∀ c ∈ before, isSpace c = true)
    (cs : List Char) :
    (cut mark (before ++ cs)).map trimChars = (cut mark cs).map trimChars := by
  have hbefore := mark_notMem_spaces hmark h
  rcases Decidable.em (mark ∈ cs) with hmem | hmem
  · obtain ⟨first, rest, rfl, hfirst⟩ := List.eq_append_cons_of_mem hmem
    have hboth : mark ∉ before ++ first := by simp [hbefore, hfirst]
    rw [← List.append_assoc, cut_append, cut_append, cut_eq_singleton hboth,
      cut_eq_singleton hfirst, List.map_append, List.map_append, List.map_singleton,
      List.map_singleton, trimChars_append_left h]
  · have hboth : mark ∉ before ++ cs := by simp [hbefore, hmem]
    rw [cut_eq_singleton hboth, cut_eq_singleton hmem, List.map_singleton, List.map_singleton,
      trimChars_append_left h]

/-- White space after a text is white space after its last piece. -/
theorem map_trimChars_cut_append_right {after : List Char} (h : ∀ c ∈ after, isSpace c = true)
    (cs : List Char) :
    (cut mark (cs ++ after)).map trimChars = (cut mark cs).map trimChars := by
  induction hn : cs.length using Nat.strongRecOn generalizing cs with
  | _ n ih =>
    rcases Decidable.em (mark ∈ cs) with hmem | hmem
    · obtain ⟨first, rest, rfl, -⟩ := List.eq_append_cons_of_mem hmem
      have hrest := ih rest.length (by simp at hn; omega) rest rfl
      rw [List.append_assoc, List.cons_append, cut_append, cut_append, List.map_append,
        List.map_append, hrest]
    · have hboth : mark ∉ cs ++ after := by simp [hmem, mark_notMem_spaces hmark h]
      rw [cut_eq_singleton hboth, cut_eq_singleton hmem, List.map_singleton, List.map_singleton,
        trimChars_append_right h]

/-- Trimming a text before it is cut makes no difference to its trimmed pieces. -/
theorem map_trimChars_cut_trimChars (cs : List Char) :
    (cut mark (trimChars cs)).map trimChars = (cut mark cs).map trimChars := by
  obtain ⟨before, after, hcs, hbefore, hafter⟩ := trimChars_between cs
  have h := congrArg (fun ds => (cut mark ds).map trimChars) hcs
  simp only [map_trimChars_cut_append_right hmark hafter,
    map_trimChars_cut_append_left hmark hbefore] at h
  exact h.symm

end

end ReplayEvidence.Text
