-- Text in pieces: what stands between the marks of one kind. Joining two texts
-- by a mark joins their pieces.

namespace ReplayEvidence.Text

/-- Puts a character in front of the first piece. -/
def extendFirst (c : Char) : List (List Char) → List (List Char)
  | [] => [[c]]
  | piece :: pieces => (c :: piece) :: pieces

/-- The pieces between the marks. A text without a mark is one piece. -/
def cut (mark : Char) : List Char → List (List Char)
  | [] => [[]]
  | c :: cs => if c = mark then [] :: cut mark cs else extendFirst c (cut mark cs)

/-! ## Laws -/

theorem cut_ne_nil (mark : Char) (cs : List Char) : cut mark cs ≠ [] := by
  cases cs with
  | nil => simp [cut]
  | cons c cs =>
    rw [cut]
    split
    · simp
    · cases cut mark cs <;> simp [extendFirst]

theorem extendFirst_append {c : Char} {ps qs : List (List Char)} (h : ps ≠ []) :
    extendFirst c (ps ++ qs) = extendFirst c ps ++ qs := by
  cases ps with
  | nil => exact absurd rfl h
  | cons p ps => rfl

theorem cut_eq_singleton {mark : Char} {cs : List Char} (h : mark ∉ cs) : cut mark cs = [cs] := by
  induction cs with
  | nil => rfl
  | cons c cs ih =>
    rw [List.mem_cons, not_or] at h
    rw [cut, if_neg fun he => h.1 he.symm, ih h.2]
    rfl

/-- The pieces of two texts with a mark between them. -/
theorem cut_append (mark : Char) (cs ds : List Char) :
    cut mark (cs ++ mark :: ds) = cut mark cs ++ cut mark ds := by
  induction cs with
  | nil => simp [cut]
  | cons c cs ih =>
    rw [List.cons_append, cut, cut, ih]
    split
    · rfl
    · exact extendFirst_append (cut_ne_nil mark cs)

theorem mark_notMem_of_mem_cut {mark : Char} {cs piece : List Char} (h : piece ∈ cut mark cs) :
    mark ∉ piece := by
  induction cs generalizing piece with
  | nil =>
    rw [cut, List.mem_singleton] at h
    simp [h]
  | cons c cs ih =>
    rw [cut] at h
    split at h
    · rcases List.mem_cons.1 h with rfl | h
      · exact List.not_mem_nil
      · exact ih h
    · next hne =>
      rcases hcut : cut mark cs with _ | ⟨p, ps⟩
      · exact absurd hcut (cut_ne_nil mark cs)
      · rw [hcut] at h ih
        rcases List.mem_cons.1 h with rfl | h
        · rw [List.mem_cons, not_or]
          exact ⟨fun he => hne he.symm, ih (List.mem_cons_self ..)⟩
        · exact ih (List.mem_cons_of_mem _ h)

end ReplayEvidence.Text
