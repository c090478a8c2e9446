-- Blank text: the characters that Unicode calls White_Space, trimming, and
-- the test for text that says nothing. Trimming leaves nothing exactly of
-- blank text.

namespace ReplayEvidence.Text

/-! ## White space -/

/-- The characters with the Unicode property White_Space. -/
def isSpace (c : Char) : Bool :=
  let n := c.toNat
  (9 ≤ n && n ≤ 13) || n == 0x20 || n == 0x85 || n == 0xA0 || n == 0x1680 ||
    (0x2000 ≤ n && n ≤ 0x200A) || n == 0x2028 || n == 0x2029 || n == 0x202F ||
    n == 0x205F || n == 0x3000

/-- The list without the white space at its two ends. -/
def trimChars (cs : List Char) : List Char :=
  ((cs.dropWhile isSpace).reverse.dropWhile isSpace).reverse

/-- The text without the white space at its two ends. -/
def trim (s : String) : String := String.ofList (trimChars s.toList)

/-- Text of white space only; the empty text is blank. -/
def isBlank (s : String) : Bool := s.toList.all isSpace

/-- A value that is not blank, or nothing. -/
def nonBlank? (s : String) : Option String := if isBlank s then none else some s

/-! ## Laws -/

theorem dropWhile_isSpace_eq_nil {cs : List Char} :
    cs.dropWhile isSpace = [] ↔ cs.all isSpace = true := by
  induction cs with
  | nil => simp
  | cons c cs ih =>
    by_cases h : isSpace c = true
    · rw [List.dropWhile_cons_of_pos h, ih, List.all_cons, h, Bool.true_and]
    · rw [List.dropWhile_cons_of_neg h, List.all_cons]
      simp [h]

theorem trimChars_eq_nil {cs : List Char} : trimChars cs = [] ↔ cs.all isSpace = true := by
  unfold trimChars
  rw [List.reverse_eq_nil_iff, dropWhile_isSpace_eq_nil, List.all_reverse]
  constructor
  · intro h
    rw [← dropWhile_isSpace_eq_nil]
    rcases hd : cs.dropWhile isSpace with _ | ⟨c, rest⟩
    · rfl
    · have hc := List.head?_dropWhile_not isSpace cs
      rw [hd] at h hc
      simp_all
  · intro h
    rw [dropWhile_isSpace_eq_nil.2 h]
    rfl

/-- Text is blank when trimming leaves nothing of it. -/
theorem isBlank_iff_trim_eq_empty {s : String} : isBlank s = true ↔ trim s = "" := by
  rw [isBlank, trim, ← trimChars_eq_nil]
  constructor
  · intro h
    rw [h]
  · intro h
    simpa using congrArg String.toList h

/-- Blank text is known by what trimming leaves of it. -/
theorem isBlank_congr {s t : String} (h : trim s = trim t) : isBlank s = isBlank t := by
  rw [Bool.eq_iff_iff, isBlank_iff_trim_eq_empty, isBlank_iff_trim_eq_empty, h]

theorem isBlank_append (s t : String) : isBlank (s ++ t) = (isBlank s && isBlank t) := by
  unfold isBlank
  rw [String.toList_append, List.all_append]

/-- Whatever follows text that says something, the whole says something. -/
theorem isBlank_append_of_left {s : String} (h : isBlank s = false) (t : String) :
    isBlank (s ++ t) = false := by
  rw [isBlank_append, h, Bool.false_and]

theorem nonBlank?_eq_some_iff {s t : String} :
    nonBlank? s = some t ↔ t = s ∧ ∃ c ∈ s.toList, isSpace c = false := by
  have hspeaks : isBlank s = false ↔ ∃ c ∈ s.toList, isSpace c = false := by
    simp [isBlank]
  rw [← hspeaks, nonBlank?]
  by_cases h : isBlank s = true
  · simp [h]
  · simp [h, eq_comm]

theorem dropWhile_isSpace_eq_self {cs : List Char} (h : ∀ c ∈ cs, isSpace c = false) :
    cs.dropWhile isSpace = cs := by
  cases cs with
  | nil => rfl
  | cons c cs => rw [List.dropWhile_cons_of_neg (by simp [h c (List.mem_cons_self ..)])]

theorem trimChars_eq_self {cs : List Char} (h : ∀ c ∈ cs, isSpace c = false) :
    trimChars cs = cs := by
  have hreverse : ∀ c ∈ cs.reverse, isSpace c = false :=
    fun c hc => h c (List.mem_reverse.1 hc)
  rw [trimChars, dropWhile_isSpace_eq_self h, dropWhile_isSpace_eq_self hreverse,
    List.reverse_reverse]

theorem isSpace_eq_false_of_isDigit {c : Char} (h : c.isDigit = true) : isSpace c = false := by
  have h1 : 48 ≤ c.toNat ∧ c.toNat ≤ 57 := by
    simp only [Char.isDigit, Bool.and_eq_true, decide_eq_true_eq] at h
    exact ⟨h.1, h.2⟩
  simp only [isSpace, Bool.or_eq_false_iff, Bool.and_eq_false_iff, decide_eq_false_iff_not,
    beq_eq_false_iff_ne]
  omega

end ReplayEvidence.Text
