-- Sets kept as increasing lists, so that two sets with the same members are
-- the same set.

namespace ReplayEvidence

/-- A type whose values compare in one total order, each as a text or a list of
code points would. -/
class Ranked (α : Type) where
  less : α → α → Bool
  irrefl : ∀ a, less a a = false
  trans : ∀ a b c, less a b = true → less b c = true → less a c = true
  tri : ∀ a b, less a b = false → less b a = false → a = b

/-- Texts compare by their code points, which is also the order of their UTF-8
bytes. -/
instance : Ranked String where
  less a b := decide (a < b)
  irrefl a := decide_eq_false (String.lt_irrefl a)
  trans a b c h₁ h₂ := by
    simp only [decide_eq_true_eq] at *
    exact String.lt_trans h₁ h₂
  tri a b h₁ h₂ := by
    simp only [decide_eq_false_iff_not] at *
    exact String.le_antisymm h₂ h₁

/-- A set as its members in increasing order. -/
structure SortedSet (α : Type) [Ranked α] where
  toList : List α
  sorted : toList.Pairwise fun a b => Ranked.less a b = true

namespace SortedSet

variable {α : Type} [Ranked α] [DecidableEq α]

instance : DecidableEq (SortedSet α) := fun a b =>
  decidable_of_iff (a.toList = b.toList) <| by cases a; cases b; simp

instance : Membership α (SortedSet α) := ⟨fun s a => a ∈ s.toList⟩

def contains (s : SortedSet α) (a : α) : Bool := s.toList.contains a

def empty : SortedSet α := ⟨[], List.Pairwise.nil⟩

/-- Puts a value into its place in an increasing list, unless it stands there. -/
def place (a : α) : List α → List α
  | [] => [a]
  | b :: bs => if a = b then b :: bs else if Ranked.less a b then a :: b :: bs else b :: place a bs

omit [DecidableEq α] in
theorem mem_place [DecidableEq α] {a x : α} {bs : List α} : x ∈ place a bs ↔ x = a ∨ x ∈ bs := by
  induction bs with
  | nil => simp [place]
  | cons b bs ih =>
    rw [place]
    split
    · next h => subst h; simp
    · split
      · simp
      · simp only [List.mem_cons, ih]
        constructor
        · rintro (h | h | h) <;> simp [h]
        · rintro (h | h | h) <;> simp [h]

/-- Placing keeps a list increasing. -/
theorem sorted_place {a : α} {bs : List α}
    (h : bs.Pairwise fun a b => Ranked.less a b = true) :
    (place a bs).Pairwise fun a b => Ranked.less a b = true := by
  induction bs with
  | nil => simp [place]
  | cons b bs ih =>
    rw [List.pairwise_cons] at h
    rw [place]
    split
    · exact List.pairwise_cons.2 h
    · next hne =>
      split
      · next hlt =>
        refine List.pairwise_cons.2 ⟨?_, List.pairwise_cons.2 h⟩
        intro x hx
        rcases List.mem_cons.1 hx with rfl | hx
        · exact hlt
        · exact Ranked.trans a b x hlt (h.1 x hx)
      · next hge =>
        refine List.pairwise_cons.2 ⟨?_, ih h.2⟩
        intro x hx
        rcases mem_place.1 hx with rfl | hx
        · cases hb : Ranked.less b x with
          | true => rfl
          | false => exact absurd (Ranked.tri x b (by simpa using hge) hb) hne
        · exact h.1 x hx

def insert (s : SortedSet α) (a : α) : SortedSet α := ⟨place a s.toList, sorted_place s.sorted⟩

def ofList (as : List α) : SortedSet α := as.foldl insert empty

/-! ## Laws -/

theorem contains_iff {s : SortedSet α} {a : α} : s.contains a = true ↔ a ∈ s :=
  List.contains_iff_mem

/-- What a set with one more member holds. -/
theorem mem_insert {s : SortedSet α} {a x : α} : x ∈ s.insert a ↔ x = a ∨ x ∈ s := mem_place

theorem mem_foldl_insert {as : List α} {s : SortedSet α} {x : α} :
    x ∈ as.foldl insert s ↔ x ∈ s ∨ x ∈ as := by
  induction as generalizing s with
  | nil => simp
  | cons a as ih =>
    rw [List.foldl_cons, ih, mem_insert, List.mem_cons]
    constructor
    · rintro ((h | h) | h) <;> simp [h]
    · rintro (h | h | h) <;> simp [h]

/-- The set of a list has the members of the list. -/
theorem mem_ofList {as : List α} {x : α} : x ∈ ofList as ↔ x ∈ as := by
  rw [ofList, mem_foldl_insert]
  exact ⟨fun h => h.resolve_left (List.not_mem_nil (a := x)), Or.inr⟩

/-- A value above all others is placed last. -/
theorem place_eq_append {a : α} {bs : List α} (h : ∀ b ∈ bs, Ranked.less b a = true) :
    place a bs = bs ++ [a] := by
  induction bs with
  | nil => rfl
  | cons b bs ih =>
    have hb := h b (List.mem_cons_self ..)
    have hne : ¬ a = b := by
      rintro rfl
      rw [Ranked.irrefl] at hb
      cases hb
    have hlt : ¬ Ranked.less a b = true := fun hab => by
      have := Ranked.trans a b a hab hb
      rw [Ranked.irrefl] at this
      cases this
    rw [place, if_neg hne, if_neg hlt, ih fun c hc => h c (List.mem_cons_of_mem _ hc),
      List.cons_append]

theorem toList_foldl_insert (as : List α) (s : SortedSet α)
    (h : (s.toList ++ as).Pairwise fun a b => Ranked.less a b = true) :
    (as.foldl insert s).toList = s.toList ++ as := by
  induction as generalizing s with
  | nil => simp
  | cons a as ih =>
    have hlast : ∀ b ∈ s.toList, Ranked.less b a = true := fun b hb =>
      (List.pairwise_append.1 h).2.2 b hb a (List.mem_cons_self ..)
    have hput : (s.insert a).toList = s.toList ++ [a] := place_eq_append hlast
    have happ : (s.insert a).toList ++ as = s.toList ++ a :: as := by rw [hput]; simp
    rw [List.foldl_cons, ih _ (happ ▸ h), happ]

theorem ofList_toList (s : SortedSet α) : ofList s.toList = s := by
  have h := toList_foldl_insert s.toList empty (by simpa [empty] using s.sorted)
  rw [← ofList] at h
  cases hs : ofList s.toList
  cases s
  rw [hs] at h
  simp only [empty, List.nil_append] at h
  cases h
  rfl

end SortedSet

end ReplayEvidence
