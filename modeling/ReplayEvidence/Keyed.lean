-- Entries under keys, in the order in which each key first came. A later
-- entry for a key takes the place of the earlier one, so no key stands twice.

namespace ReplayEvidence

/-- Entries with pairwise different keys. -/
structure Keyed (κ ν : Type) where
  entries : List (κ × ν)
  nodup : (entries.map Prod.fst).Nodup

namespace Keyed

variable {κ ν : Type} [DecidableEq κ]

instance [DecidableEq ν] : DecidableEq (Keyed κ ν) := fun a b =>
  decidable_of_iff (a.entries = b.entries) <| by cases a; cases b; simp

def empty : Keyed κ ν := ⟨[], List.nodup_nil⟩

/-- Puts a value under a key of a list, in the place of the old one. -/
def put (k : κ) (v : ν) : List (κ × ν) → List (κ × ν)
  | [] => [(k, v)]
  | e :: es => if e.1 = k then (k, v) :: es else e :: put k v es

/-- The keys stay as they were, with a new one last. -/
theorem keys_put (k : κ) (v : ν) (es : List (κ × ν)) :
    (put k v es).map Prod.fst =
      if k ∈ es.map Prod.fst then es.map Prod.fst else es.map Prod.fst ++ [k] := by
  induction es with
  | nil => simp [put]
  | cons e es ih =>
    by_cases h : e.1 = k
    · simp [put, h]
    · have h' : ¬ k = e.1 := fun he => h he.symm
      rw [put, if_neg h, List.map_cons, ih]
      by_cases hk : k ∈ es.map Prod.fst
      · rw [if_pos hk, if_pos (by simp only [List.map_cons, List.mem_cons]; exact .inr hk)]
        rfl
      · have hnew : k ∉ (e :: es).map Prod.fst := by
          simp only [List.map_cons, List.mem_cons]
          exact not_or.2 ⟨h', hk⟩
        rw [if_neg hk, if_neg hnew]
        rfl

def insert (m : Keyed κ ν) (k : κ) (v : ν) : Keyed κ ν where
  entries := put k v m.entries
  nodup := by
    rw [keys_put]
    split
    · exact m.nodup
    · next h =>
      rw [List.nodup_append]
      refine ⟨m.nodup, by simp, ?_⟩
      intro a ha b hb
      simp only [List.mem_singleton] at hb
      rintro rfl
      exact h (hb ▸ ha)

/-- Puts entries in one after the other. -/
def ofList (es : List (κ × ν)) : Keyed κ ν := es.foldl (fun m e => m.insert e.1 e.2) empty

def get? (m : Keyed κ ν) (k : κ) : Option ν := (m.entries.find? fun e => e.1 = k).map Prod.snd

/-- Puts a value in under a key that has none. -/
def insertIfNew (m : Keyed κ ν) (k : κ) (v : ν) : Keyed κ ν :=
  match m.get? k with
  | some _ => m
  | none => m.insert k v

/-- Puts entries in one after the other, and keeps the first for each key. -/
def ofFirsts (es : List (κ × ν)) : Keyed κ ν :=
  es.foldl (fun m e => m.insertIfNew e.1 e.2) empty

/-- The values in the order of their keys. -/
def values (m : Keyed κ ν) : List ν := m.entries.map Prod.snd

/-- The entries whose value passes a test. -/
def keep (m : Keyed κ ν) (test : ν → Bool) : Keyed κ ν where
  entries := m.entries.filter fun e => test e.2
  nodup := m.nodup.sublist (List.filter_sublist.map Prod.fst)

/-- Each value changed under its key. -/
def mapValues (m : Keyed κ ν) (f : ν → ν) : Keyed κ ν where
  entries := m.entries.map fun e => (e.1, f e.2)
  nodup := by
    rw [List.map_map]
    exact m.nodup

/-! ## Laws -/

theorem get?_empty (k : κ) : (empty : Keyed κ ν).get? k = none := rfl

theorem find?_put (k j : κ) (v : ν) (es : List (κ × ν)) :
    ((put k v es).find? fun e => e.1 = j).map Prod.snd =
      if k = j then some v else (es.find? fun e => e.1 = j).map Prod.snd := by
  induction es with
  | nil => by_cases h : k = j <;> simp [put, h]
  | cons e es ih =>
    rw [put]
    by_cases h : e.1 = k
    · rw [if_pos h]
      by_cases hj : k = j
      · simp [hj]
      · simp [hj, h]
    · rw [if_neg h, List.find?_cons, List.find?_cons]
      by_cases hj : e.1 = j
      · have hk : ¬ k = j := fun hk => h (hj.trans hk.symm)
        simp [hj, hk]
      · simp [hj, ih]

/-- What was put under a key is found there, and all else where it was. -/
theorem get?_insert (m : Keyed κ ν) (k j : κ) (v : ν) :
    (m.insert k v).get? j = if k = j then some v else m.get? j := find?_put k j v m.entries

theorem find?_eq_some_iff {es : List (κ × ν)} (h : (es.map Prod.fst).Nodup) {k : κ} {v : ν} :
    (es.find? fun e => e.1 = k).map Prod.snd = some v ↔ (k, v) ∈ es := by
  induction es with
  | nil => simp
  | cons e es ih =>
    rw [List.map_cons, List.nodup_cons] at h
    rw [List.find?_cons, List.mem_cons]
    by_cases hk : e.1 = k
    · have hv : (k, v) ∉ es := fun hm => h.1 (hk ▸ List.mem_map.2 ⟨(k, v), hm, rfl⟩)
      rcases e with ⟨k', v'⟩
      cases hk
      simp [hv, eq_comm]
    · have he : (k, v) ≠ e := fun he => hk (he ▸ rfl)
      simp [hk, he, ih h.2]

theorem get?_eq_some_iff {m : Keyed κ ν} {k : κ} {v : ν} :
    m.get? k = some v ↔ (k, v) ∈ m.entries := find?_eq_some_iff m.nodup

theorem find?_eq_none_iff {es : List (κ × ν)} {k : κ} :
    (es.find? fun e => e.1 = k) = none ↔ k ∉ es.map Prod.fst := by
  rw [List.find?_eq_none]
  constructor
  · intro h hk
    obtain ⟨e, he, rfl⟩ := List.mem_map.1 hk
    exact h e he (by simp)
  · intro h e he hk
    exact h (List.mem_map.2 ⟨e, he, by simpa using hk⟩)

theorem get?_eq_none_iff {m : Keyed κ ν} {k : κ} :
    m.get? k = none ↔ k ∉ m.entries.map Prod.fst := by
  rw [get?, Option.map_eq_none_iff, find?_eq_none_iff]

omit [DecidableEq κ] in
@[simp] theorem values_keep (m : Keyed κ ν) (test : ν → Bool) :
    (m.keep test).values = m.values.filter test := by
  simp only [values, keep, List.filter_map]
  rfl

theorem get?_keep (m : Keyed κ ν) (test : ν → Bool) (k : κ) :
    (m.keep test).get? k = (m.get? k).filter test := by
  apply Option.ext
  intro v
  rw [get?_eq_some_iff, Option.filter_eq_some_iff, get?_eq_some_iff]
  simp [keep]

theorem get?_mapValues (m : Keyed κ ν) (f : ν → ν) (k : κ) :
    (m.mapValues f).get? k = (m.get? k).map f := by
  simp only [get?, mapValues, List.find?_map, Function.comp_def, Option.map_map]

theorem get?_foldl_insert (es : List (κ × ν)) (m : Keyed κ ν) (k : κ) :
    (es.foldl (fun m e => m.insert e.1 e.2) m).get? k =
      ((es.reverse.find? fun e => e.1 = k).map Prod.snd).or (m.get? k) := by
  induction es generalizing m with
  | nil => rfl
  | cons e es ih =>
    rw [List.foldl_cons, ih, get?_insert, List.reverse_cons, List.find?_append, Option.map_or,
      Option.or_assoc]
    by_cases h : e.1 = k <;> simp [h]

/-- Of the entries put in under one key, the last is found. -/
theorem get?_ofList (es : List (κ × ν)) (k : κ) :
    (ofList es).get? k = (es.reverse.find? fun e => e.1 = k).map Prod.snd := by
  rw [ofList, get?_foldl_insert, get?_empty, Option.or_none]

theorem get?_insertIfNew (m : Keyed κ ν) (k j : κ) (v : ν) :
    (m.insertIfNew k v).get? j = (m.get? j).or (if k = j then some v else none) := by
  unfold insertIfNew
  rcases hk : m.get? k with _ | w
  · by_cases h : k = j
    · subst h
      simp [get?_insert, hk]
    · simp [get?_insert, h]
  · by_cases h : k = j
    · subst h
      simp [hk]
    · simp [h]

theorem get?_foldl_insertIfNew (es : List (κ × ν)) (m : Keyed κ ν) (k : κ) :
    (es.foldl (fun m e => m.insertIfNew e.1 e.2) m).get? k =
      (m.get? k).or ((es.find? fun e => e.1 = k).map Prod.snd) := by
  induction es generalizing m with
  | nil => simp
  | cons e es ih =>
    rw [List.foldl_cons, ih, get?_insertIfNew, Option.or_assoc, List.find?_cons]
    by_cases h : e.1 = k <;> simp [h]

/-- Of the entries with one key, the first is found. -/
theorem get?_ofFirsts (es : List (κ × ν)) (k : κ) :
    (ofFirsts es).get? k = (es.find? fun e => e.1 = k).map Prod.snd := by
  rw [ofFirsts, get?_foldl_insertIfNew, get?_empty, Option.none_or]

theorem mem_keys_ofList {es : List (κ × ν)} {k : κ} :
    k ∈ (ofList es).entries.map Prod.fst ↔ k ∈ es.map Prod.fst := by
  have h : (ofList es).get? k = none ↔ k ∉ es.map Prod.fst := by
    rw [get?_ofList, Option.map_eq_none_iff, find?_eq_none_iff, List.map_reverse, List.mem_reverse]
  rw [get?_eq_none_iff] at h
  exact Decidable.not_iff_not.1 h

theorem put_eq_append {k : κ} {v : ν} {es : List (κ × ν)} (h : k ∉ es.map Prod.fst) :
    put k v es = es ++ [(k, v)] := by
  induction es with
  | nil => rfl
  | cons e es ih =>
    rw [List.map_cons, List.mem_cons, not_or] at h
    rw [put, if_neg fun he => h.1 he.symm, ih h.2, List.cons_append]

theorem entries_foldl_insert (es : List (κ × ν)) (m : Keyed κ ν)
    (h : ((m.entries ++ es).map Prod.fst).Nodup) :
    (es.foldl (fun m e => m.insert e.1 e.2) m).entries = m.entries ++ es := by
  induction es generalizing m with
  | nil => simp
  | cons e es ih =>
    have hnew : e.1 ∉ m.entries.map Prod.fst := by
      rw [List.map_append, List.nodup_append] at h
      exact fun hm => h.2.2 e.1 hm e.1 (List.mem_cons_self ..) rfl
    have hput : (m.insert e.1 e.2).entries = m.entries ++ [e] := put_eq_append hnew
    have happ : (m.insert e.1 e.2).entries ++ es = m.entries ++ e :: es := by rw [hput]; simp
    rw [List.foldl_cons, ih _ (happ ▸ h), happ]

theorem entries_ofList {es : List (κ × ν)} (h : (es.map Prod.fst).Nodup) :
    (ofList es).entries = es := by
  have := entries_foldl_insert es (empty : Keyed κ ν) (by simpa [empty] using h)
  simpa [ofList, empty] using this

/-- Where the keys all differ, what is found first is found. -/
theorem get?_ofList_of_nodup {es : List (κ × ν)} (h : (es.map Prod.fst).Nodup) (k : κ) :
    (ofList es).get? k = (es.find? fun e => e.1 = k).map Prod.snd := by
  rw [get?, entries_ofList h]

theorem ofList_entries (m : Keyed κ ν) : ofList m.entries = m := by
  have h := entries_ofList m.nodup
  cases hm : ofList m.entries
  cases m
  rw [hm] at h
  cases h
  rfl

end Keyed

end ReplayEvidence
