-- What reading a record can give. Whether it stands as an object or as an
-- array, each of its fields has a value that was read, or the value that it
-- takes when it is absent.
import ReplayEvidence.Wire.Record

namespace ReplayEvidence.Wire

/-- A value that a field can have in a record that was read. -/
def Field.Gives {σ β : Type} (field : Field σ β) (b : β) : Prop :=
  (∃ v, field.decode v = .ok b) ∨ field.absent = some b

namespace Fields

variable {σ : Type}

/-- What the fields make up of values that they can have. -/
def Makes {α : Type} : Fields σ α → α → Prop
  | .make a, made => made = a
  | .and before field, made => ∃ f b, before.Makes f ∧ field.Gives b ∧ made = f b

theorem makes_required {α β : Type} [Wire β] {before : Fields σ (β → α)} {key : String}
    {get : σ → β} {made : α} (h : (before.required key get).Makes made) :
    ∃ f b v, before.Makes f ∧ decode v = .ok b ∧ made = f b := by
  obtain ⟨f, b, hf, ⟨v, hv⟩ | ⟨⟨⟩⟩, hmade⟩ := h
  exact ⟨f, b, v, hf, hv, hmade⟩

theorem gives_of_ofMembers {β : Type} {field : Field σ β} {ms : List Json.Member} {b : β}
    (h : field.ofMembers ms = .ok b) : field.Gives b := by
  unfold Field.ofMembers at h
  split at h
  · next v _ =>
    split at h
    · next hv =>
      cases h
      exact .inl ⟨v, hv⟩
    · cases h
  · split at h
    · next hb =>
      cases h
      exact .inr hb
    · cases h

theorem both_eq_ok {α β : Type} {f : Placed (β → α)} {b : Placed β} {a : α}
    (h : f.both b = .ok a) : ∃ g c, f = .ok g ∧ b = .ok c ∧ a = g c := by
  rcases f with e | g <;> rcases b with e' | c
  · cases h
  · cases h
  · cases h
  · cases h
    exact ⟨g, c, rfl, rfl, rfl⟩

theorem makes_of_collect {α : Type} {fields : Fields σ α} {ms : List Json.Member} {a : α}
    (h : fields.collect ms = .ok a) : fields.Makes a := by
  induction fields with
  | make =>
    cases h
    rfl
  | and before field ih =>
    obtain ⟨f, b, hf, hb, rfl⟩ := both_eq_ok h
    exact ⟨f, b, ih hf, gives_of_ofMembers hb, rfl⟩

theorem makes_of_takeItems {α : Type} {fields : Fields σ α} {vs rest : List Json} {a : α}
    (h : fields.takeItems vs = .ok (a, rest)) : fields.Makes a := by
  induction fields generalizing rest with
  | make =>
    cases h
    rfl
  | and before field ih =>
    rw [takeItems, bind_eq_ok] at h
    obtain ⟨⟨f, left⟩, hf, h⟩ := h
    cases left with
    | nil =>
      simp only at h
      split at h
      · next b hb =>
        cases h
        exact ⟨f, b, ih hf, .inr hb, rfl⟩
      · cases h
    | cons v left =>
      obtain ⟨b, hb, h⟩ := bind_eq_ok.1 h
      cases h
      exact ⟨f, b, ih hf, .inl ⟨v, hb⟩, rfl⟩

theorem makes_of_ofMembers {α : Type} {fields : Fields σ α} {ms : List Json.Member} {a : α}
    (h : fields.ofMembers ms = .ok a) : fields.Makes a := by
  unfold ofMembers at h
  split at h
  · next hcollect _ =>
    cases h
    exact makes_of_collect hcollect
  · cases h
  · cases h
  · cases h

theorem makes_of_ofItems {α : Type} {fields : Fields σ α} {vs : List Json} {a : α}
    (h : fields.ofItems vs = .ok a) : fields.Makes a := by
  obtain ⟨⟨b, rest⟩, hb, h⟩ := bind_eq_ok.1 h
  cases rest with
  | nil =>
    cases h
    exact makes_of_takeItems hb
  | cons v vs => cases h

/-- A record that was read is made up of values that its fields can have. -/
theorem makes_of_decode {fields : Fields σ σ} {v : Json} {x : σ}
    (h : fields.wire.decode v = .ok x) : fields.Makes x := by
  cases v with
  | object ms => exact makes_of_ofMembers h
  | array vs => exact makes_of_ofItems h
  | null | bool | int | decimal | string => cases h

end Fields

end ReplayEvidence.Wire
