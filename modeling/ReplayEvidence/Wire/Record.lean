-- Wire forms of records. A record is described once, as its fields in order;
-- writing it, reading it from an object and reading it from an array all
-- follow from that description.
import ReplayEvidence.Wire.Basic

namespace ReplayEvidence.Wire

/-! ## Fields -/

/-- One field of a record: its key, its value in a record, the wire form of
that value, the value it takes when it is not written, and the values that are
not written. -/
structure Field (σ β : Type) where
  key : String
  get : σ → β
  encode : β → Json
  decode : Json → Except DecodeError β
  absent : Option β
  hides : β → Bool

/-- The fields of a record in order, and how values for them make it up. -/
inductive Fields (σ : Type) : Type → Type 1 where
  | make {α : Type} (a : α) : Fields σ α
  | and {α β : Type} (before : Fields σ (β → α)) (field : Field σ β) : Fields σ α

namespace Fields

variable {σ α β : Type}

/-- A field that must be written. -/
def required [Wire β] (before : Fields σ (β → α)) (key : String) (get : σ → β) : Fields σ α :=
  before.and ⟨key, get, encode, decode, none, fun _ => false⟩

/-- A field that is always written and takes a default when it is absent. -/
def defaulted [Wire β] (before : Fields σ (β → α)) (key : String) (default : β) (get : σ → β) :
    Fields σ α :=
  before.and ⟨key, get, encode, decode, some default, fun _ => false⟩

/-- A field that is left out when it is nothing. -/
def optional [Wire β] (before : Fields σ (Option β → α)) (key : String) (get : σ → Option β) :
    Fields σ α :=
  before.and ⟨key, get, encode, decode, some none, Option.isNone⟩

def listed [Wire β] (before : Fields σ (List β → α)) (key : String) (get : σ → List β) :
    Fields σ α :=
  before.and ⟨key, get, encode, decode, some [], List.isEmpty⟩

def texted (before : Fields σ (String → α)) (key : String) (get : σ → String) : Fields σ α :=
  before.and ⟨key, get, encode, decode, some "", fun s => s == ""⟩

def keys {α : Type} : Fields σ α → List String
  | .make _ => []
  | .and before field => before.keys ++ [field.key]

/-! ## Writing -/

/-- The members of a record, without those that are hidden. -/
def members {α : Type} : Fields σ α → σ → List (String × Json)
  | .make _, _ => []
  | .and before field, x =>
    before.members x ++
      if field.hides (field.get x) then [] else [(field.key, field.encode (field.get x))]

end Fields

/-! ## Reading an object -/

/-- A failure with the place it stands at in the written order. Missing fields
stand after all that is written. -/
abbrev Placed (α : Type) := Except (Nat × DecodeError) α

/-- Both values, or the failure that stands first. -/
def Placed.both {α β : Type} (f : Placed (β → α)) (b : Placed β) : Placed α :=
  match f, b with
  | .ok f, .ok b => .ok (f b)
  | .ok _, .error e => .error e
  | .error e, .ok _ => .error e
  | .error e, .error e' => .error (if e'.1 < e.1 then e' else e)

/-- The first member with a key, and its place counted from `at`. -/
def findMember (key : String) : Nat → List Json.Member → Option (Nat × Json)
  | _, [] => none
  | place, (k, v) :: ms =>
    if k = some key then some (place, v) else findMember key (place + 1) ms

/-- Reads one field of an object. -/
def Field.ofMembers {σ β : Type} (field : Field σ β) (ms : List Json.Member) : Placed β :=
  match findMember field.key 0 ms with
  | some (place, v) =>
    match field.decode v with
    | .ok b => .ok b
    | .error e => .error (place, e)
  | none =>
    match field.absent with
    | some b => .ok b
    | none => .error (ms.length, .missingField field.key)

/-- The first place whose key spells no text, or repeats a key of the record. -/
def badKey (keys : List String) : Nat → List (Option String) → List Json.Member → Option Nat
  | _, _, [] => none
  | place, seen, (k, _) :: ms =>
    match k with
    | none => some place
    | some key =>
      if keys.contains key ∧ seen.contains k then some place
      else badKey keys (place + 1) (k :: seen) ms

namespace Fields

variable {σ : Type}

/-- Reads every field of an object. -/
def collect {α : Type} : Fields σ α → List Json.Member → Placed α
  | .make a, _ => .ok a
  | .and before field, ms => (before.collect ms).both (field.ofMembers ms)

/-- Reads a record from the members of an object. Members with other keys are
passed over. -/
def ofMembers {α : Type} (fields : Fields σ α) (ms : List Json.Member) : Except DecodeError α :=
  match fields.collect ms, badKey fields.keys 0 [] ms with
  | .ok a, none => .ok a
  | .ok _, some _ => .error .malformed
  | .error (_, e), none => .error e
  | .error (place, e), some bad => .error (if bad < place then .malformed else e)

/-! ## Reading an array -/

/-- Reads the fields from the items of an array, in order. Fields with a
default may be left out at the end. -/
def takeItems {α : Type} : Fields σ α → List Json → Except DecodeError (α × List Json)
  | .make a, vs => .ok (a, vs)
  | .and before field, vs => do
    let (f, rest) ← before.takeItems vs
    match rest with
    | v :: rest => return (f (← field.decode v), rest)
    | [] =>
      match field.absent with
      | some b => return (f b, [])
      | none => .error .malformed

def ofItems {α : Type} (fields : Fields σ α) (vs : List Json) : Except DecodeError α := do
  match ← fields.takeItems vs with
  | (a, []) => return a
  | (_, _ :: _) => .error .malformed

/-! ## The wire form -/

/-- The wire form of a record: an object, or an array of its fields in order. -/
abbrev wire (fields : Fields σ σ) : Wire σ where
  encode x := Json.record (fields.members x)
  decode
    | .object ms => fields.ofMembers ms
    | .array vs => fields.ofItems vs
    | _ => .error .malformed

/-! ## Reading what was written -/

/-- What the fields of a value make up. -/
def build {α : Type} : Fields σ α → σ → α
  | .make a, _ => a
  | .and before field, x => before.build x (field.get x)

/-- Each field of a value reads back, and a hidden one has the value that an
absent field takes. -/
def ReadsBack {α : Type} : Fields σ α → σ → Prop
  | .make _, _ => True
  | .and before field, x => before.ReadsBack x ∧
    field.decode (field.encode (field.get x)) = .ok (field.get x) ∧
    (field.hides (field.get x) = true → field.absent = some (field.get x))

theorem keys_members {α : Type} (fields : Fields σ α) (x : σ) :
    ((fields.members x).map Prod.fst).Sublist fields.keys := by
  induction fields with
  | make => exact List.Sublist.refl _
  | and before field ih =>
    rw [members, keys, List.map_append]
    refine ih.append ?_
    split
    · exact List.nil_sublist _
    · exact List.Sublist.refl _

/-- The members of a record as an object holds them. -/
abbrev written {α : Type} (fields : Fields σ α) (x : σ) : List Json.Member :=
  (fields.members x).map fun m => (some m.1, m.2)

end Fields

theorem findMember_append {key : String} {place : Nat} {ms rest : List Json.Member}
    (h : some key ∉ ms.map Prod.fst) :
    findMember key place (ms ++ rest) = findMember key (place + ms.length) rest := by
  induction ms generalizing place with
  | nil => rfl
  | cons m ms ih =>
    rw [List.map_cons, List.mem_cons, not_or] at h
    rw [List.cons_append, findMember, if_neg fun he => h.1 he.symm, ih h.2, List.length_cons]
    congr 1
    omega

theorem findMember_eq_none {key : String} {place : Nat} {ms : List Json.Member}
    (h : some key ∉ ms.map Prod.fst) : findMember key place ms = none := by
  have := @findMember_append key place ms [] h
  rwa [List.append_nil] at this

theorem badKey_eq_none {keys : List String} {place : Nat} {seen : List (Option String)}
    {ms : List (String × Json)} (h : (ms.map fun m => some m.1).Nodup)
    (hseen : ∀ m ∈ ms, some m.1 ∉ seen) :
    badKey keys place seen (ms.map fun m => (some m.1, m.2)) = none := by
  induction ms generalizing place seen with
  | nil => rfl
  | cons m ms ih =>
    rw [List.map_cons, List.nodup_cons] at h
    have hm : ¬ (keys.contains m.1 = true ∧ seen.contains (some m.1) = true) := fun hc =>
      hseen m (List.mem_cons_self ..) (List.contains_iff_mem.1 hc.2)
    rw [List.map_cons]
    unfold badKey
    simp only
    rw [if_neg hm]
    refine ih h.2 fun n hn => ?_
    rw [List.mem_cons, not_or]
    exact ⟨fun he => h.1 (he ▸ List.mem_map.2 ⟨n, hn, rfl⟩),
      hseen n (List.mem_cons_of_mem _ hn)⟩

/-- The member of a field as an object holds it, or none when it is hidden. -/
abbrev Field.written {σ β : Type} (field : Field σ β) (x : σ) : List Json.Member :=
  (if field.hides (field.get x) then [] else [(field.key, field.encode (field.get x))]).map
    fun m => (some m.1, m.2)

theorem Field.key_of_mem_written {σ β : Type} {field : Field σ β} {x : σ} {m : Json.Member}
    (h : m ∈ field.written x) : m.1 = some field.key := by
  unfold written at h
  split at h
  · cases h
  · rw [List.map_singleton, List.mem_singleton] at h
    rw [h]

/-- A field that reads back is read from its member, or from its absence when it
is hidden, among members with other keys. -/
theorem Field.ofMembers_written {σ β : Type} {field : Field σ β} {x : σ}
    {before rest : List Json.Member} (hbefore : some field.key ∉ before.map Prod.fst)
    (hrest : some field.key ∉ rest.map Prod.fst)
    (hreads : field.decode (field.encode (field.get x)) = .ok (field.get x))
    (hhidden : field.hides (field.get x) = true → field.absent = some (field.get x)) :
    field.ofMembers (before ++ (field.written x ++ rest)) = .ok (field.get x) := by
  unfold ofMembers written
  rw [findMember_append hbefore]
  cases hhides : field.hides (field.get x) with
  | true =>
    rw [if_pos rfl, List.map_nil, List.nil_append, findMember_eq_none hrest]
    simp only [hhidden hhides]
  | false =>
    rw [if_neg Bool.false_ne_true, List.map_singleton, List.singleton_append, findMember,
      if_pos rfl]
    simp only [hreads]

namespace Fields

variable {σ : Type}

theorem key_notMem_written {α : Type} {fields : Fields σ α} {x : σ} {key : String}
    (h : key ∉ fields.keys) : some key ∉ (fields.written x).map Prod.fst := by
  intro hm
  rw [List.map_map] at hm
  obtain ⟨m, hm, he⟩ := List.mem_map.1 hm
  have hkey := (fields.keys_members x).subset (List.mem_map.2 ⟨m, hm, rfl⟩)
  rw [show m.1 = key from Option.some.inj he] at hkey
  exact h hkey

theorem collect_written {α : Type} (fields : Fields σ α) (x : σ) (rest : List Json.Member)
    (hkeys : fields.keys.Nodup) (hrest : ∀ k ∈ fields.keys, some k ∉ rest.map Prod.fst)
    (hreads : fields.ReadsBack x) :
    fields.collect (fields.written x ++ rest) = .ok (fields.build x) := by
  induction fields generalizing rest with
  | make => rfl
  | and before field ih =>
    rw [keys, List.nodup_append] at hkeys
    rw [keys, List.forall_mem_append, List.forall_mem_singleton] at hrest
    have hnew : field.key ∉ before.keys := fun hk =>
      hkeys.2.2 _ hk _ (List.mem_singleton.2 rfl) rfl
    -- to the fields before, the member of the last one is among the rest
    have hothers : ∀ k ∈ before.keys, some k ∉ (field.written x ++ rest).map Prod.fst := by
      intro k hk hm
      rw [List.map_append, List.mem_append] at hm
      rcases hm with hm | hm
      · obtain ⟨m, hm, he⟩ := List.mem_map.1 hm
        cases he.symm.trans (Field.key_of_mem_written hm)
        exact hnew hk
      · exact hrest.1 k hk hm
    rw [collect, written, members, List.map_append, List.append_assoc,
      ih (field.written x ++ rest) hkeys.1 hothers hreads.1,
      Field.ofMembers_written (key_notMem_written hnew) hrest.2 hreads.2.1 hreads.2.2]
    rfl

theorem ofMembers_written {α : Type} (fields : Fields σ α) (x : σ) (hkeys : fields.keys.Nodup)
    (hreads : fields.ReadsBack x) : fields.ofMembers (fields.written x) = .ok (fields.build x) := by
  have hcollect := fields.collect_written x [] hkeys (by simp) hreads
  have hnodup : ((fields.members x).map fun m => some m.1).Nodup := by
    have := (fields.keys_members x).nodup hkeys
    rw [List.nodup_iff_pairwise_ne, List.pairwise_map] at this ⊢
    exact this.imp fun h he => h (Option.some.inj he)
  rw [List.append_nil] at hcollect
  rw [ofMembers, hcollect, badKey_eq_none hnodup (by simp)]

theorem decode_encode (fields : Fields σ σ) {x : σ} (hkeys : fields.keys.Nodup)
    (hreads : fields.ReadsBack x) (hbuild : fields.build x = x) :
    fields.wire.decode (fields.wire.encode x) = .ok x :=
  (fields.ofMembers_written x hkeys hreads).trans (congrArg Except.ok hbuild)

theorem lawful (fields : Fields σ σ) (hkeys : fields.keys.Nodup) (hreads : ∀ x, fields.ReadsBack x)
    (hbuild : ∀ x, fields.build x = x) : @LawfulWire σ fields.wire :=
  @LawfulWire.mk σ fields.wire fun x => fields.decode_encode hkeys (hreads x) (hbuild x)

/-! ## Fields that read back -/

section

variable {α β : Type}

/-- Hiding loses nothing where only the value of an absent field is hidden. -/
theorem readsBack_and {before : Fields σ (β → α)} {field : Field σ β}
    (hhides : ∀ b, field.hides b = true → field.absent = some b) (x : σ) :
    (before.and field).ReadsBack x ↔
      before.ReadsBack x ∧ field.decode (field.encode (field.get x)) = .ok (field.get x) :=
  and_congr_right fun _ => and_iff_left (hhides _)

@[simp]
theorem readsBack_make (a : α) (x : σ) : (make a : Fields σ α).ReadsBack x := trivial

variable [Wire β]

@[simp]
theorem readsBack_required (before : Fields σ (β → α)) (key : String) (get : σ → β) (x : σ) :
    (before.required key get).ReadsBack x ↔
      before.ReadsBack x ∧ decode (encode (get x)) = .ok (get x) := readsBack_and nofun x

@[simp]
theorem readsBack_defaulted (before : Fields σ (β → α)) (key : String) (default : β)
    (get : σ → β) (x : σ) :
    (before.defaulted key default get).ReadsBack x ↔
      before.ReadsBack x ∧ decode (encode (get x)) = .ok (get x) := readsBack_and nofun x

@[simp]
theorem readsBack_optional (before : Fields σ (Option β → α)) (key : String)
    (get : σ → Option β) (x : σ) :
    (before.optional key get).ReadsBack x ↔
      before.ReadsBack x ∧ decode (encode (get x)) = .ok (get x) :=
  readsBack_and (fun _ hb => by rw [Option.isNone_iff_eq_none.1 hb]) x

@[simp]
theorem readsBack_listed (before : Fields σ (List β → α)) (key : String) (get : σ → List β)
    (x : σ) :
    (before.listed key get).ReadsBack x ↔
      before.ReadsBack x ∧ decode (encode (get x)) = .ok (get x) :=
  readsBack_and (fun _ hb => by rw [List.isEmpty_iff.1 hb]) x

end

@[simp]
theorem readsBack_texted {α : Type} (before : Fields σ (String → α)) (key : String)
    (get : σ → String) (x : σ) :
    (before.texted key get).ReadsBack x ↔
      before.ReadsBack x ∧ decode (encode (get x)) = .ok (get x) :=
  readsBack_and (fun _ hb => by rw [eq_of_beq hb]) x

end Fields

end ReplayEvidence.Wire
