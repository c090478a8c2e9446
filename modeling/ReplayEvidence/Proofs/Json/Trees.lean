-- A tree reads back from its compact text, from the characters and from the
-- bytes alike: its tokens are cut where they were joined, and the reader that
-- takes them comes to the end of each part with that part in hand. The text
-- is one line.
import ReplayEvidence.Json.Tree
import ReplayEvidence.Proofs.Json.Lexing
import ReplayEvidence.Proofs.Text.Encoded

namespace ReplayEvidence.Json

/-! ## Tokens of a tree -/

theorem head?_moreItems (vs : List Json) : ∀ t ∈ (moreItems vs).head?, t.isNumber = false := by
  cases vs with
  | nil => rintro _ ⟨⟩; rfl
  | cons v vs => rintro _ ⟨⟩; rfl

theorem head?_moreMembers (ms : List Member) :
    ∀ t ∈ (moreMembers ms).head?, t.isNumber = false := by
  cases ms with
  | nil => rintro _ ⟨⟩; rfl
  | cons m ms => rintro _ ⟨⟩; rfl

theorem apart_cons {t : Token} {ts : List Token} (ht : t.isNumber = false) (hts : Apart ts) :
    Apart (t :: ts) :=
  List.isChain_cons.2 ⟨fun _ _ h => absurd h (by simp [ht]), hts⟩

theorem apart_append {ts us : List Token} (hts : Apart ts) (hus : Apart us)
    (hhead : ∀ t ∈ us.head?, t.isNumber = false) : Apart (ts ++ us) :=
  List.isChain_append.2 ⟨hts, hus, fun _ _ u hu _ => hhead u hu⟩

mutual

/-- The tokens of a tree never put one number after another. -/
theorem apart_tokens : (v : Json) → Apart v.tokens
  | .null | .bool _ | .int _ | .decimal .. | .string _ => List.isChain_singleton _
  | .array [] => apart_cons rfl (List.isChain_singleton _)
  | .array (v :: vs) => apart_cons rfl <|
    apart_append (apart_tokens v) (apart_moreItems vs) (head?_moreItems vs)
  | .object [] => apart_cons rfl (List.isChain_singleton _)
  | .object ((_, v) :: ms) => apart_cons rfl <| apart_cons rfl <| apart_cons rfl <|
    apart_append (apart_tokens v) (apart_moreMembers ms) (head?_moreMembers ms)

theorem apart_moreItems : (vs : List Json) → Apart (moreItems vs)
  | [] => List.isChain_singleton _
  | v :: vs => apart_cons rfl <|
    apart_append (apart_tokens v) (apart_moreItems vs) (head?_moreItems vs)

theorem apart_moreMembers : (ms : List (Option String × Json)) → Apart (moreMembers ms)
  | [] => List.isChain_singleton _
  | (_, v) :: ms => apart_cons rfl <| apart_cons rfl <| apart_cons rfl <|
    apart_append (apart_tokens v) (apart_moreMembers ms) (head?_moreMembers ms)

end

/-! ## Reading a tree -/

/-- The tokens of a tree start with one that closes nothing. -/
theorem tokens_eq_cons (v : Json) :
    ∃ t ts, v.tokens = t :: ts ∧ t ≠ .rightBracket := by
  cases v with
  | null | bool | int | decimal | string => exact ⟨_, _, rfl, nofun⟩
  | array vs => cases vs <;> exact ⟨_, _, rfl, nofun⟩
  | object ms => rcases ms with _ | ⟨⟨k, v⟩, ms⟩ <;> exact ⟨_, _, rfl, nofun⟩

theorem foldlM_itemOrEnd (v : Json) (inside : List Frame) (rest : List Token) :
    (v.tokens ++ rest).foldlM Reading.take ⟨.itemOrEnd, inside⟩ =
      (v.tokens ++ rest).foldlM Reading.take ⟨.value, inside⟩ := by
  obtain ⟨t, ts, hts, hne⟩ := tokens_eq_cons v
  have htake : Reading.take ⟨.itemOrEnd, inside⟩ t = Reading.take ⟨.value, inside⟩ t := by
    simp [Reading.take, hne]
  rw [hts, List.cons_append, List.foldlM_cons, List.foldlM_cons, htake]

mutual

/-- After the tokens of a tree, the tree has been read. -/
theorem foldlM_tokens : (v : Json) → (inside : List Frame) → (rest : List Token) →
    (v.tokens ++ rest).foldlM Reading.take ⟨.value, inside⟩ =
      rest.foldlM Reading.take ⟨.after v, inside⟩
  | .null, _, _ | .bool _, _, _ | .int _, _, _ | .decimal .., _, _ | .string _, _, _ => rfl
  | .array [], _, _ | .object [], _, _ => rfl
  | .array (v :: vs), inside, rest => by
    have hfirst := foldlM_tokens v (.items [] :: inside) (moreItems vs ++ rest)
    have hmore := foldlM_moreItems vs v [] inside rest
    rw [tokens, List.cons_append, List.append_assoc, List.foldlM_cons]
    show (v.tokens ++ (moreItems vs ++ rest)).foldlM Reading.take
      ⟨.itemOrEnd, .items [] :: inside⟩ = _
    rw [foldlM_itemOrEnd, hfirst, hmore]
    rfl
  | .object ((k, v) :: ms), inside, rest => by
    have hfirst := foldlM_tokens v (.valueOf [] k :: inside) (moreMembers ms ++ rest)
    have hmore := foldlM_moreMembers ms k v [] inside rest
    rw [tokens, List.cons_append, List.cons_append, List.cons_append, List.append_assoc]
    show (v.tokens ++ (moreMembers ms ++ rest)).foldlM Reading.take
      ⟨.value, .valueOf [] k :: inside⟩ = _
    rw [hfirst, hmore]
    rfl

theorem foldlM_moreItems : (vs : List Json) → (v : Json) → (before : List Json) →
    (inside : List Frame) → (rest : List Token) →
    (moreItems vs ++ rest).foldlM Reading.take ⟨.after v, .items before :: inside⟩ =
      rest.foldlM Reading.take ⟨.after (.array (before.reverse ++ v :: vs)), inside⟩
  | [], v, before, inside, rest => by
    rw [moreItems, List.singleton_append, ← List.reverse_cons]
    rfl
  | w :: vs, v, before, inside, rest => by
    have hitem := foldlM_tokens w (.items (v :: before) :: inside) (moreItems vs ++ rest)
    have hmore := foldlM_moreItems vs w (v :: before) inside rest
    rw [moreItems, List.cons_append, List.append_assoc]
    show (w.tokens ++ (moreItems vs ++ rest)).foldlM Reading.take
      ⟨.value, .items (v :: before) :: inside⟩ = _
    rw [hitem, hmore, List.reverse_cons, List.append_assoc, List.singleton_append]

theorem foldlM_moreMembers : (ms : List (Option String × Json)) → (k : Option String) →
    (v : Json) → (before : List Member) → (inside : List Frame) → (rest : List Token) →
    (moreMembers ms ++ rest).foldlM Reading.take ⟨.after v, .valueOf before k :: inside⟩ =
      rest.foldlM Reading.take ⟨.after (.object (before.reverse ++ (k, v) :: ms)), inside⟩
  | [], k, v, before, inside, rest => by
    rw [moreMembers, List.singleton_append, ← List.reverse_cons]
    rfl
  | (j, w) :: ms, k, v, before, inside, rest => by
    have hmember := foldlM_tokens w (.valueOf ((k, v) :: before) j :: inside)
      (moreMembers ms ++ rest)
    have hmore := foldlM_moreMembers ms j w ((k, v) :: before) inside rest
    rw [moreMembers, List.cons_append, List.cons_append, List.cons_append, List.append_assoc]
    show (w.tokens ++ (moreMembers ms ++ rest)).foldlM Reading.take
      ⟨.value, .valueOf ((k, v) :: before) j :: inside⟩ = _
    rw [hmember, hmore, List.reverse_cons, List.append_assoc, List.singleton_append]

end

/-! ## Reading a text -/

theorem ofTokens?_tokens (v : Json) : ofTokens? v.tokens = some v := by
  have h := foldlM_tokens v [] []
  rw [List.append_nil] at h
  rw [ofTokens?, h]
  rfl

/-- A tree reads back from its compact text, whatever its strings hold. -/
theorem parse?_compact (v : Json) : parse? v.compact = some v := by
  have htokens := tokensOf_spell (apart_tokens v)
  rw [parse?, ofScalars?, Text.scalarsOf, compact, String.toList_ofList, htokens]
  exact ofTokens?_tokens v

theorem parseBytes?_utf8 (s : String) : parseBytes? ⟨(Text.utf8 s).toArray⟩ = parse? s := by
  rw [parseBytes?, Text.scalars_utf8]
  rfl

/-! ## One line -/

/-- A compact text holds no control characters, so no line breaks. -/
theorem le_toNat_of_mem_compact {v : Json} {c : Char} (h : c ∈ v.compact.toList) :
    0x20 ≤ c.toNat := by
  rw [compact, String.toList_ofList, List.mem_flatMap] at h
  obtain ⟨t, -, h⟩ := h
  exact le_toNat_of_mem_spell t c h

end ReplayEvidence.Json
