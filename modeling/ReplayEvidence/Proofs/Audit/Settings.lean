-- Which settings the variables give. Settings that are in order come from every way to
-- write them in variables, with white space around each value and empty places between the
-- endpoints, and from nothing else; a number that cannot be read fails the loading.
import ReplayEvidence.Audit.HttpConfig
import ReplayEvidence.Proofs.Text.Numerals
import ReplayEvidence.Proofs.Text.Padding

namespace ReplayEvidence.HttpConfig

open Text (Padded)
open Decimal (Numeral Reads)

/-- A text that is loaded as it stands: it is not empty and has no white space at its
ends. -/
structure Kept (value : String) : Prop where
  nonempty : value ≠ ""
  trimmed : Text.trim value = value

instance (value : String) : Decidable (Kept value) :=
  decidable_of_iff (value ≠ "" ∧ Text.trim value = value)
    ⟨fun ⟨hne, htrim⟩ => ⟨hne, htrim⟩, fun h => ⟨h.nonempty, h.trimmed⟩⟩

/-! ## Endpoints -/

/-- The endpoints stand in the pieces in their order, each with white space around it. All
other pieces are blank. -/
inductive Listed : List String → List String → Prop where
  | nil : Listed [] []
  | blank {piece : String} {endpoints pieces : List String} : Text.isBlank piece = true →
      Listed endpoints pieces → Listed endpoints (piece :: pieces)
  | endpoint {endpoint piece : String} {endpoints pieces : List String} :
      Padded endpoint piece → Listed endpoints pieces →
      Listed (endpoint :: endpoints) (piece :: pieces)

/-- The text lists the endpoints between its commas. -/
def Lists (text : String) (endpoints : List String) : Prop :=
  ∃ pieces, text = ",".intercalate pieces ∧ Listed endpoints pieces

/-- The pieces of a text between its commas. -/
def commaPieces (text : String) : List String := (Text.cut ',' text.toList).map String.ofList

/-- The endpoints in the pieces. -/
def endpointsIn (pieces : List String) : List String :=
  (pieces.map Text.trim).filter (· ≠ "")

theorem endpointList_eq (text : String) : endpointList text = endpointsIn (commaPieces text) := by
  unfold endpointList endpointsIn commaPieces
  induction Text.cut ',' text.toList with
  | nil => rfl
  | cons cs pieces ih =>
    simp only [List.map_cons, List.filterMap_cons, List.filter_cons, ih, Text.trim,
      String.toList_ofList]
    cases Text.trimChars cs with
    | nil => rfl
    | cons c cs => simp

theorem toList_comma : ",".toList = [','] := rfl

theorem intercalate_commaPieces (text : String) : ",".intercalate (commaPieces text) = text := by
  unfold commaPieces
  rw [← String.toList_inj, String.toList_intercalate, List.map_map, toList_comma]
  simp only [Function.comp_def, String.toList_ofList, List.map_id']
  rw [Text.cut_eq_splitOn, List.intercalate_splitOn]

theorem commaPieces_intercalate {pieces : List String} (hne : pieces ≠ [])
    (h : ∀ p ∈ pieces, ',' ∉ p.toList) : commaPieces (",".intercalate pieces) = pieces := by
  have hcut : Text.cut ',' (",".intercalate pieces).toList = pieces.map String.toList := by
    rw [String.toList_intercalate, toList_comma, Text.cut_eq_splitOn,
      List.splitOn_intercalate ',' (by simpa using h) (by simpa using hne)]
  unfold commaPieces
  rw [hcut, List.map_map]
  simp [Function.comp_def]

theorem listed_endpointsIn (pieces : List String) : Listed (endpointsIn pieces) pieces := by
  induction pieces with
  | nil => exact .nil
  | cons piece pieces ih =>
    unfold endpointsIn
    rw [List.map_cons, List.filter_cons]
    split
    · exact .endpoint (Text.padded_trim piece) ih
    · next hempty =>
      exact .blank (Text.isBlank_iff_trim_eq_empty.2 (by simpa using hempty)) ih

theorem Listed.endpointsIn_eq {endpoints pieces : List String} (h : Listed endpoints pieces)
    (hkept : ∀ e ∈ endpoints, Kept e) : endpointsIn pieces = endpoints := by
  unfold endpointsIn
  induction h with
  | nil => rfl
  | blank hblank _ ih =>
    rw [List.map_cons, Text.isBlank_iff_trim_eq_empty.1 hblank,
      List.filter_cons_of_neg (by decide), ih hkept]
  | endpoint hpadded _ ih =>
    rw [List.forall_mem_cons] at hkept
    rw [List.map_cons, hpadded.trim_eq, hkept.1.trimmed,
      List.filter_cons_of_pos (by simpa using hkept.1.nonempty), ih hkept.2]

theorem isSpace_comma : Text.isSpace ',' = false := by decide

theorem comma_notMem_of_mem_commaPieces {text piece : String} (h : piece ∈ commaPieces text) :
    ',' ∉ piece.toList := by
  obtain ⟨cs, hcs, rfl⟩ := List.mem_map.1 h
  rw [String.toList_ofList]
  exact Text.mark_notMem_of_mem_cut hcs

theorem Listed.comma_notMem {endpoints pieces : List String} (h : Listed endpoints pieces)
    (hcomma : ∀ e ∈ endpoints, ',' ∉ e.toList) : ∀ p ∈ pieces, ',' ∉ p.toList := by
  induction h with
  | nil => exact nofun
  | blank hblank _ ih =>
    rw [List.forall_mem_cons]
    exact ⟨Text.mark_notMem_spaces isSpace_comma (List.all_eq_true.1 hblank), ih hcomma⟩
  | endpoint hpadded _ ih =>
    rw [List.forall_mem_cons] at hcomma ⊢
    exact ⟨mt (hpadded.mark_mem_iff isSpace_comma).1 hcomma.1, ih hcomma.2⟩

/-- An endpoint that can stand in a list with commas. -/
structure Listable (endpoint : String) : Prop extends Kept endpoint where
  noComma : ',' ∉ endpoint.toList

instance (endpoint : String) : Decidable (Listable endpoint) :=
  decidable_of_iff (Kept endpoint ∧ ',' ∉ endpoint.toList)
    ⟨fun ⟨hkept, hcomma⟩ => ⟨hkept, hcomma⟩, fun h => ⟨h.toKept, h.noComma⟩⟩

/-- What is listed between commas are endpoints that can stand there, and every text that
lists them gives them. -/
theorem endpointList_eq_iff {text : String} {endpoints : List String} :
    endpointList text = endpoints ↔ (∀ e ∈ endpoints, Listable e) ∧ Lists text endpoints := by
  rw [endpointList_eq]
  constructor
  · rintro rfl
    refine ⟨fun e he => ?_, _, (intercalate_commaPieces text).symm, listed_endpointsIn _⟩
    rw [endpointsIn, List.mem_filter, List.mem_map] at he
    obtain ⟨⟨piece, hpiece, rfl⟩, hne⟩ := he
    refine ⟨⟨by simpa using hne, Text.trim_trim piece⟩, ?_⟩
    rw [← (Text.padded_trim piece).mark_mem_iff isSpace_comma]
    exact comma_notMem_of_mem_commaPieces hpiece
  · rintro ⟨hlistable, pieces, rfl, hlisted⟩
    have hkept := hlisted.endpointsIn_eq fun e he => (hlistable e he).toKept
    cases pieces with
    | nil => cases hlisted; rfl
    | cons piece pieces =>
      have hcomma := hlisted.comma_notMem fun e he => (hlistable e he).noComma
      rw [commaPieces_intercalate (List.cons_ne_nil _ _) hcomma, hkept]

theorem endpointList_trim (text : String) : endpointList (Text.trim text) = endpointList text := by
  unfold endpointList Text.trim
  rw [String.toList_ofList, Text.map_trimChars_cut_trimChars isSpace_comma]

/-! ## Values -/

section

variable {lookup : String → Option String} {name value : String}

/-- A variable that is not set, or is blank. -/
def Unset (held : Option String) : Prop := ∀ text ∈ held, Text.isBlank text = true

/-- The variable holds the value, or is not set when there is none. -/
def Holds (held : Option String) : Option String → Prop
  | none => Unset held
  | some value => ∃ text, held = some text ∧ Padded value text

theorem setting_eq (lookup : String → Option String) (name : String) :
    setting lookup name = (lookup (family ++ name)).bind fun text =>
      if Text.isBlank text then none else some (Text.trim text) := by
  unfold setting Text.nonBlank?
  cases lookup (family ++ name) with
  | none => rfl
  | some text =>
    rw [Option.bind_some, Option.bind_some]
    split <;> rfl

theorem setting_eq_none_iff :
    setting lookup name = none ↔ Unset (lookup (family ++ name)) := by
  rw [setting_eq]
  unfold Unset
  cases lookup (family ++ name) with
  | none => simp
  | some text => simp

theorem setting_eq_some_iff :
    setting lookup name = some value ↔
      Kept value ∧ ∃ text, lookup (family ++ name) = some text ∧ Padded value text := by
  rw [setting_eq]
  simp only [Option.bind_eq_some_iff]
  constructor
  · rintro ⟨text, hlookup, htext⟩
    split at htext
    · cases htext
    · next hblank =>
      cases htext
      refine ⟨⟨?_, Text.trim_trim text⟩, text, hlookup, Text.padded_trim text⟩
      rwa [Text.isBlank_iff_trim_eq_empty] at hblank
  · rintro ⟨hkept, text, hlookup, hpadded⟩
    have htrim : Text.trim text = value := Text.trim_eq_iff.2 ⟨hkept.trimmed, hpadded⟩
    refine ⟨text, hlookup, ?_⟩
    rw [if_neg, htrim]
    rw [Text.isBlank_iff_trim_eq_empty, htrim]
    exact hkept.nonempty

/-- A text setting is what its variable holds, which is kept as it stands. -/
theorem setting_eq_iff {value? : Option String} :
    setting lookup name = value? ↔
      (∀ value ∈ value?, Kept value) ∧ Holds (lookup (family ++ name)) value? := by
  cases value? with
  | none =>
    rw [setting_eq_none_iff]
    exact ⟨fun h => ⟨nofun, h⟩, fun h => h.2⟩
  | some value =>
    rw [setting_eq_some_iff]
    simp [Holds]

/-- The endpoints are those that the variable lists, whatever white space is around it. -/
theorem endpoints_setting :
    ((setting lookup name).map endpointList).getD standard.endpoints =
      ((lookup (family ++ name)).map endpointList).getD standard.endpoints := by
  rw [setting_eq]
  cases lookup (family ++ name) with
  | none => rfl
  | some text =>
    rw [Option.bind_some, Option.map_some, Option.getD_some, ← endpointList_trim text]
    split
    · next hblank =>
      rw [Text.isBlank_iff_trim_eq_empty.1 hblank]
      rfl
    · rw [Option.map_some, Option.getD_some]

/-! ## Numbers -/

/-- The variable holds a numeral of the number, or is not set when that is the default. -/
def HoldsNumber (held : Option String) (default n : Nat) : Prop :=
  (Unset held ∧ n = default) ∨
    ∃ text numeral, held = some text ∧ Padded numeral text ∧ Numeral numeral.toList n

/-- The text says something, but trimmed it is no numeral of a number below the size. -/
def Malformed (size : Nat) (text : String) : Prop :=
  Text.isBlank text = false ∧ ∀ n, n < size → ¬ Numeral (Text.trim text).toList n

theorem kept_of_numeral {numeral : String} {n : Nat} (h : Numeral numeral.toList n) :
    Kept numeral where
  nonempty := by
    rintro rfl
    cases h with
    | plain hdigits => exact hdigits.ne_nil rfl
  trimmed := (Decimal.Signed.unsigned h).trim_eq

theorem HoldsNumber.not_malformed {text : String} {default n size : Nat}
    (h : HoldsNumber (some text) default n) (hn : n < size) : ¬ Malformed size text := by
  rintro ⟨hblank, hno⟩
  rcases h with ⟨hunset, -⟩ | ⟨_, numeral, ⟨⟩, hpadded, hnumeral⟩
  · rw [hunset text rfl] at hblank
    cases hblank
  · apply hno n hn
    rwa [hpadded.trim_eq, (kept_of_numeral hnumeral).trimmed]

variable {α : Type} {read? : String → Option α} {value : α → Nat} {size : Nat}
  (hreads : Reads read? value size)
include hreads

theorem numberSetting_eq_ok_iff {default n : α} :
    numberSetting read? default lookup name = .ok n ↔
      HoldsNumber (lookup (family ++ name)) (value default) (value n) := by
  unfold numberSetting
  constructor
  · intro h
    split at h
    · next hsetting =>
      cases h
      exact .inl ⟨setting_eq_none_iff.1 hsetting, rfl⟩
    · next numeral hsetting =>
      obtain ⟨-, text, hlookup, hpadded⟩ := setting_eq_some_iff.1 hsetting
      split at h
      · next hread =>
        cases h
        exact .inr ⟨text, numeral, hlookup, hpadded, (hreads.eq_some_iff _ _).1 hread⟩
      · cases h
  · rintro (⟨hunset, hn⟩ | ⟨text, numeral, hlookup, hpadded, hnumeral⟩)
    · rw [setting_eq_none_iff.2 hunset, hreads.value_inj hn]
    · rw [setting_eq_some_iff.2 ⟨kept_of_numeral hnumeral, text, hlookup, hpadded⟩]
      simp only [(hreads.eq_some_iff numeral n).2 hnumeral]

/-- A number setting fails over a malformed text of its variable, and names it. -/
theorem numberSetting_eq_error {default : α} {f : Fault}
    (h : numberSetting read? default lookup name = .error f) :
    ∃ text, lookup (family ++ name) = some text ∧ Malformed size text ∧
      f = .notANumber (family ++ name) (Text.trim text) := by
  unfold numberSetting at h
  split at h
  · cases h
  · next trimmed hsetting =>
    obtain ⟨hkept, text, hlookup, hpadded⟩ := setting_eq_some_iff.1 hsetting
    have htrim : Text.trim text = trimmed := Text.trim_eq_iff.2 ⟨hkept.trimmed, hpadded⟩
    split at h
    · cases h
    · next hread =>
      cases h
      refine ⟨text, hlookup, ⟨?_, ?_⟩, by rw [htrim]⟩
      · rw [Bool.eq_false_iff, ne_eq, Text.isBlank_iff_trim_eq_empty, htrim]
        exact hkept.nonempty
      · rw [htrim]
        exact hreads.eq_none_iff.1 hread

end

/-! ## Settings -/

/-- The variables that hold a number. -/
inductive NumberVariable where
  | timeout | maxAttempts | initialBackoff | maxBackoff
deriving DecidableEq, Repr

namespace NumberVariable

def name : NumberVariable → String
  | .timeout => "TIMEOUT_MS"
  | .maxAttempts => "RETRY_MAX_ATTEMPTS"
  | .initialBackoff => "INITIAL_BACKOFF_MS"
  | .maxBackoff => "MAX_BACKOFF_MS"

/-- The numbers that fit are those below the size. -/
def size : NumberVariable → Nat
  | .maxAttempts => UInt32.size
  | .timeout | .initialBackoff | .maxBackoff => UInt64.size

/-- The number that the settings have for the variable. -/
def value (c : HttpConfig) : NumberVariable → Nat
  | .timeout => c.timeout.toNat
  | .maxAttempts => c.maxAttempts.toNat
  | .initialBackoff => c.initialBackoff.toNat
  | .maxBackoff => c.maxBackoff.toNat

theorem value_lt_size (c : HttpConfig) (v : NumberVariable) : v.value c < v.size := by
  cases v with
  | maxAttempts => exact UInt32.toNat_lt _
  | timeout | initialBackoff | maxBackoff => exact UInt64.toNat_lt _

theorem forall_iff {p : NumberVariable → Prop} :
    (∀ v, p v) ↔ p .timeout ∧ p .maxAttempts ∧ p .initialBackoff ∧ p .maxBackoff := by
  constructor
  · exact fun h => ⟨h _, h _, h _, h _⟩
  · rintro ⟨htimeout, hattempts, hinitial, hmax⟩ v
    cases v <;> assumption

end NumberVariable

/-- The number variables hold the numbers of the settings. -/
def HoldsNumbers (lookup : String → Option String) (c : HttpConfig) : Prop :=
  ∀ v : NumberVariable,
    HoldsNumber (lookup (family ++ v.name)) (v.value standard) (v.value c)

theorem HoldsNumbers.not_malformed {lookup : String → Option String} {c : HttpConfig}
    (h : HoldsNumbers lookup c) {v : NumberVariable} {text : String}
    (hlookup : lookup (family ++ v.name) = some text) : ¬ Malformed v.size text := by
  have hholds := h v
  rw [hlookup] at hholds
  exact hholds.not_malformed (v.value_lt_size c)

/-- Settings that are in order: they pass their check, the endpoints can stand in a list
with commas, and what else is text is kept as it stands. -/
structure InOrder (c : HttpConfig) : Prop where
  checked : c.check = .ok ()
  endpoints : ∀ e ∈ c.endpoints, Listable e
  bearerToken : ∀ token ∈ c.bearerToken, Kept token
  clientId : ∀ id ∈ c.clientId, Kept id

/-- The variables hold the settings. White space may stand around every value, and a
variable need not be set when the value is the one without it. -/
structure HeldBy (c : HttpConfig) (lookup : String → Option String) : Prop where
  endpoints : ∃ text, lookup (family ++ "ENDPOINTS") = some text ∧ Lists text c.endpoints
  bearerToken : Holds (lookup (family ++ "BEARER_TOKEN")) c.bearerToken
  clientId : Holds (lookup (family ++ "CLIENT_ID")) c.clientId
  numbers : HoldsNumbers lookup c

theorem endpoints_ne_nil_of_check {c : HttpConfig} (h : c.check = .ok ()) :
    c.endpoints ≠ [] := by
  intro hempty
  unfold check at h
  rw [hempty] at h
  cases h

theorem endpoints_setting_eq_iff {lookup : String → Option String} {name : String}
    {endpoints : List String} (hne : endpoints ≠ []) :
    ((setting lookup name).map endpointList).getD standard.endpoints = endpoints ↔
      (∀ e ∈ endpoints, Listable e) ∧
        ∃ text, lookup (family ++ name) = some text ∧ Lists text endpoints := by
  rw [endpoints_setting]
  cases lookup (family ++ name) with
  | none => simpa [standard] using hne.symm
  | some text =>
    rw [Option.map_some, Option.getD_some, endpointList_eq_iff]
    simp

theorem load_eq_ok_iff {lookup : String → Option String} {c : HttpConfig} :
    load lookup = .ok c ↔ c.InOrder ∧ c.HeldBy lookup := by
  unfold load
  simp only [bind_eq_ok, numberSetting_eq_ok_iff Decimal.uint64?_reads,
    numberSetting_eq_ok_iff Decimal.uint32?_reads]
  constructor
  · rintro ⟨timeout, htimeout, attempts, hattempts, initial, hinitial, max, hmax, _, hcheck, heq⟩
    cases heq
    have hne := endpoints_ne_nil_of_check hcheck
    obtain ⟨hlistable, hlists⟩ := (endpoints_setting_eq_iff hne).1 rfl
    obtain ⟨htoken, hholdsToken⟩ := setting_eq_iff.1 (Eq.refl (setting lookup "BEARER_TOKEN"))
    obtain ⟨hid, hholdsId⟩ := setting_eq_iff.1 (Eq.refl (setting lookup "CLIENT_ID"))
    exact ⟨⟨hcheck, hlistable, htoken, hid⟩, hlists, hholdsToken, hholdsId,
      NumberVariable.forall_iff.2 ⟨htimeout, hattempts, hinitial, hmax⟩⟩
  · rintro ⟨horder, hheld⟩
    have hendpoints := (endpoints_setting_eq_iff (endpoints_ne_nil_of_check horder.checked)).2
      ⟨horder.endpoints, hheld.endpoints⟩
    have htoken := setting_eq_iff.2 ⟨horder.bearerToken, hheld.bearerToken⟩
    have hid := setting_eq_iff.2 ⟨horder.clientId, hheld.clientId⟩
    refine ⟨c.timeout, hheld.numbers .timeout, c.maxAttempts, hheld.numbers .maxAttempts,
      c.initialBackoff, hheld.numbers .initialBackoff, c.maxBackoff, hheld.numbers .maxBackoff,
      (), ?_, ?_⟩
    · rw [hendpoints, htoken, hid]
      exact horder.checked
    · rw [hendpoints, htoken, hid]
      rfl

/-- Loading fails over a malformed number, or else every number can be read. -/
theorem load_eq_error {lookup : String → Option String} {f : Fault}
    (h : load lookup = .error f) :
    (∃ (v : NumberVariable) (text : String), lookup (family ++ v.name) = some text ∧
        Malformed v.size text ∧ f = .notANumber (family ++ v.name) (Text.trim text)) ∨
      ∃ c, HoldsNumbers lookup c := by
  unfold load at h
  simp only [bind_eq_error, numberSetting_eq_ok_iff Decimal.uint64?_reads,
    numberSetting_eq_ok_iff Decimal.uint32?_reads] at h
  rcases h with h | ⟨timeout, htimeout, h | ⟨attempts, hattempts, h | ⟨initial, hinitial,
    h | ⟨max, hmax, -⟩⟩⟩⟩
  · exact .inl ⟨.timeout, numberSetting_eq_error Decimal.uint64?_reads h⟩
  · exact .inl ⟨.maxAttempts, numberSetting_eq_error Decimal.uint32?_reads h⟩
  · exact .inl ⟨.initialBackoff, numberSetting_eq_error Decimal.uint64?_reads h⟩
  · exact .inl ⟨.maxBackoff, numberSetting_eq_error Decimal.uint64?_reads h⟩
  · exact .inr ⟨⟨[], none, none, timeout, attempts, initial, max⟩,
      NumberVariable.forall_iff.2 ⟨htimeout, hattempts, hinitial, hmax⟩⟩

/-! ### Writing -/

/-- Variables that hold the settings: the endpoints between commas, and the numbers in
decimal. -/
def written (c : HttpConfig) (key : String) : Option String :=
  if key = family ++ "ENDPOINTS" then some (",".intercalate c.endpoints)
  else if key = family ++ "BEARER_TOKEN" then c.bearerToken
  else if key = family ++ "CLIENT_ID" then c.clientId
  else if key = family ++ "TIMEOUT_MS" then some (Decimal.ofNat c.timeout.toNat)
  else if key = family ++ "RETRY_MAX_ATTEMPTS" then some (Decimal.ofNat c.maxAttempts.toNat)
  else if key = family ++ "INITIAL_BACKOFF_MS" then some (Decimal.ofNat c.initialBackoff.toNat)
  else if key = family ++ "MAX_BACKOFF_MS" then some (Decimal.ofNat c.maxBackoff.toNat)
  else none

theorem listed_self (endpoints : List String) : Listed endpoints endpoints := by
  induction endpoints with
  | nil => exact .nil
  | cons e endpoints ih => exact .endpoint (.refl e) ih

theorem holds_self (value? : Option String) : Holds value? value? := by
  cases value? with
  | none => exact nofun
  | some value => exact ⟨value, rfl, .refl value⟩

theorem holdsNumber_ofNat (default n : Nat) : HoldsNumber (some (Decimal.ofNat n)) default n :=
  .inr ⟨_, _, rfl, .refl _, Decimal.numeral_ofNat n⟩

theorem written_number (c : HttpConfig) (v : NumberVariable) :
    c.written (family ++ v.name) = some (Decimal.ofNat (v.value c)) := by
  cases v <;> simp [written, NumberVariable.name, NumberVariable.value]

theorem heldBy_written (c : HttpConfig) : c.HeldBy c.written where
  endpoints := ⟨_, by simp [written], _, rfl, listed_self c.endpoints⟩
  bearerToken := by simpa [written] using holds_self c.bearerToken
  clientId := by simpa [written] using holds_self c.clientId
  numbers v := by
    rw [written_number]
    exact holdsNumber_ofNat _ _

/-- All settings in order come back from the variables that they are written to. -/
theorem load_written {c : HttpConfig} (h : c.InOrder) : load c.written = .ok c :=
  load_eq_ok_iff.2 ⟨h, heldBy_written c⟩

/-! ### Loading -/

/-- Loading gives the settings that the variables hold. Whatever the variables, what is
loaded is in order and held by them, and settings in order are loaded from all variables
that hold them, however much white space and how many empty places stand in these. When a
variable says something that is no numeral of a number that fits, loading fails with a
message that quotes such a text and names its variable. -/
theorem loading_gives_the_settings_that_the_variables_hold (lookup : String → Option String) :
    (∀ c : HttpConfig, load lookup = .ok c ↔ c.InOrder ∧ c.HeldBy lookup) ∧
      ∀ (v : NumberVariable) (text : String), lookup (family ++ v.name) = some text →
        Malformed v.size text →
        ∃ (w : NumberVariable) (given : String), lookup (family ++ w.name) = some given ∧
          Malformed w.size given ∧
          (load lookup).mapError Fault.toError = .error (.config
            (family ++ w.name ++ " is not a valid number: " ++ Text.quoted (Text.trim given))) := by
  refine ⟨fun c => load_eq_ok_iff, fun v text hlookup hmalformed => ?_⟩
  cases hload : load lookup with
  | ok c =>
    have hnumbers := (load_eq_ok_iff.1 hload).2.numbers
    exact absurd hmalformed (hnumbers.not_malformed hlookup)
  | error f =>
    rcases load_eq_error hload with ⟨w, given, hgiven, hw, rfl⟩ | ⟨c, hnumbers⟩
    · exact ⟨w, given, hgiven, hw, rfl⟩
    · exact absurd hmalformed (hnumbers.not_malformed hlookup)

/-- Two endpoints among blanks, and numbers with a sign and without. -/
def paddedVariables : List (String × String) :=
  [(family ++ "ENDPOINTS", " https://a , ,https://b "), (family ++ "BEARER_TOKEN", "tok"),
    (family ++ "RETRY_MAX_ATTEMPTS", " +5 "), (family ++ "MAX_BACKOFF_MS", "900")]

theorem padded_variables_are_loaded_and_a_word_is_no_number :
    let c : HttpConfig := ⟨["https://a", "https://b"], some "tok", none, 2000, 5, 100, 900⟩
    let held := fun key => paddedVariables.lookup key
    let late := fun key => ((family ++ "TIMEOUT_MS", " soon") :: paddedVariables).lookup key
    c.InOrder ∧ c.HeldBy held ∧ load held = .ok c ∧
      late (family ++ NumberVariable.timeout.name) = some " soon" ∧
      Malformed NumberVariable.timeout.size " soon" ∧
      ∃ message, (load late).mapError Fault.toError = .error (.config message) := by
  intro c held late
  have horder : c.InOrder := ⟨rfl, by decide, by decide, by decide⟩
  have hunset {key : String} (h : held key = none) : Unset (held key) := by
    rw [h]
    exact nofun
  have hheld : c.HeldBy held := by
    refine ⟨⟨" https://a , ,https://b ", by decide, [" https://a ", " ", "https://b "],
      by decide, ?_⟩, ⟨"tok", by decide, .refl "tok"⟩, hunset (by decide), ?_⟩
    · exact .endpoint ⟨" ", " ", by decide⟩
        (.blank (by decide) (.endpoint ⟨"", " ", by decide⟩ .nil))
    · refine NumberVariable.forall_iff.2 ⟨.inl ⟨hunset (by decide), rfl⟩, .inr ?_,
        .inl ⟨hunset (by decide), rfl⟩, .inr ?_⟩
      · exact ⟨" +5 ", "+5", by decide, ⟨" ", " ", by decide⟩,
          Decimal.unsigned?_eq_some_iff.1 (by decide)⟩
      · exact ⟨"900", "900", by decide, .refl "900",
          Decimal.unsigned?_eq_some_iff.1 (by decide)⟩
  have hlate : late (family ++ NumberVariable.timeout.name) = some " soon" := by decide
  have hmalformed : Malformed NumberVariable.timeout.size " soon" := by
    refine ⟨by decide, fun n _ hnumeral => ?_⟩
    have hnone : Decimal.unsigned? (Text.trim " soon").toList = none := by decide
    rw [Decimal.unsigned?_eq_some_iff.2 hnumeral] at hnone
    cases hnone
  have hload := ((loading_gives_the_settings_that_the_variables_hold held).1 c).2 ⟨horder, hheld⟩
  obtain ⟨_, _, _, _, hfails⟩ :=
    (loading_gives_the_settings_that_the_variables_hold late).2 .timeout " soon" hlate hmalformed
  exact ⟨horder, hheld, hload, hlate, hmalformed, _, hfails⟩

end ReplayEvidence.HttpConfig
