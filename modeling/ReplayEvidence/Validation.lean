-- What makes a value of a schema invalid, and the checks that most schemas
-- share. A check names the schema and the field that it is about.
import ReplayEvidence.Decimal
import ReplayEvidence.Millis
import ReplayEvidence.Text.Blank
import ReplayEvidence.Text.Quoted
import ReplayEvidence.Vocabulary

namespace ReplayEvidence

/-- Why the value of a field is refused. -/
inductive Refusal where
  | negative (got : Int64)
  | notPositive (got : Int64)
  | aboveCeiling (payload : PayloadClass) (window ceiling : Millis)
  | bothSelectors
  | noSelector
  | negativeDrift (got : Millis)
  | strayDrift (kind : DivergenceClass)
  | modesDiffer (requested executed : ReplayMode)
  | setWhenAllowed
  | setWhenDenied
deriving DecidableEq, Repr

def Refusal.message : Refusal → String
  | .negative got => "must be >= 0, got " ++ Decimal.ofInt got.toInt
  | .notPositive got => "must be > 0, got " ++ Decimal.ofInt got.toInt
  | .aboveCeiling payload window ceiling =>
    Named.name payload ++ " window " ++ Decimal.ofInt window.toInt ++ " exceeds ceiling " ++
      Decimal.ofInt ceiling.toInt
  | .bothSelectors => "specify exactly one of session_id or turn_id, not both"
  | .noSelector => "specify exactly one of session_id or turn_id"
  | .negativeDrift got => "timing diff must be >= 0, got " ++ Decimal.ofInt got.toInt
  | .strayDrift kind => "only TIMING divergences carry diff_ms, got " ++ Named.name kind
  | .modesDiffer requested executed =>
    "request mode " ++ Named.name requested ++ " does not match result mode " ++
      Named.name executed
  | .setWhenAllowed => "must be empty when allowed"
  | .setWhenDenied => "must be empty when denied"

/-- Why a value is not valid. -/
inductive ValidationError where
  | missing (schema field : String)
  | invalid (schema field : String) (refusal : Refusal)
  | unknownVariant (kind value : String)
deriving DecidableEq, Repr

def ValidationError.message : ValidationError → String
  | .missing schema field => schema ++ ": " ++ field ++ " is required"
  | .invalid schema field refusal =>
    schema ++ ": invalid " ++ field ++ ": " ++ refusal.message
  | .unknownVariant kind value => "unsupported " ++ kind ++ ": " ++ Text.quoted value

/-- Either nothing is wrong, or the first thing that is. -/
abbrev Validity := Except ValidationError Unit

namespace Validity

/-- A field must say something. -/
def require (schema field value : String) : Validity :=
  if Text.isBlank value then .error (.missing schema field) else .ok ()

/-- A field that is there must say something. -/
def requireSome (schema field : String) : Option String → Validity
  | some value => require schema field value
  | none => .ok ()

/-- A number must not be negative. -/
def requireNonNegative (schema field : String) (value : Int64) : Validity :=
  if value < 0 then .error (.invalid schema field (.negative value)) else .ok ()

/-- A number must be positive. -/
def requirePositive (schema field : String) (value : Int64) : Validity :=
  if value ≤ 0 then .error (.invalid schema field (.notPositive value)) else .ok ()

/-- Every item must pass; the first that does not is reported. -/
def all {α : Type} (check : α → Validity) : List α → Validity
  | [] => .ok ()
  | a :: as => do
    check a
    all check as

/-- The value of a name that was typed, of a vocabulary called `kind`. -/
def named {α : Type} [Named α] (kind value : String) : Except ValidationError α :=
  match Named.ofName? value with
  | some a => .ok a
  | none => .error (.unknownVariant kind value)

/-! ## When checks pass -/

theorem bind_eq_ok {v : Validity} {next : Unit → Validity} :
    (v >>= next) = .ok () ↔ v = .ok () ∧ next () = .ok () := by
  cases v with
  | error e => exact ⟨nofun, fun h => nomatch h.1⟩
  | ok _ => exact ⟨fun h => ⟨rfl, h⟩, fun h => h.2⟩

theorem require_eq_ok {schema field value : String} :
    require schema field value = .ok () ↔ Text.isBlank value = false := by
  unfold require
  cases Text.isBlank value <;> simp

theorem requireSome_eq_ok {schema field : String} {value : Option String} :
    requireSome schema field value = .ok () ↔ ∀ s, value = some s → Text.isBlank s = false := by
  cases value with
  | none => simp [requireSome]
  | some s => simp [requireSome, require_eq_ok]

theorem requireNonNegative_eq_ok {schema field : String} {value : Int64} :
    requireNonNegative schema field value = .ok () ↔ 0 ≤ value := by
  unfold requireNonNegative
  rw [← Int64.not_lt]
  split <;> simp [*]

theorem requirePositive_eq_ok {schema field : String} {value : Int64} :
    requirePositive schema field value = .ok () ↔ 0 < value := by
  unfold requirePositive
  rw [← Int64.not_le]
  split <;> simp [*]

theorem all_eq_ok {α : Type} {check : α → Validity} {as : List α} :
    all check as = .ok () ↔ ∀ a ∈ as, check a = .ok () := by
  induction as with
  | nil => simp [all]
  | cons a as ih => simp [all, bind_eq_ok, ih]

theorem all_map {α β : Type} {check : β → Validity} {f : α → β} (as : List α) :
    all check (as.map f) = all (fun a => check (f a)) as := by
  induction as with
  | nil => rfl
  | cons a as ih => rw [List.map_cons, all, all, ih]

end Validity

def PayloadClass.parse : String → Except ValidationError PayloadClass :=
  Validity.named "payload class"

def Fidelity.parse : String → Except ValidationError Fidelity := Validity.named "replay fidelity"

def Lane.parse : String → Except ValidationError Lane := Validity.named "lane"

def DivergenceClass.parse : String → Except ValidationError DivergenceClass :=
  Validity.named "divergence class"

def ReplayMode.parse : String → Except ValidationError ReplayMode := Validity.named "replay mode"

end ReplayEvidence
