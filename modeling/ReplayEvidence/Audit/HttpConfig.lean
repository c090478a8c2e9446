-- Settings for sending audit events over HTTP, and how they are loaded from
-- variables: every value is trimmed, and a blank one counts as not set.
import ReplayEvidence.Audit.Sink
import ReplayEvidence.Text.Cut

namespace ReplayEvidence

open Wire (Fields)

/-- Where events are sent, who sends them, and how often one is tried. -/
structure HttpConfig where
  endpoints : List String
  bearerToken : Option String
  clientId : Option String
  timeout : UInt64
  maxAttempts : UInt32
  initialBackoff : UInt64
  maxBackoff : UInt64
deriving DecidableEq, Repr

namespace HttpConfig

/-- The settings unless others are given; there is nowhere to send to. -/
def standard : HttpConfig := ⟨[], none, none, 2000, 3, 100, 2000⟩

def fields : Fields HttpConfig HttpConfig :=
  (Fields.make HttpConfig.mk)
    |>.defaulted "endpoints" standard.endpoints endpoints
    |>.defaulted "bearer_token" standard.bearerToken bearerToken
    |>.defaulted "client_id" standard.clientId clientId
    |>.defaulted "timeout_ms" standard.timeout timeout
    |>.defaulted "retry_max_attempts" standard.maxAttempts maxAttempts
    |>.defaulted "initial_backoff_ms" standard.initialBackoff initialBackoff
    |>.defaulted "max_backoff_ms" standard.maxBackoff maxBackoff

instance : Wire HttpConfig := fields.wire

/-! ## Faults -/

/-- What is wrong with the settings. -/
inductive Fault where
  | noEndpoint
  | blankEndpoint (place : Nat)
  | noTimeout
  | noAttempts
  | backoffTooShort
  | notANumber (name value : String)
deriving DecidableEq, Repr

def Fault.message : Fault → String
  | .noEndpoint => "at least one endpoint is required"
  | .blankEndpoint i => "endpoint " ++ Decimal.ofNat i ++ " is empty"
  | .noTimeout => "timeout_ms must be positive"
  | .noAttempts => "retry_max_attempts must be positive"
  | .backoffTooShort => "max_backoff_ms must not be below initial_backoff_ms"
  | .notANumber name value => name ++ " is not a valid number: " ++ Text.quoted value

def Fault.toError (f : Fault) : AuditError := .config f.message

/-- The first thing that is wrong with the settings. -/
def check (c : HttpConfig) : Except Fault Unit :=
  if c.endpoints.isEmpty then .error .noEndpoint
  else match c.endpoints.findIdx? Text.isBlank with
    | some i => .error (.blankEndpoint i)
    | none =>
      if c.timeout = 0 then .error .noTimeout
      else if c.maxAttempts = 0 then .error .noAttempts
      else if c.maxBackoff < c.initialBackoff then .error .backoffTooShort
      else .ok ()

/-! ## Loading -/

/-- What stands in front of the name of every variable. -/
def family : String := "RSPP_REPLAY_AUDIT_HTTP_"

/-- The value of a variable without the white space around it, unless it is
blank. -/
def setting (lookup : String → Option String) (name : String) : Option String :=
  ((lookup (family ++ name)).bind Text.nonBlank?).map Text.trim

/-- The endpoints in a list with commas. Empty ones are passed over. -/
def endpointList (s : String) : List String :=
  ((Text.cut ',' s.toList).map Text.trimChars).filterMap fun cs =>
    if cs.isEmpty then none else some (String.ofList cs)

/-- The number of a variable, or the default when it is not set. -/
def numberSetting {α : Type} (read? : String → Option α) (default : α)
    (lookup : String → Option String) (name : String) : Except Fault α :=
  match setting lookup name with
  | none => .ok default
  | some value =>
    match read? value with
    | some n => .ok n
    | none => .error (.notANumber (family ++ name) value)

/-- The settings that variables give, with defaults for those not set. -/
def load (lookup : String → Option String) : Except Fault HttpConfig := do
  let timeout ← numberSetting Decimal.uint64? standard.timeout lookup "TIMEOUT_MS"
  let maxAttempts ← numberSetting Decimal.uint32? standard.maxAttempts lookup "RETRY_MAX_ATTEMPTS"
  let initialBackoff ←
    numberSetting Decimal.uint64? standard.initialBackoff lookup "INITIAL_BACKOFF_MS"
  let maxBackoff ← numberSetting Decimal.uint64? standard.maxBackoff lookup "MAX_BACKOFF_MS"
  let config : HttpConfig :=
    { endpoints := ((setting lookup "ENDPOINTS").map endpointList).getD standard.endpoints
      bearerToken := setting lookup "BEARER_TOKEN"
      clientId := setting lookup "CLIENT_ID"
      timeout, maxAttempts, initialBackoff, maxBackoff }
  config.check
  return config

end HttpConfig

end ReplayEvidence
