-- Sending audit events over HTTP. The endpoints are tried in order. An answer
-- that asks for patience is waited out, longer each time, for so many
-- attempts; any other failure moves on to the next endpoint.
import ReplayEvidence.Audit.HttpConfig
import ReplayEvidence.Json.Tree

namespace ReplayEvidence.Http

/-- One message to an endpoint. -/
structure Post where
  endpoint : String
  headers : List (String × String)
  body : String
  timeout : Nat
deriving DecidableEq, Repr

/-- What carries messages and waits: an answer is a status, or why there was
none. -/
structure Transport (σ : Type) where
  post : Post → StateM σ (Except String UInt16)
  sleep : Nat → StateM σ Unit

def accepted (status : UInt16) : Bool := 200 ≤ status && status < 300

def retryable (status : UInt16) : Bool := status == 429 || 500 ≤ status

def headers (config : HttpConfig) (tenant : String) : List (String × String) :=
  [("Content-Type", "application/json")] ++
  (config.bearerToken.map fun token => ("Authorization", "Bearer " ++ token)).toList ++
  (config.clientId.map fun id => ("X-RSPP-Client-ID", id)).toList ++
  ((Text.nonBlank? tenant).map fun tenant => ("X-RSPP-Tenant-ID", tenant)).toList

def postOf (config : HttpConfig) (event : AuditEvent) (endpoint : String) : Post where
  endpoint := endpoint
  headers := headers config event.tenant
  body := Json.compact (Wire.encode event)
  timeout := config.timeout.toNat

/-- Twice the time, or the longest there is when that is shorter. -/
def twice (time : UInt64) : UInt64 := UInt64.ofNat (min (2 * time.toNat) (UInt64.size - 1))

/-- Sends a message, with so many attempts left after this one. -/
def send {σ : Type} (transport : Transport σ) (maxBackoff : UInt64) (post : Post) :
    UInt64 → Nat → StateM σ Taken
  | backoff, left => do
    match ← transport.post post with
    | .error reason => return .error (.transport post.endpoint reason)
    | .ok status =>
      if accepted status then return .ok ()
      else match left with
        | left + 1 =>
          if retryable status then
            transport.sleep backoff.toNat
            send transport maxBackoff post (min (twice backoff) maxBackoff) left
          else return .error (.httpStatus post.endpoint status)
        | 0 => return .error (.httpStatus post.endpoint status)

/-- The sink that sends each event to the first endpoint that takes it, under
settings that are right. -/
def sink {σ : Type} (transport : Transport σ) (config : HttpConfig) : Sink σ where
  append event :=
    match event.validate with
    | .error e => return .error (.invalidEvent e)
    | .ok () => do
      let attempts := config.endpoints.map fun endpoint =>
        send transport config.maxBackoff (postOf config event endpoint) config.initialBackoff
          (config.maxAttempts.toNat - 1)
      match ← firstSuccess attempts with
      | .ok () => return .ok ()
      | .error errors => return .error (.endpointsExhausted errors)

/-- The sink under some settings, unless something is wrong with them. -/
def sink? {σ : Type} (transport : Transport σ) (config : HttpConfig) :
    Except HttpConfig.Fault (Sink σ) := config.check.map fun _ => sink transport config

end ReplayEvidence.Http
