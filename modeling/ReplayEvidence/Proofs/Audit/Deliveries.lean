-- The law of deliveries over HTTP. The transport answers and waits as it likes. What it
-- is asked falls into groups, one for each endpoint that is tried: messages whose answer
-- asks for another one, each with a wait after it, and the one that ends the group.
import ReplayEvidence.Audit.Http
import ReplayEvidence.Proofs.Audit.Watching

namespace ReplayEvidence.Http

variable {σ : Type} {config : HttpConfig} {event : AuditEvent}

/-! ## Statuses -/

/-- A status that says that the event was taken. -/
def Accepts (status : UInt16) : Prop := 200 ≤ status.toNat ∧ status.toNat < 300

/-- A status that asks for another attempt, after a while. -/
def AsksAgain (status : UInt16) : Prop := status.toNat = 429 ∨ 500 ≤ status.toNat

theorem accepted_iff {status : UInt16} : accepted status = true ↔ Accepts status := by
  simp [accepted, Accepts, UInt16.le_iff_toNat_le, UInt16.lt_iff_toNat_lt]

theorem retryable_iff {status : UInt16} : retryable status = true ↔ AsksAgain status := by
  simp [retryable, AsksAgain, UInt16.le_iff_toNat_le, ← UInt16.toNat_inj]

theorem AsksAgain.not_accepts {status : UInt16} (h : AsksAgain status) : ¬ Accepts status := by
  unfold AsksAgain at h
  unfold Accepts
  omega

/-! ## Messages -/

/-- A message about an event. Its body is the event in compact JSON, and the time an answer may
take is that of the settings. It has no header but those listed, each once and in that order: the
kind of the body always, the token and the client of the settings where these have them, and the
tenant of the event unless it is blank. -/
structure Carries (config : HttpConfig) (event : AuditEvent) (post : Post) : Prop where
  body : post.body = Json.compact (Wire.encode event)
  timeout : post.timeout = config.timeout.toNat
  names : List.Sublist (post.headers.map Prod.fst)
    ["Content-Type", "Authorization", "X-RSPP-Client-ID", "X-RSPP-Tenant-ID"]
  kind : ∀ value, ("Content-Type", value) ∈ post.headers ↔ value = "application/json"
  token : ∀ value, ("Authorization", value) ∈ post.headers ↔
    ∃ token, config.bearerToken = some token ∧ value = "Bearer " ++ token
  client : ∀ value, ("X-RSPP-Client-ID", value) ∈ post.headers ↔ config.clientId = some value
  tenant : ∀ value, ("X-RSPP-Tenant-ID", value) ∈ post.headers ↔
    value = event.tenant ∧ ∃ c ∈ event.tenant.toList, Text.isSpace c = false

theorem sublist_header {α : Type} (name : String) (text : α → String) (value : Option α) :
    List.Sublist ((value.map fun a => (name, text a)).toList.map Prod.fst) [name] := by
  cases value with
  | none => exact List.nil_sublist _
  | some a => exact List.Sublist.refl _

theorem mem_header {α : Type} {name other value : String} {text : α → String} {o : Option α} :
    (other, value) ∈ (o.map fun a => (name, text a)).toList ↔
      other = name ∧ ∃ a, o = some a ∧ value = text a := by
  rw [Option.mem_toList, Option.map_eq_some_iff]
  constructor
  · rintro ⟨a, ho, h⟩
    cases h
    exact ⟨rfl, a, ho, rfl⟩
  · rintro ⟨rfl, a, ho, rfl⟩
    exact ⟨a, ho, rfl⟩

theorem carries_postOf (config : HttpConfig) (event : AuditEvent) (endpoint : String) :
    Carries config event (postOf config event endpoint) := by
  refine ⟨rfl, rfl, ?names, ?kind, ?token, ?client, ?tenant⟩
  case names =>
    simp only [postOf, headers, List.map_append]
    exact (((List.Sublist.refl ["Content-Type"]).append (sublist_header ..)).append
      (sublist_header ..)).append (sublist_header ..)
  all_goals simp only [postOf, headers, List.mem_append, mem_header, List.mem_singleton,
    Prod.mk.injEq]
  case kind => simp
  case token => simp
  case client => simp [eq_comm]
  case tenant => simp [Text.nonBlank?_eq_some_iff]

/-! ## Waits -/

/-- The wait after the message at a place of a group, from 0 on: it doubles each time, up to
the longest one of the settings. -/
def wait (config : HttpConfig) (k : Nat) : Nat :=
  min (config.initialBackoff.toNat * 2 ^ k) config.maxBackoff.toNat

theorem toNat_twice (time : UInt64) :
    (twice time).toNat = min (2 * time.toNat) (UInt64.size - 1) := by
  unfold twice
  rw [UInt64.toNat_ofNat', Nat.mod_eq_of_lt]
  unfold UInt64.size
  omega

theorem toNat_min (a b : UInt64) : (min a b).toNat = min a.toNat b.toNat := by
  by_cases h : a ≤ b
  · rw [Nat.min_eq_left (UInt64.le_iff_toNat_le.1 h)]
    exact congrArg UInt64.toNat (if_pos h)
  · rw [Nat.min_eq_right (Nat.le_of_not_le fun hle => h (UInt64.le_iff_toNat_le.2 hle))]
    exact congrArg UInt64.toNat (if_neg h)

/-- Doubling a wait gives the next one. Where the double is out of range, both are the longest
wait. -/
theorem toNat_wait_succ {time : UInt64} {k : Nat} (h : time.toNat = wait config k) :
    (min (twice time) config.maxBackoff).toNat = wait config (k + 1) := by
  have hmax := config.maxBackoff.toNat_lt
  rw [toNat_min, toNat_twice, h]
  unfold wait UInt64.size
  rw [Nat.pow_succ, ← Nat.mul_assoc]
  omega

/-- Settings that are right allow one attempt, and their first wait is not cut short. -/
theorem of_check (h : config.check = .ok ()) :
    config.maxAttempts ≠ 0 ∧ config.initialBackoff.toNat = wait config 0 := by
  unfold HttpConfig.check at h
  split at h
  · cases h
  · split at h
    · cases h
    · by_cases htimeout : config.timeout = 0
      · rw [if_pos htimeout] at h
        cases h
      · by_cases hattempts : config.maxAttempts = 0
        · rw [if_neg htimeout, if_pos hattempts] at h
          cases h
        · by_cases hbackoff : config.maxBackoff < config.initialBackoff
          · rw [if_neg htimeout, if_neg hattempts, if_pos hbackoff] at h
            cases h
          · refine ⟨hattempts, ?_⟩
            rw [UInt64.lt_iff_toNat_lt] at hbackoff
            unfold wait
            omega

/-! ## Transports under watch -/

/-- What a transport is asked: to post a message, and then its answer, or to wait. -/
inductive Action where
  | posted (post : Post) (answer : Except String UInt16)
  | slept (time : Nat)

/-- A message was posted and answered with a status that says that the event was taken. -/
def Action.Delivers (a : Action) : Prop :=
  ∃ post status, a = .posted post (.ok status) ∧ Accepts status

/-- The same transport with everything noted down that it is asked and answers. -/
def Transport.watched (transport : Transport σ) : Transport (σ × List Action) where
  post post := noting (.posted post) (transport.post post)
  sleep time := noting (fun _ => .slept time) (transport.sleep time)

theorem Transport.post_traces (transport : Transport σ) (post : Post) :
    Traces (transport.post post) (transport.watched.post post)
      fun actions answer => actions = [.posted post answer] :=
  Traces.of_noting _ _

theorem Transport.sleep_traces (transport : Transport σ) (time : Nat) :
    Traces (transport.sleep time) (transport.watched.sleep time)
      fun actions _ => actions = [.slept time] :=
  Traces.of_noting (fun _ => Action.slept time) _

/-! ## Groups of messages -/

/-- The messages to one endpoint: the statuses of those that another one followed, and the
answer to the last. -/
structure Group where
  endpoint : String
  retried : List UInt16
  last : Except String UInt16

namespace Group

/-- What the transport is asked in a group that starts with the wait at some place. -/
def logFrom (config : HttpConfig) (event : AuditEvent) (k : Nat) (g : Group) : List Action :=
  let post : Post := ⟨g.endpoint, headers config event.tenant, Json.compact (Wire.encode event),
    config.timeout.toNat⟩
  ((g.retried.zipIdx k).flatMap fun (status, k) =>
    [.posted post (.ok status), .slept (wait config k)]) ++ [.posted post g.last]

def log (config : HttpConfig) (event : AuditEvent) (g : Group) : List Action :=
  g.logFrom config event 0

/-- A group has so many messages at most. Every status before the last answer asks for another
attempt. When the last answer asks for one too, there is none left. -/
structure Ends (g : Group) (most : Nat) : Prop where
  atMost : g.retried.length + 1 ≤ most
  retried : ∀ status ∈ g.retried, AsksAgain status
  last : ∀ status, g.last = .ok status → AsksAgain status → g.retried.length + 1 = most

/-- The last answer says that the event was taken. -/
def Delivers (g : Group) : Prop := ∃ status, g.last = .ok status ∧ Accepts status

/-- Why an endpoint failed: the status of its last answer, or why there was none. -/
def failure (g : Group) : AuditError :=
  match g.last with
  | .ok status => .httpStatus g.endpoint status
  | .error reason => .transport g.endpoint reason

/-- What comes of a group. -/
def Gives (g : Group) : Taken → Prop
  | .ok () => g.Delivers
  | .error e => ¬ g.Delivers ∧ e = g.failure

theorem posted_of_mem_log {g : Group} {post : Post} {answer : Except String UInt16}
    (h : .posted post answer ∈ g.log config event) : post = postOf config event g.endpoint := by
  rcases List.mem_append.1 h with h | h
  · obtain ⟨⟨status, k⟩, _, h⟩ := List.mem_flatMap.1 h
    simp at h
    exact h.1
  · simp at h
    exact h.1

/-- No answer but the last says that the event was taken. -/
theorem endsWith_log {g : Group} {most : Nat} (hends : g.Ends most) {taken : Taken}
    (hgives : g.Gives taken) : EndsWith Action.Delivers (g.log config event) taken.isOk := by
  apply EndsWith.append
  · intro a ha
    obtain ⟨⟨status, k⟩, hmem, ha⟩ := List.mem_flatMap.1 ha
    have hagain := hends.retried status (List.fst_mem_of_mem_zipIdx hmem)
    rintro ⟨post, status', rfl, haccepts⟩
    simp at ha
    exact hagain.not_accepts (ha.2 ▸ haccepts)
  · rcases taken with e | _
    · rintro a ha ⟨post, status, rfl, haccepts⟩
      simp at ha
      exact hgives.1 ⟨status, ha.2.symm, haccepts⟩
    · obtain ⟨status, hlast, haccepts⟩ := hgives
      exact ⟨[], _, rfl, ⟨_, status, by rw [hlast], haccepts⟩, nofun⟩

end Group

/-! ## One endpoint -/

/-- What was asked and came of it is that of a group for the endpoint. -/
def Sent (config : HttpConfig) (event : AuditEvent) (endpoint : String) (k most : Nat)
    (actions : List Action) (taken : Taken) : Prop :=
  ∃ g : Group, g.endpoint = endpoint ∧ g.logFrom config event k = actions ∧ g.Ends most ∧
    g.Gives taken

namespace Sent

variable {endpoint : String} {k most : Nat} {status : UInt16} {actions : List Action}
  {taken : Taken}

theorem unanswered {reason : String} (hmost : 1 ≤ most) :
    Sent config event endpoint k most [.posted (postOf config event endpoint) (.error reason)]
      (.error (.transport endpoint reason)) :=
  ⟨⟨endpoint, [], .error reason⟩, rfl, rfl, ⟨hmost, nofun, nofun⟩, nofun, rfl⟩

theorem delivered (hmost : 1 ≤ most) (h : Accepts status) :
    Sent config event endpoint k most [.posted (postOf config event endpoint) (.ok status)]
      (.ok ()) := by
  refine ⟨⟨endpoint, [], .ok status⟩, rfl, rfl, ⟨hmost, nofun, ?_⟩, status, rfl, h⟩
  rintro _ ⟨⟩ hagain
  exact absurd h hagain.not_accepts

theorem refused (hmost : 1 ≤ most) (hnot : ¬ Accepts status)
    (hlast : AsksAgain status → most = 1) :
    Sent config event endpoint k most [.posted (postOf config event endpoint) (.ok status)]
      (.error (.httpStatus endpoint status)) := by
  refine ⟨⟨endpoint, [], .ok status⟩, rfl, rfl, ⟨hmost, nofun, ?_⟩, ?_, rfl⟩
  · rintro _ ⟨⟩ hagain
    exact (hlast hagain).symm
  · rintro ⟨_, ⟨⟩, haccepts⟩
    exact hnot haccepts

theorem again (hagain : AsksAgain status)
    (h : Sent config event endpoint (k + 1) most actions taken) :
    Sent config event endpoint k (most + 1)
      (.posted (postOf config event endpoint) (.ok status) :: .slept (wait config k) :: actions)
      taken := by
  obtain ⟨g, rfl, rfl, hends, hgives⟩ := h
  refine ⟨{ g with retried := status :: g.retried }, rfl, ?_, ⟨?_, ?_, ?_⟩, hgives⟩
  · simp [Group.logFrom, List.zipIdx_cons, postOf]
  · exact Nat.succ_le_succ hends.atMost
  · intro s hs
    rcases List.mem_cons.1 hs with rfl | hs
    · exact hagain
    · exact hends.retried s hs
  · intro s hs hsagain
    exact congrArg (· + 1) (hends.last s hs hsagain)

end Sent

/-- Sending with so many attempts left is a group that has one message more at most. -/
theorem send_traces (transport : Transport σ) (endpoint : String) {k : Nat} {backoff : UInt64}
    (hbackoff : backoff.toNat = wait config k) (left : Nat) :
    Traces (send transport config.maxBackoff (postOf config event endpoint) backoff left)
      (send transport.watched config.maxBackoff (postOf config event endpoint) backoff left)
      (Sent config event endpoint k (left + 1)) := by
  have hmost : 1 ≤ left + 1 := Nat.le_add_left ..
  unfold send
  apply (transport.post_traces _).bind
  rintro _ (reason | status) rfl
  · exact Traces.of_pure (.unanswered hmost)
  · by_cases haccepted : accepted status
    · simp only [if_pos haccepted]
      exact Traces.of_pure (.delivered hmost (accepted_iff.1 haccepted))
    · have hnot : ¬ Accepts status := fun h => haccepted (accepted_iff.2 h)
      simp only [if_neg haccepted]
      match left with
      | 0 => exact Traces.of_pure (.refused hmost hnot fun _ => rfl)
      | left + 1 =>
        by_cases hretryable : retryable status
        · simp only [if_pos hretryable]
          apply (transport.sleep_traces _).bind
          rintro _ _ rfl
          -- one attempt less, and the wait at the next place
          apply (send_traces transport endpoint (toNat_wait_succ hbackoff) left).mono
          intro actions taken hsent
          rw [hbackoff]
          exact hsent.again (retryable_iff.1 hretryable)
        · simp only [if_neg hretryable]
          exact Traces.of_pure (.refused hmost hnot fun h => absurd (retryable_iff.2 h) hretryable)

/-! ## One endpoint after the other -/

/-- The groups of endpoints that are tried in order, and what comes of it: each endpoint that
fails adds its failure, and the first that delivers is the last that is tried. -/
inductive Tried (most : Nat) :
    List String → List Group → Except (List AuditError) Unit → Prop
  | none : Tried most [] [] (.error [])
  | failed {g : Group} {rest : List String} {groups : List Group}
      {taken : Except (List AuditError) Unit} (ends : g.Ends most)
      (gives : g.Gives (.error g.failure)) (next : Tried most rest groups taken) :
    Tried most (g.endpoint :: rest) (g :: groups) (taken.mapError (g.failure :: ·))
  | delivered {g : Group} {rest : List String} (ends : g.Ends most) (gives : g.Gives (.ok ())) :
    Tried most (g.endpoint :: rest) [g] (.ok ())

theorem firstSuccess_traces (transport : Transport σ)
    (hbackoff : config.initialBackoff.toNat = wait config 0) (left : Nat) :
    (endpoints : List String) →
    Traces
      (firstSuccess (endpoints.map fun endpoint => send transport config.maxBackoff
        (postOf config event endpoint) config.initialBackoff left))
      (firstSuccess (endpoints.map fun endpoint => send transport.watched config.maxBackoff
        (postOf config event endpoint) config.initialBackoff left))
      fun actions taken => ∃ groups, groups.flatMap (Group.log config event) = actions ∧
        Tried (left + 1) endpoints groups taken
  | [] => Traces.of_pure ⟨[], rfl, .none⟩
  | endpoint :: rest => by
    apply (send_traces transport endpoint hbackoff left).bind
    rintro actions (e | _) ⟨g, rfl, rfl, hends, hgives⟩
    · obtain rfl := hgives.2
      apply (firstSuccess_traces transport hbackoff left rest).bind_pure
      rintro later (errors | _) ⟨groups, rfl, htried⟩
      · exact ⟨_, rfl, rfl, g :: groups, List.flatMap_cons .., .failed hends hgives htried⟩
      · exact ⟨_, rfl, rfl, g :: groups, List.flatMap_cons .., .failed hends hgives htried⟩
    · apply Traces.of_pure
      rw [List.append_nil]
      exact ⟨[g], List.flatMap_singleton .., .delivered hends hgives⟩

namespace Tried

variable {most : Nat} {endpoints : List String} {groups : List Group}
  {taken : Except (List AuditError) Unit}

theorem inOrder (h : Tried most endpoints groups taken) :
    groups.map Group.endpoint <+: endpoints := by
  induction h with
  | none => exact List.prefix_refl _
  | failed _ _ _ ih => exact List.cons_prefix_cons.2 ⟨rfl, ih⟩
  | delivered => exact List.cons_prefix_cons.2 ⟨rfl, List.nil_prefix⟩

theorem ends (h : Tried most endpoints groups taken) : ∀ g ∈ groups, g.Ends most := by
  induction h with
  | none => nofun
  | failed hends _ _ ih => exact List.forall_mem_cons.2 ⟨hends, ih⟩
  | delivered hends => exact List.forall_mem_singleton.2 hends

theorem endsWith (h : Tried most endpoints groups taken) :
    EndsWith Action.Delivers (groups.flatMap (Group.log config event)) taken.isOk := by
  induction h with
  | none => exact EndsWith.nil
  | failed hends hgives _ ih =>
    rw [List.flatMap_cons, isOk_mapError]
    exact (Group.endsWith_log hends hgives).append ih
  | delivered hends hgives =>
    rw [List.flatMap_singleton]
    exact Group.endsWith_log hends hgives

theorem errors (h : Tried most endpoints groups taken) {errors : List AuditError}
    (herrors : taken = .error errors) :
    groups.map Group.endpoint = endpoints ∧ errors = groups.map Group.failure := by
  induction h generalizing errors with
  | none =>
    cases herrors
    exact ⟨rfl, rfl⟩
  | failed _ _ _ ih =>
    obtain ⟨es, hes, rfl⟩ := mapError_eq_error.1 herrors
    obtain ⟨hendpoints, rfl⟩ := ih hes
    exact ⟨congrArg _ hendpoints, rfl⟩
  | delivered => cases herrors

end Tried

/-! ## The law -/

/-- What holds of every delivery. What the transport was asked is the log of some groups, for
endpoints of the settings in their order. All messages have one body, one timeout and the same
headers: those that carry the event under the settings. The event was taken exactly when an answer
says so, and nothing is asked after that answer. Otherwise there is a group for every endpoint, and
an error of each in the same order. -/
structure Delivery (config : HttpConfig) (event : AuditEvent) (groups : List Group)
    (actions : List Action) (taken : Taken) : Prop where
  log : actions = groups.flatMap (Group.log config event)
  inOrder : groups.map Group.endpoint <+: config.endpoints
  ends : ∀ g ∈ groups, g.Ends config.maxAttempts.toNat
  alike : ∀ p a q b, .posted p a ∈ actions → .posted q b ∈ actions →
    p.body = q.body ∧ p.headers = q.headers ∧ p.timeout = q.timeout
  carries : ∀ post answer, .posted post answer ∈ actions → Carries config event post
  taken_iff : taken = .ok () ↔ ∃ a ∈ actions, a.Delivers
  last : ∀ before a after, actions = before ++ a :: after → a.Delivers → after = []
  errors : ∀ e, taken = .error e → groups.map Group.endpoint = config.endpoints ∧
    e = .endpointsExhausted (groups.map Group.failure)

theorem Tried.delivery {groups : List Group} {taken : Except (List AuditError) Unit}
    (h : Tried config.maxAttempts.toNat config.endpoints groups taken) :
    Delivery config event groups (groups.flatMap (Group.log config event))
      (taken.mapError .endpointsExhausted) := by
  have hends : EndsWith _ (groups.flatMap (Group.log config event)) _ := h.endsWith
  refine ⟨rfl, h.inOrder, h.ends, ?_, ?_, ?_, ?_, ?_⟩
  · intro p a q b hp hq
    obtain ⟨g, _, hp⟩ := List.mem_flatMap.1 hp
    obtain ⟨g', _, hq⟩ := List.mem_flatMap.1 hq
    rw [Group.posted_of_mem_log hp, Group.posted_of_mem_log hq]
    exact ⟨rfl, rfl, rfl⟩
  · intro post answer hpost
    obtain ⟨g, _, hpost⟩ := List.mem_flatMap.1 hpost
    rw [Group.posted_of_mem_log hpost]
    exact carries_postOf config event g.endpoint
  · rw [← isOk_eq_true_iff, isOk_mapError]
    exact hends.iff_exists
  · intro before a after hlog ha
    exact (hends.last hlog ha).1
  · intro e he
    obtain ⟨errors, herrors, rfl⟩ := mapError_eq_error.1 he
    obtain ⟨hendpoints, rfl⟩ := h.errors herrors
    exact ⟨hendpoints, rfl⟩

/-- Under settings that are right, a valid event goes to the endpoints in order until one
takes it. Take any transport, that has a state and answers any status or none, and any state
of it. Noting down what it is asked changes nothing, and what is noted down and the answer
are those of a delivery. -/
theorem a_delivery_tries_each_endpoint_in_turn (transport : Transport σ) (config : HttpConfig)
    (event : AuditEvent) (st : σ) (hconfig : config.check = .ok ())
    (hevent : event.validate = .ok ()) :
    ∃ taken after groups actions,
      ((sink transport config).append event).run st = (taken, after) ∧
      ((sink transport.watched config).append event).run (st, []) = (taken, after, actions) ∧
      Delivery config event groups actions taken := by
  obtain ⟨hattempts, hbackoff⟩ := of_check hconfig
  have hmost : config.maxAttempts.toNat - 1 + 1 = config.maxAttempts.toNat := by
    have hne : config.maxAttempts.toNat ≠ 0 := fun h => hattempts (UInt32.toNat_inj.1 h)
    omega
  have htraces : Traces ((sink transport config).append event)
      ((sink transport.watched config).append event)
      fun actions taken => ∃ groups, Delivery config event groups actions taken := by
    unfold sink
    simp only [hevent]
    apply (firstSuccess_traces transport hbackoff _ config.endpoints).bind_pure
    rw [hmost]
    rintro actions (errors | _) ⟨groups, rfl, htried⟩
    · exact ⟨_, rfl, rfl, groups, htried.delivery⟩
    · exact ⟨_, rfl, rfl, groups, htried.delivery⟩
  obtain ⟨actions, hrun, groups, hdelivery⟩ := htraces st []
  exact ⟨_, _, groups, actions, rfl, hrun, hdelivery⟩

/-- A transport that gives the answers of a list, and none after them. -/
def scripted : Transport (List (Except String UInt16)) where
  post _ := do
    match ← get with
    | [] => return .error "no answer left"
    | answer :: rest =>
      set rest
      return answer
  sleep _ := return ()

/-- Two endpoints, three messages to each at most, and waits of 400 and then 500. -/
def twoEndpoints : HttpConfig :=
  { HttpConfig.standard with
    endpoints := ["https://audit", "https://spare"], initialBackoff := 400, maxBackoff := 500 }

/-- The event of a tenant without a name who may see everything. -/
def granted : AuditEvent where
  timestamp := 0
  request := ⟨"", "alice", "oncall", "incident_review", "turn:turn-1", .l0, []⟩
  decision := .allow []

/-- What the transport is asked when the first endpoint is busy three times. -/
def busyLog : List Action :=
  let audit := postOf twoEndpoints granted "https://audit"
  let spare := postOf twoEndpoints granted "https://spare"
  [.posted audit (.ok 503), .slept 400, .posted audit (.ok 429), .slept 500,
    .posted audit (.ok 500), .posted spare (.ok 204)]

theorem a_busy_endpoint_is_waited_for_and_left :
    twoEndpoints.check = .ok () ∧ granted.validate = .ok () ∧
      ∃ groups, Delivery twoEndpoints granted groups busyLog (.ok ()) := by
  have hconfig : twoEndpoints.check = .ok () := by rfl
  have hevent : granted.validate = .ok () := by rfl
  obtain ⟨taken, after, groups, actions, -, hrun, hdelivery⟩ :=
    a_delivery_tries_each_endpoint_in_turn scripted twoEndpoints granted
      [.ok 503, .ok 429, .ok 500, .ok 204] hconfig hevent
  have hlog : (taken, after, actions) = (.ok (), [], busyLog) := hrun.symm.trans (by cbv)
  cases hlog
  exact ⟨hconfig, hevent, groups, hdelivery⟩

end ReplayEvidence.Http
