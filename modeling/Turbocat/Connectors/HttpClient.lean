import Turbocat.Connectors.Models
import Turbocat.Library.Effects

/-! The HTTP client of the sources: a request, and its retries while the source answers 429.
A session sends and `time.sleep` waits; both are calls the client attempts.
-/

namespace Turbocat.Connectors.Http

open Turbocat.Library Turbocat.Python

/-- Headers as a dict, by their names as written. -/
abbrev Headers := List (String × String)

namespace Headers

/-- `dict.update`: the names of `headers` in place, overridden, then the new ones. -/
def update (headers other : Headers) : Headers :=
  headers.map (fun header => (header.1, (other.lookup header.1).getD header.2))
  ++ other.filter (fun header => (headers.lookup header.1).isNone)

/-- The value of a header, whatever the case of its name: the last one set. -/
def value (lower : String → String) (headers : Headers) (name : String) : Option String :=
  ((headers.filter (fun header => lower header.1 == lower name)).getLast?).map
    (fun header => header.2)

section

variable {lower : String → String}

theorem value_eq_none_iff {headers : Headers} {name : String}
    : headers.value lower name = none ↔ ∀ header ∈ headers, lower header.1 ≠ lower name := by
  unfold value
  simp

@[simp]
theorem update_nil (headers : Headers) : headers.update [] = headers := by
  simp [update]

/-- Updated headers have every name that they had. -/
theorem value_update_or {session headers : Headers} (name : String)
    : ((session.update headers).value lower name).or (session.value lower name)
      = (session.update headers).value lower name := by
  cases updated : (session.update headers).value lower name with
  | some _ => rfl
  | none =>
      rw [Option.none_or, value_eq_none_iff]
      rw [value_eq_none_iff] at updated
      intro header within
      apply updated (header.1, (headers.lookup header.1).getD header.2)
      exact List.mem_append_left _ (List.mem_map_of_mem within)

/-- No two headers have one name, up to its case. -/
def Distinct (lower : String → String) (headers : Headers) : Prop :=
  ∀ header ∈ headers, ∀ other ∈ headers, lower header.1 = lower other.1 → header = other

theorem value_congr {headers : Headers} {name other : String} (same : lower name = lower other)
    : headers.value lower name = headers.value lower other := by
  unfold value
  rw [same]

theorem value_append (left right : Headers) (name : String)
    : value lower (left ++ right) name = (right.value lower name).or (left.value lower name) := by
  unfold value
  rw [List.filter_append, List.getLast?_append]
  cases (right.filter (fun header => lower header.1 == lower name)).getLast? <;> rfl

theorem value_of_distinct {headers : Headers} (distinct : headers.Distinct lower)
    {header : String × String} (within : header ∈ headers)
    : headers.value lower header.1 = some header.2 := by
  cases found : headers.value lower header.1 with
  | none =>
      rw [value_eq_none_iff] at found
      exact absurd rfl (found header within)
  | some text =>
      unfold value at found
      obtain ⟨last, ends, rfl⟩ := Option.map_eq_some_iff.mp found
      obtain ⟨present, named⟩ := List.mem_filter.mp (List.mem_of_getLast? ends)
      rw [distinct last present header within (beq_iff_eq.mp named)]

theorem lookup_of_distinct {headers : Headers} (distinct : headers.Distinct lower)
    {header : String × String} (within : header ∈ headers)
    : headers.lookup header.1 = some header.2 := by
  cases found : headers.lookup header.1 with
  | none =>
      have absent := List.lookup_eq_none_iff.mp found header within
      simp at absent
  | some text =>
      obtain ⟨before, after, split, _⟩ := List.lookup_eq_some_iff.mp found
      have present : (header.1, text) ∈ headers := by
        rw [split]
        exact List.mem_append_right _ List.mem_cons_self
      rw [← distinct (header.1, text) present header within rfl]

/-- A header that updates others has the value it sets. -/
theorem value_update_of_mem {session headers : Headers}
    (sessionDistinct : session.Distinct lower) (distinct : headers.Distinct lower)
    {header : String × String} (within : header ∈ headers)
    : (session.update headers).value lower header.1 = some header.2 := by
  unfold update
  rw [value_append]
  cases found : session.lookup header.1 with
  | none =>
      have added : header ∈ headers.filter (fun other => (session.lookup other.1).isNone) :=
        List.mem_filter.mpr ⟨within, by rw [found]; rfl⟩
      have addedDistinct : Distinct lower
          (headers.filter (fun other => (session.lookup other.1).isNone)) :=
        fun one first other second =>
          distinct one (List.mem_of_mem_filter first) other (List.mem_of_mem_filter second)
      rw [value_of_distinct addedDistinct added]
      rfl
  | some text =>
      have absent : value lower (headers.filter (fun other => (session.lookup other.1).isNone))
          header.1 = none := by
        rw [value_eq_none_iff]
        intro other new same
        obtain ⟨otherWithin, isNew⟩ := List.mem_filter.mp new
        rw [distinct other otherWithin header within same, found] at isNew
        nomatch isNew
      rw [absent, Option.none_or]
      obtain ⟨before, after, split, _⟩ := List.lookup_eq_some_iff.mp found
      have present : (header.1, text) ∈ session := by
        rw [split]
        exact List.mem_append_right _ List.mem_cons_self
      have overridden : header
          ∈ session.map (fun other => (other.1, (headers.lookup other.1).getD other.2)) := by
        refine List.mem_map.mpr ⟨(header.1, text), present, ?_⟩
        rw [lookup_of_distinct distinct within]
        rfl
      apply value_of_distinct _ overridden
      intro one first other second same
      obtain ⟨oneHeld, oneWithin, rfl⟩ := List.mem_map.mp first
      obtain ⟨otherHeld, otherWithin, rfl⟩ := List.mem_map.mp second
      rw [sessionDistinct oneHeld oneWithin otherHeld otherWithin same]

/-- A header that others do not set keeps its value. -/
theorem value_update_of_not_mem {session headers : Headers} {name : String}
    (unset : ∀ header ∈ headers, lower header.1 ≠ lower name)
    : (session.update headers).value lower name = session.value lower name := by
  unfold update
  have absent : value lower (headers.filter (fun other => (session.lookup other.1).isNone))
      name = none := by
    rw [value_eq_none_iff]
    exact fun header new => unset header (List.mem_of_mem_filter new)
  rw [value_append, absent, Option.none_or]
  unfold value
  rw [List.filter_map]
  congr 2
  apply List.map_congr_left (g := id) _ |>.trans (List.map_id _)
  intro header matching
  have same := beq_iff_eq.mp (List.mem_filter.mp matching).2
  have free : headers.lookup header.1 = none := by
    apply List.lookup_eq_none_iff.mpr
    intro other within
    apply bne_iff_ne.mpr
    intro named
    exact unset other within (named ▸ same)
  rw [free]
  rfl

/-- Merged into those of a session, some headers leave all of them as they are. -/
def Unmoved (lower : String → String) (session headers : Headers) : Prop :=
  ∀ name, (session.update headers).value lower name = session.value lower name

/-- Headers leave those of a session as they are exactly when each of them repeats the value
that the session has for it.
-/
theorem unmoved_iff {session headers : Headers} (sessionDistinct : session.Distinct lower)
    (distinct : headers.Distinct lower)
    : session.Unmoved lower headers
      ↔ ∀ header ∈ headers, session.value lower header.1 = some header.2 := by
  constructor
  · intro unmoved header within
    rw [← unmoved, value_update_of_mem sessionDistinct distinct within]
  · intro repeated name
    by_cases named : ∃ header ∈ headers, lower header.1 = lower name
    · obtain ⟨header, within, same⟩ := named
      rw [← value_congr same, ← value_congr same,
        value_update_of_mem sessionDistinct distinct within, repeated header within]
    · apply value_update_of_not_mem
      intro header within same
      exact named ⟨header, within, same⟩

end

end Headers

/-- A reply of a source. -/
structure Response where
  statusCode : Int
  headers : Headers
  deriving DecidableEq, Repr

/-- What a request raises. -/
inductive RequestError where
  | httpError (response : Response)
  | other (exception : PyException)
  deriving DecidableEq, Repr

/-- How a call of `session.request` ends. -/
abbrev SentReply := Except RequestError Response

/-- The arguments of a call of `session.request`. -/
structure SentRequest where
  method : String
  url : String
  headers : Option Headers
  timeout : Int
  json : Option Json
  params : Option Dict
  deriving Repr

/-- A call the client attempts. -/
inductive ClientCall where
  | send (sent : SentRequest)
  | sleep (seconds : Int)
  deriving Repr

/-- The keyword arguments of `_request`: an absent one is not passed, and `None` is a value. -/
structure Kwargs where
  json : Option Json := none
  params : Option Dict
  headers : Option (Option Headers)
  deriving Repr

/-- A client, with the headers of its session. -/
structure RetryableHTTPClient where
  baseUrl : String
  timeout : Int
  sessionHeaders : Headers
  deriving Repr

/-- `time.sleep`. -/
def timeSleep (seconds : Int) : Except RequestError Unit :=
  if seconds < 0 then .error (.other ⟨.valueError, "sleep length must be non-negative"⟩)
  -- The clock counts nanoseconds in 64 bits.
  else if 9223372036 < seconds then
    .error (.other ⟨.overflowError, "timestamp too large to convert to C PyTime_t"⟩)
  else .ok ()

/-- `Response.raise_for_status`. -/
def Response.raiseForStatus (response : Response) : Traced RequestError ClientCall Unit :=
  if 400 ≤ response.statusCode ∧ response.statusCode < 600 then throw (.httpError response)
  else return ()

namespace RetryableHTTPClient

/-- A request of the client. There is no response while the session waits for a reply. -/
abbrev Run := Traced RequestError ClientCall (Option Response)

section

variable (lower : String → String) (host : Host) (client : RetryableHTTPClient)
  (method endpoint : String)

/-- The merged headers of a request, and the arguments left once theirs are popped. -/
def mergeHeaders (kwargs : Kwargs) : Headers × Kwargs :=
  match kwargs.headers with
  | some (some headers) =>
      if headers.isEmpty then (client.sessionHeaders, kwargs)
      else (client.sessionHeaders.update headers, { kwargs with headers := none })
  | _ => (client.sessionHeaders, kwargs)

/-- `request_kwargs`, where what is left of the arguments overrides the rest. -/
def requestKwargs (requestHeaders : Headers) (kwargs : Kwargs) : SentRequest :=
  {
    method := method
    url := client.baseUrl ++ endpoint
    headers := kwargs.headers.getD (some requestHeaders)
    timeout := client.timeout
    json := kwargs.json
    params := kwargs.params
  }

/-- How long `_handle_rate_limit` waits. -/
def waitSeconds (response : Response) : Int :=
  match response.headers.value lower "Retry-After" with
  | some retryAfter => if retryAfter = "" then 60 else (host.intOfStr retryAfter).getD 60
  | none => 60

/-- `_handle_rate_limit`. -/
def handleRateLimit (response : Response) : Traced RequestError ClientCall Unit :=
  attempt (.sleep (waitSeconds lower host response)) (timeSleep (waitSeconds lower host response))

/-- `_request`, given how the calls of `session.request` end. -/
def request (kwargs : Kwargs) : List SentReply → Run
  | [] => do
      let merged := client.mergeHeaders kwargs
      attempt (.send (client.requestKwargs method endpoint merged.1 merged.2)) (.ok ())
      return none
  | reply :: later => do
      let merged := client.mergeHeaders kwargs
      let response ← attempt (.send (client.requestKwargs method endpoint merged.1 merged.2)) reply
      if response.statusCode = 429 then
        handleRateLimit lower host response
        request merged.2 later
      else
        response.raiseForStatus
        return some response

/-- `get`. -/
def get (headers : Option Headers) (params : Option Dict) (replies : List SentReply) : Run :=
  client.request lower host "GET" endpoint { params := params, headers := some headers } replies

/-- `post`. -/
def post (json : Json) (params : Option Dict) (headers : Option Headers)
    (replies : List SentReply)
    : Run :=
  client.request lower host "POST" endpoint
    { json := some json, params := params, headers := some headers } replies

end

variable {lower : String → String} {host : Host} {client : RetryableHTTPClient}
  {method endpoint : String} {kwargs : Kwargs}

variable (client method endpoint kwargs) in
/-- What the first call of a request sends. -/
def firstSent : SentRequest :=
  client.requestKwargs method endpoint (client.mergeHeaders kwargs).1
    (client.mergeHeaders kwargs).2

/-- A request that is not answered yet. -/
theorem request_waits
    : Ends (client.request lower host method endpoint kwargs [])
        [.send (client.firstSent method endpoint kwargs)] (.ok none) :=
  Ends.attempt_bind (Ends.pure _)

/-- A request whose call raises. -/
theorem request_raises {error : RequestError} {later : List SentReply}
    : Ends (client.request lower host method endpoint kwargs (.error error :: later))
        [.send (client.firstSent method endpoint kwargs)] (.error error) :=
  Ends.attempt_raised

/-- How a request ends with a reply that is not a 429. -/
def endWith (response : Response) : Except RequestError (Option Response) :=
  if 400 ≤ response.statusCode ∧ response.statusCode < 600 then .error (.httpError response)
  else .ok (some response)

theorem request_answered {response : Response} {later : List SentReply}
    (answered : response.statusCode ≠ 429)
    : Ends (client.request lower host method endpoint kwargs (.ok response :: later))
        [.send (client.firstSent method endpoint kwargs)] (endWith response) := by
  unfold request
  apply Ends.attempt_bind
  rw [if_neg answered]
  unfold Response.raiseForStatus endWith
  by_cases failed : 400 ≤ response.statusCode ∧ response.statusCode < 600
  · rw [if_pos failed, if_pos failed]
    exact Ends.bind_raised (Ends.throw _)
  · rw [if_neg failed, if_neg failed]
    exact Ends.bind (Ends.pure _) (Ends.pure _)

/-- A 429 whose wait `time.sleep` refuses ends the request. -/
theorem request_refused {response : Response} {later : List SentReply} {error : RequestError}
    (limited : response.statusCode = 429)
    (refused : timeSleep (waitSeconds lower host response) = .error error)
    : Ends (client.request lower host method endpoint kwargs (.ok response :: later))
        [.send (client.firstSent method endpoint kwargs),
          .sleep (waitSeconds lower host response)]
        (.error error) := by
  unfold request
  apply Ends.attempt_bind
  rw [if_pos limited]
  unfold handleRateLimit
  rw [refused]
  exact Ends.attempt_raised

/-- After a 429 and its wait, a request goes on with the arguments its first call left. -/
theorem request_retried {response : Response} {later : List SentReply}
    {calls : List ClientCall} {outcome : Except RequestError (Option Response)}
    (limited : response.statusCode = 429)
    (waited : timeSleep (waitSeconds lower host response) = .ok ())
    (rest : Ends (client.request lower host method endpoint (client.mergeHeaders kwargs).2 later)
      calls outcome)
    : Ends (client.request lower host method endpoint kwargs (.ok response :: later))
        (.send (client.firstSent method endpoint kwargs)
          :: .sleep (waitSeconds lower host response) :: calls)
        outcome := by
  unfold request
  apply Ends.attempt_bind
  rw [if_pos limited]
  unfold handleRateLimit
  rw [waited]
  exact Ends.attempt_bind rest

end RetryableHTTPClient

end Turbocat.Connectors.Http
