import Turbocat.Connectors.HttpClient

/-! What 429s do to the requests of the HTTP client: how they end, and what is sent again. -/

namespace Turbocat.Connectors.Http

open Turbocat.Library Turbocat.Python RetryableHTTPClient

/-- `get` or `post`, with the body it sends. -/
inductive Operation where
  | get
  | post (json : Json)

/-- A request by one of them. -/
def Operation.run (lower : String → String) (host : Host) (client : RetryableHTTPClient)
    (endpoint : String) (headers : Option Headers) (params : Option Dict) (replies : List SentReply)
    : Operation → Run
  | get => client.get lower host endpoint headers params replies
  | post json => client.post lower host endpoint json params headers replies

def Operation.method : Operation → String
  | get => "GET"
  | post _ => "POST"

def Operation.json : Operation → Option Json
  | get => none
  | post json => some json

/-- The arguments they pass to `_request`. -/
def Operation.kwargs (headers : Option Headers) (params : Option Dict) (operation : Operation)
    : Kwargs :=
  { json := operation.json, params := params, headers := some headers }

/-- What the calls of `session.request` among some calls send. -/
def sentOf (calls : List ClientCall) : List SentRequest :=
  calls.filterMap
    (fun call =>
      match call with
      | .send sent => some sent
      | .sleep _ => none)

/-- The waits among some calls. -/
def waitsOf (calls : List ClientCall) : List Int :=
  calls.filterMap
    (fun call =>
      match call with
      | .send _ => none
      | .sleep seconds => some seconds)

theorem Operation.run_eq {lower : String → String} {host : Host} {client : RetryableHTTPClient}
    {endpoint : String} (operation : Operation) (headers : Option Headers)
    (params : Option Dict) (replies : List SentReply)
    : operation.run lower host client endpoint headers params replies
      = client.request lower host operation.method endpoint (operation.kwargs headers params)
          replies := by
  cases operation with
  | get => rfl
  | post json => rfl

section

variable {lower : String → String} {host : Host} {client : RetryableHTTPClient}
  {method endpoint : String} {kwargs : Kwargs}

theorem timeSleep_eq_ok_iff {seconds : Int}
    : timeSleep seconds = .ok () ↔ 0 ≤ seconds ∧ seconds ≤ 9223372036 := by
  unfold timeSleep
  by_cases negative : seconds < 0
  · rw [if_pos negative]
    constructor
    · intro waited
      nomatch waited
    · intro ⟨positive, _⟩
      omega
  · rw [if_neg negative]
    by_cases long : 9223372036 < seconds
    · rw [if_pos long]
      constructor
      · intro waited
        nomatch waited
      · intro ⟨_, short⟩
        omega
    · rw [if_neg long]
      exact ⟨fun _ => ⟨by omega, by omega⟩, fun _ => rfl⟩

/-- What `time.sleep` raises is no HTTP error. -/
theorem timeSleep_error {seconds : Int} {error : RequestError}
    (refused : timeSleep seconds = .error error)
    : ∃ exception, error = .other exception := by
  unfold timeSleep at refused
  by_cases negative : seconds < 0
  · rw [if_pos negative] at refused
    cases refused
    exact ⟨_, rfl⟩
  · rw [if_neg negative] at refused
    by_cases long : 9223372036 < seconds
    · rw [if_pos long] at refused
      cases refused
      exact ⟨_, rfl⟩
    · rw [if_neg long] at refused
      cases refused

variable (lower host) in
/-- The `Retry-After` of a reply, where it has one that `int` reads, is a time that
`time.sleep` can wait.
-/
def Waitable (response : Response) : Prop :=
  ∀ retryAfter seconds,
    response.headers.value lower "Retry-After" = some retryAfter
    → retryAfter ≠ ""
    → host.intOfStr retryAfter = some seconds
    → 0 ≤ seconds ∧ seconds ≤ 9223372036

theorem timeSleep_waitSeconds_iff {response : Response}
    : timeSleep (waitSeconds lower host response) = .ok () ↔ Waitable lower host response := by
  rw [timeSleep_eq_ok_iff]
  constructor
  · intro waited retryAfter seconds present stated parsed
    unfold waitSeconds at waited
    simp only [present, if_neg stated, parsed, Option.getD_some] at waited
    exact waited
  · intro waitable
    unfold waitSeconds
    cases present : response.headers.value lower "Retry-After" with
    | none => simp
    | some retryAfter =>
        by_cases empty : retryAfter = ""
        · simp only [if_pos empty]
          exact ⟨by omega, by omega⟩
        · cases parsed : host.intOfStr retryAfter with
          | none =>
              simp only [if_neg empty, parsed, Option.getD_none]
              exact ⟨by omega, by omega⟩
          | some seconds =>
              simp only [if_neg empty, parsed, Option.getD_some]
              exact waitable retryAfter seconds present empty parsed

/-- While the waits are possible, a request sends once more for every 429 and ends with the
first other reply, by induction over the 429s.
-/
theorem request_delayed {limited : List Response} {final : Response} {later : List SentReply}
    (rateLimited : ∀ response ∈ limited, response.statusCode = 429)
    (answered : final.statusCode ≠ 429)
    (waitable : ∀ response ∈ limited, Waitable lower host response)
    : ∃ calls,
        Ends
            (client.request lower host method endpoint kwargs
              (limited.map Except.ok ++ .ok final :: later))
            calls (endWith final)
          ∧ (sentOf calls).length = limited.length + 1
          ∧ waitsOf calls = limited.map (waitSeconds lower host) := by
  induction limited generalizing kwargs with
  | nil => exact ⟨_, request_answered answered, rfl, rfl⟩
  | cons response others ih =>
      obtain ⟨calls, ends, sent, waits⟩ := @ih (client.mergeHeaders kwargs).2
        (fun other within => rateLimited other (List.mem_cons_of_mem _ within))
        (fun other within => waitable other (List.mem_cons_of_mem _ within))
      have waited := timeSleep_waitSeconds_iff.mpr (waitable response List.mem_cons_self)
      refine ⟨_, request_retried (rateLimited response List.mem_cons_self) waited ends, ?_, ?_⟩
      · exact congrArg Nat.succ sent
      · exact congrArg (waitSeconds lower host response :: ·) waits

/-- A wait that is not possible ends the request with an exception of `time.sleep`. -/
theorem request_fails {limited : List Response} {later : List SentReply}
    (rateLimited : ∀ response ∈ limited, response.statusCode = 429)
    (unwaitable : ∃ response ∈ limited, ¬ Waitable lower host response)
    : ∃ calls exception,
        Ends
          (client.request lower host method endpoint kwargs (limited.map Except.ok ++ later))
          calls (.error (.other exception)) := by
  induction limited generalizing kwargs with
  | nil =>
      obtain ⟨_, within, _⟩ := unwaitable
      nomatch within
  | cons response others ih =>
      have limit := rateLimited response List.mem_cons_self
      cases waited : timeSleep (waitSeconds lower host response) with
      | error error =>
          obtain ⟨exception, rfl⟩ := timeSleep_error waited
          exact ⟨_, exception, request_refused limit waited⟩
      | ok _ =>
          have elsewhere : ∃ other ∈ others, ¬ Waitable lower host other := by
            obtain ⟨other, within, refused⟩ := unwaitable
            rcases List.mem_cons.mp within with here | there
            · rw [here] at refused
              exact absurd (timeSleep_waitSeconds_iff.mp waited) refused
            · exact ⟨other, there, refused⟩
          obtain ⟨calls, exception, ends⟩ := @ih (client.mergeHeaders kwargs).2
            (fun other within => rateLimited other (List.mem_cons_of_mem _ within)) elsewhere
          exact ⟨_, exception, request_retried limit waited ends⟩

/-- 429s only delay `get` and `post` (a request more and a wait for each, and the end that the
first other reply gives) exactly when `time.sleep` can wait for what each of them says.
-/
theorem rate_limits_delay_iff (operation : Operation) (headers : Option Headers)
    (params : Option Dict) {limited : List Response} {final : Response}
    {later : List SentReply}
    (rateLimited : ∀ response ∈ limited, response.statusCode = 429)
    (answered : final.statusCode ≠ 429)
    : (∃ calls,
          Ends
              (operation.run lower host client endpoint headers params
                (limited.map Except.ok ++ .ok final :: later))
              calls (endWith final)
            ∧ (sentOf calls).length = limited.length + 1
            ∧ (waitsOf calls).length = limited.length)
        ↔ ∀ response ∈ limited, Waitable lower host response := by
  rw [operation.run_eq]
  constructor
  · intro delayed response within
    obtain ⟨calls, ends, _, _⟩ := delayed
    by_contra refused
    obtain ⟨_, exception, fails⟩ := @request_fails lower host client operation.method endpoint
      (operation.kwargs headers params) limited (.ok final :: later) rateLimited
      ⟨response, within, refused⟩
    have same := (ends.unique fails).2
    unfold endWith at same
    split at same
    · nomatch same
    · nomatch same
  · intro waitable
    obtain ⟨calls, ends, sent, waits⟩ := @request_delayed lower host client operation.method
      endpoint (operation.kwargs headers params) limited final later rateLimited answered waitable
    refine ⟨calls, ends, sent, ?_⟩
    rw [waits, List.length_map]

/-- A client without headers of its own. -/
def plainClient : RetryableHTTPClient :=
  { baseUrl := "https://api.example.com", timeout := 10, sessionHeaders := [] }

/-- A 429 that does not say when to try again delays a request. -/
theorem rate_limits_delay_unsaid
    : ∃ calls,
        Ends
            (Operation.get.run String.toLower Host.utc plainClient "/items" none none
              [.ok ⟨429, []⟩, .ok ⟨200, []⟩])
            calls (endWith ⟨200, []⟩)
          ∧ (sentOf calls).length = 2
          ∧ (waitsOf calls).length = 1 := by
  apply (@rate_limits_delay_iff String.toLower Host.utc plainClient "/items" Operation.get none
    none [⟨429, []⟩] ⟨200, []⟩ [] ?_ (by decide)).mpr
  · intro response within retryAfter seconds present
    rw [List.mem_singleton.mp within] at present
    nomatch present
  · intro response within
    rw [List.mem_singleton.mp within]

/-- A host on which `int` reads one text. -/
def minusOneHost : Host :=
  { Host.utc with intOfStr := fun text => if text = "-1" then some (-1) else none }

/-- A 429 that says to try again before now fails the request. -/
theorem negative_retry_after_raises
    : ∃ calls,
        Ends
            (Operation.get.run String.toLower minusOneHost plainClient "/items" none none
              [.ok ⟨429, [("Retry-After", "-1")]⟩, .ok ⟨200, []⟩])
            calls (.error (.other ⟨.valueError, "sleep length must be non-negative"⟩))
          ∧ (sentOf calls).length = 1 := by
  have present : Headers.value String.toLower [("Retry-After", "-1")] "Retry-After"
      = some "-1" := by
    simp [Headers.value]
  refine ⟨_, request_refused rfl ?_, rfl⟩
  unfold waitSeconds
  simp only [present]
  rfl

/-! ### What a retry sends -/

/-- The value a header of a request has: the one the call gives, or else the session's. -/
def SentRequest.effectiveHeaders (lower : String → String) (session : Headers)
    (sent : SentRequest) (name : String)
    : Option String :=
  ((sent.headers.getD []).value lower name).or (session.value lower name)

/-- The first call of a request has the headers of its session, overridden by its own. -/
theorem firstSent_effective {headers : Option Headers} {json : Option Json}
    {params : Option Dict} (name : String)
    : (client.firstSent method endpoint ⟨json, params, some headers⟩).effectiveHeaders lower
        client.sessionHeaders name
      = (client.sessionHeaders.update (headers.getD [])).value lower name := by
  unfold firstSent requestKwargs mergeHeaders SentRequest.effectiveHeaders
  cases headers with
  | none => simp [Headers.value]
  | some headers =>
      cases headers with
      | nil => simp [Headers.value]
      | cons header others => exact Headers.value_update_or name

/-- Once its own headers are popped, or where it has none, nothing changes the arguments of a
request.
-/
theorem mergeHeaders_again
    : client.mergeHeaders (client.mergeHeaders kwargs).2
      = (client.sessionHeaders, (client.mergeHeaders kwargs).2) := by
  unfold mergeHeaders
  cases given : kwargs.headers with
  | none => simp only [given]
  | some own =>
      cases own with
      | none => simp only [given]
      | some headers =>
          cases headers with
          | nil => simp [given]
          | cons header others => simp

/-- A retry has the headers of its session. -/
theorem retrySent_effective {headers : Option Headers} {json : Option Json}
    {params : Option Dict} (name : String)
    : (client.firstSent method endpoint
          (client.mergeHeaders ⟨json, params, some headers⟩).2).effectiveHeaders lower
        client.sessionHeaders name
      = client.sessionHeaders.value lower name := by
  unfold firstSent
  rw [mergeHeaders_again]
  unfold requestKwargs mergeHeaders SentRequest.effectiveHeaders
  cases headers with
  | none => simp [Headers.value]
  | some headers =>
      cases headers with
      | nil => simp [Headers.value]
      | cons header others => simp

/-- Every call of a request after its first is the same, by induction over the replies. There
is one exactly when the first reply is a 429 whose wait is possible.
-/
theorem request_resends (replies : List SentReply)
    : ∃ calls outcome count,
        Ends (client.request lower host method endpoint kwargs replies) calls outcome
          ∧ sentOf calls
            = client.firstSent method endpoint kwargs
              :: List.replicate count
                  (client.firstSent method endpoint (client.mergeHeaders kwargs).2)
          ∧ (0 < count
            ↔ ∃ response,
                replies.head? = some (.ok response)
                ∧ response.statusCode = 429
                ∧ Waitable lower host response) := by
  induction replies generalizing kwargs with
  | nil => exact ⟨_, _, 0, request_waits, rfl, by simp⟩
  | cons reply later ih =>
      cases reply with
      | error error => exact ⟨_, _, 0, request_raises, rfl, by simp⟩
      | ok response =>
          by_cases limited : response.statusCode = 429
          · cases waited : timeSleep (waitSeconds lower host response) with
            | error error =>
                refine ⟨_, _, 0, request_refused limited waited, rfl, ?_⟩
                constructor
                · intro positive
                  exact absurd positive (Nat.lt_irrefl 0)
                · rintro ⟨other, same, _, waitable⟩
                  cases same
                  rw [timeSleep_waitSeconds_iff.mpr waitable] at waited
                  nomatch waited
            | ok _ =>
                obtain ⟨calls, outcome, count, ends, sent, _⟩ :=
                  @ih (client.mergeHeaders kwargs).2
                rw [mergeHeaders_again] at sent
                refine ⟨_, outcome, count + 1, request_retried limited waited ends, ?_, ?_⟩
                · exact congrArg (client.firstSent method endpoint kwargs :: ·) sent
                · constructor
                  · intro _
                    exact ⟨response, rfl, limited, timeSleep_waitSeconds_iff.mp waited⟩
                  · intro _
                    exact Nat.succ_pos count
          · refine ⟨_, _, 0, request_answered limited, rfl, ?_⟩
            constructor
            · intro positive
              exact absurd positive (Nat.lt_irrefl 0)
            · rintro ⟨other, same, status, _⟩
              cases same
              exact absurd status limited

/-- What a call of a request was asked to send. -/
structure Carries (lower : String → String) (client : RetryableHTTPClient)
    (operation : Operation) (endpoint : String) (params : Option Dict) (headers : Headers)
    (sent : SentRequest)
    : Prop where
  method : sent.method = operation.method
  url : sent.url = client.baseUrl ++ endpoint
  params : sent.params = params
  json : sent.json = operation.json
  timeout : sent.timeout = client.timeout
  headers
    : ∀ name,
        sent.effectiveHeaders lower client.sessionHeaders name
        = (client.sessionHeaders.update headers).value lower name

/-- Merging headers leaves the other arguments. -/
theorem mergeHeaders_others
    : (client.mergeHeaders kwargs).2.json = kwargs.json
      ∧ (client.mergeHeaders kwargs).2.params = kwargs.params := by
  unfold mergeHeaders
  cases kwargs.headers with
  | none => exact ⟨rfl, rfl⟩
  | some own =>
      cases own with
      | none => exact ⟨rfl, rfl⟩
      | some headers => cases headers <;> exact ⟨rfl, rfl⟩

section

variable (operation : Operation) (headers : Option Headers) (params : Option Dict)

/-- The first call of a request sends what it was asked to send. -/
theorem firstSent_carries
    : Carries lower client operation endpoint params (headers.getD [])
        (client.firstSent operation.method endpoint (operation.kwargs headers params)) where
  method := rfl
  url := rfl
  params := mergeHeaders_others.2
  json := mergeHeaders_others.1
  timeout := rfl
  headers := firstSent_effective

/-- A retry does so exactly when the headers asked for leave those of the session. -/
theorem retrySent_carries_iff
    : Carries lower client operation endpoint params (headers.getD [])
        (client.firstSent operation.method endpoint
          (client.mergeHeaders (operation.kwargs headers params)).2)
      ↔ client.sessionHeaders.Unmoved lower (headers.getD []) := by
  constructor
  · intro carries name
    rw [← carries.headers name]
    exact retrySent_effective name
  · intro unmoved
    refine ⟨rfl, rfl, ?_, ?_, rfl, ?_⟩
    · exact mergeHeaders_others.2.trans mergeHeaders_others.2
    · exact mergeHeaders_others.1.trans mergeHeaders_others.1
    · intro name
      exact (retrySent_effective name).trans (unmoved name).symm

end

/-- The first reply is a 429 whose wait is possible exactly when the first 429 is one. -/
theorem first_reply_waitable_iff {limited : List Response} {final : Response}
    {later : List SentReply}
    (rateLimited : ∀ response ∈ limited, response.statusCode = 429)
    (answered : final.statusCode ≠ 429)
    : (∃ response,
          (limited.map Except.ok ++ .ok final :: later : List SentReply).head?
            = some (.ok response)
          ∧ response.statusCode = 429
          ∧ Waitable lower host response)
        ↔ ∃ first, limited.head? = some first ∧ Waitable lower host first := by
  cases limited with
  | nil =>
      constructor
      · rintro ⟨response, first, status, _⟩
        cases first
        exact absurd status answered
      · rintro ⟨response, absent, _⟩
        cases absent
  | cons response others =>
      constructor
      · rintro ⟨first, same, _, waitable⟩
        cases same
        exact ⟨response, rfl, waitable⟩
      · rintro ⟨first, same, waitable⟩
        cases same
        exact ⟨response, rfl, rateLimited response List.mem_cons_self, waitable⟩

/-- `get` and `post` send the same on every call, with the headers of the session overridden by
those of the request, exactly when the request is not retried or its headers leave those of the
session as they are.
-/
theorem retries_unchanged_iff (operation : Operation) (headers : Option Headers)
    (params : Option Dict) {limited : List Response} {final : Response}
    {later : List SentReply}
    (rateLimited : ∀ response ∈ limited, response.statusCode = 429)
    (answered : final.statusCode ≠ 429)
    : ∃ calls outcome,
        Ends
            (operation.run lower host client endpoint headers params
              (limited.map Except.ok ++ .ok final :: later))
            calls outcome
          ∧ ((∀ response ∈ limited, Waitable lower host response)
            → (sentOf calls).length = limited.length + 1)
          ∧ ((∀ sent ∈ sentOf calls,
                Carries lower client operation endpoint params (headers.getD []) sent)
            ↔ ((∃ first, limited.head? = some first ∧ Waitable lower host first)
              → client.sessionHeaders.Unmoved lower (headers.getD []))) := by
  rw [operation.run_eq]
  obtain ⟨calls, outcome, count, ends, sent, retried⟩ :=
    @request_resends lower host client operation.method endpoint
      (operation.kwargs headers params) (limited.map Except.ok ++ .ok final :: later)
  refine ⟨calls, outcome, ends, ?_, ?_⟩
  · intro waitable
    obtain ⟨others, delayed, length, _⟩ := @request_delayed lower host client operation.method
      endpoint (operation.kwargs headers params) limited final later rateLimited answered waitable
    rw [(ends.unique delayed).1, length]
  · rw [first_reply_waitable_iff rateLimited answered] at retried
    rw [← retried, sent]
    constructor
    · intro carried positive
      apply (retrySent_carries_iff operation headers params).mp
      apply carried
      exact List.mem_cons_of_mem _ (List.mem_replicate.mpr ⟨positive.ne', rfl⟩)
    · intro unmoved other within
      rcases List.mem_cons.mp within with first | retry
      · rw [first]
        exact firstSent_carries operation headers params
      · obtain ⟨positive, same⟩ := List.mem_replicate.mp retry
        rw [same]
        apply (retrySent_carries_iff operation headers params).mpr
        exact unmoved (Nat.pos_of_ne_zero positive)

/-- A request without headers of its own is sent again as it was. -/
theorem retries_unchanged_without_headers
    : ∃ calls outcome,
        Ends
            (Operation.get.run String.toLower Host.utc plainClient "/items" none none
              [.ok ⟨429, []⟩, .ok ⟨200, []⟩])
            calls outcome
          ∧ ∀ sent ∈ sentOf calls,
              Carries String.toLower plainClient Operation.get "/items" none [] sent := by
  obtain ⟨calls, outcome, ends, _, unchanged⟩ :=
    @retries_unchanged_iff String.toLower Host.utc plainClient "/items" Operation.get none
      none [⟨429, []⟩] ⟨200, []⟩ []
      (fun response within => by rw [List.mem_singleton.mp within]) (by decide)
  refine ⟨calls, outcome, ends, unchanged.mpr ?_⟩
  intro _ name
  rfl

/-- The headers of a request are not sent again. -/
theorem retry_drops_headers
    : ∃ calls outcome first second,
        Ends
            (Operation.get.run String.toLower Host.utc plainClient "/items"
              (some [("X-Request-ID", "abc")]) none [.ok ⟨429, []⟩, .ok ⟨200, []⟩])
            calls outcome
          ∧ sentOf calls = [first, second]
          ∧ first.effectiveHeaders String.toLower [] "X-Request-ID" = some "abc"
          ∧ second.effectiveHeaders String.toLower [] "X-Request-ID" = none := by
  refine ⟨_, _, _, _, request_retried rfl rfl (request_answered (by decide)), rfl, ?_, ?_⟩
  · simp [firstSent, requestKwargs, mergeHeaders, plainClient, SentRequest.effectiveHeaders,
      Headers.update, Headers.value]
  · rfl

end

end Turbocat.Connectors.Http
