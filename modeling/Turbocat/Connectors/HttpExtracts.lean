import Turbocat.Connectors.RateLimits
import Turbocat.Connectors.Registry

/-! `extract` over the HTTP client: the loops of the connectors with the calls their requests
become, and the replies that are left of those of the session once 429s have been waited for.
-/

namespace Turbocat.Connectors.Http

open Turbocat.Library Turbocat.Python RetryableHTTPClient

-----------------------------------------------------------------------------------------
-- One request
-----------------------------------------------------------------------------------------

/-- What a call of `session.request` brings: a response, with what `raise_for_status` raises
for it and what its `json` decodes to, or an exception.
-/
inductive SessionReply where
  | answer (response : Response) (statusError : PyException) (json : Except PyException Json)
  | failed (exception : PyException)

def SessionReply.sent : SessionReply → SentReply
  | .answer response _ _ => .ok response
  | .failed exception => .error (.other exception)

/-- What `get(..).json()` raises or returns, when this reply ends the `get` in a certain way;
there is nothing while the session waits.
-/
def SessionReply.reply (last : SessionReply)
    : Except RequestError (Option Response) → Option Reply
  | .error (.other exception) => some (.error exception)
  | .error (.httpError _) =>
      match last with
      | .answer _ statusError _ => some (.error statusError)
      | .failed exception => some (.error exception)
  | .ok none => none
  | .ok (some _) =>
      match last with
      | .answer _ _ json => some json
      | .failed exception => some (.error exception)

/-- What a request that has used some replies comes to. -/
def endedWith (replies : List SessionReply) (used : Nat)
    (outcome : Except RequestError (Option Response))
    : Option Reply :=
  (replies[used - 1]?.map (fun last => last.reply outcome)).getD none

/-- A request that was made: the calls it became, what came of it and the replies left. -/
structure Fetched where
  calls : List ClientCall
  reply : Option Reply
  rest : List SessionReply

/-- The method of the client that a request is made by; the connectors post no body. -/
def operation (request : Request) : Operation :=
  if request.method = "GET" then .get else .post .null

section

variable (lower : String → String) (host : Host) (client : RetryableHTTPClient)

/-- `self.http_client.get(endpoint, params=params).json()`, or the same with `post`. -/
def fetch (request : Request) (replies : List SessionReply) : Fetched :=
  let ended :=
    ((operation request).run lower host client request.endpoint none (some request.params)
      (replies.map SessionReply.sent)).run.run []
  let used := (sentOf ended.2).length
  {
    calls := ended.2
    reply := endedWith replies used ended.1
    rest := replies.drop used
  }

/-- What the first call for a request sends. -/
def sentFor (request : Request) : SentRequest :=
  client.firstSent (operation request).method request.endpoint
    ((operation request).kwargs none (some request.params))

/-- The replies of the session with the 429s waited for; one that cannot be waited for ends
the request with what `time.sleep` raises.
-/
def settled : List SessionReply → List Reply
  | [] => []
  | .failed exception :: later => .error exception :: settled later
  | .answer response statusError json :: later =>
      if response.statusCode = 429 then
        match timeSleep (waitSeconds lower host response) with
        | .ok _ => settled later
        | .error (.other exception) => .error exception :: settled later
        | .error (.httpError _) => .error statusError :: settled later
      else if 400 ≤ response.statusCode ∧ response.statusCode < 600 then
        .error statusError :: settled later
      else json :: settled later

end

section

variable {lower : String → String} {host : Host} {client : RetryableHTTPClient}

/-- How a request goes over the replies of a session: each call sends the same. -/
inductive Goes (lower : String → String) (host : Host) (sent : SentRequest)
    : List SessionReply → List ClientCall → Except RequestError (Option Response) → Prop
  | waits : Goes lower host sent [] [.send sent] (.ok none)
  | fails {exception later}
    : Goes lower host sent (.failed exception :: later) [.send sent] (.error (.other exception))
  | answered {response statusError json later} (final : response.statusCode ≠ 429)
    : Goes lower host sent (.answer response statusError json :: later) [.send sent]
        (endWith response)
  | refused {response statusError json later error} (limited : response.statusCode = 429)
    (refuses : timeSleep (waitSeconds lower host response) = .error error)
    : Goes lower host sent (.answer response statusError json :: later)
        [.send sent, .sleep (waitSeconds lower host response)] (.error error)
  | retried {response statusError json later calls outcome}
    (limited : response.statusCode = 429)
    (waited : timeSleep (waitSeconds lower host response) = .ok ())
    (goes : Goes lower host sent later calls outcome)
    : Goes lower host sent (.answer response statusError json :: later)
        (.send sent :: .sleep (waitSeconds lower host response) :: calls) outcome

/-- A request without headers of its own goes on with the arguments it had, by induction over
the replies.
-/
theorem request_goes {method endpoint : String} {kwargs : Kwargs}
    (plain : client.mergeHeaders kwargs = (client.sessionHeaders, kwargs))
    (replies : List SessionReply)
    : ∃ calls outcome,
        Ends
            (client.request lower host method endpoint kwargs (replies.map SessionReply.sent))
            calls outcome
        ∧ Goes lower host (client.firstSent method endpoint kwargs) replies calls outcome := by
  induction replies with
  | nil => exact ⟨_, _, request_waits, .waits⟩
  | cons reply later ih =>
      cases reply with
      | failed exception => exact ⟨_, _, request_raises, .fails⟩
      | answer response statusError json =>
          by_cases limited : response.statusCode = 429
          · cases waited : timeSleep (waitSeconds lower host response) with
            | error error =>
                exact ⟨_, _, request_refused limited waited, .refused limited waited⟩
            | ok _ =>
                obtain ⟨calls, outcome, ends, goes⟩ := ih
                refine ⟨_, _, request_retried limited waited ?_, .retried limited waited goes⟩
                rw [plain]
                exact ends
          · exact ⟨_, _, request_answered limited, .answered limited⟩

/-- A request of a connector, with the calls it becomes. -/
theorem fetch_goes (request : Request) (replies : List SessionReply)
    : ∃ outcome,
        Goes lower host (sentFor client request) replies
            (fetch lower host client request replies).calls outcome
        ∧ (fetch lower host client request replies).rest
          = replies.drop (sentOf (fetch lower host client request replies).calls).length
        ∧ (fetch lower host client request replies).reply
          = endedWith replies (sentOf (fetch lower host client request replies).calls).length
              outcome := by
  have plain
      : client.mergeHeaders ((operation request).kwargs none (some request.params))
        = (client.sessionHeaders, (operation request).kwargs none (some request.params)) :=
    rfl
  obtain ⟨calls, outcome, ends, goes⟩ :=
    @request_goes lower host client (operation request).method request.endpoint _ plain replies
  have ran := ends []
  rw [List.nil_append] at ran
  have fetched
      : fetch lower host client request replies
        = ⟨calls, endedWith replies (sentOf calls).length outcome,
            replies.drop (sentOf calls).length⟩ := by
    simp only [fetch, Operation.run_eq, ran]
  rw [fetched]
  exact ⟨outcome, goes, rfl, rfl⟩

/-- A request makes at least one call and uses no more replies than there are. -/
theorem Goes.sent {sent : SentRequest} {replies : List SessionReply} {calls : List ClientCall}
    {outcome : Except RequestError (Option Response)}
    (goes : Goes lower host sent replies calls outcome)
    : ∃ retries, sentOf calls = List.replicate (retries + 1) sent ∧ retries ≤ replies.length := by
  induction goes with
  | waits => exact ⟨0, rfl, Nat.zero_le _⟩
  | fails => exact ⟨0, rfl, Nat.zero_le _⟩
  | answered _ => exact ⟨0, rfl, Nat.zero_le _⟩
  | refused _ _ => exact ⟨0, rfl, Nat.zero_le _⟩
  | retried _ _ _ ih =>
      obtain ⟨retries, same, few⟩ := ih
      exact ⟨retries + 1, congrArg (List.cons _) same, Nat.succ_le_succ few⟩

/-- A request settles the first of the replies that are left once 429s are waited for, or
waits where none is left.
-/
theorem Goes.settles {sent : SentRequest} {replies : List SessionReply}
    {calls : List ClientCall} {outcome : Except RequestError (Option Response)}
    (goes : Goes lower host sent replies calls outcome)
    : match endedWith replies (sentOf calls).length outcome with
      | none => settled lower host replies = []
      | some reply =>
          settled lower host replies
              = reply :: settled lower host (replies.drop (sentOf calls).length)
            ∧ (replies.drop (sentOf calls).length).length < replies.length := by
  induction goes with
  | waits => rfl
  | fails => exact ⟨rfl, Nat.lt_succ_self _⟩
  | @answered response statusError json later final =>
      by_cases failed : 400 ≤ response.statusCode ∧ response.statusCode < 600
      · simp [sentOf, endWith, failed, endedWith, SessionReply.reply, settled, final]
      · simp [sentOf, endWith, failed, endedWith, SessionReply.reply, settled, final]
  | @refused response statusError json later error limited refuses =>
      cases error with
      | httpError response =>
          simp [sentOf, endedWith, SessionReply.reply, settled, limited, refuses]
      | other exception =>
          simp [sentOf, endedWith, SessionReply.reply, settled, limited, refuses]
  | @retried response statusError json later calls outcome limited waited goes ih =>
      obtain ⟨retries, same, _⟩ := goes.sent
      have used : (sentOf calls).length = retries + 1 := by
        rw [same, List.length_replicate]
      have more (sent : SentRequest) (seconds : Int)
          : (sentOf (.send sent :: .sleep seconds :: calls)).length = retries + 2 :=
        congrArg Nat.succ used
      have shifted
          : endedWith (.answer response statusError json :: later) (retries + 2) outcome
            = endedWith later (retries + 1) outcome :=
        rfl
      have skipped
          : settled lower host (.answer response statusError json :: later)
            = settled lower host later := by
        simp only [settled, if_pos limited, waited]
      rw [used] at ih
      rw [more, shifted, skipped]
      cases found : endedWith later (retries + 1) outcome with
      | none =>
          rw [found] at ih
          exact ih
      | some reply =>
          rw [found] at ih
          exact ⟨ih.1, Nat.lt_succ_of_lt ih.2⟩

variable (lower host client) in
/-- What a request makes of the replies of its session. -/
structure Settles (request : Request) (replies : List SessionReply) (fetched : Fetched)
    : Prop where
  repeats
    : ∃ retries,
        sentOf fetched.calls = List.replicate (retries + 1) (sentFor client request)
  waiting : fetched.reply = none → settled lower host replies = []
  answered
    : ∀ reply, fetched.reply = some reply →
        settled lower host replies = reply :: settled lower host fetched.rest
        ∧ fetched.rest.length < replies.length

theorem fetch_settles (request : Request) (replies : List SessionReply)
    : Settles lower host client request replies (fetch lower host client request replies) := by
  obtain ⟨outcome, goes, rest, reply⟩ := @fetch_goes lower host client request replies
  have settles := goes.settles
  refine ⟨?_, fun waits => ?_, fun value answers => ?_⟩
  · obtain ⟨retries, same, _⟩ := goes.sent
    exact ⟨retries, same⟩
  · rw [← reply, waits] at settles
    exact settles
  · rw [← reply, answers] at settles
    rw [rest]
    exact settles

end

-----------------------------------------------------------------------------------------
-- The loops
-----------------------------------------------------------------------------------------

/-- One step of a generator: a request with the calls it became, or a yielded record. -/
inductive HttpEvent where
  | request (sent : Request) (calls : List ClientCall)
  | record (item : Json) (yielded : Record)

/-- The steps of a generator over the client and its end. -/
structure HttpRun where
  events : List HttpEvent
  outcome : ExtractOutcome

/-- A step without its calls. -/
def HttpEvent.plain : HttpEvent → ExtractEvent
  | .request sent _ => .request sent
  | .record item yielded => .record item yielded

def HttpEvent.ofExtract : ExtractEvent → HttpEvent
  | .request sent => .request sent []
  | .record item yielded => .record item yielded

def HttpRun.plain (run : HttpRun) : ExtractRun := ⟨run.events.map HttpEvent.plain, run.outcome⟩

/-- The same run after some earlier events. -/
def HttpRun.after (run : HttpRun) (earlier : List HttpEvent) : HttpRun :=
  { run with events := earlier ++ run.events }

section

variable (lower : String → String) (host : Host) (client : RetryableHTTPClient)

/-- The paging loop of the Razorpay connectors; `fuel` bounds its turns. -/
def pages (request : Nat → Request) (transform : Transform) (clock : Nat → Datetime)
    : (fuel skip fetched : Nat) → List SessionReply → HttpRun
  | 0, _, _, _ => ⟨[], .waiting⟩
  | fuel + 1, skip, fetched, replies =>
      let got := fetch lower host client (request skip) replies
      let asked : HttpEvent := .request (request skip) got.calls
      match got.reply with
      | none => ⟨[asked], .waiting⟩
      | some (.error exception) => ⟨[asked], .raised exception⟩
      | some (.ok data) =>
          match pageItems data with
          | .error exception => ⟨[asked], .raised exception⟩
          | .ok items =>
              if items.isEmpty then ⟨[asked], .returned⟩
              else
                let yielded := yieldItems transform clock fetched items
                let events := asked :: yielded.1.map HttpEvent.ofExtract
                match yielded.2 with
                | some exception => ⟨events, .raised exception⟩
                | none =>
                    if items.length < pageCount then ⟨events, .returned⟩
                    else
                      (pages request transform clock fuel (skip + pageCount)
                        (fetched + items.length) got.rest).after events

/-- The loop of the Kapture connector over the days up to `last`. -/
def ticketDays (config : KaptureTickets.Config) (transform : Transform)
    (clock : Nat → Datetime) (last : Int)
    : (fuel : Nat) → (current : Int) → (fetched : Nat) → List SessionReply → HttpRun
  | 0, _, _, _ => ⟨[], .waiting⟩
  | fuel + 1, current, fetched, replies =>
      if last < current then ⟨[], .returned⟩
      else
        let got := fetch lower host client (KaptureTickets.request config current) replies
        let asked : HttpEvent := .request (KaptureTickets.request config current) got.calls
        match got.reply with
        | none => ⟨[asked], .waiting⟩
        | some (.error exception) => ⟨[asked], .raised exception⟩
        | some (.ok data) =>
            let tickets := KaptureTickets.ticketItems data
            let yielded := yieldItems transform clock fetched tickets
            let events := asked :: yielded.1.map HttpEvent.ofExtract
            match yielded.2 with
            | some exception => ⟨events, .raised exception⟩
            | none =>
                if current = maxDay then ⟨events, .raised dateOutOfRange⟩
                else
                  (ticketDays config transform clock last fuel (current + 1)
                    (fetched + tickets.length) got.rest).after events

/-- `extract` over the client. Each turn of a loop uses a reply, so there is fuel enough. -/
def extract (cls : ConnectorClass) (env : ExtractEnv) (startTime endTime : Option Datetime)
    (replies : List SessionReply)
    : HttpRun :=
  match cls with
  | .razorpayOrders =>
      pages lower env.host client (RazorpayOrders.request startTime endTime)
        (RazorpayOrders.transform env.host) env.clock (replies.length + 1) 0 0 replies
  | .razorpayCustomers =>
      pages lower env.host client RazorpayCustomers.request
        (RazorpayCustomers.transform env.host) env.clock (replies.length + 1) 0 0 replies
  | .kaptureTickets =>
      ticketDays lower env.host client env.config (KaptureTickets.transform env.host) env.clock
        (endTime.getD env.now).date (replies.length + 1) (startTime.getD env.now).date 0 replies

end

section

variable {lower : String → String} {host : Host} {client : RetryableHTTPClient}

/-- Events without calls are those they were made of. -/
theorem plain_ofExtract (events : List ExtractEvent)
    : (events.map HttpEvent.ofExtract).map HttpEvent.plain = events := by
  have each (event : ExtractEvent) : (HttpEvent.ofExtract event).plain = event := by
    cases event <;> rfl
  rw [List.map_map, show HttpEvent.plain ∘ HttpEvent.ofExtract = id from funext each, List.map_id]

@[simp]
theorem plain_after (run : HttpRun) (earlier : List HttpEvent)
    : (run.after earlier).plain = run.plain.after (earlier.map HttpEvent.plain) := by
  simp [HttpRun.plain, HttpRun.after, ExtractRun.after]

variable (client) in
/-- A run over the client that does what a run over plain replies does, where each request is
repeated as it is.
-/
structure Refines (run : HttpRun) (plain : ExtractRun) : Prop where
  plain : run.plain = plain
  repeats
    : ∀ sent calls,
        .request sent calls ∈ run.events
        → ∃ retries, sentOf calls = List.replicate (retries + 1) (sentFor client sent)

/-- Yielding records makes no request. -/
theorem not_asked {sent : Request} {calls : List ClientCall} (transform : Transform)
    (clock : Nat → Datetime) (index : Nat) (items : List Json)
    : HttpEvent.request sent calls
      ∉ (yieldItems transform clock index items).1.map HttpEvent.ofExtract := by
  intro member
  obtain ⟨event, among, same⟩ := List.mem_map.mp member
  have none_ := requestsOf_yieldItems transform clock index items
  cases event with
  | record item yielded => cases same
  | request other =>
      have asked : other ∈ requestsOf (yieldItems transform clock index items).1 :=
        List.mem_filterMap.mpr ⟨_, among, rfl⟩
      rw [none_] at asked
      cases asked

section

variable {sent : Request} {replies : List SessionReply} {got : Fetched} {transform : Transform}
  {clock : Nat → Datetime} {index : Nat} {items : List Json}

/-- A request, the records of its reply and what the loop does afterwards. -/
theorem Refines.turn {run : HttpRun} {plain : ExtractRun}
    (settles : Settles lower host client sent replies got) (later : Refines client run plain)
    : Refines client
        (run.after
          (.request sent got.calls
            :: (yieldItems transform clock index items).1.map HttpEvent.ofExtract))
        (plain.after (.request sent :: (yieldItems transform clock index items).1)) where
  plain := by
    rw [plain_after, later.plain, List.map_cons, plain_ofExtract]
    rfl
  repeats := by
    intro other calls member
    rcases List.mem_append.mp member with here | there
    · rcases List.mem_cons.mp here with same | yielded
      · cases same
        exact settles.repeats
      · exact absurd yielded (not_asked transform clock index items)
    · exact later.repeats other calls there

/-- A request and the records of its reply, when the loop ends there. -/
theorem Refines.last (settles : Settles lower host client sent replies got)
    (outcome : ExtractOutcome)
    : Refines client
        ⟨.request sent got.calls
            :: (yieldItems transform clock index items).1.map HttpEvent.ofExtract,
          outcome⟩
        ⟨.request sent :: (yieldItems transform clock index items).1, outcome⟩ := by
  have nothing : Refines client ⟨[], outcome⟩ ⟨[], outcome⟩ :=
    ⟨rfl, fun _ _ member => absurd member List.not_mem_nil⟩
  have turn := @Refines.turn lower host client sent replies got transform clock index items _ _
    settles nothing
  simp only [HttpRun.after, ExtractRun.after, List.append_nil] at turn
  exact turn

/-- A request whose reply yields nothing. -/
theorem Refines.bare (settles : Settles lower host client sent replies got)
    (outcome : ExtractOutcome)
    : Refines client ⟨[.request sent got.calls], outcome⟩ ⟨[.request sent], outcome⟩ :=
  @Refines.last lower host client sent replies got (fun _ _ => .ok []) (fun _ => default) 0 []
    settles outcome

end

/-- The paging loop over the client is the one over the replies left after 429s, by induction
over its turns.
-/
theorem pages_refines {request : Nat → Request} {transform : Transform}
    {clock : Nat → Datetime} (fuel : Nat)
    : ∀ skip fetched replies,
        replies.length < fuel
        → Refines client
            (pages lower host client request transform clock fuel skip fetched replies)
            (offsetPages request transform clock skip fetched (settled lower host replies)) := by
  induction fuel with
  | zero => exact fun _ _ _ short => absurd short (Nat.not_lt_zero _)
  | succ fuel ih =>
      intro skip fetched replies short
      have settles := @fetch_settles lower host client (request skip) replies
      unfold pages
      generalize fetch lower host client (request skip) replies = got at settles ⊢
      obtain ⟨calls, answer, rest⟩ := got
      cases answer with
      | none =>
          rw [settles.waiting rfl]
          exact .bare settles .waiting
      | some reply =>
          obtain ⟨same, shorter⟩ := settles.answered reply rfl
          rw [same]
          cases reply with
          | error exception => exact .bare settles (.raised exception)
          | ok data =>
              cases page : pageItems data with
              | error exception =>
                  simp only [offsetPages, page]
                  exact .bare settles (.raised exception)
              | ok items =>
                  simp only [page, offsetPages_page fetched page]
                  by_cases empty : items.isEmpty = true
                  · simp only [if_pos empty]
                    exact .bare settles .returned
                  · simp only [if_neg empty]
                    have last := @Refines.last lower host client (request skip) replies _
                      transform clock fetched items settles
                    cases loop : yieldItems transform clock fetched items with
                    | mk events ended =>
                        simp only [loop] at last
                        cases ended with
                        | some exception => exact last (.raised exception)
                        | none =>
                            by_cases ends : items.length < pageCount
                            · simp only [if_pos ends]
                              exact last .returned
                            · simp only [if_neg ends]
                              have later := ih (skip + pageCount) (fetched + items.length)
                                rest (Nat.lt_of_lt_of_le shorter (Nat.le_of_lt_succ short))
                              have turn := @Refines.turn lower host client (request skip)
                                replies _ transform clock fetched items _ _ settles later
                              simp only [loop] at turn
                              exact turn

/-- So is the loop over the days. -/
theorem ticketDays_refines {config : KaptureTickets.Config} {transform : Transform}
    {clock : Nat → Datetime} {last : Int} (fuel : Nat)
    : ∀ current fetched replies,
        replies.length < fuel
        → Refines client
            (ticketDays lower host client config transform clock last fuel current fetched
              replies)
            (KaptureTickets.days config transform clock last current fetched
              (settled lower host replies)) := by
  induction fuel with
  | zero => exact fun _ _ _ short => absurd short (Nat.not_lt_zero _)
  | succ fuel ih =>
      intro current fetched replies short
      unfold ticketDays
      by_cases ended : last < current
      · have past
            : KaptureTickets.days config transform clock last current fetched
                (settled lower host replies)
              = ⟨[], .returned⟩ := by
          cases settled lower host replies <;> simp only [KaptureTickets.days, if_pos ended]
        rw [if_pos ended, past]
        exact ⟨rfl, fun _ _ member => absurd member List.not_mem_nil⟩
      · rw [if_neg ended]
        have settles :=
          @fetch_settles lower host client (KaptureTickets.request config current) replies
        generalize fetch lower host client (KaptureTickets.request config current) replies = got
          at settles ⊢
        obtain ⟨calls, answer, rest⟩ := got
        cases answer with
        | none =>
            rw [settles.waiting rfl]
            simp only [KaptureTickets.days, if_neg ended]
            exact .bare settles .waiting
        | some reply =>
            obtain ⟨same, shorter⟩ := settles.answered reply rfl
            rw [same]
            cases reply with
            | error exception =>
                simp only [KaptureTickets.days, if_neg ended]
                exact .bare settles (.raised exception)
            | ok data =>
                simp only [KaptureTickets.days_day config transform clock ended]
                have last_ := @Refines.last lower host client
                  (KaptureTickets.request config current) replies _ transform clock fetched
                  (KaptureTickets.ticketItems data) settles
                cases loop : yieldItems transform clock fetched (KaptureTickets.ticketItems data) with
                | mk events raised =>
                    simp only [loop] at last_
                    cases raised with
                    | some exception => exact last_ (.raised exception)
                    | none =>
                        by_cases final : current = maxDay
                        · simp only [if_pos final]
                          exact last_ (.raised dateOutOfRange)
                        · simp only [if_neg final]
                          have later := ih (current + 1)
                            (fetched + (KaptureTickets.ticketItems data).length) rest
                            (Nat.lt_of_lt_of_le shorter (Nat.le_of_lt_succ short))
                          have turn := @Refines.turn lower host client
                            (KaptureTickets.request config current) replies _ transform clock
                            fetched (KaptureTickets.ticketItems data) _ _ settles later
                          simp only [loop] at turn
                          exact turn

/-- What is left of replies is left of each part of them. -/
theorem settled_append (before after : List SessionReply)
    : settled lower host (before ++ after)
      = settled lower host before ++ settled lower host after := by
  induction before with
  | nil => rfl
  | cons reply rest ih =>
      cases reply with
      | failed exception => exact congrArg _ ih
      | answer response statusError json =>
          simp only [List.cons_append, settled]
          by_cases limited : response.statusCode = 429
          · simp only [if_pos limited]
            cases timeSleep (waitSeconds lower host response) with
            | ok _ => exact ih
            | error error => cases error <;> exact congrArg _ ih
          · simp only [if_neg limited]
            by_cases failed : 400 ≤ response.statusCode ∧ response.statusCode < 600
            · simp only [if_pos failed]
              exact congrArg _ ih
            · simp only [if_neg failed]
              exact congrArg _ ih

variable (lower host) in
/-- A 429 that can be waited for. -/
def RateLimited (reply : SessionReply) : Prop :=
  ∃ response statusError json,
    reply = .answer response statusError json
    ∧ response.statusCode = 429
    ∧ Waitable lower host response

/-- Nothing is left of 429s that can be waited for. -/
theorem settled_rateLimited {replies : List SessionReply}
    (limited : ∀ reply ∈ replies, RateLimited lower host reply)
    : settled lower host replies = [] := by
  induction replies with
  | nil => rfl
  | cons reply rest ih =>
      obtain ⟨⟨response, statusError, json, rfl, status, waitable⟩, others⟩ :=
        List.forall_mem_cons.mp limited
      simp only [settled, if_pos status, timeSleep_waitSeconds_iff.mpr waitable]
      exact ih others

end

/-- Over the client, a connector extracts what it extracts from the replies that are left once
429s have been waited for, and repeats each request as it was. So 429s between the replies,
when they can be waited for, change nothing in what is extracted or how it ends.
-/
theorem extract_over_client (lower : String → String) (client : RetryableHTTPClient)
    (cls : ConnectorClass) (env : ExtractEnv) (startTime endTime : Option Datetime)
    (replies : List SessionReply)
    : Refines client (extract lower client cls env startTime endTime replies)
        (cls.extract env startTime endTime (settled lower env.host replies))
      ∧ ∀ before limited after,
          replies = before ++ limited ++ after
          → (∀ reply ∈ limited, RateLimited lower env.host reply)
          → (extract lower client cls env startTime endTime replies).plain
            = (extract lower client cls env startTime endTime (before ++ after)).plain := by
  have refines (replies : List SessionReply)
      : Refines client (extract lower client cls env startTime endTime replies)
          (cls.extract env startTime endTime (settled lower env.host replies)) := by
    cases cls with
    | razorpayOrders => exact pages_refines _ 0 0 replies (Nat.lt_succ_self _)
    | razorpayCustomers => exact pages_refines _ 0 0 replies (Nat.lt_succ_self _)
    | kaptureTickets => exact ticketDays_refines _ _ 0 replies (Nat.lt_succ_self _)
  refine ⟨refines replies, fun before limited after split_ waited => ?_⟩
  have same
      : settled lower env.host replies = settled lower env.host (before ++ after) := by
    rw [split_, settled_append, settled_append, settled_append, settled_rateLimited waited,
      List.append_nil]
  rw [(refines replies).plain, (refines (before ++ after)).plain, same]

end Turbocat.Connectors.Http
