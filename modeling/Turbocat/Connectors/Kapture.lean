import Turbocat.Connectors.Sync

/-! The Kapture tickets connector: one request for each calendar day of the window. -/

namespace Turbocat.Connectors

open Turbocat.Python

namespace KaptureTickets

/-- The configuration `extract` reads. -/
structure Config where
  ticketsTemplateId : Int := 117
  deriving DecidableEq, Repr

/-- The request for the tickets of one day. -/
def request (config : Config) (date : Int) : Request :=
  {
    method := "POST"
    endpoint := "/ms/kreport/generic-report/pull-data"
    params := [
      ("reportType", .str "T"),
      ("start_date", .str (strftimeMonthDayYear date)),
      ("end_date", .str (strftimeMonthDayYear date)),
      ("start_time", .str "00:00:00"),
      ("end_time", .str "23:59:59"),
      ("templateId", .int config.ticketsTemplateId),
      ("employee_ids", .int (-2))
    ]
  }

/-- `value.strip()` of a value that is not known to be a text. -/
def strip (host : Host) (value : Json) : Except PyException String :=
  match value with
  | .str text => .ok (host.strip text)
  | other => .error (.noAttribute other "strip")

/-- `_parse_dt`: Kapture's DD/MM/YYYY date and HH:MM:SS time, or nothing readable. -/
def parseDt (host : Host) (dateStr timeStr : Json) : Except PyException Value :=
  if dateStr.truthy then do
    let date ← strip host dateStr
    let time ← strip host (timeStr.orElse (.str "00:00:00"))
    return match host.strptime (date ++ " " ++ time) with
      | some wall => .datetime (.naive wall)
      | none => .json .null
  else return .json .null

/-- `int(value)`, where the caller catches `ValueError` and `TypeError` only. -/
def toInt (host : Host) (value : Json) : Except PyException Value :=
  match value with
  | .null => .ok (.json .null)
  | .bool flag => .ok (.json (.int (if flag then 1 else 0)))
  | .int number => .ok (.json (.int number))
  | .float (.finite number) => .ok (.json (.int (number.num.tdiv number.den)))
  | .float (.infinity _) =>
      .error ⟨.overflowError, "cannot convert float infinity to integer"⟩
  | .float .nan => .ok (.json .null)
  | .str text =>
      if text = "null" ∨ text = "" then .ok (.json .null)
      else
        match host.intOfStr text with
        | some number => .ok (.json (.int number))
        | none => .ok (.json .null)
  | .list _ => .ok (.json .null)
  | .dict _ => .ok (.json .null)

/-- `value.get(key) or None`. -/
def getOrNull (value : Json) (key : String) : Except PyException Value := do
  return .json ((← value.get key).orElse .null)

/-- `value.get(key)`. -/
def getValue (value : Json) (key : String) : Except PyException Value := do
  return .json (← value.get key)

/-- `_to_int(value.get(key))`. -/
def getInt (host : Host) (value : Json) (key : String) : Except PyException Value := do
  toInt host (← value.get key)

/-- `_parse_dt(value.get(dateKey), value.get(timeKey))`. -/
def getDatetime (host : Host) (value : Json) (dateKey timeKey : String)
    : Except PyException Value := do
  parseDt host (← value.get dateKey) (← value.get timeKey)

/-- The columns of a ticket, each with the expression that computes it. -/
def columnValues (host : Host) (now : Datetime)
    (record ticket customer contact folderLevels : Json)
    : List (String × Except PyException Value) :=
  [
    ("ticket_id", getValue record "ticketId"),
    ("task_id", getValue ticket "Task Id"),
    ("task_title", getValue ticket "Task Title"),
    ("status", getValue ticket "Status"),
    ("sub_status", getValue ticket "Sub Status"),
    ("priority", getValue ticket "Priority Name"),
    ("tat", getOrNull ticket "TAT"),
    ("sla", getOrNull ticket "SLA"),
    ("created_at", getDatetime host record "createDate" "createTime"),
    ("last_conversation_at",
      getDatetime host record "lastConversationDate" "lastConversationTime"),
    ("source_type", getValue record "sourceType"),
    ("create_source_type", getValue record "createSourceType"),
    ("create_reason", getValue record "createReason"),
    ("landing_folder", getOrNull record "landingFolder"),
    ("disposed_folder", getOrNull record "disposedFolder"),
    ("folder_level_1", getOrNull folderLevels "Folder level 1"),
    ("folder_level_2", getOrNull folderLevels "Folder level 2"),
    ("folder_level_3", getOrNull folderLevels "Folder level 3"),
    ("current_queue", getOrNull record "currentQueue"),
    ("landing_queue", getOrNull record "landingQueue"),
    ("dispose_by", getOrNull record "disposeBy"),
    ("first_response_by", getOrNull record "firstResponseBy"),
    ("last_response_by", getOrNull record "lastresponseBy"),
    ("first_assign_emp", getOrNull record "firstAssignEmpName"),
    ("reopen_count", getInt host record "reopenCount"),
    ("dispose_count", getInt host record "disposeCount"),
    ("customer_interaction_count", getInt host record "customerInteractioncount"),
    ("agent_interaction_count", getInt host record "agentInteractionCount"),
    ("total_interaction_count", getInt host record "totalInteractionCount"),
    ("conversation_count", getInt host ticket "Conversation Count"),
    ("ftr", getValue record "ftr"),
    ("first_response_time", getOrNull record "firstResponseTime"),
    ("avg_agent_response_time", getOrNull record "avgAgentResponseTime"),
    ("avg_handling_time", getOrNull record "avgHandlingTime"),
    ("time_to_resolve", getOrNull record "diffCreateAndResolve"),
    ("ticket_url", getValue record "ticketUrl"),
    ("email", getOrNull ticket "Email"),
    ("phone", getOrNull ticket "Phone"),
    ("customer_name", getOrNull customer "Customer Name"),
    ("customer_code", getOrNull customer "Customer Code"),
    ("contact_name", getOrNull contact "Contact Person"),
    ("contact_email", getOrNull contact "Email"),
    ("contact_phone", getOrNull contact "Phone"),
    ("_extracted_at", .ok (.datetime (.aware now)))
  ]

/-- A dict display: the entries are computed in order, and the first exception ends it. -/
def dictDisplay : List (String × Except PyException Value) → Except PyException Record
  | [] => .ok []
  | (name, value) :: rest => do
      let value ← value
      return (name, value) :: (← dictDisplay rest)

def transform (host : Host) : Transform := fun now record => do
  let ticket := (← record.get "ticket").orElse (.dict [])
  let customer := (← record.get "customer").orElse (.dict [])
  let contact := (← record.get "contact").orElse (.dict [])
  let folderLevels := (← record.get "dispositionFolderLevel").orElse (.dict [])
  dictDisplay (columnValues host now record ticket customer contact folderLevels)

def getSchema : TableSchema :=
  {
    tableName := "kapture_tickets"
    columns := [
      ⟨"ticket_id", "string", true⟩,
      ⟨"task_id", "string", false⟩,
      ⟨"task_title", "string", false⟩,
      ⟨"status", "string", false⟩,
      ⟨"sub_status", "string", false⟩,
      ⟨"priority", "string", false⟩,
      ⟨"tat", "string", false⟩,
      ⟨"sla", "string", false⟩,
      ⟨"created_at", "datetime", false⟩,
      ⟨"last_conversation_at", "datetime", false⟩,
      ⟨"source_type", "string", false⟩,
      ⟨"create_source_type", "string", false⟩,
      ⟨"create_reason", "string", false⟩,
      ⟨"landing_folder", "string", false⟩,
      ⟨"disposed_folder", "string", false⟩,
      ⟨"folder_level_1", "string", false⟩,
      ⟨"folder_level_2", "string", false⟩,
      ⟨"folder_level_3", "string", false⟩,
      ⟨"current_queue", "string", false⟩,
      ⟨"landing_queue", "string", false⟩,
      ⟨"dispose_by", "string", false⟩,
      ⟨"first_response_by", "string", false⟩,
      ⟨"last_response_by", "string", false⟩,
      ⟨"first_assign_emp", "string", false⟩,
      ⟨"reopen_count", "integer", false⟩,
      ⟨"dispose_count", "integer", false⟩,
      ⟨"customer_interaction_count", "integer", false⟩,
      ⟨"agent_interaction_count", "integer", false⟩,
      ⟨"total_interaction_count", "integer", false⟩,
      ⟨"conversation_count", "integer", false⟩,
      ⟨"ftr", "string", false⟩,
      ⟨"first_response_time", "string", false⟩,
      ⟨"avg_agent_response_time", "string", false⟩,
      ⟨"avg_handling_time", "string", false⟩,
      ⟨"time_to_resolve", "string", false⟩,
      ⟨"ticket_url", "string", false⟩,
      ⟨"email", "string", false⟩,
      ⟨"phone", "string", false⟩,
      ⟨"customer_name", "string", false⟩,
      ⟨"customer_code", "string", false⟩,
      ⟨"contact_name", "string", false⟩,
      ⟨"contact_email", "string", false⟩,
      ⟨"contact_phone", "string", false⟩,
      ⟨"_extracted_at", "datetime", true⟩
    ]
  }

-----------------------------------------------------------------------------------------
-- Days
-----------------------------------------------------------------------------------------

/-- The tickets of a reply; a reply that is not a list is logged and has none. -/
def ticketItems : Json → List Json
  | .list tickets => tickets
  | _ => []

/-- The loop over the days from `current` to `last`, after `fetched` yielded records, over
the replies that arrive from then on. A day whose reply is not a list is skipped. There is
no day after 31 December 9999.
-/
def days (config : Config) (transform : Transform) (clock : Nat → Datetime) (last : Int)
    : (current : Int) → (fetched : Nat) → List Reply → ExtractRun
  | current, _, [] =>
      if last < current then ⟨[], .returned⟩
      else ⟨[.request (request config current)], .waiting⟩
  | current, fetched, reply :: replies =>
      if last < current then ⟨[], .returned⟩
      else
        match reply with
        | .error exception => ⟨[.request (request config current)], .raised exception⟩
        | .ok data =>
            match yieldItems transform clock fetched (ticketItems data) with
            | (events, some exception) =>
                ⟨.request (request config current) :: events, .raised exception⟩
            | (events, none) =>
                if current = maxDay then
                  ⟨.request (request config current) :: events, .raised dateOutOfRange⟩
                else
                  (days config transform clock last (current + 1)
                    (fetched + (ticketItems data).length) replies).after
                    (.request (request config current) :: events)

/-- What the loop does with a day whose reply is JSON. -/
theorem days_day (config : Config) (transform : Transform) (clock : Nat → Datetime)
    {last current : Int} (inside : ¬ last < current) (fetched : Nat) (data : Json)
    (rest : List Reply)
    : days config transform clock last current fetched (.ok data :: rest)
      = match yieldItems transform clock fetched (ticketItems data) with
        | (events, some exception) =>
            ⟨.request (request config current) :: events, .raised exception⟩
        | (events, none) =>
            if current = maxDay then
              ⟨.request (request config current) :: events, .raised dateOutOfRange⟩
            else
              (days config transform clock last (current + 1)
                (fetched + (ticketItems data).length) rest).after
                (.request (request config current) :: events) := by
  simp only [days, inside, if_false]

/-- `extract` from the start of the window, or from the start of the current day when it
has none, to its end, or to now.
-/
def extract (config : Config) (host : Host) (now : Datetime) (clock : Nat → Datetime)
    (startTime endTime : Option Datetime) (replies : List Reply)
    : ExtractRun :=
  days config (transform host) clock (endTime.getD now).date (startTime.getD now).date 0
    replies

/-- The tickets of an answered request. -/
def ticketsOf : Reply → List Json
  | .ok data => ticketItems data
  | .error _ => []

/-- The days from `first` to `last`. -/
def daysBetween (first last : Int) : List Int :=
  (List.range (last + 1 - first).toNat).map (fun offset : Nat => first + offset)

theorem daysBetween_empty {first last : Int} (ended : last < first)
    : daysBetween first last = [] := by
  rw [daysBetween, Int.toNat_eq_zero.mpr (by omega)]
  rfl

theorem daysBetween_cons {first last : Int} (inside : ¬ last < first)
    : daysBetween first last = first :: daysBetween (first + 1) last := by
  obtain ⟨count, counted⟩ : ∃ count : Nat, last + 1 - first = count + 1 :=
    ⟨(last - first).toNat, by omega⟩
  have rest : last + 1 - (first + 1) = count := by omega
  simp only [daysBetween, rest, counted, Int.toNat_natCast_add_one, Int.toNat_natCast,
    List.range_succ_eq_map, List.map_cons, List.map_map, Int.natCast_zero, Int.add_zero]
  refine congrArg _ (List.map_congr_left fun number _ => ?_)
  simp only [Function.comp_apply, Nat.succ_eq_add_one]
  omega

/-- The days between two dates. -/
theorem mem_daysBetween {first last date : Int}
    : date ∈ daysBetween first last ↔ first ≤ date ∧ date ≤ last := by
  simp only [daysBetween, List.mem_map, List.mem_range]
  constructor
  · intro listed
    obtain ⟨offset, small, rfl⟩ := listed
    omega
  · intro range
    obtain ⟨lower, upper⟩ := range
    exact ⟨(date - first).toNat, by omega, by omega⟩

/-- What a loop that returned has read and sent, over the replies it consumed: each is a
JSON value, the yielded items are exactly the tickets of those that are lists, and the
requests are those for each day in order.
-/
structure DaysRead (config : Config) (first last : Int) (run : ExtractRun)
    (days : List Reply)
    : Prop where
  decoded : ∀ reply ∈ days, ∃ data, reply = .ok data
  items : itemsOf run.events = days.flatMap ticketsOf
  requests : requestsOf run.events = (daysBetween first last).map (request config)
  each : days.length = (daysBetween first last).length

/-- What the first turn of a loop that returned did: it read its reply as JSON and yielded
its tickets.
-/
theorem days_turn {config : Config} {transform : Transform} {clock : Nat → Datetime}
    {last current : Int} {fetched : Nat} {reply : Reply} {rest : List Reply}
    (inside : ¬ last < current)
    (returned
      : (days config transform clock last current fetched (reply :: rest)).outcome
        = .returned)
    : let run := days config transform clock last current fetched (reply :: rest)
      let later := days config transform clock last (current + 1)
        (fetched + (ticketsOf reply).length) rest
      (∃ data, reply = .ok data)
      ∧ later.outcome = .returned
      ∧ requestsOf run.events = request config current :: requestsOf later.events
      ∧ itemsOf run.events = ticketsOf reply ++ itemsOf later.events := by
  unfold days at returned
  simp only [inside, if_false] at returned
  simp only [days, inside, if_false]
  split at returned
  · cases returned
  · next data =>
      have yielded := requestsOf_yieldItems transform clock fetched (ticketItems data)
      split at returned
      · cases returned
      · next events loop =>
          have complete
              : itemsOf (yieldItems transform clock fetched (ticketItems data)).1
                = ticketItems data :=
            itemsOf_yieldItems (by rw [loop])
          rw [loop] at yielded complete
          split at returned
          · cases returned
          · next later =>
              refine ⟨⟨data, rfl⟩, returned, ?_, ?_⟩
              · simp [later, yielded, ticketsOf]
              · simp [later, complete, ticketsOf]

/-- A loop that returned has read every day. Witness: induction over the replies, one turn
each.
-/
theorem days_returned {config : Config} {transform : Transform} {clock : Nat → Datetime}
    {last current : Int} {fetched : Nat} {replies : List Reply}
    (returned : (days config transform clock last current fetched replies).outcome = .returned)
    : let run := days config transform clock last current fetched replies
      DaysRead config current last run (run.consumed replies) := by
  simp only [ExtractRun.consumed]
  induction replies generalizing current fetched with
  | nil =>
      by_cases ended : last < current
      · simp only [days, ended, if_true]
        constructor <;> simp [requestsOf, itemsOf, daysBetween_empty ended]
      · simp [days, ended] at returned
  | cons reply rest ih =>
      by_cases ended : last < current
      · simp only [days, ended, if_true]
        constructor <;> simp [requestsOf, itemsOf, daysBetween_empty ended]
      · obtain ⟨decoded, later, requests, items⟩ := days_turn ended returned
        have tail := ih later
        rw [requests, List.length_cons, List.take_succ_cons]
        exact {
          decoded := by simpa using ⟨decoded, tail.decoded⟩
          items := by rw [items, tail.items, List.flatMap_cons]
          requests := by rw [requests, tail.requests, daysBetween_cons ended, List.map_cons]
          each := by rw [List.length_cons, tail.each, daysBetween_cons ended, List.length_cons]
        }

end KaptureTickets

end Turbocat.Connectors
