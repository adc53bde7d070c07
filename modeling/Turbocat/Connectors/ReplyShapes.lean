import Turbocat.Connectors.Registry

/-! What a finished sync says about the replies its connector read. A sync succeeds only
when every reply was read to the end; what counts as readable is each connector's own
choice, and a reply that has no records where the API would have put them is read as an
empty page or day.
-/

namespace Turbocat.Connectors

open Turbocat.Python

namespace ConnectorClass

/-- A JSON reply the connector reads. Razorpay replies are objects whose `items` are a
list, are absent, or are an empty object or text; Kapture skips the day of a reply that is
not a list.
-/
def Readable : ConnectorClass → Json → Prop
  | razorpayOrders, data => ReadablePage (.ok data)
  | razorpayCustomers, data => ReadablePage (.ok data)
  | kaptureTickets, _ => True

/-- The records of a reply: the items of a Razorpay page, the tickets of a Kapture day. -/
def recordsIn : ConnectorClass → Json → List Json
  | razorpayOrders, data => pageRecords (.ok data)
  | razorpayCustomers, data => pageRecords (.ok data)
  | kaptureTickets, data => KaptureTickets.ticketItems data

/-- The request for the page or day with a number, counted from the first. -/
def request (cls : ConnectorClass) (env : ExtractEnv) (startTime endTime : Option Datetime)
    (number : Nat)
    : Request :=
  match cls with
  | razorpayOrders => RazorpayOrders.request startTime endTime (pageCount * number)
  | razorpayCustomers => RazorpayCustomers.request (pageCount * number)
  | kaptureTickets =>
      KaptureTickets.request env.config ((startTime.getD env.now).date + number)

/-- The replies cover the window: Razorpay pages up to the first that is not full, Kapture
days up to that of the window's end.
-/
def CoversWindow (cls : ConnectorClass) (env : ExtractEnv)
    (startTime endTime : Option Datetime) (pages : List Json)
    : Prop :=
  match cls with
  | kaptureTickets =>
      pages.length
        = ((endTime.getD env.now).date + 1 - (startTime.getD env.now).date).toNat
  | _ =>
      ∃ full last,
        pages = full ++ [last]
        ∧ (∀ page ∈ full, pageCount ≤ (cls.recordsIn page).length)
        ∧ (cls.recordsIn last).length < pageCount

/-- What a generator that returned has done with the replies it consumed. -/
structure ReadAll (cls : ConnectorClass) (env : ExtractEnv)
    (startTime endTime : Option Datetime) (run : ExtractRun) (consumed : List Json)
    : Prop where
  readable : ∀ data ∈ consumed, cls.Readable data
  items : itemsOf run.events = consumed.flatMap cls.recordsIn
  requests
    : requestsOf run.events
      = (List.range consumed.length).map (cls.request env startTime endTime)
  covers : cls.CoversWindow env startTime endTime consumed

/-- Pages read by the shared loop, restated for JSON replies. -/
theorem readAll_of_pagesRead {cls : ConnectorClass} {env : ExtractEnv}
    {startTime endTime : Option Datetime} {pageRequest : Nat → Request} {run : ExtractRun}
    {replies : List Json} (razorpay : cls ≠ kaptureTickets)
    (readable : cls.Readable = fun data => ReadablePage (.ok data))
    (records : cls.recordsIn = fun data => pageRecords (.ok data))
    (requests : ∀ number, cls.request env startTime endTime number
      = pageRequest (0 + pageCount * number))
    (read : PagesRead pageRequest 0 run (run.consumed (replies.map .ok)))
    : ReadAll cls env startTime endTime run
        (replies.take (requestsOf run.events).length) := by
  unfold ExtractRun.consumed at read
  rw [← List.map_take] at read
  generalize replies.take _ = consumed at read ⊢
  exact {
    readable := by
      intro data member
      rw [readable]
      exact read.readable _ (List.mem_map_of_mem member)
    items := by
      rw [read.items, records, List.flatMap_map]
    requests := by
      rw [read.requests, List.length_map]
      exact List.map_congr_left fun number _ => (requests number).symm
    covers := by
      obtain ⟨full, last, split, allFull, short⟩ := read.short
      obtain ⟨fullPages, lastPage, rfl, rfl, lastEq⟩ := List.map_eq_append_iff.mp split
      obtain ⟨page, rfl, rfl⟩ : ∃ page, lastPage = [page] ∧ Except.ok page = last := by
        cases lastPage with
        | nil => cases lastEq
        | cons page rest =>
            cases rest with
            | nil => exact ⟨page, rfl, (List.cons.inj lastEq).1⟩
            | cons _ _ => cases lastEq
      have covered
          : ∃ full last,
              fullPages ++ [page] = full ++ [last]
              ∧ (∀ page ∈ full, pageCount ≤ (cls.recordsIn page).length)
              ∧ (cls.recordsIn last).length < pageCount := by
        refine ⟨fullPages, page, rfl, ?_, by rw [records]; exact short⟩
        intro fullPage member
        rw [records]
        exact allFull _ (List.mem_map_of_mem member)
      cases cls with
      | kaptureTickets => exact absurd rfl razorpay
      | razorpayOrders => exact covered
      | razorpayCustomers => exact covered
  }

/-- A generator that returned has read the whole window, by cases of the connector. -/
theorem extract_returned {cls : ConnectorClass} {env : ExtractEnv}
    {startTime endTime : Option Datetime} {replies : List Json}
    (returned
      : (cls.extract env startTime endTime (replies.map .ok)).outcome = .returned)
    : let run := cls.extract env startTime endTime (replies.map .ok)
      ReadAll cls env startTime endTime run
        (replies.take (requestsOf run.events).length) := by
  cases cls with
  | razorpayOrders =>
      have read := offsetPages_returned
        (fun now text => (razorpay_rejects_text env.host now text).1) returned
      exact readAll_of_pagesRead (by simp) rfl rfl (by simp [request]) read
  | razorpayCustomers =>
      have read := offsetPages_returned
        (fun now text => (razorpay_rejects_text env.host now text).2) returned
      exact readAll_of_pagesRead (by simp) rfl rfl (by simp [request]) read
  | kaptureTickets =>
      have read := KaptureTickets.days_returned returned
      simp only [ExtractRun.consumed, ← List.map_take] at read
      simp only [extract, KaptureTickets.extract] at read ⊢
      generalize replies.take _ = consumed at read ⊢
      have each := read.each
      simp only [List.length_map, KaptureTickets.daysBetween, List.length_range] at each
      exact {
        readable := fun _ _ => trivial
        items := by
          rw [read.items, List.flatMap_map]
          rfl
        requests := by
          rw [read.requests, KaptureTickets.daysBetween, List.map_map, each]
          rfl
        covers := each
      }

end ConnectorClass

/-- A finished sync says what its connector did with the replies: a success has read the
whole window and moves the cursor to the window's end, an error keeps the cursor, and a
reply that could not be read is an error.
-/
theorem sync_reads_window {cls : ConnectorClass} {env : ExtractEnv}
    {startTime endTime : Option Datetime} {replies : List Json} {load : Load}
    {state : Option Dict} {batchSize : Nat} {done : SyncRun}
    (returned
      : sync cls.getSchema (cls.extract env startTime endTime (replies.map .ok)) load endTime
          state batchSize
        = some done)
    : let run := cls.extract env startTime endTime (replies.map .ok)
      let consumed := replies.take (requestsOf run.events).length
      (done.result.status = .success →
          cls.ReadAll env startTime endTime run consumed
          ∧ done.result.nextState = nextState endTime state)
      ∧ (done.result.status = .error → done.result.nextState = state.getD [])
      ∧ ((∃ data ∈ consumed, ¬ cls.Readable data) →
          done.result.status = .error ∧ done.result.nextState = state.getD []) := by
  intro run consumed
  have read (success : done.result.status = .success)
      : cls.ReadAll env startTime endTime run consumed
        ∧ done.result.nextState = nextState endTime state := by
    obtain ⟨ended, _, cursor⟩ := sync_success returned success
    exact ⟨ConnectorClass.extract_returned ended, cursor⟩
  refine ⟨read, sync_error returned, ?_⟩
  intro unread
  obtain ⟨data, member, unreadable⟩ := unread
  have failed : done.result.status = .error := by
    cases status : done.result.status with
    | error => rfl
    | success => exact absurd ((read status).1.readable data member) unreadable
  exact ⟨failed, sync_error returned failed⟩

/-- A day's tickets in a list, read to the end. -/
theorem sync_reads_window_empty_day
    : let noon : Datetime := ⟨1700049600000000, by decide, by decide⟩
      let env : ExtractEnv := { host := Host.utc, now := noon, clock := fun _ => noon }
      let run := ConnectorClass.kaptureTickets.extract env (some noon) (some noon)
        [.ok (.list [])]
      ConnectorClass.kaptureTickets.ReadAll env (some noon) (some noon) run [.list []] :=
  ((@sync_reads_window .kaptureTickets
    {
      host := Host.utc
      now := ⟨1700049600000000, by decide, by decide⟩
      clock := fun _ => ⟨1700049600000000, by decide, by decide⟩
    }
    (some ⟨1700049600000000, by decide, by decide⟩)
    (some ⟨1700049600000000, by decide, by decide⟩)
    [.list []] (fun _ batch => .ok (some batch.length)) none 1000 _ rfl).1 rfl).1

/-- The shape each API documents: an object with a list of `items`, or a list of tickets. -/
def ConnectorClass.ExpectedShape : ConnectorClass → Json → Prop
  | razorpayOrders, data | razorpayCustomers, data =>
      ∃ entries items, data = .dict entries ∧ entries.lookup "items" = some (.list items)
  | kaptureTickets, data => ∃ tickets, data = .list tickets

/-- Replies of other shapes are read as well: an object in place of a list of tickets, and
an object without `items`, end in success and move the cursor.
-/
theorem success_on_other_shapes
    : ¬ ∀ (cls : ConnectorClass) (env : ExtractEnv) (startTime endTime : Option Datetime)
          (replies : List Json) (load : Load) (state : Option Dict) (batchSize : Nat)
          (done : SyncRun),
        sync cls.getSchema (cls.extract env startTime endTime (replies.map .ok)) load endTime
            state batchSize
          = some done
        → done.result.status = .success
        → ∀ data ∈ replies.take
              (requestsOf (cls.extract env startTime endTime (replies.map .ok)).events).length,
            cls.ExpectedShape data := by
  intro rejects
  let noon : Datetime := ⟨1700049600000000, by decide, by decide⟩
  let env : ExtractEnv := { host := Host.utc, now := noon, clock := fun _ => noon }
  obtain ⟨_, expected⟩ := rejects .kaptureTickets env (some noon) (some noon)
    [.dict [("error", .str "invalid template")]] (fun _ batch => .ok (some batch.length)) none
    1000 _ rfl rfl (.dict [("error", .str "invalid template")])
    (List.mem_singleton.mpr rfl)
  cases expected

end Turbocat.Connectors
