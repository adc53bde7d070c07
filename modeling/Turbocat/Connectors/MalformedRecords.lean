import Turbocat.Connectors.MissingFields
import Turbocat.Connectors.ReplyShapes
import Turbocat.Connectors.SyncBatches

/-! Syncs over replies that mix well-formed items with items that lack fields. One item the
transform rejects ends the whole run, so a sync isolates malformed items exactly when its
connector tolerates each of them.
-/

namespace Turbocat.Connectors

open Turbocat.Python

/-- A record a transform made of an item. -/
def Transform.Made (transform : Transform) (clock : Nat → Datetime) (item : Json)
    (record : Record)
    : Prop :=
  ∃ index, transform (clock index) item = .ok record

/-- A run over some items returns exactly when the transform accepts them and a further
condition holds, and then yields a record for each of them, in order.
-/
structure Reads (transform : Transform) (clock : Nat → Datetime) (items : List Json)
    (further : Prop) (run : ExtractRun)
    : Prop where
  returned
    : run.outcome = .returned
      ↔ (∀ item ∈ items, transform.accepts item = true) ∧ further
  records
    : run.outcome = .returned → List.Forall₂ (transform.Made clock) items (recordsOf run.events)

/-- A loop over items that ends without an exception yields a record for each, by induction
over the items.
-/
theorem yieldItems_made {transform : Transform} {clock : Nat → Datetime} {index : Nat}
    {items : List Json} (complete : (yieldItems transform clock index items).2 = none)
    : List.Forall₂ (transform.Made clock) items
        (recordsOf (yieldItems transform clock index items).1) := by
  induction items generalizing index with
  | nil => exact List.Forall₂.nil
  | cons item rest ih =>
      unfold yieldItems at complete ⊢
      split
      · next failed =>
          rw [failed] at complete
          cases complete
      · next record transformed =>
          rw [transformed] at complete
          exact List.Forall₂.cons ⟨index, transformed⟩ (ih complete)

section

variable {request : Nat → Request} {transform : Transform} {clock : Nat → Datetime}

theorem Reads.congr {items : List Json} {further other : Prop} {run : ExtractRun}
    (reads : Reads transform clock items further run) (same : further ↔ other)
    : Reads transform clock items other run := by
  rwa [propext same] at reads

/-- A run that raised at an item. -/
theorem Reads.raised {events : List ExtractEvent} {exception : PyException}
    {items : List Json} {further : Prop}
    (rejects : ¬ ∀ item ∈ items, transform.accepts item = true)
    : Reads transform clock items further ⟨events, .raised exception⟩ := by
  constructor
  · constructor
    · intro returned
      cases returned
    · intro accepts
      exact absurd accepts.1 rejects
  · intro returned
    cases returned

/-- A run that ends with accepted items. -/
theorem Reads.ended {sent : Request} {events : List ExtractEvent} {items : List Json}
    {further : Prop} (accepts : ∀ item ∈ items, transform.accepts item = true)
    (made : List.Forall₂ (transform.Made clock) items (recordsOf events)) (holds : further)
    : Reads transform clock items further ⟨.request sent :: events, .returned⟩ :=
  ⟨⟨fun _ => ⟨accepts, holds⟩, fun _ => rfl⟩, fun _ => made⟩

/-- Accepted items before a run. -/
theorem Reads.after {sent : Request} {events : List ExtractEvent} {front back : List Json}
    {further : Prop} {run : ExtractRun}
    (accepts : ∀ item ∈ front, transform.accepts item = true)
    (made : List.Forall₂ (transform.Made clock) front (recordsOf events))
    (tail : Reads transform clock back further run)
    : Reads transform clock (front ++ back) further (run.after (.request sent :: events)) := by
  constructor
  · rw [ExtractRun.after_outcome, tail.returned, List.forall_mem_append]
    exact ⟨fun both => ⟨⟨accepts, both.1⟩, both.2⟩, fun both => ⟨both.1.2, both.2⟩⟩
  · intro returned
    rw [ExtractRun.after_events, List.cons_append, recordsOf_cons_request, recordsOf_append]
    exact List.rel_append made (tail.records returned)

/-- A loop over items accepts them all and makes a record of each, or raises at one. -/
theorem yieldItems_reads (clockFree : transform.ClockFree) (clock : Nat → Datetime)
    (fetched : Nat) (items : List Json)
    : (∃ events,
        yieldItems transform clock fetched items = (events, none)
        ∧ (∀ item ∈ items, transform.accepts item = true)
        ∧ List.Forall₂ (transform.Made clock) items (recordsOf events))
      ∨ ∃ events exception,
          yieldItems transform clock fetched items = (events, some exception)
          ∧ ¬ ∀ item ∈ items, transform.accepts item = true := by
  obtain ⟨_, ends⟩ := yieldItems_accepted clockFree clock fetched items
  have made := @yieldItems_made transform clock fetched items
  cases loop : yieldItems transform clock fetched items with
  | mk events ended =>
      rw [loop] at ends made
      cases ended with
      | some exception =>
          exact Or.inr ⟨events, exception, rfl,
            fun all => Option.some_ne_none _ (ends.mpr all)⟩
      | none => exact Or.inl ⟨events, rfl, ends.mp rfl, made rfl⟩

/-- The paging loop over full pages and a last one that is not, by induction over the full
pages.
-/
theorem offsetPages_reads (clockFree : transform.ClockFree) {full : List Json} {last : Json}
    (readable : ∀ page ∈ full ++ [last], ReadablePage (.ok page))
    (filled : ∀ page ∈ full, pageCount ≤ (pageRecords (.ok page)).length)
    (short : (pageRecords (.ok last)).length < pageCount) {skip fetched : Nat}
    : Reads transform clock ((full ++ [last]).flatMap (fun page => pageRecords (.ok page))) True
        (offsetPages request transform clock skip fetched ((full ++ [last]).map .ok)) := by
  induction full generalizing skip fetched with
  | nil =>
      have page := pageItems_of_readable (readable last List.mem_cons_self)
      simp only [List.nil_append, List.map_singleton, List.flatMap_singleton,
        offsetPages_page fetched page]
      split
      · next empty =>
          rw [List.isEmpty_iff.mp empty]
          exact Reads.ended (List.forall_mem_nil _) List.Forall₂.nil trivial
      · rcases yieldItems_reads clockFree clock fetched (pageRecords (.ok last))
          with ⟨events, loop, accepts, made⟩ | ⟨events, exception, loop, rejects⟩
        · rw [loop]
          exact Reads.ended accepts made trivial
        · rw [loop]
          exact Reads.raised rejects
  | cons first full ih =>
      have page := pageItems_of_readable (readable first List.mem_cons_self)
      have firstFilled := filled first List.mem_cons_self
      have tail := @ih (fun page member => readable page (List.mem_cons_of_mem _ member))
        (fun page member => filled page (List.mem_cons_of_mem _ member)) (skip + pageCount)
        (fetched + (pageRecords (.ok first)).length)
      have nonempty : (pageRecords (.ok first)).isEmpty = false := by
        rw [List.isEmpty_eq_false_iff]
        apply List.ne_nil_of_length_pos
        simp only [pageCount] at firstFilled
        omega
      simp only [List.cons_append, List.map_cons, List.flatMap_cons,
        offsetPages_page fetched page, nonempty, Bool.false_eq_true, if_false]
      rcases yieldItems_reads clockFree clock fetched (pageRecords (.ok first))
        with ⟨events, loop, accepts, made⟩ | ⟨events, exception, loop, rejects⟩
      · simp only [loop, if_neg (Nat.not_lt.mpr firstFilled)]
        exact Reads.after accepts made tail
      · rw [loop]
        exact Reads.raised fun all => rejects (List.forall_mem_append.mp all).1

end

/-- The loop over days, one reply for each, by induction over the replies. After the last
day of the calendar the next one cannot be computed.
-/
theorem KaptureTickets.days_reads {config : KaptureTickets.Config} {transform : Transform}
    {clock : Nat → Datetime} (clockFree : transform.ClockFree) {pages : List Json}
    {last current : Int} (upper : last ≤ maxDay)
    (counted : pages.length = (last + 1 - current).toNat) {fetched : Nat}
    : Reads transform clock (pages.flatMap KaptureTickets.ticketItems)
        (current ≤ last → last ≠ maxDay)
        (KaptureTickets.days config transform clock last current fetched (pages.map .ok)) := by
  induction pages generalizing current fetched with
  | nil =>
      have ended : last < current := by
        rw [List.length_nil] at counted
        omega
      rw [List.map_nil, KaptureTickets.days, if_pos ended]
      refine ⟨⟨fun _ => ⟨List.forall_mem_nil _, fun le => ?_⟩, fun _ => rfl⟩,
        fun _ => List.Forall₂.nil⟩
      omega
  | cons first rest ih =>
      rw [List.length_cons] at counted
      have inside : ¬ last < current := by omega
      have tail := @ih (current + 1) (by omega)
        (fetched + (KaptureTickets.ticketItems first).length)
      rw [List.map_cons, List.flatMap_cons,
        KaptureTickets.days_day config transform clock inside fetched first]
      rcases yieldItems_reads clockFree clock fetched (KaptureTickets.ticketItems first)
        with ⟨events, loop, accepts, made⟩ | ⟨events, exception, loop, rejects⟩
      · rw [loop]
        simp only
        split
        · next final =>
            constructor
            · constructor
              · intro returned
                cases returned
              · intro both
                exact absurd (by omega) (both.2 (by omega))
            · intro returned
              cases returned
        · next before =>
            have same
                : (current + 1 ≤ last → last ≠ maxDay) ↔ (current ≤ last → last ≠ maxDay) := by
              omega
            exact Reads.after accepts made (tail.congr same)
      · rw [loop]
        exact Reads.raised fun all => rejects (List.forall_mem_append.mp all).1

-----------------------------------------------------------------------------------------
-- Counting
-----------------------------------------------------------------------------------------

section

variable {α β : Type} {misses : α → Bool} {valid : β → Bool} {related : α → β → Prop}
  {elements : List α} {results : List β}

/-- Every element has a related result. -/
theorem exists_of_forall₂ (each : List.Forall₂ related elements results) {element : α}
    (member : element ∈ elements)
    : ∃ result, related element result := by
  induction each with
  | nil => cases member
  | @cons first result _ _ holds _ ih =>
      rcases List.mem_cons.mp member with rfl | later
      · exact ⟨result, holds⟩
      · exact ih later

/-- When only elements that miss something have rejected results, no more are rejected. -/
theorem rejected_le
    (each
      : List.Forall₂ (fun element result =>
          related element result ∧ (misses element = false → valid result = true))
          elements results)
    : results.countP (fun result => !valid result) ≤ elements.countP misses := by
  induction each with
  | nil => exact Nat.le_refl _
  | @cons element result _ _ first later ih =>
      simp only [List.countP_cons]
      cases missing : misses element with
      | false =>
          rw [first.2 missing]
          simpa using ih
      | true => split <;> simp <;> omega

/-- When as many are rejected, they are the same ones. -/
theorem rejected_exactly
    (each
      : List.Forall₂ (fun element result =>
          related element result ∧ (misses element = false → valid result = true))
          elements results)
    (count : results.countP (fun result => !valid result) = elements.countP misses)
    : List.Forall₂ (fun element result =>
        related element result ∧ valid result = !misses element) elements results := by
  induction each with
  | nil => exact List.Forall₂.nil
  | @cons element result _ _ first later ih =>
      simp only [List.countP_cons] at count
      cases missing : misses element with
      | false =>
          have accepted := first.2 missing
          rw [missing, accepted] at count
          refine List.Forall₂.cons ⟨first.1, ?_⟩ (ih (by simpa using count))
          rw [accepted, missing]
          rfl
      | true =>
          cases accepted : valid result with
          | false =>
              rw [missing, accepted] at count
              refine List.Forall₂.cons ⟨first.1, ?_⟩ (ih (by simpa using count))
              rw [accepted, missing]
              rfl
          | true =>
              rw [missing, accepted] at count
              have bound := rejected_le later
              simp at count
              omega

/-- When each is rejected exactly for missing something, as many are. -/
theorem rejected_count
    (each : List.Forall₂ (fun element result => valid result = !misses element) elements results)
    : results.countP (fun result => !valid result) = elements.countP misses := by
  induction each with
  | nil => rfl
  | cons first later ih =>
      rw [List.countP_cons, List.countP_cons, first, ih, Bool.not_not]

/-- The accepted results are those of the elements that miss nothing. -/
theorem accepted_forall₂
    (both
      : List.Forall₂ (fun element result => valid result = !misses element ∧
          (misses element = false → related element result)) elements results)
    : List.Forall₂ related (elements.filter (fun element => !misses element))
        (results.filter valid) := by
  induction both with
  | nil => exact List.Forall₂.nil
  | @cons element result _ _ first later ih =>
      obtain ⟨same, holds⟩ := first
      cases missing : misses element with
      | true =>
          rw [missing] at same
          rw [List.filter_cons_of_neg (by simp [missing]), List.filter_cons_of_neg (by simp [same])]
          exact ih
      | false =>
          rw [missing] at same
          rw [List.filter_cons_of_pos (by simp [missing]), List.filter_cons_of_pos (by simp [same])]
          exact List.Forall₂.cons (holds missing) ih

end

namespace ConnectorClass

/-- What a sync makes of its items when malformed ones cannot block it. -/
structure IsolatesMalformed (cls : ConnectorClass) (host : Host) (items : List Json)
    (done : SyncRun)
    : Prop where
  success : done.result.status = .success
  failed : done.result.recordsFailed = (items.filter cls.missesRequired).length
  loaded
    : List.Forall₂
        (fun item record =>
          (∃ now, cls.transform host now item = .ok record) ∧ cls.NullsMissing item record)
        (items.filter (fun item => !cls.missesRequired item)) done.batches.flatten

/-- Only a Kapture window that ends on the last day of the calendar makes a loop fail by
itself.
-/
def StopsInCalendar (cls : ConnectorClass) (env : ExtractEnv)
    (startTime endTime : Option Datetime)
    : Prop :=
  cls = kaptureTickets →
    (startTime.getD env.now).date ≤ (endTime.getD env.now).date →
      (endTime.getD env.now).date ≠ maxDay

/-- The extraction over replies that cover its window. -/
theorem extract_reads {cls : ConnectorClass} {env : ExtractEnv}
    {startTime endTime : Option Datetime} {pages : List Json}
    (readable : ∀ data ∈ pages, cls.Readable data)
    (covers : cls.CoversWindow env startTime endTime pages)
    : Reads (cls.transform env.host) env.clock (pages.flatMap cls.recordsIn)
        (cls.StopsInCalendar env startTime endTime)
        (cls.extract env startTime endTime (pages.map .ok)) := by
  cases cls with
  | razorpayOrders =>
      obtain ⟨full, last, rfl, filled, short⟩ := covers
      have reads := @offsetPages_reads (RazorpayOrders.request startTime endTime)
        (RazorpayOrders.transform env.host) env.clock
        (RazorpayOrders.transform_clockFree env.host) full last readable filled short 0 0
      exact reads.congr ⟨fun _ kapture => (nomatch kapture), fun _ => trivial⟩
  | razorpayCustomers =>
      obtain ⟨full, last, rfl, filled, short⟩ := covers
      have reads := @offsetPages_reads RazorpayCustomers.request
        (RazorpayCustomers.transform env.host) env.clock
        (RazorpayCustomers.transform_clockFree env.host) full last readable filled short 0 0
      exact reads.congr ⟨fun _ kapture => (nomatch kapture), fun _ => trivial⟩
  | kaptureTickets =>
      have reads := @KaptureTickets.days_reads env.config (KaptureTickets.transform env.host)
        env.clock (KaptureTickets.transform_clockFree env.host) pages
        (endTime.getD env.now).date (startTime.getD env.now).date (Datetime.date_upper _) covers 0
      exact reads.congr ⟨fun stops _ => stops, fun stops => stops rfl⟩

/-- A sync whose run yielded a record for each item isolates the malformed ones exactly when
every item is tolerated.
-/
theorem isolates_iff {cls : ConnectorClass} {host : Host} {clock : Nat → Datetime}
    {items : List Json} {records : List Record} {done : SyncRun}
    (wellFormed : ∀ item ∈ items, cls.WellFormed host item)
    (made : List.Forall₂ ((cls.transform host).Made clock) items records)
    (success : done.result.status = .success)
    (loaded : done.batches.flatten = records.filter (validate cls.getSchema))
    (failed
      : done.result.recordsFailed
        = (records.filter (fun record => !validate cls.getSchema record)).length)
    : cls.IsolatesMalformed host items done ↔ ∀ item ∈ items, cls.Tolerates item := by
  have known := (List.forall₂_and_left _ _).mpr ⟨wellFormed, made⟩
  rw [← List.countP_eq_length_filter] at failed
  constructor
  · intro isolated item member
    have count := failed.symm.trans isolated.failed
    rw [← List.countP_eq_length_filter] at count
    have same := rejected_exactly (known.imp fun item record both =>
      ⟨both, fun missing => by
        obtain ⟨formed, index, transformed⟩ := both
        exact validate_of_complete formed transformed missing⟩) count
    cases missing : cls.missesRequired item with
    | true =>
        obtain ⟨record, ⟨formed, index, transformed⟩, accepted⟩ := exists_of_forall₂ same member
        refine (@handles_iff cls host (clock index) item formed).mp
          ⟨record, transformed, accepted, fun present => ?_⟩
        rw [missing] at present
        cases present
    | false =>
        have kept : item ∈ items.filter (fun item => !cls.missesRequired item) :=
          List.mem_filter.mpr ⟨member, by rw [missing]; rfl⟩
        obtain ⟨record, ⟨now, transformed⟩, nulls⟩ := exists_of_forall₂ isolated.loaded kept
        have formed := wellFormed item member
        refine (@handles_iff cls host now item formed).mp
          ⟨record, transformed, ?_, fun _ => nulls⟩
        rw [validate_of_complete formed transformed missing, missing]
        rfl
  · intro tolerated
    have handled
        : List.Forall₂
            (fun item record =>
              validate cls.getSchema record = !cls.missesRequired item
              ∧ (cls.missesRequired item = false →
                  (∃ now, cls.transform host now item = .ok record)
                  ∧ cls.NullsMissing item record))
            items records := by
      refine ((List.forall₂_and_left _ _).mpr ⟨tolerated, known⟩).imp fun item record both => ?_
      obtain ⟨tolerates, formed, index, transformed⟩ := both
      obtain ⟨other, again, accepted, nulls⟩ :=
        (@handles_iff cls host (clock index) item formed).mpr tolerates
      rw [transformed] at again
      cases again
      exact ⟨accepted, fun present => ⟨⟨_, transformed⟩, nulls present⟩⟩
    refine ⟨success, ?_, ?_⟩
    · rw [failed, ← List.countP_eq_length_filter]
      exact rejected_count (handled.imp fun _ _ both => both.1)
    · rw [loaded]
      exact accepted_forall₂ handled

end ConnectorClass

/-- For every connector and every sequence of replies, a sync whose loads succeed isolates
the malformed items exactly when the connector tolerates each item and its window does not
end on the last day of the calendar.
-/
theorem isolates_malformed_iff {cls : ConnectorClass} {env : ExtractEnv}
    {startTime endTime : Option Datetime} {pages : List Json} {load : Load}
    {state : Option Dict} {batchSize : Nat}
    (readable : ∀ data ∈ pages, cls.Readable data)
    (covers : cls.CoversWindow env startTime endTime pages)
    (wellFormed : ∀ item ∈ pages.flatMap cls.recordsIn, cls.WellFormed env.host item)
    (positive : 1 ≤ batchSize) (complete : load.Complete)
    : (∃ done,
        sync cls.getSchema (cls.extract env startTime endTime (pages.map .ok)) load endTime
            state batchSize
          = some done
        ∧ cls.IsolatesMalformed env.host (pages.flatMap cls.recordsIn) done)
      ↔ (∀ item ∈ pages.flatMap cls.recordsIn, cls.Tolerates item)
        ∧ cls.StopsInCalendar env startTime endTime := by
  have reads := ConnectorClass.extract_reads readable covers
  constructor
  · intro isolates
    obtain ⟨done, synced, isolated⟩ := isolates
    obtain ⟨returned, _, _⟩ := sync_success synced isolated.success
    obtain ⟨other, again, success, _, loaded, _, _, _, _, failed, _⟩ :=
      @sync_loads_accepted cls.getSchema _ load endTime state batchSize returned positive complete
    rw [synced] at again
    cases again
    exact ⟨(ConnectorClass.isolates_iff wellFormed (reads.records returned) success loaded
      failed).mp isolated, (reads.returned.mp returned).2⟩
  · intro both
    obtain ⟨tolerated, stops⟩ := both
    have accepts : ∀ item ∈ pages.flatMap cls.recordsIn,
        (cls.transform env.host).accepts item = true := by
      intro item member
      obtain ⟨record, transformed, _⟩ := (@ConnectorClass.handles_iff cls env.host default item
        (wellFormed item member)).mpr (tolerated item member)
      rw [Transform.accepts, transformed]
      rfl
    have returned := reads.returned.mpr ⟨accepts, stops⟩
    obtain ⟨done, synced, success, _, loaded, _, _, _, _, failed, _⟩ :=
      @sync_loads_accepted cls.getSchema _ load endTime state batchSize returned positive complete
    exact ⟨done, synced, (ConnectorClass.isolates_iff wellFormed (reads.records returned) success
      loaded failed).mpr tolerated⟩

namespace Sample

/-- An environment at the epoch. -/
def env : ExtractEnv := { host := Host.utc, now := default, clock := fun _ => default }

/-- A destination that takes every batch. -/
def accepting : Load := fun _ batch => .ok (some batch.length)

/-- An order without amounts and currency, and a complete one behind it. -/
def orders : List Json :=
  [
    .dict [("id", .str "order_1"), ("status", .str "created"), ("created_at", .int 0)],
    .dict [("id", .str "order_2"), ("amount", .int 100), ("amount_paid", .int 0),
      ("amount_due", .int 100), ("currency", .str "INR"), ("status", .str "created"),
      ("created_at", .int 0)]
  ]

/-- A customer without contact details, and one without an `id`. -/
def contacts : List Json :=
  [
    .dict [("id", .str "cust_1"), ("contact", .null), ("created_at", .int 0)],
    .dict [("id", .null), ("contact", .str "1"), ("created_at", .int 0)]
  ]

end Sample

/-- The order lacks required fields, yet it is not counted as failed: the sync ends in an
error, and the order behind it is not loaded.
-/
theorem malformed_order_blocks
    : ¬ ∃ done,
        sync RazorpayOrders.getSchema
            (ConnectorClass.razorpayOrders.extract Sample.env none none
              [.ok (.dict [("items", .list Sample.orders)])])
            Sample.accepting none none
          = some done
        ∧ ConnectorClass.razorpayOrders.IsolatesMalformed Host.utc Sample.orders done := by
  intro isolates
  obtain ⟨done, synced, isolated⟩ := isolates
  have success := isolated.success
  cases synced
  cases success

/-- Null fields that are present are isolated. -/
theorem isolates_null_fields
    : ∃ done,
        sync RazorpayCustomers.getSchema
            (ConnectorClass.razorpayCustomers.extract Sample.env none none
              [.ok (.dict [("items", .list Sample.contacts)])])
            Sample.accepting none none
          = some done
        ∧ ConnectorClass.razorpayCustomers.IsolatesMalformed Host.utc Sample.contacts done := by
  have items
      : [Json.dict [("items", .list Sample.contacts)]].flatMap
          ConnectorClass.razorpayCustomers.recordsIn
        = Sample.contacts :=
    rfl
  have isolates := @isolates_malformed_iff .razorpayCustomers Sample.env none none
    [.dict [("items", .list Sample.contacts)]] Sample.accepting none 1000
  rw [items] at isolates
  refine (isolates ?_ ?_ ?_ (by decide) (fun _ _ => rfl)).mpr ⟨?_, fun kapture => (nomatch kapture)⟩
  · intro data member
    rw [List.mem_singleton.mp member]
    exact ⟨_, rfl, _, rfl, Or.inr rfl⟩
  · exact ⟨[], _, rfl, fun _ member => absurd member List.not_mem_nil, by decide⟩
  · exact List.forall_mem_cons.mpr ⟨⟨rfl, Or.inr ⟨_, rfl⟩⟩,
      List.forall_mem_singleton.mpr ⟨rfl, Or.inr ⟨_, rfl⟩⟩⟩
  · have dated : Json.int 0 ≠ .null := fun absent => (nomatch absent)
    exact List.forall_mem_cons.mpr ⟨⟨by decide, dated⟩,
      List.forall_mem_singleton.mpr ⟨by decide, dated⟩⟩

end Turbocat.Connectors
