import Turbocat.Connectors.Conversations
import Mathlib.Data.List.Nodup

/-! Which records of a source an extraction over a window yields. The meaning of a window
without start is each connector's own: Razorpay orders have no lower bound, customers no
window at all, and Kapture starts at the current day.
-/

namespace Turbocat.Connectors

open Turbocat.Python

/-- In a list without repetitions, the items before the first that fails a test are those
that pass it together with every item before them.
-/
theorem mem_takeWhile_iff {α : Type*} {p : α → Bool} {items : List α} (unique : items.Nodup)
    {item : α} (member : item ∈ items)
    : item ∈ items.takeWhile p
      ↔ ∀ before after,
          items = before ++ item :: after → ∀ earlier ∈ before ++ [item], p earlier = true := by
  constructor
  · intro kept before after whole
    subst whole
    by_contra failing
    have stops : ¬ (before.takeWhile p).length = before.length ∨ p item = false := by
      by_contra passing
      push Not at passing
      have front : before.takeWhile p <+: before := List.takeWhile_prefix p
      have same := front.eq_of_length passing.1
      have accepted := List.takeWhile_eq_self_iff.mp same
      refine failing fun earlier inFront => ?_
      rcases List.mem_append.mp inFront with earlierMember | last
      · exact accepted earlier earlierMember
      · rw [List.mem_singleton.mp last]
        simpa using passing.2
    have apart := (List.nodup_append.mp unique).2.2
    rcases stops with short | rejected
    · rw [List.takeWhile_append, if_neg short] at kept
      exact apart item (List.takeWhile_subset _ kept) item List.mem_cons_self rfl
    · rw [List.mem_takeWhile_imp kept] at rejected
      cases rejected
  · intro passes
    obtain ⟨before, after, split⟩ := List.append_of_mem member
    have accepted := passes before after split
    have whole : items = (before ++ [item]) ++ after := by simp [split]
    rw [whole, List.takeWhile_append_of_pos accepted]
    simp

/-- A record of a source, with the whole second it was created in. -/
structure SourceRecord where
  created : Datetime
  whole : created.us % second = 0
  raw : Json

/-- The UNIX second of a record's creation. -/
def SourceRecord.createdAt (record : SourceRecord) : Int := record.created.us / second

theorem SourceRecord.createdAt_us (record : SourceRecord)
    : record.createdAt * second = record.created.us := by
  have whole := record.whole
  simp only [SourceRecord.createdAt, second] at *
  omega

/-- What a source holds, in the order its API lists it; records differ from each other. -/
structure SourceContent where
  records : List SourceRecord
  distinct : (records.map (fun record => record.raw)).Nodup

/-- Whether a window asks for a record. -/
def InWindow (startTime : Option Datetime) (endTime : Datetime) (record : SourceRecord) : Prop :=
  record.created.us ≤ endTime.us ∧ ∀ start ∈ startTime, start.us ≤ record.created.us

/-- An integer parameter of a request. -/
def intParam (params : Dict) (name : String) : Option Int :=
  match params.lookup name with
  | some (.int value) => some value
  | _ => none

/-- The page `records[skip : skip + count]` in Razorpay's collection envelope. -/
def collectionPage (records : List SourceRecord) (params : Dict) : Json :=
  let page := (records.drop ((intParam params "skip").getD 0).toNat).take
    ((intParam params "count").getD 0).toNat
  .dict [
    ("entity", .str "collection"),
    ("count", .int page.length),
    ("items", .list (page.map (fun record => record.raw)))
  ]

/-- Whether a request's `from` and `to`, where present, admit a record. -/
def createdBetween (params : Dict) (record : SourceRecord) : Bool :=
  (intParam params "from").all (fun lower => decide (lower ≤ record.createdAt))
  && (intParam params "to").all (fun upper => decide (record.createdAt ≤ upper))

/-- Whether a record was created on the day that a request names as its first and last. -/
def createdOn (params : Dict) (record : SourceRecord) : Bool :=
  match params.lookup "start_date", params.lookup "end_date" with
  | some (.str first), some (.str last) =>
      decide (strftimeMonthDayYear record.created.date = first ∧ strftimeMonthDayYear record.created.date = last)
  | _, _ => false

namespace ConnectorClass

/-- The API of a connector's source, which answers a request with the records its
parameters select.
-/
def serve (cls : ConnectorClass) (content : SourceContent) (sent : Request) : Json :=
  match cls with
  | razorpayOrders =>
      collectionPage (content.records.filter (createdBetween sent.params)) sent.params
  | razorpayCustomers => collectionPage content.records sent.params
  | kaptureTickets =>
      .list ((content.records.filter (createdOn sent.params)).map (fun record => record.raw))

/-- The records the API serves over a whole extraction, in order. -/
def served (cls : ConnectorClass) (env : ExtractEnv) (content : SourceContent)
    (startTime : Option Datetime) (endTime : Datetime)
    : List SourceRecord :=
  match cls with
  | razorpayOrders =>
      content.records.filter
        (createdBetween (RazorpayOrders.params startTime (some endTime) 0))
  | razorpayCustomers => content.records
  | kaptureTickets =>
      (KaptureTickets.daysBetween (startTime.getD env.now).date endTime.date).flatMap
        (fun date => content.records.filter (fun record => decide (record.created.date = date)))

/-- A page of the collection, read back by the paging loop. -/
theorem pageItems_collectionPage (records : List SourceRecord) {params : Dict} (skip : Nat)
    (skips : params.lookup "skip" = some (.int skip))
    (counts : params.lookup "count" = some (.int pageCount))
    : pageItems (collectionPage records params)
      = .ok (((records.map (fun record => record.raw)).drop skip).take pageCount) := by
  simp only [collectionPage, intParam, skips, counts, Option.getD_some, Int.toNat_natCast,
    ← List.map_drop, ← List.map_take]
  rfl

theorem orders_servesPages (content : SourceContent) (startTime endTime : Option Datetime)
    : ServesPages (razorpayOrders.serve content) (RazorpayOrders.request startTime endTime)
        ((content.records.filter
          (createdBetween (RazorpayOrders.params startTime endTime 0))).map
            (fun record => record.raw)) := by
  intro skip
  have bounds
      : createdBetween (RazorpayOrders.params startTime endTime skip)
        = createdBetween (RazorpayOrders.params startTime endTime 0) := by
    funext record
    simp only [createdBetween, intParam, RazorpayOrders.params_from, RazorpayOrders.params_to]
  simp only [serve, RazorpayOrders.request]
  rw [pageItems_collectionPage _ skip rfl rfl, bounds]

theorem customers_servesPages (content : SourceContent)
    : ServesPages (razorpayCustomers.serve content) RazorpayCustomers.request
        (content.records.map (fun record => record.raw)) := fun skip =>
  pageItems_collectionPage _ skip rfl rfl

theorem tickets_servesDays (content : SourceContent) (config : KaptureTickets.Config)
    : KaptureTickets.ServesDays (kaptureTickets.serve content) config
        (fun date => (content.records.filter
          (fun record => decide (record.created.date = date))).map
            (fun record => record.raw)) := by
  intro date lower upper
  simp only [serve, KaptureTickets.ticketItems]
  refine congrArg _ (List.filter_congr fun record _ => ?_)
  have texts : createdOn (KaptureTickets.request config date).params record
      = decide (strftimeMonthDayYear record.created.date = strftimeMonthDayYear date
          ∧ strftimeMonthDayYear record.created.date = strftimeMonthDayYear date) :=
    rfl
  rw [texts]
  refine decide_eq_decide.mpr ⟨fun same => ?_, fun same => same ▸ ⟨rfl, rfl⟩⟩
  exact strftimeMonthDayYear_inj ⟨record.created.date_lower, record.created.date_upper⟩
    ⟨lower, upper⟩ same.1

/-- The items an extraction over a window has yielded when its API let it end. -/
theorem extract_conversation {cls : ConnectorClass} {env : ExtractEnv}
    {content : SourceContent} {startTime : Option Datetime} {endTime : Datetime}
    {replies : List Reply}
    (conversation
      : Conversation (cls.serve content) (cls.extract env startTime (some endTime)) replies)
    : itemsOf (cls.extract env startTime (some endTime) replies).events
      = ((cls.served env content startTime endTime).map (fun record => record.raw)).takeWhile
          (cls.transform env.host).accepts := by
  cases cls with
  | razorpayOrders =>
      exact offsetPages_conversation (RazorpayOrders.transform_clockFree env.host)
        (orders_servesPages content startTime (some endTime)) conversation
  | razorpayCustomers =>
      exact offsetPages_conversation (RazorpayCustomers.transform_clockFree env.host)
        (customers_servesPages content) conversation
  | kaptureTickets =>
      have days := KaptureTickets.days_conversation
        (KaptureTickets.transform_clockFree env.host) (tickets_servesDays content env.config)
        (startTime.getD env.now).date_lower endTime.date_upper conversation
      simp only [served, List.map_flatMap]
      exact days

/-- The API lets every extraction end. -/
theorem extract_converses (cls : ConnectorClass) (env : ExtractEnv) (content : SourceContent)
    (startTime : Option Datetime) (endTime : Datetime)
    : ∃ replies,
        Conversation (cls.serve content) (cls.extract env startTime (some endTime)) replies := by
  have pages (source : List Json) : source.length ≤ 0 + pageCount * source.length := by
    simp only [pageCount]
    omega
  cases cls with
  | razorpayOrders =>
      exact offsetPages_converses (RazorpayOrders.transform_clockFree env.host)
        (orders_servesPages content startTime (some endTime)) env.clock (pages _)
  | razorpayCustomers =>
      exact offsetPages_converses (RazorpayCustomers.transform_clockFree env.host)
        (customers_servesPages content) env.clock (pages _)
  | kaptureTickets =>
      exact KaptureTickets.days_converses (KaptureTickets.transform_clockFree env.host)
        (tickets_servesDays content env.config) (startTime.getD env.now).date_lower
        endTime.date_upper
        (endTime.date + 1 - (startTime.getD env.now).date).toNat
        (by omega)

/-- No record is served twice. -/
theorem served_nodup (cls : ConnectorClass) (env : ExtractEnv) (content : SourceContent)
    (startTime : Option Datetime) (endTime : Datetime)
    : (cls.served env content startTime endTime).Nodup := by
  have records : content.records.Nodup := List.Nodup.of_map _ content.distinct
  cases cls with
  | razorpayOrders => exact records.filter _
  | razorpayCustomers => exact records
  | kaptureTickets =>
      refine List.nodup_flatMap.mpr ⟨fun _ _ => records.filter _, ?_⟩
      have days : (KaptureTickets.daysBetween (startTime.getD env.now).date
          endTime.date).Nodup :=
        List.nodup_range.map fun left right same => by omega
      refine days.imp fun {left right} apart => ?_
      intro record first second
      simp only [List.mem_filter, decide_eq_true_eq] at first second
      exact apart (first.2.symm.trans second.2)

-----------------------------------------------------------------------------------------
-- Completeness
-----------------------------------------------------------------------------------------

/-- The API serves a record exactly when the requests for the window select it. -/
theorem mem_served_iff {cls : ConnectorClass} {env : ExtractEnv} {content : SourceContent}
    {startTime : Option Datetime} {endTime : Datetime} {record : SourceRecord}
    : record ∈ cls.served env content startTime endTime
      ↔ record ∈ content.records
        ∧ match cls with
          | razorpayOrders =>
              (∀ start ∈ startTime, start.intTimestamp ≤ record.createdAt)
              ∧ record.createdAt ≤ endTime.intTimestamp
          | razorpayCustomers => True
          | kaptureTickets =>
              (startTime.getD env.now).date ≤ record.created.date
              ∧ record.created.date ≤ endTime.date := by
  cases cls with
  | razorpayOrders =>
      simp only [served, List.mem_filter, createdBetween, intParam, RazorpayOrders.params_from,
        RazorpayOrders.params_to]
      cases startTime <;> simp
  | razorpayCustomers => simp [served]
  | kaptureTickets =>
      simp only [served, List.mem_flatMap, KaptureTickets.mem_daysBetween, List.mem_filter, decide_eq_true_eq]
      constructor
      · intro listed
        obtain ⟨date, range, member, rfl⟩ := listed
        exact ⟨member, range⟩
      · intro both
        obtain ⟨member, range⟩ := both
        exact ⟨_, range, member, rfl⟩

/-- The first day an extraction asks for is no later than any record it should find. Only a
Kapture window without start has a first day of its own, the current one.
-/
def StartsInTime (cls : ConnectorClass) (env : ExtractEnv) (content : SourceContent)
    (startTime : Option Datetime) (endTime : Datetime)
    : Prop :=
  cls = kaptureTickets → startTime = none →
    ∀ record ∈ content.records,
      record.created.us ≤ endTime.us → env.now.date ≤ record.created.date

/-- The API serves every record of a window exactly when the extraction starts in time.
Seconds are truncated towards the record at both ends of a Razorpay window.
-/
theorem serves_window_iff {cls : ConnectorClass} {env : ExtractEnv}
    {content : SourceContent} {startTime : Option Datetime} {endTime : Datetime}
    : (∀ record ∈ content.records,
        InWindow startTime endTime record → record ∈ cls.served env content startTime endTime)
      ↔ cls.StartsInTime env content startTime endTime := by
  simp only [mem_served_iff]
  cases cls with
  | razorpayOrders =>
      refine ⟨fun _ kapture => (nomatch kapture), fun _ record member window => ?_⟩
      refine ⟨member, fun start isStart => ?_, ?_⟩
      · by_contra early
        have before := Datetime.lt_of_lt_intTimestamp (Int.not_le.mp early)
        have after := window.2 start isStart
        rw [record.createdAt_us] at before
        omega
      · exact Datetime.le_intTimestamp (record.createdAt_us ▸ window.1)
  | razorpayCustomers =>
      exact ⟨fun _ kapture => (nomatch kapture), fun _ record member _ => ⟨member, trivial⟩⟩
  | kaptureTickets =>
      have dayPositive : 0 < day := by decide
      cases startTime with
      | none =>
          simp only [StartsInTime, forall_const, InWindow, Option.getD_none]
          constructor
          · intro complete record member before
            exact (complete record member ⟨before, by simp⟩).2.1
          · intro inTime record member window
            exact ⟨member, inTime record member window.1,
              Int.ediv_le_ediv dayPositive window.1⟩
      | some start =>
          refine ⟨fun _ _ absent => (nomatch absent), fun _ record member window => ?_⟩
          exact ⟨member, Int.ediv_le_ediv dayPositive (window.2 start rfl),
            Int.ediv_le_ediv dayPositive window.1⟩

/-- Every record of the window has been yielded. -/
def YieldsWindow (cls : ConnectorClass) (env : ExtractEnv) (content : SourceContent)
    (startTime : Option Datetime) (endTime : Datetime) (replies : List Reply)
    : Prop :=
  ∀ record ∈ content.records, InWindow startTime endTime record →
    record.raw ∈ itemsOf (cls.extract env startTime (some endTime) replies).events

/-- The transform accepts each record of the window and every record served before it. -/
def AcceptsWindow (cls : ConnectorClass) (env : ExtractEnv) (content : SourceContent)
    (startTime : Option Datetime) (endTime : Datetime)
    : Prop :=
  ∀ record ∈ content.records, InWindow startTime endTime record →
    ∀ before after, cls.served env content startTime endTime = before ++ record :: after →
      ∀ earlier ∈ before ++ [record], (cls.transform env.host).accepts earlier.raw = true

end ConnectorClass

/-- For every source, every environment and every window the orchestrator can send, a
conversation with the source ends, and it yields every record of the window exactly when
the extraction starts in time and the transform accepts what is served up to the last of
them.
-/
theorem extract_complete_iff (cls : ConnectorClass) (env : ExtractEnv)
    (content : SourceContent) (startTime : Option Datetime) (endTime : Datetime)
    : let extract := cls.extract env startTime (some endTime)
      (∃ replies, Conversation (cls.serve content) extract replies)
      ∧ ∀ replies, Conversation (cls.serve content) extract replies →
          (cls.YieldsWindow env content startTime endTime replies
            ↔ cls.StartsInTime env content startTime endTime
              ∧ cls.AcceptsWindow env content startTime endTime) := by
  intro extract
  refine ⟨ConnectorClass.extract_converses cls env content startTime endTime, ?_⟩
  intro replies conversation
  have items := ConnectorClass.extract_conversation conversation
  have unique := ConnectorClass.served_nodup cls env content startTime endTime
  have contained {record : SourceRecord}
      (member : record ∈ cls.served env content startTime endTime)
      : record ∈ content.records := (ConnectorClass.mem_served_iff.mp member).1
  -- A record is told by its raw form, so it was yielded only as itself.
  have yielded {record : SourceRecord} (member : record ∈ content.records)
      : record.raw ∈ itemsOf (extract replies).events
        ↔ record ∈ (cls.served env content startTime endTime).takeWhile
            (fun record => (cls.transform env.host).accepts record.raw) := by
    rw [items, List.takeWhile_map, List.mem_map]
    constructor
    · intro found
      obtain ⟨other, otherYielded, same⟩ := found
      have otherMember := contained (List.takeWhile_subset _ otherYielded)
      have equal := List.inj_on_of_nodup_map content.distinct otherMember member same
      exact equal ▸ otherYielded
    · exact fun kept => ⟨record, kept, rfl⟩
  rw [← ConnectorClass.serves_window_iff, ConnectorClass.YieldsWindow]
  constructor
  · intro complete
    have kept {record : SourceRecord} (member : record ∈ content.records)
        (window : InWindow startTime endTime record) :=
      (yielded member).mp (complete record member window)
    refine ⟨fun record member window => List.takeWhile_subset _ (kept member window), ?_⟩
    intro record member window
    exact (mem_takeWhile_iff unique
      (List.takeWhile_subset _ (kept member window))).mp (kept member window)
  · intro both record member window
    obtain ⟨served, accepts⟩ := both
    exact (yielded member).mpr ((mem_takeWhile_iff unique (served record member window)).mpr
      (accepts record member window))

/-- A first Kapture sync, which the orchestrator sends without a start, finishes without a
ticket created the day before and has nothing left to ask for.
-/
theorem kapture_first_sync_skips_yesterday
    : let now : Datetime := ⟨1700049600000000, by decide, by decide⟩
      let yesterday : Datetime := ⟨1699963200000000, by decide, by decide⟩
      let ticket : SourceRecord := ⟨yesterday, by decide, .dict [("ticketId", .str "T-1")]⟩
      let content : SourceContent := ⟨[ticket], List.nodup_singleton _⟩
      let env : ExtractEnv := { host := Host.utc, now := now, clock := fun _ => now }
      let extract := ConnectorClass.kaptureTickets.extract env none (some now)
      Conversation (ConnectorClass.kaptureTickets.serve content) extract [.ok (.list [])]
      ∧ (extract [.ok (.list [])]).outcome = .returned
      ∧ ¬ ConnectorClass.kaptureTickets.YieldsWindow env content none now
            [.ok (.list [])] := by
  refine ⟨⟨by decide, rfl⟩, by decide, fun complete => ?_⟩
  have yielded := complete _ List.mem_cons_self ⟨by decide, by simp⟩
  cases yielded

end Turbocat.Connectors
