import Turbocat.Connectors.SourceCoverage
import Turbocat.Library.Paging

/-! The two Razorpay extractions against an API that holds a list: what they request of it
and yield of it, when the list stays as it is and when it grows between the pages.
-/

namespace Turbocat.Connectors

open Turbocat.Library Turbocat.Python

section

variable {request : Nat → Request} {transform : Transform} {clock : Nat → Datetime}

/-- So are those of the paging loop, by induction over the replies. -/
theorem offsetPages_records (skip fetched : Nat) (replies : List Reply)
    : let events := (offsetPages request transform clock skip fetched replies).events
      (recordsOf events).map .ok = transformed transform clock fetched (itemsOf events) := by
  induction replies generalizing skip fetched with
  | nil => rfl
  | cons reply rest ih =>
      have turn := @offsetPages_cases request transform clock skip fetched reply rest
      generalize offsetPages request transform clock skip fetched (reply :: rest) = run
        at turn ⊢
      cases turn with
      | unread => rfl
      | empty => rfl
      | @rejected data items events exception answer page loop =>
          have read := yieldItems_records transform clock fetched items
          rw [loop] at read
          exact read
      | @short data items events answer page nonempty loop ends =>
          have read := yieldItems_records transform clock fetched items
          rw [loop] at read
          exact read
      | @full data items events answer page nonempty loop fills =>
          have read := yieldItems_records transform clock fetched items
          have whole := @itemsOf_yieldItems transform clock fetched items (by rw [loop])
          rw [loop] at read whole
          have later := ih (skip + pageCount) (fetched + items.length)
          simp only [ExtractRun.after_events, List.cons_append, recordsOf_cons_request,
            itemsOf_cons_request, recordsOf_append, itemsOf_append, List.map_append,
            transformed_append]
          rw [read, later, whole]

/-- Each request a run has sent was answered in turn, by the API of its time. -/
def ExtractRun.AnsweredInTurn (serve : Nat → Request → Json) (run : ExtractRun)
    (replies : List Reply)
    : Prop :=
  run.consumed replies
  = (requestsOf run.events).mapIdx (fun number sent => .ok (serve number sent))

/-- What a loop that returned has read of a list whose API answers each page from the
version of its time: consecutive pages, up to the first short one.
-/
theorem offsetPages_versions
    (rejects : ∀ now text, ∃ exception, transform now (.str text) = .error exception)
    {serve : Nat → Request → Json} {versions : Nat → List Json}
    (serves : ∀ number, ServesPages (serve number) request (versions number))
    {replies : List Reply}
    (answered : (offsetPages request transform clock 0 0 replies).AnsweredInTurn serve replies)
    (returned : (offsetPages request transform clock 0 0 replies).outcome = .returned)
    : let events := (offsetPages request transform clock 0 0 replies).events
      ∃ count,
        requestsOf events
          = (List.range (count + 1)).map (fun number => request (pageCount * number))
        ∧ itemsOf events
          = (List.range (count + 1)).flatMap
              (fun number => page pageCount number (versions number))
        ∧ (∀ number < count, pageCount ≤ (page pageCount number (versions number)).length)
        ∧ (page pageCount count (versions count)).length < pageCount := by
  intro events
  let answer (number : Nat) : Reply := .ok (serve number (request (pageCount * number)))
  have read := offsetPages_returned rejects returned
  simp only at read
  rw [answered] at read
  obtain ⟨readable, items, requests, full, last, split, allFull, short⟩ := read
  simp only [List.length_mapIdx, Nat.zero_add] at requests
  generalize (requestsOf events).length = total at requests
  have pages
      : (requestsOf events).mapIdx (fun number sent => Except.ok (serve number sent))
        = (List.range total).map answer := by
    rw [requests]
    exact List.ext_getElem (by simp) (by simp [answer])
  simp only [show requestsOf (offsetPages request transform clock 0 0 replies).events
    = requestsOf events from rfl, pages] at readable items split
  -- The reply read as a page is the page of the version it was answered from.
  have records {number : Nat} (member : answer number ∈ (List.range total).map answer)
      : pageRecords (answer number) = page pageCount number (versions number) := by
    have read := pageItems_of_readable (readable _ member)
    rw [serves number] at read
    exact (Except.ok.inj read).symm
  cases total with
  | zero =>
      have empty := congrArg List.length split
      simp at empty
  | succ count =>
      rw [List.range_succ, List.map_append, List.map_singleton] at split
      obtain ⟨rfl, ends⟩ := List.append_inj' split rfl
      obtain rfl := List.singleton_inj.mp ends
      have inside {number : Nat} (below : number ≤ count)
          : answer number ∈ (List.range (count + 1)).map answer :=
        List.mem_map_of_mem (List.mem_range.mpr (Nat.lt_succ_of_le below))
      refine ⟨count, requests, ?_, ?_, ?_⟩
      · rw [items, List.flatMap_map]
        refine List.flatMap_congr fun number member => ?_
        exact records (List.mem_map_of_mem member)
      · intro number below
        rw [← records (inside below.le)]
        exact allFull _ (List.mem_map_of_mem (List.mem_range.mpr below))
      · rw [← records (inside le_rfl)]
        exact short

/-- A conversation with an API that stays as it is, answered in turn. -/
theorem Conversation.answeredInTurn {serve : Request → Json}
    {extract : List Reply → ExtractRun} {replies : List Reply}
    (conversation : Conversation serve extract replies)
    : (extract replies).AnsweredInTurn (fun _ => serve) replies := by
  have answered := conversation.answered
  have lengths := congrArg List.length answered
  rw [List.length_map] at lengths
  rw [ExtractRun.AnsweredInTurn, ExtractRun.consumed, List.take_of_length_le lengths.le]
  exact answered.trans (List.ext_getElem (by simp) (by simp))

/-- The paging loop against an API whose list stays as it is: it ends, and when the transform
accepts every item it yields each once, in order, over as many pages as the list has full
ones and one more.
-/
theorem offsetPages_exact (clockFree : transform.ClockFree)
    (rejects : ∀ now text, ∃ exception, transform now (.str text) = .error exception)
    {serve : Request → Json} {source : List Json} (serves : ServesPages serve request source)
    : let extract := offsetPages request transform clock 0 0
      (∃ replies, Conversation serve extract replies)
      ∧ ((∀ item ∈ source, transform.accepts item = true) →
          ∀ replies,
            Conversation serve extract replies
            → (extract replies).outcome = .returned
              ∧ (recordsOf (extract replies).events).map .ok
                = source.mapIdx (fun index item => transform (clock index) item)
              ∧ requestsOf (extract replies).events
                = (List.range (source.length / pageCount + 1)).map
                    (fun number => request (pageCount * number))) := by
  intro extract
  constructor
  · have bound : source.length ≤ 0 + pageCount * source.length := by
      simp only [pageCount]
      omega
    exact offsetPages_converses clockFree serves clock bound
  · intro accepted replies conversation
    have returned := offsetPages_returns clockFree serves accepted conversation
    obtain ⟨count, requests, items, full, short⟩ :=
      offsetPages_versions rejects (fun _ => serves) conversation.answeredInTurn returned
    have records := @offsetPages_records request transform clock 0 0 replies
    rw [flatMap_page_of_short short] at items
    rw [first_short_page full short] at requests
    simp only [items, transformed, Nat.zero_add] at records
    exact ⟨returned, records, requests⟩

end

/-- `items[skip : skip + count]` in Razorpay's collection envelope, for the `skip` and the
`count` of a request.
-/
def slicePage (items : List Json) (sent : Request) : Json :=
  let slice := (items.drop ((intParam sent.params "skip").getD 0).toNat).take
    ((intParam sent.params "count").getD 0).toNat
  .dict [("entity", .str "collection"), ("count", .int slice.length), ("items", .list slice)]

/-- Such an API serves the pages the two connectors ask for. -/
theorem slicePage_servesPages (items : List Json)
    : (∀ startTime endTime,
        ServesPages (slicePage items) (RazorpayOrders.request startTime endTime) items)
      ∧ ServesPages (slicePage items) RazorpayCustomers.request items :=
  ⟨fun _ _ _ => rfl, fun _ => rfl⟩

-----------------------------------------------------------------------------------------
-- Orders
-----------------------------------------------------------------------------------------

/-- Orders pagination is exact: against an API that holds some orders for its bounds the
extraction ends, and when each order can be transformed it yields them all, once and in
order, over one request for each full page and one more, with the same bounds in each.
-/
theorem orders_paging_exact {host : Host} {clock : Nat → Datetime}
    {startTime endTime : Option Datetime} {serve : Request → Json} {orders : List Json}
    (serves : ServesPages serve (RazorpayOrders.request startTime endTime) orders)
    : let extract := RazorpayOrders.extract host clock startTime endTime
      (∃ replies, Conversation serve extract replies)
      ∧ ((∀ order ∈ orders, (RazorpayOrders.transform host).accepts order = true) →
          ∀ replies,
            Conversation serve extract replies
            → let run := extract replies
              run.outcome = .returned
              ∧ (recordsOf run.events).map .ok
                = orders.mapIdx (fun index order => RazorpayOrders.transform host (clock index) order)
              ∧ requestsOf run.events
                = (List.range (orders.length / 100 + 1)).map
                    (fun number => RazorpayOrders.request startTime endTime (100 * number))
              ∧ ∀ sent ∈ requestsOf run.events,
                  sent.params.lookup "from" = startTime.map (fun time => .int time.intTimestamp)
                  ∧ sent.params.lookup "to" = endTime.map (fun time => .int time.intTimestamp)) := by
  intro extract
  obtain ⟨converses, exact_⟩ := @offsetPages_exact (RazorpayOrders.request startTime endTime)
    (RazorpayOrders.transform host) clock (RazorpayOrders.transform_clockFree host)
    (fun now text => (razorpay_rejects_text host now text).1) serve orders serves
  refine ⟨converses, fun accepted replies conversation => ?_⟩
  obtain ⟨returned, records, requests⟩ := exact_ accepted replies conversation
  refine ⟨returned, records, requests, fun sent member => ?_⟩
  have among : sent ∈ (List.range (orders.length / pageCount + 1)).map
      (fun number => RazorpayOrders.request startTime endTime (pageCount * number)) :=
    requests ▸ member
  obtain ⟨number, _, rfl⟩ := List.mem_map.mp among
  exact ⟨RazorpayOrders.params_from _ _ _, RazorpayOrders.params_to _ _ _⟩

/-- An order without amounts. -/
def plainOrder : Json :=
  .dict [("id", .str "order_1"), ("currency", .str "INR"), ("status", .str "created"),
    ("created_at", .int 0)]

/-- A hundred orders take two requests: the second page is empty. -/
theorem orders_paging_exact_hundred
    : let orders := List.replicate 100 plainOrder
      let extract := RazorpayOrders.extract Host.utc (fun _ => default) none none
      ∃ replies,
        Conversation (slicePage orders) extract replies
        ∧ (extract replies).outcome = .returned
        ∧ (recordsOf (extract replies).events).length = 100
        ∧ (requestsOf (extract replies).events).map (fun sent => intParam sent.params "skip")
          = [some 0, some 100] := by
  intro orders extract
  obtain ⟨⟨replies, conversation⟩, paged⟩ :=
    @orders_paging_exact Host.utc (fun _ => default) none none _ orders
      ((slicePage_servesPages orders).1 none none)
  have accepted : ∀ order ∈ orders, (RazorpayOrders.transform Host.utc).accepts order = true := by
    intro order member
    rw [List.eq_of_mem_replicate member]
    rfl
  obtain ⟨returned, records, requests, _⟩ := paged accepted replies conversation
  have count := congrArg List.length records
  rw [List.length_map, List.length_mapIdx, List.length_replicate] at count
  refine ⟨replies, conversation, returned, count, ?_⟩
  rw [requests, List.length_replicate]
  rfl

-----------------------------------------------------------------------------------------
-- Customers
-----------------------------------------------------------------------------------------

/-- Customer paging misses nobody while customers are being added: an extraction that
returns has yielded every customer there was at its start, whatever was inserted between
its requests. Without insertions it ends and yields each exactly once.
-/
theorem customers_paging_complete {host : Host} {clock : Nat → Datetime}
    {initial : List Json} {versions : Nat → List Json} {serve : Nat → Request → Json}
    (begins : initial.Sublist (versions 0)) (grows : Grows versions)
    (serves : ∀ number, ServesPages (serve number) RazorpayCustomers.request (versions number))
    : let extract := RazorpayCustomers.extract host clock
      (∀ replies,
        (extract replies).AnsweredInTurn serve replies
        → (extract replies).outcome = .returned
        → initial.Sublist (itemsOf (extract replies).events)
          ∧ ∀ customer ∈ initial, ∃ record ∈ recordsOf (extract replies).events,
              ∃ index, RazorpayCustomers.transform host (clock index) customer = .ok record)
      ∧ ∀ unchanging,
          ServesPages unchanging RazorpayCustomers.request initial
          → (∃ replies, Conversation unchanging extract replies)
            ∧ ((∀ customer ∈ initial, (RazorpayCustomers.transform host).accepts customer = true) →
                ∀ replies,
                  Conversation unchanging extract replies
                  → (extract replies).outcome = .returned
                    ∧ (recordsOf (extract replies).events).map .ok
                      = initial.mapIdx (fun index customer =>
                          RazorpayCustomers.transform host (clock index) customer)) := by
  intro extract
  have rejects (now : Datetime) (text : String) :=
    (razorpay_rejects_text host now text).2
  constructor
  · intro replies answered returned
    obtain ⟨count, _, items, _, short⟩ := offsetPages_versions rejects serves answered returned
    have whole : initial.Sublist (itemsOf (extract replies).events) := by
      apply begins.trans
      rw [show itemsOf (extract replies).events = _ from items]
      exact grows.sublist_of_short short
    exact ⟨whole, fun customer member =>
      exists_record (offsetPages_records 0 0 replies) (whole.subset member)⟩
  · intro unchanging unchanged
    obtain ⟨converses, exact_⟩ := @offsetPages_exact RazorpayCustomers.request
      (RazorpayCustomers.transform host) clock (RazorpayCustomers.transform_clockFree host)
      rejects unchanging initial unchanged
    refine ⟨converses, fun accepted replies conversation => ?_⟩
    obtain ⟨returned, records, _⟩ := exact_ accepted replies conversation
    exact ⟨returned, records⟩

def namedCustomer (id : String) : Json :=
  .dict [("id", .str id), ("contact", .str "1"), ("created_at", .int 0)]

/-- A hundred customers, and one more at the front once the first page has been read: the
last of the first page moves to the second and is read twice, and nobody is missed.
-/
theorem customers_paging_complete_hundred
    : let initial := List.replicate 100 (namedCustomer "cust_1")
      let versions (number : Nat) : List Json :=
        if number = 0 then initial else namedCustomer "cust_2" :: initial
      let extract := RazorpayCustomers.extract Host.utc (fun _ => default)
      let replies : List Reply :=
        [.ok (slicePage (versions 0) (RazorpayCustomers.request 0)),
          .ok (slicePage (versions 1) (RazorpayCustomers.request 100))]
      (extract replies).outcome = .returned
      ∧ (itemsOf (extract replies).events).length = 101
      ∧ initial.Sublist (itemsOf (extract replies).events) := by
  intro initial versions extract replies
  have grows : Grows versions := by
    intro number
    simp only [versions, Nat.add_one_ne_zero, if_false]
    split
    · exact List.sublist_cons_self _ _
    · exact List.Sublist.refl _
  have paged := (@customers_paging_complete Host.utc (fun _ => default) initial versions
    (fun number => slicePage (versions number)) (List.Sublist.refl _) grows
    (fun number => (slicePage_servesPages (versions number)).2)).1 replies
  refine ⟨rfl, rfl, (paged ?_ ?_).1⟩
  · rfl
  · rfl

end Turbocat.Connectors
