import Turbocat.Connectors.SourceCoverage

/-! Extractions whose requests are answered or fail: what they have yielded wherever they
end, and which part of a record depends on the clock.
-/

namespace Turbocat.Connectors

open Turbocat.Python

-----------------------------------------------------------------------------------------
-- Stamps
-----------------------------------------------------------------------------------------

/-- Two records that carry their clock readings and agree in every other column. -/
structure Restamped (earlier later : Datetime) (left right : Record) : Prop where
  stamped : left.lookup "_extracted_at" = some (.datetime (.aware earlier))
  restamped : right.lookup "_extracted_at" = some (.datetime (.aware later))
  fields : ∀ name, name ≠ "_extracted_at" → right.lookup name = left.lookup name

/-- A transform reads the clock for `_extracted_at` only. -/
def Transform.Stamps (transform : Transform) : Prop :=
  ∀ item earlier later left right,
    transform earlier item = .ok left
    → transform later item = .ok right
    → Restamped earlier later left right

/-- Two computations that share their first part have related results when they have for
each value of it.
-/
theorem restamped_of_bind {α : Type} {first : Except PyException α}
    {front back : α → Except PyException Record} {earlier later : Datetime}
    (each
      : ∀ value left right,
          front value = .ok left → back value = .ok right → Restamped earlier later left right)
    : ∀ left right,
        first >>= front = .ok left → first >>= back = .ok right
        → Restamped earlier later left right := by
  intro left right leftDone rightDone
  obtain ⟨value, made, leftDone⟩ := bind_eq_ok_iff.mp leftDone
  obtain ⟨other, again, rightDone⟩ := bind_eq_ok_iff.mp rightDone
  rw [made] at again
  cases again
  exact each value left right leftDone rightDone

theorem RazorpayOrders.transform_stamps (host : Host)
    : Transform.Stamps (RazorpayOrders.transform host) := by
  intro item earlier later
  refine restamped_of_bind fun _ => restamped_of_bind fun _ => restamped_of_bind fun _ =>
    restamped_of_bind fun _ => restamped_of_bind fun _ => restamped_of_bind fun _ =>
      restamped_of_bind fun _ => restamped_of_bind fun _ => restamped_of_bind fun _ =>
        restamped_of_bind fun _ => restamped_of_bind fun _ => restamped_of_bind fun _ => ?_
  intro left right leftDone rightDone
  cases leftDone
  cases rightDone
  refine ⟨rfl, rfl, fun name other => ?_⟩
  simp only [List.lookup_cons, beq_false_of_ne other]

theorem RazorpayCustomers.transform_stamps (host : Host)
    : Transform.Stamps (RazorpayCustomers.transform host) := by
  intro item earlier later
  refine restamped_of_bind fun _ => restamped_of_bind fun _ => restamped_of_bind fun _ =>
    restamped_of_bind fun _ => restamped_of_bind fun _ => restamped_of_bind fun _ =>
      restamped_of_bind fun _ => restamped_of_bind fun _ => ?_
  intro left right leftDone rightDone
  cases leftDone
  cases rightDone
  refine ⟨rfl, rfl, fun name other => ?_⟩
  simp only [List.lookup_cons, beq_false_of_ne other]

/-- The columns of a dict display are its names, in order. -/
theorem KaptureTickets.dictDisplay_names {entries : List (String × Except PyException Value)}
    {record : Record} (done : KaptureTickets.dictDisplay entries = .ok record)
    : record.map Prod.fst = entries.map Prod.fst := by
  induction entries generalizing record with
  | nil =>
      cases done
      rfl
  | cons entry rest ih =>
      obtain ⟨value, _, later⟩ := bind_eq_ok_iff.mp done
      obtain ⟨columns, display, same⟩ := bind_eq_ok_iff.mp later
      cases same
      rw [List.map_cons, List.map_cons, ih display]

/-- A ticket has no `id`. -/
theorem KaptureTickets.transform_no_id {host : Host} {now : Datetime} {item : Json}
    {record : Record} (done : KaptureTickets.transform host now item = .ok record)
    : record.lookup "id" = none := by
  obtain ⟨_, _, done⟩ := bind_eq_ok_iff.mp done
  obtain ⟨_, _, done⟩ := bind_eq_ok_iff.mp done
  obtain ⟨_, _, done⟩ := bind_eq_ok_iff.mp done
  obtain ⟨_, _, done⟩ := bind_eq_ok_iff.mp done
  have names := KaptureTickets.dictDisplay_names done
  have absent : "id" ∉ record.map Prod.fst := by
    rw [names]
    simp [KaptureTickets.columnValues]
  refine List.lookup_eq_none_iff.mpr fun entry member => ?_
  have different : "id" ≠ entry.1 := fun same =>
    absent (same ▸ List.mem_map_of_mem member)
  exact bne_iff_ne.mpr different

/-- Restamping decides nothing about a record's acceptance. -/
theorem validate_restamped {schema : TableSchema} {earlier later : Datetime}
    {left right : Record} (restamped : Restamped earlier later left right)
    (valid : validate schema left = true)
    : validate schema right = true := by
  simp only [validate, List.all_eq_true] at valid ⊢
  intro name required
  by_cases stamp : name = "_extracted_at"
  · rw [stamp, restamped.restamped]
    rfl
  · rw [restamped.fields name stamp]
    exact valid name required

-----------------------------------------------------------------------------------------
-- Answered extractions
-----------------------------------------------------------------------------------------

/-- Every reply that was decoded is the API's answer to its request. -/
def ExtractRun.AnsweredBy (run : ExtractRun) (serve : Request → Json) (replies : List Reply)
    : Prop :=
  ∀ exchange ∈ (requestsOf run.events).zip replies,
    ∀ data, exchange.2 = .ok data → data = serve exchange.1

/-- A run yields transforms of certain items only, and of all of them when it returns. -/
structure Yields (transform : Transform) (clock : Nat → Datetime) (items : List Json)
    (run : ExtractRun)
    : Prop where
  origin
    : ∀ record ∈ recordsOf run.events,
        ∃ item ∈ items, ∃ index, transform (clock index) item = .ok record
  complete
    : run.outcome = .returned →
        ∀ item ∈ items, ∃ record ∈ recordsOf run.events,
          ∃ index, transform (clock index) item = .ok record

/-- The records a loop over items yields, by induction over the items. -/
theorem yieldItems_yields (transform : Transform) (clock : Nat → Datetime) (index : Nat)
    (items : List Json)
    : let yielded := yieldItems transform clock index items
      (∀ record ∈ recordsOf yielded.1,
        ∃ item ∈ items, ∃ index, transform (clock index) item = .ok record)
      ∧ (yielded.2 = none →
          ∀ item ∈ items, ∃ record ∈ recordsOf yielded.1,
            ∃ index, transform (clock index) item = .ok record) := by
  induction items generalizing index with
  | nil =>
      exact ⟨fun _ member => absurd member List.not_mem_nil,
        fun _ _ member => absurd member List.not_mem_nil⟩
  | cons item rest ih =>
      obtain ⟨origin, complete⟩ := ih (index + 1)
      unfold yieldItems
      split
      · exact ⟨fun _ member => absurd member List.not_mem_nil,
          fun ended => absurd ended (Option.some_ne_none _)⟩
      · next record transformed =>
          constructor
          · intro other member
            rcases List.mem_cons.mp member with rfl | later
            · exact ⟨item, List.mem_cons_self, index, transformed⟩
            · obtain ⟨found, among, made⟩ := origin other later
              exact ⟨found, List.mem_cons_of_mem _ among, made⟩
          · intro ended other member
            rcases List.mem_cons.mp member with rfl | later
            · exact ⟨record, List.mem_cons_self, index, transformed⟩
            · obtain ⟨found, among, made⟩ := complete ended other later
              exact ⟨found, List.mem_cons_of_mem _ among, made⟩

section

variable {request : Nat → Request} {transform : Transform} {clock : Nat → Datetime}
  {serve : Request → Json} {source : List Json}

/-- A run without records that did not return. -/
theorem Yields.of_empty {items : List Json} {run : ExtractRun}
    (empty : recordsOf run.events = []) (ended : run.outcome = .returned → items = [])
    : Yields transform clock items run := by
  constructor
  · intro record member
    rw [empty] at member
    cases member
  · intro returned item member
    rw [ended returned] at member
    cases member

/-- Records of some items, all of them, before a run over further items. -/
theorem Yields.after {events : List ExtractEvent} {front back : List Json} {run : ExtractRun}
    (origin
      : ∀ record ∈ recordsOf events,
          ∃ item ∈ front, ∃ index, transform (clock index) item = .ok record)
    (complete
      : ∀ item ∈ front, ∃ record ∈ recordsOf events,
          ∃ index, transform (clock index) item = .ok record)
    (tail : Yields transform clock back run)
    : Yields transform clock (front ++ back) (run.after events) := by
  constructor
  · intro record member
    rw [ExtractRun.after_events, recordsOf_append] at member
    rcases List.mem_append.mp member with earlier | later
    · obtain ⟨item, among, made⟩ := origin record earlier
      exact ⟨item, List.mem_append_left _ among, made⟩
    · obtain ⟨item, among, made⟩ := tail.origin record later
      exact ⟨item, List.mem_append_right _ among, made⟩
  · intro returned item member
    rw [ExtractRun.after_events, recordsOf_append]
    rcases List.mem_append.mp member with earlier | later
    · obtain ⟨record, among, made⟩ := complete item earlier
      exact ⟨record, List.mem_append_left _ among, made⟩
    · obtain ⟨record, among, made⟩ := tail.complete returned item later
      exact ⟨record, List.mem_append_right _ among, made⟩

/-- What comes from the items of a page comes from the source. -/
theorem from_page {skip : Nat} {items : List Json} {records : List Record}
    (page : items = (source.drop skip).take pageCount)
    (origin : ∀ record ∈ records, ∃ item ∈ items, ∃ index,
      transform (clock index) item = .ok record)
    : ∀ record ∈ records, ∃ item ∈ source.drop skip, ∃ index,
        transform (clock index) item = .ok record := by
  intro record member
  obtain ⟨item, among, made⟩ := origin record member
  rw [page] at among
  exact ⟨item, List.mem_of_mem_take among, made⟩

/-- An answered paging loop yields the items of its source from `skip` on. Witness:
induction over the replies.
-/
theorem offsetPages_yields (serves : ServesPages serve request source) {skip fetched : Nat}
    {replies : List Reply}
    (answered
      : (offsetPages request transform clock skip fetched replies).AnsweredBy serve replies)
    : Yields transform clock (source.drop skip)
        (offsetPages request transform clock skip fetched replies) := by
  induction replies generalizing skip fetched with
  | nil => exact Yields.of_empty rfl (fun returned => by cases returned)
  | cons reply rest ih =>
      obtain ⟨later, first⟩ := offsetPages_first_request request
        transform clock skip fetched (reply :: rest)
      -- A reply that is read as a page is the next page of the source.
      have next_page {data : Json} {items : List Json} (answer : reply = .ok data)
          (page : pageItems data = .ok items)
          : items = (source.drop skip).take pageCount := by
        subst answer
        have exchanged : data = serve (request skip) := by
          refine answered (request skip, .ok data) ?_ data rfl
          rw [first]
          exact List.mem_cons_self
        rw [exchanged, serves skip] at page
        exact (Except.ok.inj page).symm
      have turn := @offsetPages_cases request transform clock skip fetched reply rest
      generalize offsetPages request transform clock skip fetched (reply :: rest) = run
        at turn answered ⊢
      cases turn with
      | unread => exact Yields.of_empty rfl (fun returned => by cases returned)
      | empty answer page =>
          refine Yields.of_empty rfl fun _ => ?_
          exact (List.take_eq_nil_iff.mp (next_page answer page).symm).resolve_left (by decide)
      | @rejected data items events exception answer page loop =>
          obtain ⟨origin, _⟩ := yieldItems_yields transform clock fetched items
          rw [loop] at origin
          exact ⟨from_page (next_page answer page) origin, fun returned => by cases returned⟩
      | @short data items events answer page nonempty loop ends =>
          obtain ⟨origin, complete⟩ := yieldItems_yields transform clock fetched items
          rw [loop] at origin complete
          have whole : items = source.drop skip := by
            rw [next_page answer page, List.length_take] at ends
            rw [next_page answer page]
            exact List.take_of_length_le (by omega)
          rw [whole] at complete
          exact ⟨from_page (next_page answer page) origin, fun _ => complete rfl⟩
      | @full data items events answer page nonempty loop fills =>
          obtain ⟨origin, complete⟩ := yieldItems_yields transform clock fetched items
          have sent := requestsOf_yieldItems transform clock fetched items
          rw [loop] at origin complete sent
          have pages : source.drop skip = items ++ source.drop (skip + pageCount) := by
            rw [next_page answer page, ← List.drop_drop, List.take_append_drop]
          have tail := ih fun exchange member => by
            refine answered exchange ?_
            simp only [ExtractRun.after_events, List.cons_append, requestsOf_cons_request,
              requestsOf_append, sent, List.nil_append, List.zip_cons_cons]
            exact List.mem_cons_of_mem _ member
          rw [pages]
          exact @Yields.after transform clock (.request (request skip) :: events) _ _ _ origin
            (complete rfl) tail

end

/-- The records of a loop over days are transforms of tickets, by induction over the
replies.
-/
theorem KaptureTickets.days_origin {config : KaptureTickets.Config} {transform : Transform}
    {clock : Nat → Datetime} {last current : Int} {fetched : Nat} {replies : List Reply}
    {record : Record}
    (yielded
      : record ∈ recordsOf
          (KaptureTickets.days config transform clock last current fetched replies).events)
    : ∃ now item, transform now item = .ok record := by
  induction replies generalizing current fetched with
  | nil =>
      unfold KaptureTickets.days at yielded
      split at yielded <;> cases yielded
  | cons reply rest ih =>
      unfold KaptureTickets.days at yielded
      split at yielded
      · cases yielded
      · split at yielded
        · cases yielded
        · next data =>
            have origin := (yieldItems_yields transform clock fetched
              (KaptureTickets.ticketItems data)).1
            have loop {events : List ExtractEvent} {ended : Option PyException}
                (done
                  : yieldItems transform clock fetched (KaptureTickets.ticketItems data)
                    = (events, ended))
                (among : record ∈ recordsOf events)
                : ∃ now item, transform now item = .ok record := by
              rw [done] at origin
              obtain ⟨item, _, index, made⟩ := origin record among
              exact ⟨clock index, item, made⟩
            split at yielded
            · next done => exact loop done yielded
            · next done =>
                split at yielded
                · exact loop done yielded
                · rw [ExtractRun.after_events, recordsOf_append] at yielded
                  rcases List.mem_append.mp yielded with today | later
                  · exact loop done today
                  · exact ih later

end Turbocat.Connectors
