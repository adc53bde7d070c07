import Turbocat.Connectors.Registry
import Mathlib.Data.List.TakeWhile

/-! Extraction against an API that answers every request: what a finished conversation has
yielded, and that one exists.
-/

namespace Turbocat.Connectors

open Turbocat.Python

/-- Whether a transform accepts a source item. -/
def Transform.accepts (transform : Transform) (item : Json) : Bool :=
  (transform default item).isOk

/-- The clock reading a transform takes does not decide whether it accepts an item. -/
def Transform.ClockFree (transform : Transform) : Prop :=
  ∀ now item, (transform now item).isOk = transform.accepts item

/-- Whether a computation succeeds depends on its continuation only through success. -/
theorem isOk_bind_congr {ε α β : Type} {first : Except ε α} {left right : α → Except ε β}
    (same : ∀ value, (left value).isOk = (right value).isOk)
    : (first >>= left).isOk = (first >>= right).isOk := by
  cases first with
  | error _ => rfl
  | ok value => exact same value

theorem RazorpayOrders.transform_clockFree (host : Host)
    : Transform.ClockFree (RazorpayOrders.transform host) := fun _ _ =>
  isOk_bind_congr fun _ => isOk_bind_congr fun _ => isOk_bind_congr fun _ =>
    isOk_bind_congr fun _ => isOk_bind_congr fun _ => isOk_bind_congr fun _ =>
      isOk_bind_congr fun _ => isOk_bind_congr fun _ => isOk_bind_congr fun _ =>
        isOk_bind_congr fun _ => isOk_bind_congr fun _ => isOk_bind_congr fun _ => rfl

theorem RazorpayCustomers.transform_clockFree (host : Host)
    : Transform.ClockFree (RazorpayCustomers.transform host) := fun _ _ =>
  isOk_bind_congr fun _ => isOk_bind_congr fun _ => isOk_bind_congr fun _ =>
    isOk_bind_congr fun _ => isOk_bind_congr fun _ => isOk_bind_congr fun _ =>
      isOk_bind_congr fun _ => isOk_bind_congr fun _ => rfl

/-- A dict display succeeds exactly when each of its values does. -/
theorem KaptureTickets.dictDisplay_isOk (entries : List (String × Except PyException Value))
    : (KaptureTickets.dictDisplay entries).isOk = entries.all (fun entry => entry.2.isOk) := by
  induction entries with
  | nil => rfl
  | cons entry rest ih =>
      obtain ⟨name, value⟩ := entry
      cases value with
      | error _ => rfl
      | ok value =>
          have step
              : KaptureTickets.dictDisplay ((name, .ok value) :: rest)
                = (do return (name, value) :: (← KaptureTickets.dictDisplay rest)) :=
            rfl
          have first : (Except.ok value : Except PyException Value).isOk = true := rfl
          rw [step, List.all_cons, first, Bool.true_and, ← ih]
          cases KaptureTickets.dictDisplay rest <;> rfl

theorem KaptureTickets.transform_clockFree (host : Host)
    : Transform.ClockFree (KaptureTickets.transform host) := by
  intro now item
  refine isOk_bind_congr fun _ => isOk_bind_congr fun _ => isOk_bind_congr fun _ =>
    isOk_bind_congr fun _ => ?_
  rw [KaptureTickets.dictDisplay_isOk, KaptureTickets.dictDisplay_isOk]
  rfl

/-- A loop over items yields those before the first the transform rejects, and ends with an
exception exactly when it rejects one.
-/
theorem yieldItems_accepted {transform : Transform} (clockFree : transform.ClockFree)
    (clock : Nat → Datetime) (index : Nat) (items : List Json)
    : itemsOf (yieldItems transform clock index items).1
        = items.takeWhile transform.accepts
      ∧ ((yieldItems transform clock index items).2 = none
          ↔ ∀ item ∈ items, transform.accepts item = true) := by
  induction items generalizing index with
  | nil => simp [yieldItems, itemsOf]
  | cons item rest ih =>
      have accepted := clockFree (clock index) item
      obtain ⟨laterItems, laterEnd⟩ := ih (index + 1)
      unfold yieldItems
      split
      · next exception failed =>
          have rejected : transform.accepts item = false := by
            rw [← accepted, failed]
            rfl
          simp [rejected, itemsOf]
      · next record transformed =>
          have accepts : transform.accepts item = true := by
            rw [← accepted, transformed]
            rfl
          simp [accepts, laterItems, laterEnd]

-----------------------------------------------------------------------------------------
-- Conversations
-----------------------------------------------------------------------------------------

/-- The replies an API gives, one to each request, until the generator ends. -/
structure Conversation (serve : Request → Json) (extract : List Reply → ExtractRun)
    (replies : List Reply)
    : Prop where
  ended : (extract replies).outcome ≠ .waiting
  answered : replies = (requestsOf (extract replies).events).map (fun sent => .ok (serve sent))

/-- The first reply of a conversation answers its first request. -/
theorem Conversation.first_reply {serve : Request → Json} {extract : List Reply → ExtractRun}
    {reply : Reply} {rest : List Reply} {sent : Request} {others : List Request}
    (conversation : Conversation serve extract (reply :: rest))
    (first : requestsOf (extract (reply :: rest)).events = sent :: others)
    : reply = .ok (serve sent) := by
  have answered := conversation.answered
  rw [first, List.map_cons] at answered
  exact (List.cons.inj answered).1

/-- What follows the first turn of a conversation is a conversation. -/
theorem Conversation.later {serve : Request → Json} {extract later : List Reply → ExtractRun}
    {reply : Reply} {rest : List Reply} {sent : Request}
    (conversation : Conversation serve extract (reply :: rest))
    (outcome : (extract (reply :: rest)).outcome = (later rest).outcome)
    (requests
      : requestsOf (extract (reply :: rest)).events = sent :: requestsOf (later rest).events)
    : Conversation serve later rest := by
  have answered := conversation.answered
  rw [requests, List.map_cons] at answered
  exact ⟨outcome ▸ conversation.ended, (List.cons.inj answered).2⟩

section OffsetPages

variable {request : Nat → Request} {transform : Transform} {clock : Nat → Datetime}
  {serve : Request → Json} {source : List Json}

/-- The API answers the request at each `skip` with the page of its list that starts there. -/
def ServesPages (serve : Request → Json) (request : Nat → Request) (source : List Json)
    : Prop :=
  ∀ skip, pageItems (serve (request skip)) = .ok ((source.drop skip).take pageCount)

/-- One turn of the loop against the API, by whether the page is the last and whether the
transform accepts it.
-/
theorem offsetPages_served (clockFree : transform.ClockFree)
    (serves : ServesPages serve request source) (clock : Nat → Datetime) (skip fetched : Nat)
    (rest : List Reply)
    : let page := (source.drop skip).take pageCount
      let run := offsetPages request transform clock skip fetched
        (.ok (serve (request skip)) :: rest)
      let later := offsetPages request transform clock (skip + pageCount)
        (fetched + page.length) rest
      if page.length = pageCount ∧ ∀ item ∈ page, transform.accepts item = true then
        run.outcome = later.outcome
        ∧ requestsOf run.events = request skip :: requestsOf later.events
        ∧ itemsOf run.events = page ++ itemsOf later.events
      else
        run.outcome ≠ .waiting
        ∧ requestsOf run.events = [request skip]
        ∧ itemsOf run.events = page.takeWhile transform.accepts
        ∧ (run.outcome = .returned ↔ ∀ item ∈ page, transform.accepts item = true) := by
  intro page run later
  have bound : page.length ≤ pageCount := List.length_take_le _ _
  obtain ⟨items, ends⟩ := yieldItems_accepted clockFree clock fetched page
  have yielded := requestsOf_yieldItems transform clock fetched page
  have unfolded : run = _ :=
    @offsetPages_page request transform clock fetched skip _ page (serves skip) rest
  by_cases empty : page = []
  · have short : ¬ (page.length = pageCount ∧ ∀ item ∈ page, transform.accepts item = true) := by
      simp [empty, pageCount]
    rw [if_neg short, unfolded, empty]
    simp [requestsOf, itemsOf]
  · have nonempty : page.isEmpty = false := by simpa using empty
    rw [nonempty] at unfolded
    simp only [Bool.false_eq_true, if_false] at unfolded
    cases loop : yieldItems transform clock fetched page with
    | mk events end_ =>
        rw [loop] at items ends yielded unfolded
        cases end_ with
        | some exception =>
            have rejected
                : ¬ (page.length = pageCount ∧ ∀ item ∈ page, transform.accepts item = true) :=
              fun full => Option.some_ne_none _ (ends.mpr full.2)
            rw [if_neg rejected, unfolded]
            refine ⟨by simp, by simp [yielded], by simp [items], fun returned => ?_, fun all => ?_⟩
            · cases returned
            · exact absurd (ends.mpr all) (Option.some_ne_none _)
        | none =>
            have accepted := ends.mp rfl
            have whole : page.takeWhile transform.accepts = page :=
              List.takeWhile_eq_self_iff.mpr accepted
            rw [whole] at items
            by_cases full : page.length = pageCount
            · rw [if_pos ⟨full, accepted⟩, unfolded]
              simp [later, full, yielded, items]
            · rw [if_neg (fun both => full both.1), unfolded]
              have short : page.length < pageCount := by omega
              simp only [if_pos short, whole]
              refine ⟨by simp, by simp [yielded], by simp [items], fun _ => accepted, fun _ => trivial⟩

/-- A conversation over pages yields the items of the source from `skip` on, up to the first
the transform rejects. Witness: induction over the replies.
-/
theorem offsetPages_conversation (clockFree : transform.ClockFree)
    (serves : ServesPages serve request source) {skip fetched : Nat} {replies : List Reply}
    (conversation
      : Conversation serve (offsetPages request transform clock skip fetched) replies)
    : itemsOf (offsetPages request transform clock skip fetched replies).events
      = (source.drop skip).takeWhile transform.accepts := by
  induction replies generalizing skip fetched with
  | nil => exact absurd rfl conversation.ended
  | cons reply rest ih =>
      obtain ⟨others, first⟩ := offsetPages_first_request request
        transform clock skip fetched (reply :: rest)
      obtain rfl := conversation.first_reply first
      have turn := offsetPages_served clockFree serves clock skip fetched rest
      have pages : source.drop skip
          = (source.drop skip).take pageCount ++ source.drop (skip + pageCount) := by
        rw [← List.drop_drop, List.take_append_drop]
      simp only at turn
      split at turn
      · next full =>
          obtain ⟨outcome, requests, items⟩ := turn
          rw [items, ih (conversation.later outcome requests), pages,
            List.takeWhile_append_of_pos full.2, ← pages]
      · next last =>
          obtain ⟨_, _, items, _⟩ := turn
          rw [items, pages, List.takeWhile_append, ← pages]
          split
          · next whole =>
              -- The page is accepted to its end, so it must be short: nothing follows it.
              have front
                  : ((source.drop skip).take pageCount).takeWhile transform.accepts
                    <+: (source.drop skip).take pageCount :=
                List.takeWhile_prefix _
              have same := front.eq_of_length whole
              have accepted := List.takeWhile_eq_self_iff.mp same
              have short : (source.drop skip).length < pageCount := by
                by_contra long
                exact last ⟨by simp only [List.length_take]; omega, accepted⟩
              have nothing : source.drop (skip + pageCount) = [] := by
                rw [List.length_drop] at short
                exact List.drop_eq_nil_of_le (by omega)
              rw [nothing, same]
              simp
          · rfl

/-- A conversation over items the transform accepts ends with a return. Witness: induction
over the replies.
-/
theorem offsetPages_returns (clockFree : transform.ClockFree)
    (serves : ServesPages serve request source)
    (accepted : ∀ item ∈ source, transform.accepts item = true) {skip fetched : Nat}
    {replies : List Reply}
    (conversation
      : Conversation serve (offsetPages request transform clock skip fetched) replies)
    : (offsetPages request transform clock skip fetched replies).outcome = .returned := by
  induction replies generalizing skip fetched with
  | nil => exact absurd rfl conversation.ended
  | cons reply rest ih =>
      obtain ⟨others, first⟩ := offsetPages_first_request request
        transform clock skip fetched (reply :: rest)
      obtain rfl := conversation.first_reply first
      have turn := offsetPages_served clockFree serves clock skip fetched rest
      simp only at turn
      split at turn
      · obtain ⟨outcome, requests, _⟩ := turn
        rw [outcome]
        exact ih (conversation.later outcome requests)
      · obtain ⟨_, _, _, returned⟩ := turn
        refine returned.mpr fun item member => accepted item ?_
        exact List.mem_of_mem_drop (List.mem_of_mem_take member)

/-- The API's replies lead the loop to an end. Witness: induction on the pages left. -/
theorem offsetPages_converses (clockFree : transform.ClockFree)
    (serves : ServesPages serve request source) (clock : Nat → Datetime)
    {skip fetched left : Nat} (bound : source.length ≤ skip + pageCount * left)
    : ∃ replies,
        Conversation serve (offsetPages request transform clock skip fetched) replies := by
  induction left generalizing skip fetched with
  | zero =>
      have turn := offsetPages_served clockFree serves clock skip fetched []
      have empty : source.drop skip = [] := List.drop_eq_nil_of_le (by omega)
      simp only [empty, List.take_nil, List.length_nil] at turn
      rw [if_neg (fun full => nomatch full.1)] at turn
      refine ⟨[.ok (serve (request skip))], turn.1, ?_⟩
      rw [turn.2.1, List.map_singleton]
  | succ left ih =>
      rw [Nat.mul_succ] at bound
      obtain ⟨rest, tail⟩
          : ∃ rest,
              Conversation serve (offsetPages request transform clock (skip + pageCount)
                (fetched + ((source.drop skip).take pageCount).length)) rest :=
        ih (by omega)
      have turn := offsetPages_served clockFree serves clock skip fetched
      by_cases goesOn
          : ((source.drop skip).take pageCount).length = pageCount
            ∧ ∀ item ∈ (source.drop skip).take pageCount, transform.accepts item = true
      · simp only [if_pos goesOn] at turn
        obtain ⟨outcome, requests, _⟩ := turn rest
        refine ⟨.ok (serve (request skip)) :: rest, outcome ▸ tail.ended, ?_⟩
        rw [requests, List.map_cons, ← tail.answered]
      · simp only [if_neg goesOn] at turn
        obtain ⟨outcome, requests, _⟩ := turn []
        refine ⟨[.ok (serve (request skip))], outcome, ?_⟩
        rw [requests, List.map_singleton]

end OffsetPages

namespace KaptureTickets

variable {config : Config} {transform : Transform} {clock : Nat → Datetime}
  {serve : Request → Json} {tickets : Int → List Json}

/-- The API answers the request for each day the calendar has with the tickets of that day. -/
def ServesDays (serve : Request → Json) (config : Config) (tickets : Int → List Json) : Prop :=
  ∀ date, minDay ≤ date → date ≤ maxDay → ticketItems (serve (request config date)) = tickets date

/-- One turn of the loop against the API, by whether another day follows and whether the
transform accepts every ticket.
-/
theorem days_served (clockFree : transform.ClockFree) (serves : ServesDays serve config tickets)
    (clock : Nat → Datetime) {last current : Int} (inside : ¬ last < current)
    (lower : minDay ≤ current) (upper : last ≤ maxDay) (fetched : Nat) (rest : List Reply)
    : let run := days config transform clock last current fetched
        (.ok (serve (request config current)) :: rest)
      let later := days config transform clock last (current + 1)
        (fetched + (tickets current).length) rest
      if current ≠ maxDay ∧ ∀ item ∈ tickets current, transform.accepts item = true then
        run.outcome = later.outcome
        ∧ requestsOf run.events = request config current :: requestsOf later.events
        ∧ itemsOf run.events = tickets current ++ itemsOf later.events
      else
        run.outcome ≠ .waiting
        ∧ requestsOf run.events = [request config current]
        ∧ itemsOf run.events = (tickets current).takeWhile transform.accepts := by
  intro run later
  obtain ⟨items, ends⟩ :=
    yieldItems_accepted clockFree clock fetched (tickets current)
  have yielded := requestsOf_yieldItems transform clock fetched (tickets current)
  have unfolded : run = _ := days_day config transform clock inside fetched
    (serve (request config current)) rest
  rw [serves current lower (by omega)] at unfolded
  cases loop : yieldItems transform clock fetched (tickets current) with
  | mk events end_ =>
      rw [loop] at items ends yielded unfolded
      cases end_ with
      | some exception =>
          have rejected
              : ¬ (current ≠ maxDay
                ∧ ∀ item ∈ tickets current, transform.accepts item = true) :=
            fun goesOn => Option.some_ne_none _ (ends.mpr goesOn.2)
          rw [if_neg rejected, unfolded]
          simp [yielded, items]
      | none =>
          have accepted := ends.mp rfl
          have whole : (tickets current).takeWhile transform.accepts = tickets current :=
            List.takeWhile_eq_self_iff.mpr accepted
          rw [whole] at items
          by_cases ended : current = maxDay
          · rw [if_neg (fun goesOn => goesOn.1 ended), unfolded]
            rw [whole]
            simp [ended, yielded, items]
          · rw [if_pos ⟨ended, accepted⟩, unfolded]
            simp [later, ended, yielded, items]

/-- A loop with a day to fetch sends the request for it first. -/
theorem days_first_request (config : Config) (transform : Transform) (clock : Nat → Datetime)
    {last current : Int} (inside : ¬ last < current) (fetched : Nat)
    (replies : List Reply)
    : ∃ later,
        requestsOf (days config transform clock last current fetched replies).events
          = request config current :: later := by
  cases replies with
  | nil => exact ⟨[], by simp [days, inside, requestsOf]⟩
  | cons reply rest =>
      unfold days
      simp only [inside, if_false]
      split
      · exact ⟨[], rfl⟩
      · split
        · exact ⟨_, rfl⟩
        · split <;> exact ⟨_, rfl⟩

/-- A conversation over days yields their tickets, up to the first the transform rejects.
Witness: induction over the replies.
-/
theorem days_conversation (clockFree : transform.ClockFree)
    (serves : ServesDays serve config tickets) {last current : Int} (lower : minDay ≤ current)
    (upper : last ≤ maxDay) {fetched : Nat} {replies : List Reply}
    (conversation : Conversation serve (days config transform clock last current fetched) replies)
    : itemsOf (days config transform clock last current fetched replies).events
      = ((daysBetween current last).flatMap tickets).takeWhile transform.accepts := by
  induction replies generalizing current fetched with
  | nil =>
      by_cases ended : last < current
      · simp [days, ended, itemsOf, daysBetween_empty ended]
      · have waiting := conversation.ended
        simp [days, ended] at waiting
  | cons reply rest ih =>
      by_cases ended : last < current
      · simp [days, ended, itemsOf, daysBetween_empty ended]
      · obtain ⟨others, first⟩ := days_first_request config transform clock ended fetched
          (reply :: rest)
        obtain rfl := conversation.first_reply first
        have turn := days_served clockFree serves clock ended lower upper
          fetched rest
        rw [daysBetween_cons ended, List.flatMap_cons]
        simp only at turn
        split at turn
        · next goesOn =>
            obtain ⟨outcome, requests, items⟩ := turn
            rw [items, ih (by omega) (conversation.later outcome requests),
              List.takeWhile_append_of_pos goesOn.2]
        · next stops =>
            obtain ⟨_, _, items⟩ := turn
            rw [items, List.takeWhile_append]
            split
            · next whole =>
                -- The day is accepted to its end, so it must be the last there is.
                have front
                    : (tickets current).takeWhile transform.accepts <+: tickets current :=
                  List.takeWhile_prefix _
                have same := front.eq_of_length whole
                have accepted := List.takeWhile_eq_self_iff.mp same
                have atMax : current = maxDay := by
                  by_contra before
                  exact stops ⟨before, accepted⟩
                rw [daysBetween_empty (by omega), same]
                simp
            · rfl

/-- The API's replies lead the loop to an end. Witness: induction on the days left. -/
theorem days_converses (clockFree : transform.ClockFree)
    (serves : ServesDays serve config tickets) {last current : Int} (lower : minDay ≤ current)
    (upper : last ≤ maxDay) {fetched : Nat} (left : Nat) (bound : last < current + left)
    : ∃ replies,
        Conversation serve (days config transform clock last current fetched) replies := by
  induction left generalizing current fetched with
  | zero =>
      refine ⟨[], ?_, ?_⟩ <;> simp only [days, if_pos (by omega : last < current)]
      · simp
      · rfl
  | succ left ih =>
      by_cases ended : last < current
      · refine ⟨[], ?_, ?_⟩ <;> simp only [days, if_pos ended]
        · simp
        · rfl
      · obtain ⟨rest, tail⟩
            : ∃ rest,
                Conversation serve (days config transform clock last (current + 1)
                  (fetched + (tickets current).length)) rest :=
          ih (by omega) (by omega)
        have turn := days_served clockFree serves clock ended lower upper fetched
        by_cases goesOn
            : current ≠ maxDay ∧ ∀ item ∈ tickets current, transform.accepts item = true
        · simp only [if_pos goesOn] at turn
          obtain ⟨outcome, requests, _⟩ := turn rest
          refine ⟨.ok (serve (request config current)) :: rest, outcome ▸ tail.ended, ?_⟩
          rw [requests, List.map_cons, ← tail.answered]
        · simp only [if_neg goesOn] at turn
          obtain ⟨outcome, requests, _⟩ := turn []
          refine ⟨[.ok (serve (request config current))], outcome, ?_⟩
          rw [requests, List.map_singleton]

end KaptureTickets

end Turbocat.Connectors
