import Turbocat.Connectors.Sync

/-! The paging loop both Razorpay connectors run: pages of 100 items at a growing `skip`,
until a page is empty or short. The connectors differ in the request they send and in
their transform.
-/

namespace Turbocat.Connectors

open Turbocat.Python

/-- The page size both connectors ask for. -/
def pageCount : Nat := 100

/-- `data.get("items", [])`, measured by `len` and visited by `for`. -/
def pageItems (data : Json) : Except PyException (List Json) :=
  match data with
  | .dict entries => ((entries.lookup "items").getD (.list [])).elements
  | other => .error (.noAttribute other "get")

/-- The loop from a given `skip`, after `fetched` yielded records, over the replies that
arrive from then on.
-/
def offsetPages (request : Nat → Request) (transform : Transform) (clock : Nat → Datetime)
    : (skip fetched : Nat) → List Reply → ExtractRun
  | skip, _, [] => ⟨[.request (request skip)], .waiting⟩
  | skip, fetched, reply :: replies =>
      match reply with
      | .error exception => ⟨[.request (request skip)], .raised exception⟩
      | .ok data =>
          match pageItems data with
          | .error exception => ⟨[.request (request skip)], .raised exception⟩
          | .ok items =>
              if items.isEmpty then ⟨[.request (request skip)], .returned⟩
              else
                match yieldItems transform clock fetched items with
                | (events, some exception) =>
                    ⟨.request (request skip) :: events, .raised exception⟩
                | (events, none) =>
                    if items.length < pageCount then
                      ⟨.request (request skip) :: events, .returned⟩
                    else
                      (offsetPages request transform clock (skip + pageCount)
                        (fetched + items.length) replies).after
                        (.request (request skip) :: events)

section

variable {request : Nat → Request} {transform : Transform} {clock : Nat → Datetime}

/-- What the loop does with a page it can read. -/
theorem offsetPages_page (fetched : Nat) {skip : Nat} {data : Json} {items : List Json}
    (readable : pageItems data = .ok items) (rest : List Reply)
    : offsetPages request transform clock skip fetched (.ok data :: rest)
      = if items.isEmpty then ⟨[.request (request skip)], .returned⟩
        else
          match yieldItems transform clock fetched items with
          | (events, some exception) =>
              ⟨.request (request skip) :: events, .raised exception⟩
          | (events, none) =>
              if items.length < pageCount then
                ⟨.request (request skip) :: events, .returned⟩
              else
                (offsetPages request transform clock (skip + pageCount)
                  (fetched + items.length) rest).after (.request (request skip) :: events) := by
  simp only [offsetPages, readable]

/-- What a turn of the loop makes of a reply: it is no page or an empty one, an item of the
page is rejected, or all of a short or a full page is yielded.
-/
inductive PageTurn (request : Nat → Request) (transform : Transform) (clock : Nat → Datetime)
    (skip fetched : Nat) (reply : Reply) (rest : List Reply)
    : ExtractRun → Prop
  | unread {exception}
    : PageTurn request transform clock skip fetched reply rest
        ⟨[.request (request skip)], .raised exception⟩
  | empty {data} (answer : reply = .ok data) (page : pageItems data = .ok [])
    : PageTurn request transform clock skip fetched reply rest
        ⟨[.request (request skip)], .returned⟩
  | rejected {data items events exception} (answer : reply = .ok data)
    (page : pageItems data = .ok items)
    (loop : yieldItems transform clock fetched items = (events, some exception))
    : PageTurn request transform clock skip fetched reply rest
        ⟨.request (request skip) :: events, .raised exception⟩
  | short {data items events} (answer : reply = .ok data) (page : pageItems data = .ok items)
    (nonempty : items ≠ []) (loop : yieldItems transform clock fetched items = (events, none))
    (ends : items.length < pageCount)
    : PageTurn request transform clock skip fetched reply rest
        ⟨.request (request skip) :: events, .returned⟩
  | full {data items events} (answer : reply = .ok data) (page : pageItems data = .ok items)
    (nonempty : items ≠ []) (loop : yieldItems transform clock fetched items = (events, none))
    (fills : pageCount ≤ items.length)
    : PageTurn request transform clock skip fetched reply rest
        ((offsetPages request transform clock (skip + pageCount) (fetched + items.length)
          rest).after (.request (request skip) :: events))

/-- The cases are those of the loop's body. -/
theorem offsetPages_cases (skip fetched : Nat) (reply : Reply) (rest : List Reply)
    : PageTurn request transform clock skip fetched reply rest
        (offsetPages request transform clock skip fetched (reply :: rest)) := by
  cases reply with
  | error exception => exact .unread
  | ok data =>
      cases page : pageItems data with
      | error exception =>
          simp only [offsetPages, page]
          exact .unread
      | ok items =>
          rw [offsetPages_page fetched page]
          by_cases empty : items.isEmpty = true
          · rw [if_pos empty]
            exact .empty rfl (List.isEmpty_iff.mp empty ▸ page)
          · rw [if_neg empty]
            have nonempty : items ≠ [] := fun none => empty (List.isEmpty_iff.mpr none)
            cases loop : yieldItems transform clock fetched items with
            | mk events ended =>
                cases ended with
                | some exception => exact .rejected rfl page loop
                | none =>
                    by_cases ends : items.length < pageCount
                    · simp only [if_pos ends]
                      exact .short rfl page nonempty loop ends
                    · simp only [if_neg ends]
                      exact .full rfl page nonempty loop (Nat.le_of_not_lt ends)

/-- The loop always sends the request for its first page. -/
theorem offsetPages_first_request (request : Nat → Request) (transform : Transform)
    (clock : Nat → Datetime) (skip fetched : Nat) (replies : List Reply)
    : ∃ later,
        requestsOf (offsetPages request transform clock skip fetched replies).events
          = request skip :: later := by
  cases replies with
  | nil => exact ⟨[], rfl⟩
  | cons reply rest =>
      have turn := @offsetPages_cases request transform clock skip fetched reply rest
      generalize offsetPages request transform clock skip fetched (reply :: rest) = run
        at turn ⊢
      cases turn <;> exact ⟨_, rfl⟩

/-- A reply the loop reads as a page: an object whose `items` are a list of records, are
absent, or are an empty object or text.
-/
def ReadablePage (reply : Reply) : Prop :=
  ∃ entries,
    reply = .ok (.dict entries)
    ∧ ∃ items,
        pageItems (.dict entries) = .ok items
        ∧ (items = [] ∨ entries.lookup "items" = some (.list items))

/-- The records of a page. -/
def pageRecords : Reply → List Json
  | .ok (.dict entries) =>
      match entries.lookup "items" with
      | some (.list items) => items
      | _ => []
  | _ => []

theorem pageRecords_of_list {entries : Dict} {items : List Json}
    (listed : entries.lookup "items" = some (.list items))
    : pageRecords (.ok (.dict entries)) = items := by
  simp [pageRecords, listed]

/-- An empty page has no records. -/
theorem pageRecords_of_empty {entries : Dict} (page : pageItems (.dict entries) = .ok [])
    : pageRecords (.ok (.dict entries)) = [] := by
  unfold pageRecords
  simp only
  split
  · next items listed =>
      simp only [pageItems, listed, Option.getD_some, Json.elements, Except.ok.injEq] at page
      exact page
  · rfl

/-- A readable page is read as its records. -/
theorem pageItems_of_readable {data : Json} (readable : ReadablePage (.ok data))
    : pageItems data = .ok (pageRecords (.ok data)) := by
  obtain ⟨entries, same, items, page, empty | listed⟩ := readable
  · cases same
    subst empty
    rw [page, pageRecords_of_empty page]
  · cases same
    rw [page, pageRecords_of_list listed]

/-- Reading the items of a page fails unless the page is an object. -/
theorem pageItems_ok {data : Json} {items : List Json} (page : pageItems data = .ok items)
    : ∃ entries, data = .dict entries := by
  cases data with
  | dict entries => exact ⟨entries, rfl⟩
  | null | bool _ | int _ | float _ | str _ | list _ => cases page

/-- Items that are not a list are texts: the keys of an object or the characters of a
text.
-/
theorem pageItems_cases {entries : Dict} {items : List Json}
    (page : pageItems (.dict entries) = .ok items)
    : items = []
      ∨ entries.lookup "items" = some (.list items)
      ∨ ∃ text rest, items = .str text :: rest := by
  cases items with
  | nil => exact Or.inl rfl
  | cons item rest =>
      refine Or.inr ?_
      cases listed : entries.lookup "items" with
      | none =>
          simp only [pageItems, listed, Option.getD_none, Json.elements, Except.ok.injEq,
            List.nil_eq, reduceCtorEq] at page
      | some value =>
          simp only [pageItems, listed, Option.getD_some] at page
          cases value with
          | list found =>
              cases page
              exact Or.inl rfl
          | dict found =>
              cases found with
              | nil => cases page
              | cons entry entries =>
                  simp only [Json.elements, List.map_cons, Except.ok.injEq, List.cons.injEq] at page
                  exact Or.inr ⟨entry.1, rest, by rw [page.1]⟩
          | str text =>
              simp only [Json.elements, Except.ok.injEq, List.map_eq_cons_iff] at page
              obtain ⟨character, characters, _, first, _⟩ := page
              exact Or.inr ⟨_, rest, by rw [first]⟩
          | null | bool _ | int _ | float _ => cases page

/-- The items of a page that was yielded are a list, which is its records: a page of texts
would have raised at its first item, which `transform` rejects.
-/
theorem yielded_page
    (rejects : ∀ now text, ∃ exception, transform now (.str text) = .error exception)
    {fetched : Nat} {data : Json} {items : List Json} {events : List ExtractEvent}
    (page : pageItems data = .ok items) (nonempty : items ≠ [])
    (loop : yieldItems transform clock fetched items = (events, none))
    : ReadablePage (.ok data)
      ∧ pageRecords (.ok data) = items
      ∧ requestsOf events = []
      ∧ itemsOf events = items := by
  have requests := requestsOf_yieldItems transform clock fetched items
  have complete := @itemsOf_yieldItems transform clock fetched items (by rw [loop])
  rw [loop] at requests complete
  obtain ⟨entries, rfl⟩ := pageItems_ok page
  rcases pageItems_cases page with empty | listed | ⟨text, later, texts⟩
  · exact absurd empty nonempty
  · exact ⟨⟨entries, rfl, items, page, Or.inr listed⟩, pageRecords_of_list listed, requests,
      complete⟩
  · subst texts
    obtain ⟨exception, rejected⟩ := rejects (clock fetched) text
    simp [yieldItems, rejected] at loop

/-- What the first turn of a loop that returned did: it read its reply as a page, yielded
the records of the page, and went on exactly after a full page.
-/
theorem offsetPages_turn
    (rejects : ∀ now text, ∃ exception, transform now (.str text) = .error exception)
    {skip fetched : Nat} {reply : Reply} {rest : List Reply}
    (returned
      : (offsetPages request transform clock skip fetched (reply :: rest)).outcome
        = .returned)
    : let run := offsetPages request transform clock skip fetched (reply :: rest)
      let later := offsetPages request transform clock (skip + pageCount)
        (fetched + (pageRecords reply).length) rest
      ReadablePage reply
      ∧ ((pageRecords reply).length < pageCount
            ∧ requestsOf run.events = [request skip]
            ∧ itemsOf run.events = pageRecords reply
          ∨ pageCount ≤ (pageRecords reply).length
            ∧ later.outcome = .returned
            ∧ requestsOf run.events = request skip :: requestsOf later.events
            ∧ itemsOf run.events = pageRecords reply ++ itemsOf later.events) := by
  have turn := @offsetPages_cases request transform clock skip fetched reply rest
  generalize offsetPages request transform clock skip fetched (reply :: rest) = run
    at turn returned ⊢
  cases turn with
  | unread => cases returned
  | empty answer page =>
      subst answer
      obtain ⟨entries, rfl⟩ := pageItems_ok page
      refine ⟨⟨entries, rfl, [], page, Or.inl rfl⟩, Or.inl ?_⟩
      rw [pageRecords_of_empty page]
      exact ⟨by decide, rfl, rfl⟩
  | rejected => cases returned
  | @short data items events answer page nonempty loop ends =>
      subst answer
      obtain ⟨readable, records, requests, complete⟩ := yielded_page rejects page nonempty loop
      rw [records]
      refine ⟨readable, Or.inl ⟨ends, ?_, ?_⟩⟩
      · simp [requests]
      · simp [complete]
  | @full data items events answer page nonempty loop fills =>
      subst answer
      obtain ⟨readable, records, requests, complete⟩ := yielded_page rejects page nonempty loop
      rw [records]
      refine ⟨readable, Or.inr ⟨fills, returned, ?_, ?_⟩⟩
      · simp [requests]
      · simp [complete]

/-- What a loop that returned has read and sent, over the replies it consumed: each is a
page, the yielded items are exactly the records of the pages, the requests are those for
consecutive pages, and the last page is the first that is not full.
-/
structure PagesRead (request : Nat → Request) (skip : Nat) (run : ExtractRun)
    (pages : List Reply)
    : Prop where
  readable : ∀ page ∈ pages, ReadablePage page
  items : itemsOf run.events = pages.flatMap pageRecords
  requests
    : requestsOf run.events
      = (List.range pages.length).map (fun number => request (skip + pageCount * number))
  short
    : ∃ full last,
        pages = full ++ [last]
        ∧ (∀ page ∈ full, pageCount ≤ (pageRecords page).length)
        ∧ (pageRecords last).length < pageCount

/-- A loop that returned has read its pages to the end. Witness: induction over the
replies, one turn each.
-/
theorem offsetPages_returned
    (rejects : ∀ now text, ∃ exception, transform now (.str text) = .error exception)
    {skip fetched : Nat} {replies : List Reply}
    (returned : (offsetPages request transform clock skip fetched replies).outcome = .returned)
    : let run := offsetPages request transform clock skip fetched replies
      PagesRead request skip run (run.consumed replies) := by
  simp only [ExtractRun.consumed]
  induction replies generalizing skip fetched with
  | nil => cases returned
  | cons reply rest ih =>
      obtain ⟨readable, turn⟩ := offsetPages_turn rejects returned
      rcases turn with ⟨short, requests, items⟩ | ⟨full, later, requests, items⟩
      · rw [requests]
        exact {
          readable := by simpa using readable
          items := by simpa using items
          requests := by simpa using requests
          short := ⟨[], reply, rfl, by simp, short⟩
        }
      · have tail := ih later
        rw [requests, List.length_cons, List.take_succ_cons]
        generalize List.take _ rest = pages at tail ⊢
        obtain ⟨fullPages, last, split, allFull, short⟩ := tail.short
        have shifted (number : Nat)
            : skip + pageCount + pageCount * number = skip + pageCount * (number + 1) := by
          rw [Nat.mul_succ]
          omega
        exact {
          readable := by simpa using ⟨readable, tail.readable⟩
          items := by rw [items, tail.items, List.flatMap_cons]
          requests := by
            simp [requests, tail.requests, List.range_succ_eq_map, shifted]
          short := by
            refine ⟨reply :: fullPages, last, by rw [split, List.cons_append], ?_, short⟩
            simpa using ⟨full, allFull⟩
        }

end

end Turbocat.Connectors
