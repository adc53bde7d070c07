import Turbocat.Connectors.MalformedRecords

/-! The days Kapture is asked for when a window is given in any one time zone. `extract`
advances a datetime at midnight of its wall clock by `timedelta(days=1)` and compares dates;
this is the loop over day numbers.
-/

namespace Turbocat.Connectors

open Turbocat.Python

/-- A datetime with the `tzinfo` it carries, or none. Its wall clock shows what the UTC
datetime `wall` shows.
-/
structure ZonedDatetime (Zone : Type) where
  wall : Datetime
  zone : Zone

namespace ZonedDatetime

variable {Zone : Type}

/-- `date()`, as a day number. -/
def date (time : ZonedDatetime Zone) : Int := time.wall.date

theorem midnight_lower (time : Datetime) : minDay * day ≤ time.date * day :=
  Int.mul_le_mul_of_nonneg_right time.date_lower (by decide)

theorem midnight_upper (time : Datetime) : time.date * day < (maxDay + 1) * day :=
  Int.mul_lt_mul_of_pos_right (Int.lt_add_one_of_le time.date_upper) (by decide)

/-- `replace(hour=0, minute=0, second=0, microsecond=0)`. -/
def midnight (time : ZonedDatetime Zone) : ZonedDatetime Zone :=
  { time with
    wall := ⟨time.date * day, midnight_lower time.wall, midnight_upper time.wall⟩ }

/-- `time + timedelta(days=1)`: the wall clock moves, the zone stays. -/
def addDay (time : ZonedDatetime Zone) : Except PyException (ZonedDatetime Zone) := do
  return { time with wall := ← Datetime.ofUs (time.wall.us + day) }

@[simp]
theorem midnight_date (time : ZonedDatetime Zone) : time.midnight.date = time.date :=
  Int.mul_ediv_cancel _ (by decide)

/-- Before the last day of the calendar, the date advances by one. -/
theorem addDay_date {time : ZonedDatetime Zone} (before : time.date ≠ maxDay)
    : ∃ next, time.addDay = .ok next ∧ next.date = time.date + 1 := by
  have lower := time.wall.lower
  have upper := time.wall.date_upper
  have below : time.wall.us + day < (maxDay + 1) * day := by
    simp only [date, Datetime.date, day, second, maxDay] at *
    omega
  have above : minDay * day ≤ time.wall.us + day := by
    simp only [day, second, minDay] at *
    omega
  obtain ⟨next, made⟩ : ∃ next, Datetime.ofUs (time.wall.us + day) = .ok next :=
    ⟨⟨_, above, below⟩, Datetime.ofUs_ok_iff.mpr rfl⟩
  refine ⟨{ time with wall := next }, ?_, ?_⟩
  · rw [addDay, made]
    rfl
  · simp only [date, Datetime.date, Datetime.ofUs_ok_iff.mp made]
    exact Int.add_ediv_of_dvd_right (Int.dvd_refl day) |>.trans (by rw [Int.ediv_self (by decide)])

/-- After the last day of the calendar there is none. -/
theorem addDay_last {time : ZonedDatetime Zone} (last : time.date = maxDay)
    : time.addDay = .error dateOutOfRange := by
  have outside : ¬ (minDay * day ≤ time.wall.us + day ∧ time.wall.us + day < (maxDay + 1) * day) := by
    simp only [date, Datetime.date, day, second, maxDay, minDay] at *
    omega
  rw [addDay, Datetime.ofUs, dif_neg outside]
  rfl

end ZonedDatetime

namespace KaptureTickets

section

variable {Zone : Type}

/-- The loop of `extract` over wall clocks, as the source has it: a day is requested while the
current date is at most the last, and a reply that is not a list is skipped.
-/
def wallDays (config : Config) (transform : Transform) (clock : Nat → Datetime)
    (endTime : ZonedDatetime Zone)
    : (current : ZonedDatetime Zone) → (fetched : Nat) → List Reply → ExtractRun
  | current, _, [] =>
      if current.date ≤ endTime.date then ⟨[.request (request config current.date)], .waiting⟩
      else ⟨[], .returned⟩
  | current, fetched, reply :: replies =>
      if current.date ≤ endTime.date then
        match reply with
        | .error exception => ⟨[.request (request config current.date)], .raised exception⟩
        | .ok data =>
            match yieldItems transform clock fetched (ticketItems data) with
            | (events, some exception) =>
                ⟨.request (request config current.date) :: events, .raised exception⟩
            | (events, none) =>
                match current.addDay with
                | .error exception =>
                    ⟨.request (request config current.date) :: events, .raised exception⟩
                | .ok next =>
                    (wallDays config transform clock endTime next
                      (fetched + (ticketItems data).length) replies).after
                      (.request (request config current.date) :: events)
      else ⟨[], .returned⟩

/-- `extract(start_time, end_time)`. -/
def extractBetween (config : Config) (host : Host) (clock : Nat → Datetime)
    (startTime endTime : ZonedDatetime Zone) (replies : List Reply)
    : ExtractRun :=
  wallDays config (transform host) clock endTime startTime.midnight 0 replies

/-- The loop over wall clocks is the loop over their dates, by induction over the replies. -/
theorem wallDays_eq_days (config : Config) (transform : Transform) (clock : Nat → Datetime)
    (endTime current : ZonedDatetime Zone) (fetched : Nat) (replies : List Reply)
    : wallDays config transform clock endTime current fetched replies
      = days config transform clock endTime.date current.date fetched replies := by
  induction replies generalizing current fetched with
  | nil =>
      unfold wallDays days
      by_cases inside : current.date ≤ endTime.date
      · rw [if_pos inside, if_neg (Int.not_lt.mpr inside)]
      · rw [if_neg inside, if_pos (Int.not_le.mp inside)]
  | cons reply rest ih =>
      unfold wallDays days
      by_cases inside : current.date ≤ endTime.date
      · rw [if_pos inside, if_neg (Int.not_lt.mpr inside)]
        cases reply with
        | error exception => rfl
        | ok data =>
            dsimp only
            cases yieldItems transform clock fetched (ticketItems data) with
            | mk events ended =>
                cases ended with
                | some exception => rfl
                | none =>
                    dsimp only
                    by_cases last : current.date = maxDay
                    · rw [ZonedDatetime.addDay_last last, if_pos last]
                    · obtain ⟨next, advanced, date⟩ := ZonedDatetime.addDay_date last
                      rw [advanced, if_neg last, ← date, ← ih]
      · rw [if_neg inside, if_pos (Int.not_le.mp inside)]

theorem extractBetween_eq_days (config : Config) (host : Host) (clock : Nat → Datetime)
    (startTime endTime : ZonedDatetime Zone) (replies : List Reply)
    : extractBetween config host clock startTime endTime replies
      = days config (transform host) clock endTime.date startTime.date 0 replies := by
  rw [extractBetween, wallDays_eq_days, ZonedDatetime.midnight_date]

/-- A job's window is in UTC. -/
theorem extract_eq_extractBetween (config : Config) (host : Host) (now : Datetime)
    (clock : Nat → Datetime) (startTime endTime : Datetime) (replies : List Reply)
    : extract config host now clock (some startTime) (some endTime) replies
      = extractBetween config host clock (⟨startTime, ()⟩ : ZonedDatetime Unit) ⟨endTime, ()⟩
          replies := by
  rw [extractBetween_eq_days]
  rfl

-----------------------------------------------------------------------------------------
-- One turn
-----------------------------------------------------------------------------------------

variable {config : Config} {transform : Transform} {clock : Nat → Datetime} {last : Int}

/-- After its last day the loop returns without another request. -/
theorem days_ended {current : Int} (ended : last < current) (fetched : Nat)
    (replies : List Reply)
    : days config transform clock last current fetched replies = ⟨[], .returned⟩ := by
  cases replies with
  | nil => rw [days, if_pos ended]
  | cons reply rest =>
      unfold days
      rw [if_pos ended]

/-- What one turn of the loop over days yields. -/
structure DayEvents (transform : Transform) (clock : Nat → Datetime) (fetched : Nat)
    (events : List ExtractEvent)
    : Prop where
  silent : requestsOf events = []
  records : (recordsOf events).map .ok = transformed transform clock fetched (itemsOf events)

/-- A turn of the loop requests its day and yields tickets. It raises there, or it has yielded
all tickets of its reply and goes on to the next day.
-/
theorem days_turn_cases {current : Int} (inside : ¬ last < current) (fetched : Nat)
    (reply : Reply) (rest : List Reply)
    : let run := days config transform clock last current fetched (reply :: rest)
      ∃ events,
        DayEvents transform clock fetched events
        ∧ ((∃ exception, run = ⟨.request (request config current) :: events, .raised exception⟩)
          ∨ run = (days config transform clock last (current + 1)
                (fetched + (itemsOf events).length) rest).after
                (.request (request config current) :: events)) := by
  cases reply with
  | error exception =>
      refine ⟨[], ⟨rfl, rfl⟩, Or.inl ⟨exception, ?_⟩⟩
      simp only [days, inside, if_false]
  | ok data =>
      have silent := requestsOf_yieldItems transform clock fetched (ticketItems data)
      have records := yieldItems_records transform clock fetched (ticketItems data)
      intro run
      rw [show run = _ from days_day config transform clock inside fetched data rest]
      cases loop : yieldItems transform clock fetched (ticketItems data) with
      | mk events ended =>
          rw [loop] at silent records
          refine ⟨events, ⟨silent, records⟩, ?_⟩
          cases ended with
          | some exception => exact Or.inl ⟨exception, rfl⟩
          | none =>
              dsimp only
              split
              · exact Or.inl ⟨_, rfl⟩
              · have whole := @itemsOf_yieldItems transform clock fetched _ (by rw [loop])
                rw [loop] at whole
                exact Or.inr (by rw [whole])

/-- The loop asks for days in order, from its first on, by induction over the replies. -/
theorem days_requests_prefix (current : Int) (fetched : Nat) (replies : List Reply)
    : requestsOf (days config transform clock last current fetched replies).events
      <+: (daysBetween current last).map (request config) := by
  induction replies generalizing current fetched with
  | nil =>
      unfold days
      by_cases ended : last < current
      · rw [if_pos ended]
        exact List.nil_prefix
      · rw [if_neg ended, daysBetween_cons ended]
        exact List.prefix_iff_eq_append.mpr rfl
  | cons reply rest ih =>
      by_cases ended : last < current
      · rw [days_ended ended]
        exact List.nil_prefix
      · rw [daysBetween_cons ended, List.map_cons]
        obtain ⟨events, day, turn⟩ :=
          @days_turn_cases config transform clock last current ended fetched reply rest
        rcases turn with ⟨exception, raised⟩ | continued
        · rw [raised, requestsOf_cons_request, day.silent]
          exact List.prefix_iff_eq_append.mpr rfl
        · rw [continued, ExtractRun.after_events, List.cons_append, requestsOf_cons_request,
            requestsOf_append, day.silent, List.nil_append]
          exact (List.prefix_cons_inj _).mpr (ih _ _)

/-- With a reply for each day the loop ends, by induction over the replies. -/
theorem days_settled {current : Int} {fetched : Nat} {replies : List Reply}
    (answered : (daysBetween current last).length ≤ replies.length)
    : (days config transform clock last current fetched replies).outcome ≠ .waiting := by
  induction replies generalizing current fetched with
  | nil =>
      by_cases ended : last < current
      · rw [days_ended ended]
        simp
      · rw [daysBetween_cons ended] at answered
        simp at answered
  | cons reply rest ih =>
      by_cases ended : last < current
      · rw [days_ended ended]
        simp
      · rw [daysBetween_cons ended, List.length_cons, List.length_cons] at answered
        obtain ⟨events, _, turn⟩ :=
          @days_turn_cases config transform clock last current ended fetched reply rest
        rcases turn with ⟨exception, raised⟩ | continued
        · rw [raised]
          simp
        · rw [continued, ExtractRun.after_outcome]
          exact ih (Nat.le_of_succ_le_succ answered)

/-- The records of the loop are the transforms of the tickets it yielded, by induction over
the replies.
-/
theorem days_records (current : Int) (fetched : Nat) (replies : List Reply)
    : (recordsOf (days config transform clock last current fetched replies).events).map .ok
      = transformed transform clock fetched
          (itemsOf (days config transform clock last current fetched replies).events) := by
  induction replies generalizing current fetched with
  | nil =>
      unfold days
      split <;> rfl
  | cons reply rest ih =>
      by_cases ended : last < current
      · rw [days_ended ended]
        rfl
      · obtain ⟨events, day, turn⟩ :=
          @days_turn_cases config transform clock last current ended fetched reply rest
        rcases turn with ⟨exception, raised⟩ | continued
        · rw [raised, recordsOf_cons_request, itemsOf_cons_request]
          exact day.records
        · rw [continued, ExtractRun.after_events, List.cons_append, recordsOf_cons_request,
            itemsOf_cons_request, recordsOf_append, itemsOf_append, List.map_append, ih,
            day.records, transformed_append]

end

-----------------------------------------------------------------------------------------
-- Windows
-----------------------------------------------------------------------------------------

section

variable {Zone : Type}

/-- How many days a window touches. -/
def dayCount (startTime endTime : ZonedDatetime Zone) : Nat :=
  (endTime.date + 1 - startTime.date).toNat

/-- The extraction of a window whose requests are answered by lists of tickets. -/
def listRun (config : Config) (host : Host) (clock : Nat → Datetime)
    (startTime endTime : ZonedDatetime Zone) (lists : Nat → List Json)
    : ExtractRun :=
  extractBetween config host clock startTime endTime
    ((List.range (dayCount startTime endTime)).map (fun number => .ok (.list (lists number))))

/-- Every ticket of the replies can be transformed. -/
def Transformable (host : Host) (startTime endTime : ZonedDatetime Zone)
    (lists : Nat → List Json)
    : Prop :=
  ∀ number < dayCount startTime endTime,
    ∀ ticket ∈ lists number, Transform.accepts (transform host) ticket = true

/-- A run has asked for each day of its window once, in ascending order, and has yielded the
transforms of the tickets it was sent, reply after reply.
-/
structure EachDayOnce (config : Config) (host : Host) (clock : Nat → Datetime)
    (startTime endTime : ZonedDatetime Zone) (lists : Nat → List Json) (run : ExtractRun)
    : Prop where
  returned : run.outcome = .returned
  dates
    : ∃ dates : List Int,
        requestsOf run.events = dates.map (request config)
        ∧ dates.Pairwise (fun earlier later => earlier < later)
        ∧ ∀ date, date ∈ dates ↔ startTime.date ≤ date ∧ date ≤ endTime.date
  tickets
    : (recordsOf run.events).map .ok
      = ((List.range (dayCount startTime endTime)).flatMap lists).mapIdx
          (fun index ticket => transform host (clock index) ticket)

theorem daysBetween_ascending (first last : Int)
    : (daysBetween first last).Pairwise (fun earlier later => earlier < later) := by
  refine List.Pairwise.map _ ?_ List.pairwise_lt_range
  intro earlier later before
  omega

theorem length_daysBetween (first last : Int)
    : (daysBetween first last).length = (last + 1 - first).toNat := by
  rw [daysBetween, List.length_map, List.length_range]

variable {config : Config} {host : Host} {clock : Nat → Datetime}
  {startTime endTime : ZonedDatetime Zone} {lists : Nat → List Json}

/-- An extraction of a window before the end of the calendar, over replies that are lists. -/
theorem listRun_eachDayOnce (before : endTime.date < maxDay)
    (accepted : Transformable host startTime endTime lists)
    : EachDayOnce config host clock startTime endTime lists
        (listRun config host clock startTime endTime lists) := by
  let pages := (List.range (dayCount startTime endTime)).map (fun number => Json.list (lists number))
  have replies
      : (List.range (dayCount startTime endTime)).map
          (fun number => (Except.ok (.list (lists number)) : Reply))
        = pages.map .ok := by
    simp [pages]
  have items : pages.flatMap ticketItems = (List.range (dayCount startTime endTime)).flatMap lists := by
    simp only [pages, List.flatMap_map]
    rfl
  have run : listRun config host clock startTime endTime lists
      = days config (transform host) clock endTime.date startTime.date 0 (pages.map .ok) := by
    rw [listRun, extractBetween_eq_days, replies]
  have reads := @days_reads config (transform host) clock (transform_clockFree host) pages
    endTime.date startTime.date before.le (by simp [pages, dayCount]) 0
  have returned : (days config (transform host) clock endTime.date startTime.date 0
      (pages.map .ok)).outcome = .returned := by
    refine reads.returned.mpr ⟨fun ticket member => ?_, fun _ => before.ne⟩
    rw [items] at member
    obtain ⟨number, inside, among⟩ := List.mem_flatMap.mp member
    exact accepted number (List.mem_range.mp inside) ticket among
  have read := days_returned returned
  have records := @days_records config (transform host) clock endTime.date startTime.date 0
    (pages.map .ok)
  rw [run]
  refine ⟨returned, ⟨_, read.requests, daysBetween_ascending _ _, fun _ => mem_daysBetween⟩, ?_⟩
  have consumed : (days config (transform host) clock endTime.date startTime.date 0
      (pages.map .ok)).consumed (pages.map .ok) = pages.map .ok := by
    rw [ExtractRun.consumed, read.requests, List.length_map, length_daysBetween]
    exact List.take_of_length_le (by simp [pages, dayCount])
  have yielded := read.items
  rw [consumed, List.flatMap_map] at yielded
  rw [records, transformed, yielded]
  simp only [Nat.zero_add]
  exact congrArg _ items

/-- Which days such a run has asked for. -/
theorem EachDayOnce.requested_iff {run : ExtractRun}
    (exact_ : EachDayOnce config host clock startTime endTime lists run) {date : Int}
    (calendar : minDay ≤ date ∧ date ≤ maxDay)
    : request config date ∈ requestsOf run.events
      ↔ startTime.date ≤ date ∧ date ≤ endTime.date := by
  obtain ⟨dates, requests, _, window⟩ := exact_.dates
  rw [requests, List.mem_map]
  constructor
  · intro asked
    obtain ⟨other, listed, same⟩ := asked
    have range := (window other).mp listed
    have inside : minDay ≤ other ∧ other ≤ maxDay :=
      ⟨startTime.wall.date_lower.trans range.1, range.2.trans endTime.wall.date_upper⟩
    have texts : strftimeMonthDayYear other = strftimeMonthDayYear date := by
      have params := congrArg Request.params same
      simp only [request, List.cons.injEq, Prod.mk.injEq, Json.str.injEq, true_and] at params
      exact params.1
    rw [← strftimeMonthDayYear_inj inside calendar texts]
    exact range
  · intro range
    exact ⟨date, (window date).mpr range, rfl⟩

/-- A date is monotone in its datetime. -/
theorem date_mono {earlier later : ZonedDatetime Zone} (le : earlier.wall.us ≤ later.wall.us)
    : earlier.date ≤ later.date :=
  Int.ediv_le_ediv (by decide) le

/-- Kapture is asked for each day of the window exactly once: the extraction ends, and when
every ticket can be transformed it has read each day. A second window that starts at or
before the end of the first and ends at or after it leaves no day out between them.
-/
theorem extract_requests_each_day (before : endTime.date < maxDay)
    : let run := listRun config host clock startTime endTime lists
      run.outcome ≠ .waiting
      ∧ (Transformable host startTime endTime lists →
          EachDayOnce config host clock startTime endTime lists run
          ∧ ∀ (clock' : Nat → Datetime) (startTime' endTime' : ZonedDatetime Zone)
              (lists' : Nat → List Json),
              endTime'.date < maxDay
              → startTime'.wall.us ≤ endTime.wall.us
              → endTime.wall.us ≤ endTime'.wall.us
              → Transformable host startTime' endTime' lists'
              → ∀ date,
                  minDay ≤ date ∧ date ≤ maxDay
                  → (request config date ∈ requestsOf run.events
                      ∨ request config date
                        ∈ requestsOf
                            (listRun config host clock' startTime' endTime' lists').events
                      ↔ min startTime.date startTime'.date ≤ date ∧ date ≤ endTime'.date)) := by
  intro run
  constructor
  · simp only [run, listRun, extractBetween_eq_days]
    apply days_settled
    rw [length_daysBetween, List.length_map, List.length_range, dayCount]
  · intro accepted
    have first : EachDayOnce config host clock startTime endTime lists run :=
      listRun_eachDayOnce before accepted
    refine ⟨first, ?_⟩
    intro clock' startTime' endTime' lists' before' joins extends_ accepted' date calendar
    have second : EachDayOnce config host clock' startTime' endTime' lists' _ :=
      listRun_eachDayOnce before' accepted'
    rw [first.requested_iff calendar, second.requested_iff calendar]
    have joined := date_mono joins
    have extended := date_mono extends_
    omega

/-- Half past eleven in the evening of 28 February 2024, by a clock in a zone. -/
def lateFebruary : ZonedDatetime String :=
  ⟨⟨1709163000000000, by decide, by decide⟩, "Asia/Kolkata"⟩

/-- Ten past midnight on 1 March, by the same clock. -/
def earlyMarch : ZonedDatetime String :=
  ⟨⟨1709251800000000, by decide, by decide⟩, "Asia/Kolkata"⟩

/-- A day and forty minutes around the leap day touch three days. -/
theorem extract_requests_each_day_leap
    : let run := listRun {} Host.utc (fun _ => default) lateFebruary earlyMarch
        (fun _ => [.dict []])
      EachDayOnce {} Host.utc (fun _ => default) lateFebruary earlyMarch (fun _ => [.dict []]) run
      ∧ (requestsOf run.events).map (fun sent => Json.getOrNone sent.params "start_date")
        = [.str "02/28/2024", .str "02/29/2024", .str "03/01/2024"] := by
  intro run
  have accepted : Transformable Host.utc lateFebruary earlyMarch (fun _ => [.dict []]) := by
    intro number _ ticket member
    rw [List.mem_singleton.mp member]
    rfl
  exact ⟨((extract_requests_each_day (by decide)).2 accepted).1, rfl⟩

end

end KaptureTickets

end Turbocat.Connectors
