import Turbocat.Connectors.AnsweredExtracts
import Turbocat.Connectors.SyncBatches

/-! What a sync has loaded, said of the records of its source: a batch holds transforms of
records the source served for the window, and a successful sync has left none of them out.
-/

namespace Turbocat.Connectors

open Turbocat.Python

namespace KaptureTickets

variable {config : Config} {transform : Transform} {clock : Nat → Datetime}
  {serve : Request → Json} {tickets : Int → List Json}

/-- An answered loop over days yields the tickets of its days. Witness: induction over the
replies.
-/
theorem days_yields (serves : ServesDays serve config tickets) {last current : Int}
    (lower : minDay ≤ current) (upper : last ≤ maxDay) {fetched : Nat} {replies : List Reply}
    (answered
      : (days config transform clock last current fetched replies).AnsweredBy serve replies)
    : Yields transform clock ((daysBetween current last).flatMap tickets)
        (days config transform clock last current fetched replies) := by
  induction replies generalizing current fetched with
  | nil =>
      by_cases ended : last < current
      · exact Yields.of_empty (by simp [days, ended, recordsOf])
          (fun _ => by simp [daysBetween_empty ended])
      · refine Yields.of_empty (by simp [days, ended, recordsOf]) fun returned => ?_
        simp [days, ended] at returned
  | cons reply rest ih =>
      by_cases ended : last < current
      · exact Yields.of_empty (by simp [days, ended, recordsOf])
          (fun _ => by simp [daysBetween_empty ended])
      · obtain ⟨others, first⟩ := days_first_request config transform clock ended fetched
          (reply :: rest)
        rw [daysBetween_cons ended, List.flatMap_cons]
        cases reply with
        | error exception =>
            refine Yields.of_empty (by simp [days, ended, recordsOf]) fun returned => ?_
            simp [days, ended] at returned
        | ok data =>
            have today : ticketItems data = tickets current := by
              have exchanged : data = serve (request config current) := by
                refine answered (request config current, .ok data) ?_ data rfl
                rw [first]
                exact List.mem_cons_self
              rw [exchanged]
              exact serves current lower (by omega)
            obtain ⟨origin, complete⟩ :=
              yieldItems_yields transform clock fetched (tickets current)
            have sent := requestsOf_yieldItems transform clock fetched (tickets current)
            have unfolded := days_day config transform clock ended fetched data rest
            rw [today] at unfolded
            have among {records : List Record}
                (origin : ∀ record ∈ records, ∃ item ∈ tickets current, ∃ index,
                  transform (clock index) item = .ok record)
                : ∀ record ∈ records,
                    ∃ item ∈ tickets current
                        ++ (daysBetween (current + 1) last).flatMap tickets,
                      ∃ index, transform (clock index) item = .ok record := by
              intro record member
              obtain ⟨item, inside, made⟩ := origin record member
              exact ⟨item, List.mem_append_left _ inside, made⟩
            cases loop : yieldItems transform clock fetched (tickets current) with
            | mk events raised =>
                rw [loop] at origin complete sent unfolded
                cases raised with
                | some exception =>
                    rw [unfolded]
                    exact ⟨among origin, fun returned => by cases returned⟩
                | none =>
                    by_cases final : current = maxDay
                    · simp only [if_pos final] at unfolded
                      rw [unfolded]
                      exact ⟨among origin, fun returned => by cases returned⟩
                    · simp only [if_neg final] at unfolded
                      rw [unfolded] at answered ⊢
                      have tail := @ih (current + 1) (by omega)
                        (fetched + (tickets current).length) fun exchange member => by
                        refine answered exchange ?_
                        simp only [ExtractRun.after_events, List.cons_append,
                          requestsOf_cons_request, requestsOf_append, sent, List.nil_append,
                          List.zip_cons_cons]
                        exact List.mem_cons_of_mem _ member
                      exact @Yields.after transform clock
                        (.request (request config current) :: events) _ _ _ origin
                        (complete rfl) tail

end KaptureTickets

namespace ConnectorClass

/-- An answered extraction yields transforms of the records its source served for the
window, and of all of them when it returns.
-/
theorem extract_yields {cls : ConnectorClass} {env : ExtractEnv} {content : SourceContent}
    {startTime : Option Datetime} {endTime : Datetime} {replies : List Reply}
    (answered
      : (cls.extract env startTime (some endTime) replies).AnsweredBy (cls.serve content)
          replies)
    : Yields (cls.transform env.host) env.clock
        ((cls.served env content startTime endTime).map (fun record => record.raw))
        (cls.extract env startTime (some endTime) replies) := by
  cases cls with
  | razorpayOrders =>
      exact offsetPages_yields (orders_servesPages content startTime (some endTime)) answered
  | razorpayCustomers => exact offsetPages_yields (customers_servesPages content) answered
  | kaptureTickets =>
      have days := KaptureTickets.days_yields (tickets_servesDays content env.config)
        (startTime.getD env.now).date_lower endTime.date_upper answered
      simp only [served, List.map_flatMap]
      exact days

/-- A transformed order or customer has the `id` of the item, whatever the clock and the
host.
-/
theorem transform_id {cls : ConnectorClass} (keyed : cls ≠ .kaptureTickets) {host : Host}
    {now : Datetime} {item : Json} {record : Record}
    (made : cls.transform host now item = .ok record)
    : ∃ id, item.getItem "id" = .ok id ∧ record.lookup "id" = some (.json id) := by
  cases cls with
  | kaptureTickets => exact absurd rfl keyed
  | razorpayOrders =>
      simp only [transform, RazorpayOrders.transform, bind_eq_ok_iff] at made
      obtain ⟨id, read, _, _, _, _, _, _, _, _, _, _, _, _, _, _, _, _, _, _, _, _, _, _, same⟩ :=
        made
      cases same
      exact ⟨id, read, rfl⟩
  | razorpayCustomers =>
      simp only [transform, RazorpayCustomers.transform, bind_eq_ok_iff] at made
      obtain ⟨id, read, _, _, _, _, _, _, _, _, _, _, _, _, _, _, same⟩ := made
      cases same
      exact ⟨id, read, rfl⟩

end ConnectorClass

section

variable {schema : TableSchema} {extracted : ExtractRun} {load : Load}
  {endTime : Option Datetime} {state : Option Dict} {batchSize : Nat} {done : SyncRun}

/-- The batches of a sync are the first ones it passed to `load`, and all of them when it
succeeds.
-/
theorem sync_batches (synced : sync schema extracted load endTime state batchSize = some done)
    : done.batches <+: loadCalls schema extracted load batchSize
      ∧ (done.result.status = .success →
          done.batches = loadCalls schema extracted load batchSize) := by
  unfold sync at synced
  split at synced
  · next consumed =>
      cases synced
      simp only [loadCalls, consumed]
      exact ⟨List.prefix_append _ _, fun success => by cases success⟩
  · next progress consumed =>
      split at synced
      · cases synced
      · next raised =>
          cases synced
          simp only [loadCalls, consumed, raised]
          exact ⟨List.prefix_refl _, fun success => by cases success⟩
      · next returned =>
          simp only [loadCalls, consumed, returned]
          split at synced
          · next empty =>
              cases synced
              rw [if_pos empty]
              exact ⟨List.prefix_refl _, fun _ => rfl⟩
          · next rest =>
              rw [if_neg rest]
              split at synced
              · cases synced
                exact ⟨List.prefix_append _ _, fun success => by cases success⟩
              · next flushed loaded =>
                  cases synced
                  obtain ⟨_, _, rfl⟩ := SyncProgress.flush_ok loaded
                  exact ⟨List.prefix_refl _, fun _ => rfl⟩

/-- A successful sync has loaded every accepted record in a batch whose load returned. -/
theorem sync_success_loaded
    (synced : sync schema extracted load endTime state batchSize = some done)
    (success : done.result.status = .success) {record : Record}
    (yielded : record ∈ recordsOf extracted.events) (accepted : validate schema record = true)
    : ∃ number batch,
        done.batches[number]? = some batch
        ∧ record ∈ batch
        ∧ ∃ loaded, load number batch = .ok loaded := by
  obtain ⟨stream, returned⟩ := sync_success_loads synced success
  rw [← (sync_batches synced).2 success] at stream returned
  have member : record ∈ done.batches.flatten :=
    stream ▸ List.mem_filter.mpr ⟨yielded, accepted⟩
  obtain ⟨batch, among, inside⟩ := List.mem_flatten.mp member
  obtain ⟨number, found⟩ := List.mem_iff_getElem?.mp among
  exact ⟨number, batch, found, inside, returned number batch found⟩

end

end Turbocat.Connectors
