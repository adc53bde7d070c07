import Turbocat.Connectors.Sync

/-! What `sync` passes to `load`: the records it accepts, in order, cut into batches. What
holds for every destination is said first, then what holds when no load raises.
-/

namespace Turbocat.Connectors

open Turbocat.Python

/-- The batches `sync` passes to `load`, with the one whose load raised. -/
def loadCalls (schema : TableSchema) (extracted : ExtractRun) (load : Load)
    (batchSize : Nat := 1000)
    : List (List Record) :=
  match SyncProgress.consumeAll schema load batchSize {} extracted.events with
  | (progress, some _) => progress.flushed ++ [progress.batch]
  | (progress, none) =>
      match extracted.outcome with
      | .returned =>
          if progress.batch.isEmpty then progress.flushed
          else progress.flushed ++ [progress.batch]
      | _ => progress.flushed

namespace SyncProgress

/-- What consuming some records adds: the accepted ones end up in the batches, in order,
and the others are counted.
-/
structure Consumes (schema : TableSchema) (before : SyncProgress) (records : List Record)
    (after : SyncProgress)
    : Prop where
  stream
    : after.flushed.flatten ++ after.batch
      = before.flushed.flatten ++ before.batch ++ records.filter (validate schema)
  extracted : after.recordsExtracted = before.recordsExtracted + records.length
  failed
    : after.recordsFailed
      = before.recordsFailed + records.countP (fun record => !validate schema record)

theorem Consumes.refl (schema : TableSchema) (progress : SyncProgress)
    : progress.Consumes schema [] progress :=
  ⟨by simp, rfl, rfl⟩

theorem Consumes.trans {schema : TableSchema} {first second third : SyncProgress}
    {earlier later : List Record} (head : first.Consumes schema earlier second)
    (tail : second.Consumes schema later third)
    : first.Consumes schema (earlier ++ later) third := by
  constructor
  · rw [tail.stream, head.stream, List.filter_append, List.append_assoc]
  · rw [tail.extracted, head.extracted, List.length_append, Nat.add_assoc]
  · rw [tail.failed, head.failed, List.countP_append, Nat.add_assoc]

/-- A load that returned moves the open batch behind the others. -/
theorem flush_ok {load : Load} {progress flushed : SyncProgress}
    (done : progress.flush load = .ok flushed)
    : ∃ loaded,
        load progress.flushed.length progress.batch = .ok loaded
        ∧ flushed = { progress with
            recordsLoaded := progress.recordsLoaded + loaded.getD progress.batch.length
            batch := []
            flushed := progress.flushed ++ [progress.batch] } := by
  unfold flush at done
  split at done
  · cases done
  · next loaded answered =>
      cases done
      exact ⟨loaded, answered, rfl⟩

/-- One turn consumes the record of its event, whatever the destination does. -/
theorem consume_consumes (schema : TableSchema) (load : Load) (batchSize : Nat)
    (progress : SyncProgress) (event : ExtractEvent)
    : progress.Consumes schema (recordsOf [event])
        (progress.consume schema load batchSize event).1 := by
  cases event with
  | request sent => exact ⟨by simp [consume, recordsOf], rfl, rfl⟩
  | record item record =>
      simp only [consume, recordsOf_cons_record]
      split
      · next valid =>
          split
          · split
            · exact ⟨by simp [recordsOf, valid], rfl, by simp [recordsOf, valid]⟩
            · next flushed done =>
                obtain ⟨loaded, _, rfl⟩ := flush_ok done
                exact ⟨by simp [recordsOf, valid], rfl, by simp [recordsOf, valid]⟩
          · exact ⟨by simp [recordsOf, valid], rfl, by simp [recordsOf, valid]⟩
      · next invalid => exact ⟨by simp [recordsOf, invalid], rfl, by simp [recordsOf, invalid]⟩

/-- The loop consumes the records of a prefix of its events, and of all of them when it
ends without an exception, by induction over the events.
-/
theorem consumeAll_consumes {schema : TableSchema} {load : Load} {batchSize : Nat}
    {progress last : SyncProgress} {events : List ExtractEvent}
    {raised : Option PyException}
    (done : consumeAll schema load batchSize progress events = (last, raised))
    : ∃ used rest,
        events = used ++ rest
        ∧ progress.Consumes schema (recordsOf used) last
        ∧ (raised = none → rest = []) := by
  induction events generalizing progress with
  | nil =>
      cases done
      exact ⟨[], [], rfl, Consumes.refl schema _, fun _ => rfl⟩
  | cons event events ih =>
      have first := consume_consumes schema load batchSize progress event
      unfold consumeAll at done
      split at done
      · next next exception turned =>
          cases done
          rw [turned] at first
          exact ⟨[event], events, rfl, first, fun ended => absurd ended (by simp)⟩
      · next next turned =>
          rw [turned] at first
          obtain ⟨used, rest, split, later, complete⟩ := ih done
          refine ⟨event :: used, rest, by rw [split, List.cons_append], ?_, complete⟩
          have whole := first.trans later
          rwa [← recordsOf_append, List.singleton_append] at whole

/-- Every batch loaded so far was accepted under its number. -/
def Loaded (load : Load) (progress : SyncProgress) : Prop :=
  ∀ number batch, progress.flushed[number]? = some batch → ∃ loaded, load number batch = .ok loaded

theorem Loaded.flush {load : Load} {progress flushed : SyncProgress}
    (holds : progress.Loaded load) (done : progress.flush load = .ok flushed)
    : flushed.Loaded load := by
  obtain ⟨loaded, answered, rfl⟩ := flush_ok done
  intro number batch found
  by_cases old : number < progress.flushed.length
  · rw [List.getElem?_append_left old] at found
    exact holds number batch found
  · have inside := (List.getElem?_eq_some_iff.mp found).1
    rw [List.length_append, List.length_singleton] at inside
    obtain rfl : number = progress.flushed.length := by omega
    rw [List.getElem?_concat_length] at found
    cases found
    exact ⟨loaded, answered⟩

/-- One turn flushes accepted batches only. -/
theorem Loaded.consume {load : Load} (schema : TableSchema) (batchSize : Nat)
    {progress : SyncProgress} (holds : progress.Loaded load) (event : ExtractEvent)
    : (progress.consume schema load batchSize event).1.Loaded load := by
  cases event with
  | request sent => exact holds
  | record item record =>
      simp only [SyncProgress.consume]
      split
      · split
        · split
          · exact holds
          · next flushed done =>
              have before
                  : Loaded load { progress with
                      recordsExtracted := progress.recordsExtracted + 1
                      batch := progress.batch ++ [record] } :=
                holds
              exact before.flush done
        · exact holds
      · exact holds

/-- The loop flushes accepted batches only, by induction over its events. -/
theorem Loaded.consumeAll {load : Load} {schema : TableSchema} {batchSize : Nat}
    {progress last : SyncProgress} {events : List ExtractEvent}
    {raised : Option PyException} (holds : progress.Loaded load)
    (done : SyncProgress.consumeAll schema load batchSize progress events = (last, raised))
    : last.Loaded load := by
  induction events generalizing progress with
  | nil =>
      cases done
      exact holds
  | cons event events ih =>
      have turn := holds.consume schema batchSize event
      unfold SyncProgress.consumeAll at done
      split at done
      · next turned =>
          cases done
          rw [turned] at turn
          exact turn
      · next turned =>
          rw [turned] at turn
          exact ih turn done

/-- Every batch loaded so far is full and counted, and the open one has room. -/
structure FullBatches (batchSize : Nat) (progress : SyncProgress) : Prop where
  full : ∀ batch ∈ progress.flushed, batch.length = batchSize
  room : progress.batch.length < batchSize
  loaded : progress.recordsLoaded = progress.flushed.flatten.length

end SyncProgress

/-- A destination whose loads, when they return, report the length of their batch. -/
def Load.Counts (load : Load) : Prop :=
  ∀ number batch loaded,
    load number batch = .ok loaded → loaded.getD batch.length = batch.length

namespace SyncProgress

section

variable {schema : TableSchema} {load : Load} {batchSize : Nat}
  {progress next : SyncProgress} {exception : PyException}

/-- Where a load raised: the batches before it are full and counted, and the open batch is
the one it was given.
-/
structure Refused (load : Load) (batchSize : Nat) (exception : PyException)
    (progress : SyncProgress)
    : Prop where
  full : ∀ batch ∈ progress.flushed, batch.length = batchSize
  within : progress.batch.length ≤ batchSize
  loaded : progress.recordsLoaded = progress.flushed.flatten.length
  raised : load progress.flushed.length progress.batch = .error exception

/-- A load that returned has counted its batch. -/
theorem flush_counted (counts : load.Counts) (done : progress.flush load = .ok next)
    : next = { progress with
        recordsLoaded := progress.recordsLoaded + progress.batch.length
        batch := []
        flushed := progress.flushed ++ [progress.batch] } := by
  obtain ⟨loaded, answered, rfl⟩ := flush_ok done
  rw [counts _ _ _ answered]

theorem flush_raised (failed : progress.flush load = .error exception)
    : load progress.flushed.length progress.batch = .error exception := by
  unfold flush at failed
  split at failed
  · next raised =>
      cases failed
      exact raised
  · cases failed

/-- A full batch whose load returned leaves the batches full. -/
theorem FullBatches.flush (counts : load.Counts)
    (full : ∀ batch ∈ progress.flushed, batch.length = batchSize)
    (loaded : progress.recordsLoaded = progress.flushed.flatten.length)
    (positive : 0 < batchSize) (reached : progress.batch.length = batchSize)
    (done : progress.flush load = .ok next)
    : next.FullBatches batchSize := by
  obtain rfl := flush_counted counts done
  refine ⟨?_, positive, by simp [loaded]⟩
  intro batch member
  rcases List.mem_append.mp member with old | new
  · exact full batch old
  · rw [List.mem_singleton.mp new]
    exact reached

/-- The open batch after one more accepted record. -/
theorem FullBatches.accepted (holds : progress.FullBatches batchSize) (record : Record)
    : (progress.batch ++ [record]).length ≤ batchSize := by
  rw [List.length_append, List.length_singleton]
  exact holds.room

/-- A turn that raises nothing keeps the batches full. -/
theorem FullBatches.consume_ok (counts : load.Counts) (holds : progress.FullBatches batchSize)
    {event : ExtractEvent}
    (done : progress.consume schema load batchSize event = (next, none))
    : next.FullBatches batchSize := by
  have positive : 0 < batchSize := Nat.zero_lt_of_lt holds.room
  cases event with
  | request sent =>
      cases done
      exact ⟨holds.full, holds.room, holds.loaded⟩
  | record item record =>
      have within := holds.accepted record
      simp only [SyncProgress.consume] at done
      split at done
      · split at done
        · next reached =>
            split at done
            · cases done
            · next flushed =>
                cases done
                refine FullBatches.flush counts ?_ ?_ positive ?_ flushed
                · exact holds.full
                · exact holds.loaded
                · exact Nat.le_antisymm within reached
        · next below =>
            cases done
            exact ⟨holds.full, by simpa using below, holds.loaded⟩
      · cases done
        exact ⟨holds.full, holds.room, holds.loaded⟩

/-- A turn that raises had its full batch refused. -/
theorem FullBatches.consume_raised (holds : progress.FullBatches batchSize)
    {event : ExtractEvent}
    (done : progress.consume schema load batchSize event = (next, some exception))
    : next.Refused load batchSize exception := by
  cases event with
  | request sent => cases done
  | record item record =>
      have within := holds.accepted record
      simp only [SyncProgress.consume] at done
      split at done
      · split at done
        · split at done
          · next failed =>
              cases done
              exact ⟨holds.full, within, holds.loaded, flush_raised failed⟩
          · cases done
        · cases done
      · cases done

/-- A loop that raises nothing keeps the batches full, by induction over its events. -/
theorem FullBatches.consumeAll_ok (counts : load.Counts)
    (holds : progress.FullBatches batchSize) {events : List ExtractEvent}
    (done : SyncProgress.consumeAll schema load batchSize progress events = (next, none))
    : next.FullBatches batchSize := by
  induction events generalizing progress with
  | nil =>
      cases done
      exact holds
  | cons event events ih =>
      unfold SyncProgress.consumeAll at done
      split at done
      · cases done
      · next turned => exact ih (holds.consume_ok counts turned) done

/-- A loop that raises had a full batch refused, by induction over its events. -/
theorem FullBatches.consumeAll_raised (counts : load.Counts)
    (holds : progress.FullBatches batchSize) {events : List ExtractEvent}
    (done
      : SyncProgress.consumeAll schema load batchSize progress events = (next, some exception))
    : next.Refused load batchSize exception := by
  induction events generalizing progress with
  | nil => cases done
  | cons event events ih =>
      unfold SyncProgress.consumeAll at done
      split at done
      · next turned =>
          cases done
          exact holds.consume_raised turned
      · next turned => exact ih (holds.consume_ok counts turned) done

end

end SyncProgress

/-- A destination whose load never raises and counts all it is given. -/
def Load.Complete (load : Load) : Prop :=
  ∀ number batch, load number batch = .ok (some batch.length)

theorem Load.Complete.counts {load : Load} (complete : load.Complete) : load.Counts := by
  intro number batch loaded answered
  rw [complete number batch] at answered
  cases answered
  rfl

namespace SyncProgress

variable {load : Load}

theorem flush_complete (complete : load.Complete) (progress : SyncProgress)
    : progress.flush load
      = .ok { progress with
          recordsLoaded := progress.recordsLoaded + progress.batch.length
          batch := []
          flushed := progress.flushed ++ [progress.batch] } := by
  simp [flush, complete progress.flushed.length progress.batch]

/-- With such a destination the whole loop raises nothing and keeps the batches full. -/
theorem FullBatches.consumeAll (complete : load.Complete) (schema : TableSchema)
    {batchSize : Nat} {progress : SyncProgress} (holds : progress.FullBatches batchSize)
    (events : List ExtractEvent)
    : ∃ last,
        SyncProgress.consumeAll schema load batchSize progress events = (last, none)
        ∧ last.FullBatches batchSize := by
  cases consumed : SyncProgress.consumeAll schema load batchSize progress events with
  | mk last ended =>
      cases ended with
      | none => exact ⟨last, rfl, holds.consumeAll_ok complete.counts consumed⟩
      | some exception =>
          have raised := (holds.consumeAll_raised complete.counts consumed).raised
          rw [complete _ _] at raised
          cases raised

/-- The open batch is the last one loaded, unless it is empty. -/
def closed (progress : SyncProgress) : List (List Record) :=
  if progress.batch.isEmpty then progress.flushed else progress.flushed ++ [progress.batch]

theorem closed_flatten (progress : SyncProgress)
    : progress.closed.flatten = progress.flushed.flatten ++ progress.batch := by
  unfold closed
  split
  · next empty => simp [List.isEmpty_iff.mp empty]
  · simp

/-- The sizes of the batches when the open one is loaded last. -/
theorem FullBatches.closed_sizes {batchSize : Nat} {progress : SyncProgress}
    (holds : progress.FullBatches batchSize)
    : (∀ batch ∈ progress.closed, batch ≠ [] ∧ batch.length ≤ batchSize)
      ∧ ∀ batch ∈ progress.closed.dropLast, batch.length = batchSize := by
  have positive : 0 < batchSize := Nat.zero_lt_of_lt holds.room
  have whole {batch : List Record} (member : batch ∈ progress.flushed)
      : batch ≠ [] ∧ batch.length ≤ batchSize := by
    have full := holds.full batch member
    exact ⟨List.ne_nil_of_length_pos (full ▸ positive), full.le⟩
  unfold closed
  split
  · exact ⟨fun batch => whole, fun batch member =>
      holds.full batch (List.dropLast_subset _ member)⟩
  · next rest =>
      rw [List.dropLast_concat]
      refine ⟨?_, holds.full⟩
      intro batch member
      rcases List.mem_append.mp member with old | new
      · exact whole old
      · rw [List.mem_singleton.mp new]
        exact ⟨by simpa using rest, holds.room.le⟩

end SyncProgress

/-- Every record passed to `load` was yielded and accepted. -/
theorem mem_loadCalls {schema : TableSchema} {extracted : ExtractRun} {load : Load}
    {batchSize : Nat} {batch : List Record} {record : Record}
    (called : batch ∈ loadCalls schema extracted load batchSize) (member : record ∈ batch)
    : record ∈ recordsOf extracted.events ∧ validate schema record = true := by
  have stream {last : SyncProgress} {raised : Option PyException}
      (consumed
        : SyncProgress.consumeAll schema load batchSize {} extracted.events = (last, raised))
      (among : record ∈ last.flushed.flatten ++ last.batch)
      : record ∈ recordsOf extracted.events ∧ validate schema record = true := by
    obtain ⟨used, rest, split, consumes, _⟩ := SyncProgress.consumeAll_consumes consumed
    rw [consumes.stream] at among
    obtain ⟨yielded, accepted⟩ := List.mem_filter.mp among
    rw [split, recordsOf_append]
    exact ⟨List.mem_append_left _ yielded, accepted⟩
  have flushed {last : SyncProgress} (among : batch ∈ last.flushed)
      : record ∈ last.flushed.flatten ++ last.batch :=
    List.mem_append_left _ (List.mem_flatten.mpr ⟨batch, among, member⟩)
  have closed {last : SyncProgress} (among : batch ∈ last.flushed ++ [last.batch])
      : record ∈ last.flushed.flatten ++ last.batch := by
    rcases List.mem_append.mp among with old | new
    · exact flushed old
    · exact List.mem_append_right _ (List.mem_singleton.mp new ▸ member)
  unfold loadCalls at called
  split at called
  · next consumed => exact stream consumed (closed called)
  · next consumed =>
      split at called
      · split at called
        · exact stream consumed (flushed called)
        · exact stream consumed (closed called)
      · exact stream consumed (flushed called)

/-- A successful sync has passed every accepted record to `load`, and every load
returned.
-/
theorem sync_success_loads {schema : TableSchema} {extracted : ExtractRun} {load : Load}
    {endTime : Option Datetime} {state : Option Dict} {batchSize : Nat} {done : SyncRun}
    (synced : sync schema extracted load endTime state batchSize = some done)
    (success : done.result.status = .success)
    : (loadCalls schema extracted load batchSize).flatten
        = (recordsOf extracted.events).filter (validate schema)
      ∧ ∀ number batch,
          (loadCalls schema extracted load batchSize)[number]? = some batch
          → ∃ loaded, load number batch = .ok loaded := by
  have start : ({} : SyncProgress).Loaded load := fun _ _ found => by cases found
  unfold sync at synced
  split at synced
  · cases synced
    cases success
  · next progress consumed =>
      have holds := start.consumeAll consumed
      obtain ⟨used, rest, split, consumes, ended⟩ := SyncProgress.consumeAll_consumes consumed
      rw [ended rfl, List.append_nil] at split
      have stream := consumes.stream
      rw [← split] at stream
      split at synced
      · cases synced
      · cases synced
        cases success
      · next returned =>
          simp only [loadCalls, consumed, returned]
          split at synced
          · next empty =>
              rw [if_pos empty]
              rw [List.isEmpty_iff.mp empty, List.append_nil] at stream
              exact ⟨stream, holds⟩
          · next rest =>
              rw [if_neg rest]
              split at synced
              · cases synced
                cases success
              · next flushed loaded =>
                  have all := holds.flush loaded
                  obtain ⟨_, _, rfl⟩ := SyncProgress.flush_ok loaded
                  refine ⟨?_, all⟩
                  rw [List.flatten_append, List.flatten_singleton]
                  exact stream

/-- A sync whose generator returns and whose destination never raises ends as its loop
does, with the open batch loaded last.
-/
theorem sync_complete {schema : TableSchema} {extracted : ExtractRun} {load : Load}
    {batchSize : Nat} {last : SyncProgress} (endTime : Option Datetime) (state : Option Dict)
    (returned : extracted.outcome = .returned) (complete : load.Complete)
    (consumed
      : SyncProgress.consumeAll schema load batchSize {} extracted.events = (last, none))
    (counted : last.recordsLoaded = last.flushed.flatten.length)
    : ∃ done,
        sync schema extracted load endTime state batchSize = some done
        ∧ done.result.status = .success
        ∧ done.batches = last.closed
        ∧ done.result.recordsExtracted = last.recordsExtracted
        ∧ done.result.recordsLoaded = last.closed.flatten.length
        ∧ done.result.recordsFailed = last.recordsFailed
        ∧ done.result.nextState = nextState endTime state
        ∧ loadCalls schema extracted load batchSize = last.closed := by
  simp only [sync, loadCalls, consumed, returned, SyncProgress.closed]
  by_cases empty : last.batch.isEmpty = true
  · simp only [empty, if_true]
    exact ⟨_, rfl, rfl, rfl, rfl, counted, rfl, rfl, trivial⟩
  · simp only [SyncProgress.flush_complete complete, empty]
    refine ⟨_, rfl, rfl, rfl, rfl, ?_, rfl, rfl, trivial⟩
    simp [SyncProgress.succeeded, counted]

/-- With a generator that returns and a destination that never raises, `sync` succeeds and
loads exactly the accepted records, in order, in batches that are full but for the last.
-/
theorem sync_loads_accepted {schema : TableSchema} {extracted : ExtractRun} {load : Load}
    {endTime : Option Datetime} {state : Option Dict} {batchSize : Nat}
    (returned : extracted.outcome = .returned) (positive : 1 ≤ batchSize)
    (complete : load.Complete)
    : let yielded := recordsOf extracted.events
      ∃ done,
        sync schema extracted load endTime state batchSize = some done
        ∧ done.result.status = .success
        ∧ loadCalls schema extracted load batchSize = done.batches
        ∧ done.batches.flatten = yielded.filter (validate schema)
        ∧ (∀ batch ∈ done.batches, batch ≠ [] ∧ batch.length ≤ batchSize)
        ∧ (∀ batch ∈ done.batches.dropLast, batch.length = batchSize)
        ∧ done.result.recordsExtracted = yielded.length
        ∧ done.result.recordsLoaded + done.result.recordsFailed
          = done.result.recordsExtracted
        ∧ done.result.recordsFailed
          = (yielded.filter (fun record => !validate schema record)).length
        ∧ done.result.nextState = nextState endTime state := by
  intro yielded
  have start : ({} : SyncProgress).FullBatches batchSize :=
    ⟨fun _ member => absurd member List.not_mem_nil, positive, rfl⟩
  obtain ⟨last, consumed, holds⟩ := start.consumeAll complete schema extracted.events
  obtain ⟨used, rest, split, consumes, ended⟩ := SyncProgress.consumeAll_consumes consumed
  have all : recordsOf used = yielded := by
    rw [ended rfl, List.append_nil] at split
    rw [← split]
  rw [all] at consumes
  obtain ⟨done, synced, success, batches, extractedCount, loadedCount, failedCount, cursor,
    calls⟩ := sync_complete endTime state returned complete consumed holds.loaded
  have stream : last.closed.flatten = yielded.filter (validate schema) := by
    rw [last.closed_flatten, consumes.stream]
    rfl
  have failed : done.result.recordsFailed
      = (yielded.filter (fun record => !validate schema record)).length := by
    rw [failedCount, consumes.failed, List.countP_eq_length_filter]
    exact Nat.zero_add _
  have count : done.result.recordsExtracted = yielded.length := by
    rw [extractedCount, consumes.extracted]
    exact Nat.zero_add _
  refine ⟨done, synced, success, calls.trans batches.symm, batches ▸ stream,
    batches ▸ holds.closed_sizes.1, batches ▸ holds.closed_sizes.2, count, ?_, failed, cursor⟩
  rw [failed, count, loadedCount, stream]
  exact (List.length_eq_length_filter_add (validate schema)).symm

/-- Three accepted records and one without an id, in batches of two. -/
theorem sync_loads_accepted_three
    : let schema : TableSchema := ⟨"rows", [⟨"id", "string", true⟩]⟩
      let record (id : Json) : ExtractEvent := .record id [("id", .json id)]
      let extracted : ExtractRun :=
        ⟨[record (.str "a"), record .null, record (.str "b"), record (.str "c")], .returned⟩
      ∃ done,
        sync schema extracted (fun _ batch => .ok (some batch.length)) none none 2 = some done
        ∧ done.batches.map List.length = [2, 1]
        ∧ done.batches.flatten
          = (recordsOf extracted.events).filter (validate schema) := by
  intro schema record extracted
  obtain ⟨done, synced, _, _, accepted, _⟩ :=
    @sync_loads_accepted schema extracted (fun _ batch => .ok (some batch.length)) none none 2
      rfl (by decide) (fun _ _ => rfl)
  cases synced
  exact ⟨_, rfl, rfl, accepted⟩

end Turbocat.Connectors
