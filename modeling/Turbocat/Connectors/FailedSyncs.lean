import Mathlib.Algebra.BigOperators.Ring.List
import Turbocat.Connectors.SyncBatches

/-! What a sync that an exception ended has stored, and what it reports of it. The exception
comes from the generator or from a load, at the threshold or at the end; one invariant
covers all of them.
-/

namespace Turbocat.Connectors

open Turbocat.Python

/-- The batches among numbered calls whose load returned. -/
def Load.returned (load : Load) (calls : List (List Record)) : List (List Record) :=
  (calls.zipIdx.filter (fun call => (load call.2 call.1).isOk)).map Prod.fst

/-- The batches of a sync whose load returned. -/
def returnedLoads (schema : TableSchema) (extracted : ExtractRun) (load : Load)
    (batchSize : Nat := 1000)
    : List (List Record) :=
  load.returned (loadCalls schema extracted load batchSize)

/-- An exception that a run of `sync` meets: that of a load it calls, or that of its
generator, which it reaches when every load it calls returns.
-/
inductive SyncRaises (schema : TableSchema) (extracted : ExtractRun) (load : Load)
    (batchSize : Nat)
    : PyException → Prop
  | fromLoad {number batch exception}
    (called : (loadCalls schema extracted load batchSize)[number]? = some batch)
    (raised : load number batch = .error exception)
    : SyncRaises schema extracted load batchSize exception
  | fromExtract {exception}
    (returned
      : returnedLoads schema extracted load batchSize
        = loadCalls schema extracted load batchSize)
    (raised : extracted.outcome = .raised exception)
    : SyncRaises schema extracted load batchSize exception

/-- Where every call returned, so did each. -/
theorem Load.ok_of_returned {load : Load} {calls : List (List Record)}
    (all : load.returned calls = calls) {number : Nat} {batch : List Record}
    (called : calls[number]? = some batch)
    : ∃ loaded, load number batch = .ok loaded := by
  have lengths := congrArg List.length all
  rw [Load.returned, List.length_map, ← List.length_zipIdx (l := calls)] at lengths
  have kept := List.length_filter_eq_length_iff.mp lengths (batch, number)
    (List.mem_zipIdx_iff_getElem?.mpr called)
  cases answered : load number batch with
  | error exception => simp [answered, Except.isOk, Except.toBool] at kept
  | ok loaded => exact ⟨loaded, rfl⟩

namespace SyncProgress

variable {load : Load} {progress : SyncProgress} {exception : PyException}

/-- Every batch loaded so far has returned. -/
theorem Loaded.returned (holds : progress.Loaded load)
    : load.returned progress.flushed = progress.flushed := by
  have kept
      : progress.flushed.zipIdx.filter (fun call => (load call.2 call.1).isOk)
        = progress.flushed.zipIdx := by
    refine List.filter_eq_self.mpr fun call member => ?_
    obtain ⟨batch, number⟩ := call
    obtain ⟨loaded, answered⟩ := holds number batch (List.mem_zipIdx_iff_getElem?.mp member)
    simp only [answered]
    rfl
  rw [Load.returned, kept, List.zipIdx_map_fst]

/-- A batch that was refused has not returned. -/
theorem Loaded.returned_refused (holds : progress.Loaded load)
    (raised : load progress.flushed.length progress.batch = .error exception)
    : load.returned (progress.flushed ++ [progress.batch]) = progress.flushed := by
  have earlier := holds.returned
  simp only [Load.returned] at earlier ⊢
  rw [List.zipIdx_append, List.filter_append, List.map_append, earlier]
  simp [raised, Except.isOk, Except.toBool]

end SyncProgress

/-- How a sync ends, with its progress then: a load was refused, the generator raised after
loads that all returned, or neither.
-/
inductive SyncEnd (schema : TableSchema) (extracted : ExtractRun) (load : Load)
    (endTime : Option Datetime) (state : Option Dict) (batchSize : Nat)
    : Prop
  | refused {last ended exception}
    (consumed : SyncProgress.consumeAll schema load batchSize {} extracted.events = (last, ended))
    (synced
      : sync schema extracted load endTime state batchSize = some (last.failed state exception))
    (calls : loadCalls schema extracted load batchSize = last.flushed ++ [last.batch])
    (refusal : last.Refused load batchSize exception)
  | raised {last exception}
    (consumed : SyncProgress.consumeAll schema load batchSize {} extracted.events = (last, none))
    (synced
      : sync schema extracted load endTime state batchSize = some (last.failed state exception))
    (calls : loadCalls schema extracted load batchSize = last.flushed)
    (outcome : extracted.outcome = .raised exception)
    (full : last.FullBatches batchSize)
  | unraised
    (returned
      : returnedLoads schema extracted load batchSize
        = loadCalls schema extracted load batchSize)
    (outcome : ∀ exception, extracted.outcome ≠ .raised exception)
    (success
      : ∀ done,
          sync schema extracted load endTime state batchSize = some done
          → done.result.status = .success)

section

variable {schema : TableSchema} {extracted : ExtractRun} {load : Load}
  {endTime : Option Datetime} {state : Option Dict} {batchSize : Nat}

/-- The progress at the end of the loop has flushed batches that returned. -/
theorem loaded_of_consumed {last : SyncProgress} {ended : Option PyException}
    (consumed : SyncProgress.consumeAll schema load batchSize {} extracted.events = (last, ended))
    : last.Loaded load := by
  have start : ({} : SyncProgress).Loaded load := fun _ _ found => by cases found
  exact start.consumeAll consumed

/-- Every sync ends in one of the three ways. The cases are those of `sync` itself: the loop
raised, or it did not and the generator waits, raised or returned.
-/
theorem sync_ends (positive : 1 ≤ batchSize) (counts : load.Counts)
    : SyncEnd schema extracted load endTime state batchSize := by
  have start : ({} : SyncProgress).FullBatches batchSize :=
    ⟨fun _ member => absurd member List.not_mem_nil, positive, rfl⟩
  cases consumed : SyncProgress.consumeAll schema load batchSize {} extracted.events with
  | mk last ended =>
      have loaded := loaded_of_consumed consumed
      cases ended with
      | some exception =>
          refine .refused consumed ?_ ?_ (start.consumeAll_raised counts consumed)
          · simp only [sync, consumed]
          · simp only [loadCalls, consumed]
      | none =>
          have full := start.consumeAll_ok counts consumed
          cases outcome : extracted.outcome with
          | waiting =>
              refine .unraised ?_ (by simp [outcome]) ?_
              · simp only [returnedLoads, loadCalls, consumed, outcome, loaded.returned]
              · intro done synced
                simp only [sync, consumed, outcome, reduceCtorEq] at synced
          | raised exception =>
              refine .raised consumed ?_ ?_ outcome full
              · simp only [sync, consumed, outcome]
              · simp only [loadCalls, consumed, outcome]
          | returned =>
              by_cases empty : last.batch.isEmpty = true
              · refine .unraised ?_ (by simp [outcome]) ?_
                · simp only [returnedLoads, loadCalls, consumed, outcome, empty, if_true,
                    loaded.returned]
                · intro done synced
                  simp only [sync, consumed, outcome, empty, if_true] at synced
                  cases synced
                  rfl
              · cases flushing : last.flush load with
                | error exception =>
                    have refusal : last.Refused load batchSize exception :=
                      ⟨full.full, full.room.le, full.loaded,
                        SyncProgress.flush_raised flushing⟩
                    refine .refused consumed ?_ ?_ refusal
                    · simp only [sync, consumed, outcome, empty, flushing]
                      rfl
                    · simp only [loadCalls, consumed, outcome, empty]
                      rfl
                | ok flushed =>
                    have later := (loaded.flush flushing).returned
                    obtain ⟨_, _, rfl⟩ := SyncProgress.flush_ok flushing
                    refine .unraised ?_ (by simp [outcome]) ?_
                    · simp only [returnedLoads, loadCalls, consumed, outcome, empty]
                      exact later
                    · intro done synced
                      simp only [sync, consumed, outcome, empty, flushing] at synced
                      cases synced
                      rfl

/-- Where every load that is called returns, only the generator raises. -/
theorem SyncRaises.of_returned {exception : PyException}
    (raises : SyncRaises schema extracted load batchSize exception)
    (returned
      : returnedLoads schema extracted load batchSize
        = loadCalls schema extracted load batchSize)
    : extracted.outcome = .raised exception := by
  cases raises with
  | fromLoad called raised =>
      obtain ⟨_, answered⟩ := Load.ok_of_returned returned called
      rw [answered] at raised
      cases raised
  | fromExtract _ raised => exact raised

/-- Where the last load that is called is refused, nothing else raises. -/
theorem SyncRaises.of_refused {exception other : PyException} {last : SyncProgress}
    (raises : SyncRaises schema extracted load batchSize exception)
    (loaded : last.Loaded load)
    (calls : loadCalls schema extracted load batchSize = last.flushed ++ [last.batch])
    (refused : load last.flushed.length last.batch = .error other)
    : exception = other := by
  cases raises with
  | @fromLoad number batch _ called raised =>
      rw [calls] at called
      by_cases earlier : number < last.flushed.length
      · rw [List.getElem?_append_left earlier] at called
        obtain ⟨_, answered⟩ := loaded number batch called
        rw [answered] at raised
        cases raised
      · have inside := (List.getElem?_eq_some_iff.mp called).1
        rw [List.length_append, List.length_singleton] at inside
        obtain rfl : number = last.flushed.length := by omega
        rw [List.getElem?_concat_length, Option.some.injEq] at called
        subst called
        exact Except.error.inj (raised.symm.trans refused)
  | fromExtract all _ =>
      rw [returnedLoads, calls, loaded.returned_refused refused] at all
      simp at all

/-- A sync that meets an exception ends with it, its progress holding full batches. -/
theorem sync_raised (positive : 1 ≤ batchSize) (counts : load.Counts)
    {exception : PyException}
    (raises : SyncRaises schema extracted load batchSize exception)
    : ∃ last ended,
        SyncProgress.consumeAll schema load batchSize {} extracted.events = (last, ended)
        ∧ sync schema extracted load endTime state batchSize = some (last.failed state exception)
        ∧ returnedLoads schema extracted load batchSize = last.flushed
        ∧ (returnedLoads schema extracted load batchSize
            = loadCalls schema extracted load batchSize → ended = none)
        ∧ (∀ batch ∈ last.flushed, batch.length = batchSize)
        ∧ last.batch.length ≤ batchSize
        ∧ last.recordsLoaded = last.flushed.flatten.length := by
  have ends : SyncEnd schema extracted load endTime state batchSize := sync_ends positive counts
  cases ends with
  | @refused last ended other consumed synced calls refusal =>
      have loaded := loaded_of_consumed consumed
      have returned : returnedLoads schema extracted load batchSize = last.flushed := by
        rw [returnedLoads, calls, loaded.returned_refused refusal.raised]
      obtain rfl := raises.of_refused loaded calls refusal.raised
      refine ⟨last, ended, consumed, synced, returned, ?_, refusal.full, refusal.within,
        refusal.loaded⟩
      intro all
      rw [returned, calls] at all
      simp at all
  | @raised last other consumed synced calls outcome full =>
      have returned : returnedLoads schema extracted load batchSize = last.flushed := by
        rw [returnedLoads, calls, (loaded_of_consumed consumed).returned]
      have met := raises.of_returned (returned.trans calls.symm)
      obtain rfl := ExtractOutcome.raised.inj (met.symm.trans outcome)
      exact ⟨last, none, consumed, synced, returned, fun _ => rfl, full.full, full.room.le,
        full.loaded⟩
  | unraised returned outcome success =>
      exact absurd (raises.of_returned returned) (outcome exception)

/-- What the loop has taken from the generator when it ends: its flushed batches and its batch
are the accepted records, and its counts are those of the records.
-/
theorem taken_of_consumed {last : SyncProgress} {ended : Option PyException}
    (consumed : SyncProgress.consumeAll schema load batchSize {} extracted.events = (last, ended))
    : ∃ used rest,
        recordsOf extracted.events = used ++ rest
        ∧ (ended = none → rest = [])
        ∧ used.filter (validate schema) = last.flushed.flatten ++ last.batch
        ∧ last.recordsExtracted = used.length
        ∧ last.recordsExtracted
          = last.recordsFailed + last.flushed.flatten.length + last.batch.length := by
  obtain ⟨used, later, split, consumes, complete⟩ := SyncProgress.consumeAll_consumes consumed
  have stream : (recordsOf used).filter (validate schema)
      = last.flushed.flatten ++ last.batch := by
    rw [consumes.stream]
    rfl
  have taken : last.recordsExtracted = (recordsOf used).length := by
    rw [consumes.extracted]
    exact Nat.zero_add _
  have failed : last.recordsFailed
      = ((recordsOf used).filter (fun record => !validate schema record)).length := by
    rw [consumes.failed, List.countP_eq_length_filter]
    exact Nat.zero_add _
  refine ⟨recordsOf used, recordsOf later, ?_, ?_, stream, taken, ?_⟩
  · rw [split, recordsOf_append]
  · intro none
    rw [complete none]
    rfl
  · have parts := List.length_eq_length_filter_add (l := recordsOf used) (validate schema)
    rw [stream, List.length_append] at parts
    omega

/-- Full batches hold a multiple of the batch size. -/
theorem dvd_length_of_full {batches : List (List Record)}
    (full : ∀ batch ∈ batches, batch.length = batchSize)
    : batchSize ∣ batches.flatten.length := by
  rw [List.length_flatten]
  apply List.dvd_sum
  intro length member
  obtain ⟨batch, flushed, rfl⟩ := List.mem_map.mp member
  rw [full batch flushed]

/-- A failing sync reports exactly what was stored: the batches whose load returned are a
prefix of the accepted records it was given, cut at a multiple of the batch size, and its
counts and its cursor say so. A sync fails for no other reason.
-/
theorem sync_reports_failure (positive : 1 ≤ batchSize) (counts : load.Counts)
    : let stored := returnedLoads schema extracted load batchSize
      (∀ exception,
        SyncRaises schema extracted load batchSize exception
        → ∃ done used rest unstored,
            sync schema extracted load endTime state batchSize = some done
            ∧ done.result.status = .error
            ∧ done.result.nextState = state.getD []
            ∧ done.result.error = some exception.message
            ∧ recordsOf extracted.events = used ++ rest
            ∧ (stored = loadCalls schema extracted load batchSize → rest = [])
            ∧ used.filter (validate schema) = stored.flatten ++ unstored
            ∧ batchSize ∣ stored.flatten.length
            ∧ done.result.recordsLoaded = stored.flatten.length
            ∧ done.result.recordsExtracted = used.length
            ∧ done.result.recordsExtracted
              = done.result.recordsFailed + done.result.recordsLoaded + unstored.length
            ∧ unstored.length ≤ batchSize)
      ∧ ∀ done,
          sync schema extracted load endTime state batchSize = some done
          → done.result.status = .error
          → ∃ exception, SyncRaises schema extracted load batchSize exception := by
  intro stored
  constructor
  · intro exception raises
    obtain ⟨last, ended, consumed, synced, returned, undisturbed, full, within, loaded⟩ :=
      @sync_raised schema extracted load endTime state batchSize positive counts _ raises
    obtain ⟨used, rest, split, complete, stream, taken, sum⟩ := taken_of_consumed consumed
    have same : stored = last.flushed := returned
    rw [same]
    refine ⟨_, used, rest, last.batch, synced, rfl, rfl, rfl, split, ?_, stream,
      dvd_length_of_full full, loaded, taken, ?_, within⟩
    · intro all
      exact complete (undisturbed (returned.trans all))
    · change last.recordsExtracted
        = last.recordsFailed + last.recordsLoaded + last.batch.length
      rw [sum, loaded]
  · intro done synced error
    have ends : SyncEnd schema extracted load endTime state batchSize := sync_ends positive counts
    cases ends with
    | refused consumed _ calls refusal =>
        refine ⟨_, .fromLoad ?_ refusal.raised⟩
        rw [calls, List.getElem?_concat_length]
    | raised consumed _ calls outcome full =>
        refine ⟨_, .fromExtract ?_ outcome⟩
        rw [returnedLoads, calls, (loaded_of_consumed consumed).returned]
    | unraised _ _ success =>
        rw [success done synced] at error
        cases error

/-- Three accepted records and one without an id, in batches of two, whose second load is
refused: two records are stored and one is not.
-/
theorem sync_reports_failure_second_load
    : let schema : TableSchema := ⟨"rows", [⟨"id", "string", true⟩]⟩
      let record (id : Json) : ExtractEvent := .record id [("id", .json id)]
      let extracted : ExtractRun :=
        ⟨[record (.str "a"), record .null, record (.str "b"), record (.str "c")], .returned⟩
      let cursor : Dict := [("last_sync_at", .str "2024-01-15T12:00:00+00:00")]
      let load : Load := fun number batch =>
        if number = 0 then .ok (some batch.length) else .error ⟨.other "NetworkError", "down"⟩
      ∃ done unstored,
        sync schema extracted load none (some cursor) 2 = some done
        ∧ done.result.status = .error
        ∧ done.result.nextState = cursor
        ∧ done.result.error = some "down"
        ∧ done.result.recordsLoaded = 2
        ∧ done.result.recordsExtracted
          = done.result.recordsFailed + done.result.recordsLoaded + unstored
        ∧ unstored ≤ 2 := by
  intro schema record extracted cursor load
  have counts : load.Counts := by
    intro number batch loaded answered
    simp only [load] at answered
    split at answered
    · cases answered
      rfl
    · cases answered
  have raises : SyncRaises schema extracted load 2 ⟨.other "NetworkError", "down"⟩ :=
    @SyncRaises.fromLoad _ _ _ _ 1 _ _ rfl rfl
  obtain ⟨done, _, _, unstored, synced, status, next, error, _, _, _, _, loaded, _, sum, within⟩ :=
    (@sync_reports_failure schema extracted load none (some cursor) 2 (by decide) counts).1
      _ raises
  exact ⟨done, unstored.length, synced, status, next, error, loaded, sum, within⟩

end

end Turbocat.Connectors
