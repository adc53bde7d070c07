import Turbocat.Connectors.Models
import Turbocat.Python.Isoformat

/-! `BaseSourceConnector.validate` and `BaseSourceConnector.sync`: records stream out of
`extract`, are validated, accumulated and loaded batch by batch.
-/

namespace Turbocat.Connectors

open Turbocat.Python

/-- Whether every required column is present and not null. -/
def validate (schema : TableSchema) (record : Record) : Bool :=
  schema.requiredColumnNames.all
    (fun name =>
      match record.lookup name with
      | none => false
      | some value => !value.isNone)

/-- The outcome of the `destination.load` call with a given number: the `records_loaded`
entry of its result, or the exception it raised.
-/
abbrev Load := Nat → List Record → Except PyException (Option Nat)

/-- The local variables of `sync`, with the batches whose load returned and the requests
sent so far.
-/
structure SyncProgress where
  recordsExtracted : Nat := 0
  recordsLoaded : Nat := 0
  recordsFailed : Nat := 0
  batch : List Record := []
  flushed : List (List Record) := []
  requests : List Request := []

namespace SyncProgress

/-- `records_loaded += _flush(batch); batch = []`. -/
def flush (load : Load) (progress : SyncProgress) : Except PyException SyncProgress :=
  match load progress.flushed.length progress.batch with
  | .error exception => .error exception
  | .ok loaded =>
      .ok { progress with
        recordsLoaded := progress.recordsLoaded + loaded.getD progress.batch.length
        batch := []
        flushed := progress.flushed ++ [progress.batch] }

/-- One turn of the loop over `extract`, with the exception that ends it, if any. -/
def consume (schema : TableSchema) (load : Load) (batchSize : Nat) (progress : SyncProgress)
    : ExtractEvent → SyncProgress × Option PyException
  | .request sent => ({ progress with requests := progress.requests ++ [sent] }, none)
  | .record _ record =>
      let progress := { progress with recordsExtracted := progress.recordsExtracted + 1 }
      if validate schema record then
        let progress := { progress with batch := progress.batch ++ [record] }
        if batchSize ≤ progress.batch.length then
          match progress.flush load with
          | .error exception => (progress, some exception)
          | .ok flushed => (flushed, none)
        else (progress, none)
      else ({ progress with recordsFailed := progress.recordsFailed + 1 }, none)

/-- The loop over a finite list of events. -/
def consumeAll (schema : TableSchema) (load : Load) (batchSize : Nat)
    : SyncProgress → List ExtractEvent → SyncProgress × Option PyException
  | progress, [] => (progress, none)
  | progress, event :: events =>
      match progress.consume schema load batchSize event with
      | (next, some exception) => (next, some exception)
      | (next, none) => consumeAll schema load batchSize next events

end SyncProgress

/-- What `sync` returned, and what it had done by then. -/
structure SyncRun where
  result : SyncResult
  requests : List Request
  batches : List (List Record)
  deriving Repr

/-- The result of a sync that caught an exception; the cursor stays where it was. -/
def SyncProgress.failed (progress : SyncProgress) (state : Option Dict)
    (exception : PyException)
    : SyncRun :=
  {
    result := {
      status := .error
      recordsExtracted := progress.recordsExtracted
      recordsLoaded := progress.recordsLoaded
      recordsFailed := progress.recordsFailed
      nextState := state.getD []
      error := some exception.message
    }
    requests := progress.requests
    batches := progress.flushed
  }

/-- The cursor a successful sync moves to. -/
def nextState (endTime : Option Datetime) (state : Option Dict) : Dict :=
  match endTime with
  | some time => [("last_sync_at", .str time.isoformat)]
  | none => state.getD []

/-- The result of a sync that ran to its end. -/
def SyncProgress.succeeded (progress : SyncProgress)
    (endTime : Option Datetime) (state : Option Dict)
    : SyncRun :=
  {
    result := {
      status := .success
      recordsExtracted := progress.recordsExtracted
      recordsLoaded := progress.recordsLoaded
      recordsFailed := progress.recordsFailed
      nextState := nextState endTime state
    }
    requests := progress.requests
    batches := progress.flushed
  }

/-- `sync`, given what the generator does. There is no result while the generator waits
for a reply.
-/
def sync (schema : TableSchema) (extracted : ExtractRun) (load : Load)
    (endTime : Option Datetime) (state : Option Dict) (batchSize : Nat := 1000)
    : Option SyncRun :=
  match SyncProgress.consumeAll schema load batchSize {} extracted.events with
  | (progress, some exception) => some (progress.failed state exception)
  | (progress, none) =>
      match extracted.outcome with
      | .waiting => none
      | .raised exception => some (progress.failed state exception)
      | .returned =>
          if progress.batch.isEmpty then some (progress.succeeded endTime state)
          else
            match progress.flush load with
            | .error exception => some (progress.failed state exception)
            | .ok flushed => some (flushed.succeeded endTime state)

theorem SyncProgress.flush_requests {load : Load} {progress flushed : SyncProgress}
    (done : progress.flush load = .ok flushed)
    : flushed.requests = progress.requests := by
  unfold SyncProgress.flush at done
  split at done
  · cases done
  · cases done
    rfl

/-- A turn of the loop records the request it consumed and no other. -/
theorem SyncProgress.consume_requests (schema : TableSchema) (load : Load) (batchSize : Nat)
    (progress : SyncProgress) (event : ExtractEvent)
    : (progress.consume schema load batchSize event).1.requests
      = progress.requests ++ requestsOf [event] := by
  cases event with
  | request sent => rfl
  | record item record =>
      simp only [SyncProgress.consume, requestsOf_cons_record]
      split
      · split
        · split
          · simp [requestsOf]
          · next flushed done => simp [requestsOf, SyncProgress.flush_requests done]
        · simp [requestsOf]
      · simp [requestsOf]

/-- A loop that ends without an exception has consumed every request of the generator, by
induction over its events.
-/
theorem SyncProgress.consumeAll_requests {schema : TableSchema} {load : Load}
    {batchSize : Nat} {progress last : SyncProgress} {events : List ExtractEvent}
    (done : consumeAll schema load batchSize progress events = (last, none))
    : last.requests = progress.requests ++ requestsOf events := by
  induction events generalizing progress with
  | nil =>
      cases done
      simp [requestsOf]
  | cons event rest ih =>
      unfold SyncProgress.consumeAll at done
      split at done
      · cases done
      · next next turned =>
          have first := SyncProgress.consume_requests schema load batchSize progress event
          rw [turned] at first
          rw [ih done, first, List.append_assoc, ← requestsOf_append, List.singleton_append]

/-- A successful sync ran its generator to the end, sent all its requests and moves the
cursor to the end of its window.
-/
theorem sync_success {schema : TableSchema} {extracted : ExtractRun}
    {load : Load} {endTime : Option Datetime} {state : Option Dict} {batchSize : Nat}
    {done : SyncRun}
    (returned : sync schema extracted load endTime state batchSize = some done)
    (success : done.result.status = .success)
    : extracted.outcome = .returned
      ∧ done.requests = requestsOf extracted.events
      ∧ done.result.nextState = nextState endTime state := by
  unfold sync at returned
  split at returned
  · cases returned
    cases success
  · next progress consumed =>
      have requests := SyncProgress.consumeAll_requests consumed
      simp only [List.nil_append] at requests
      split at returned
      · cases returned
      · cases returned
        cases success
      · next ended =>
          refine ⟨ended, ?_⟩
          split at returned
          · cases returned
            exact ⟨requests, rfl⟩
          · split at returned
            · cases returned
              cases success
            · next flushed done =>
                cases returned
                exact ⟨(SyncProgress.flush_requests done).trans requests, rfl⟩

/-- A sync that ends in an error keeps the cursor it was given. -/
theorem sync_error {schema : TableSchema} {extracted : ExtractRun}
    {load : Load} {endTime : Option Datetime} {state : Option Dict} {batchSize : Nat}
    {done : SyncRun}
    (returned : sync schema extracted load endTime state batchSize = some done)
    (error : done.result.status = .error)
    : done.result.nextState = state.getD [] := by
  unfold sync at returned
  split at returned
  · cases returned
    rfl
  · split at returned
    · cases returned
    · cases returned
      rfl
    · split at returned
      · cases returned
        cases error
      · split at returned
        · cases returned
          rfl
        · cases returned
          cases error

end Turbocat.Connectors
