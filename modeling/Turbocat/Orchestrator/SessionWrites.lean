import Turbocat.Orchestrator.Jobs

/-! What the commit of `update_job_status` writes: of the objects its session has loaded, the
columns whose values were changed, and nothing else of their rows.
-/

namespace Turbocat.Orchestrator

open Turbocat.Library Turbocat.Python

-----------------------------------------------------------------------------------------
-- Columns
-----------------------------------------------------------------------------------------

section

variable {α : Type} [DecidableEq α]

/-- What a column holds after a flush: an assigned value that is not the loaded one, or else
what is stored.
-/
def flushed (loaded assigned stored : α) : α := if assigned = loaded then stored else assigned

@[simp]
theorem flushed_unassigned (loaded stored : α) : flushed loaded loaded stored = stored :=
  if_pos rfl

/-- The assigned value is stored then, unless it is left out and another one is there. -/
theorem flushed_eq_iff {loaded assigned stored : α}
    : flushed loaded assigned stored = assigned ↔ (assigned = loaded → stored = assigned) := by
  unfold flushed
  split
  · next same => exact ⟨fun stays _ => stays, fun stays => stays same⟩
  · next changed => exact iff_of_true rfl (fun same => absurd same changed)

end

-----------------------------------------------------------------------------------------
-- Rows
-----------------------------------------------------------------------------------------

/-- The row of a job after the flush of an object that was loaded and assigned to. -/
def JobRun.flush (loaded assigned stored : JobRun) : JobRun :=
  { stored with
    status := flushed loaded.status assigned.status stored.status
    startedAt := flushed loaded.startedAt assigned.startedAt stored.startedAt
    completedAt := flushed loaded.completedAt assigned.completedAt stored.completedAt
    rowsSynced := flushed loaded.rowsSynced assigned.rowsSynced stored.rowsSynced
    error := flushed loaded.error assigned.error stored.error }

/-- Whether a cursor equals the one an object was loaded with, as JSON values compare. -/
def Pipeline.unchangedBy (loaded : Pipeline) (cursor : Dict) : Bool :=
  loaded.state.any (fun state => (Json.dict cursor).equals (.dict state))

/-- The row of a pipeline after the flush of an object whose state was assigned. -/
def Pipeline.flush (loaded : Pipeline) (cursor : Dict) (stored : Pipeline) : Pipeline :=
  if loaded.unchangedBy cursor then stored else stored.advanced cursor

/-- The commit of `update_job_status` with the objects its session has loaded; the pipeline
is loaded only when its state is assigned.
-/
def Db.commitReport (db : Db) (job : JobRun) (pipeline : Option Pipeline) (body : StatusUpdate)
    (now : Datetime)
    : Db :=
  { db with
    jobRuns := db.jobRuns.modify job.jobId
      (fun stored => job.flush (job.report body now) stored) (fun _ => rfl)
    pipelines :=
      match body.cursor, pipeline with
      | some cursor, some loaded =>
          db.pipelines.modify job.pipelineId (fun stored => loaded.flush cursor stored)
            (fun stored => by
              unfold Pipeline.flush
              split <;> rfl)
      | _, _ => db.pipelines }

end Turbocat.Orchestrator
