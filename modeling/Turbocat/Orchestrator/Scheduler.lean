import Turbocat.Orchestrator.Models

/-! The in-memory scheduler of an orchestrator process, and the job runs its ticks insert. -/

namespace Turbocat.Orchestrator

open Turbocat.Library Turbocat.Python

/-- A cron job, with the arguments it calls `_enqueue_job` with. Its id
`pipeline_<pipeline_id>` stands for its pipeline.
-/
structure ScheduledJob where
  pipelineId : UUID
  agentId : UUID
  schedule : String
  deriving DecidableEq, Repr

/-- The cron jobs of one process. -/
abbrev Scheduler := Table ScheduledJob.pipelineId

/-- `CronTrigger.from_crontab`: the exception for a schedule it rejects. -/
abbrev FromCrontab := String → Except PyException Unit

/-- The cron job of a pipeline. -/
def Pipeline.scheduledJob (pipeline : Pipeline) : ScheduledJob :=
  ⟨pipeline.pipelineId, pipeline.agentId, pipeline.schedule⟩

/-- `register_pipeline`: add the pipeline's cron job or replace it. -/
def registerPipeline (fromCrontab : FromCrontab) (scheduler : Scheduler) (pipeline : Pipeline)
    : Except PyException Scheduler := do
  fromCrontab pipeline.schedule
  return scheduler.put pipeline.scheduledJob

/-- `deregister_pipeline`. -/
def deregisterPipeline (scheduler : Scheduler) (pipelineId : UUID) : Scheduler :=
  scheduler.erase pipelineId

/-- The loop of `load_schedules` over the active pipelines. -/
def registerAll (fromCrontab : FromCrontab)
    : Scheduler → List Pipeline → Scheduler × Option PyException
  | scheduler, [] => (scheduler, none)
  | scheduler, pipeline :: rest =>
      if (scheduler.get? pipeline.pipelineId).isSome then registerAll fromCrontab scheduler rest
      else
        match registerPipeline fromCrontab scheduler pipeline with
        | .error exception => (scheduler, some exception)
        | .ok scheduler => registerAll fromCrontab scheduler rest

/-- `load_schedules`; an exception ends it with the jobs registered so far. -/
def loadSchedules (fromCrontab : FromCrontab) (db : Db) (scheduler : Scheduler)
    : Scheduler × Option PyException :=
  registerAll fromCrontab scheduler (db.pipelines.rows.filter (fun pipeline => pipeline.isActive))

/-- `_enqueue_job`, with the id generated for the row; an id in use inserts nothing. -/
def enqueueJob (jobRuns : Table JobRun.jobId) (jobId pipelineId agentId : UUID)
    : Option (Table JobRun.jobId) :=
  jobRuns.insert { jobId, pipelineId, agentId }

/-- A registered scheduler holds the new job and the old ones of other pipelines. -/
theorem mem_registerPipeline {fromCrontab : FromCrontab} {scheduler next : Scheduler}
    {pipeline : Pipeline} (registered : registerPipeline fromCrontab scheduler pipeline = .ok next)
    {job : ScheduledJob} (member : job ∈ next.rows)
    : job = pipeline.scheduledJob ∨ job ∈ scheduler.rows := by
  unfold registerPipeline at registered
  cases parsed : fromCrontab pipeline.schedule with
  | error exception =>
      rw [parsed] at registered
      cases registered
  | ok _ =>
      rw [parsed] at registered
      cases registered
      simp only [Table.put, Table.erase, List.mem_append, List.mem_filter,
        List.mem_singleton] at member
      rcases member with old | new
      · exact Or.inr old.1
      · exact Or.inl new

/-- Every job after a registration loop is a job of one of its pipelines or an old one, by
induction over the pipelines.
-/
theorem mem_registerAll {fromCrontab : FromCrontab} {scheduler : Scheduler}
    {pipelines : List Pipeline} {job : ScheduledJob}
    (member : job ∈ (registerAll fromCrontab scheduler pipelines).1.rows)
    : (∃ origin ∈ pipelines, job = origin.scheduledJob) ∨ job ∈ scheduler.rows := by
  induction pipelines generalizing scheduler with
  | nil => exact Or.inr member
  | cons pipeline rest ih =>
      unfold registerAll at member
      have later {start : Scheduler} (found : job ∈ (registerAll fromCrontab start rest).1.rows)
          : (∃ origin ∈ pipeline :: rest, job = origin.scheduledJob)
            ∨ job ∈ start.rows := by
        rcases ih found with ⟨origin, among, same⟩ | old
        · exact Or.inl ⟨origin, List.mem_cons_of_mem _ among, same⟩
        · exact Or.inr old
      split at member
      · exact later member
      · split at member
        · exact Or.inr member
        · next next registered =>
            rcases later member with fresh | kept
            · exact Or.inl fresh
            · rcases mem_registerPipeline registered kept with same | old
              · exact Or.inl ⟨pipeline, List.mem_cons_self, same⟩
              · exact Or.inr old

end Turbocat.Orchestrator
