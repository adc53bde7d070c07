import Turbocat.Orchestrator.Registration
import Turbocat.System.OwnAgents

/-! The cron jobs of a process against the active pipelines of the database: as long as
schedules are accepted, one process keeps exactly one job for each. A schedule that
`CronTrigger.from_crontab` rejects is stored before it is read, and then no process can
load the schedules behind it.
-/

namespace Turbocat.System

open Turbocat.Library Turbocat.Python Turbocat.Connectors Turbocat.Orchestrator Turbocat.Agent

/-- The cron job of the active pipeline with this id. -/
def scheduled (db : Db) (pipelineId : UUID) : Option ScheduledJob :=
  ((db.pipelines.get? pipelineId).filter (fun pipeline => pipeline.isActive)).map
    Pipeline.scheduledJob

theorem scheduled_of_active {db : Db} {pipeline : Pipeline}
    (active : pipeline ∈ db.activePipelines)
    : scheduled db pipeline.pipelineId = some pipeline.scheduledJob := by
  obtain ⟨member, isActive⟩ := mem_activePipelines.mp active
  rw [scheduled, Table.get?_of_mem member, Option.filter_some, if_pos isActive,
    Option.map_some]

theorem scheduled_eq_some_iff {db : Db} {pipelineId : UUID} {job : ScheduledJob}
    : scheduled db pipelineId = some job
      ↔ ∃ pipeline ∈ db.activePipelines,
          pipeline.pipelineId = pipelineId ∧ pipeline.scheduledJob = job := by
  constructor
  · intro found
    obtain ⟨pipeline, kept, same⟩ := Option.map_eq_some_iff.mp found
    obtain ⟨stored, isActive⟩ := Option.filter_eq_some_iff.mp kept
    obtain ⟨member, key⟩ := Table.get?_eq_some_iff.mp stored
    exact ⟨pipeline, mem_activePipelines.mpr ⟨member, isActive⟩, key, same⟩
  · intro listed
    obtain ⟨pipeline, active, rfl, rfl⟩ := listed
    exact scheduled_of_active active

theorem scheduled_eq_none {db : Db} {pipelineId : UUID}
    (absent : pipelineId ∉ db.activePipelines.map Pipeline.pipelineId)
    : scheduled db pipelineId = none := by
  refine Option.eq_none_iff_forall_ne_some.mpr fun job found => absent ?_
  obtain ⟨pipeline, active, rfl, _⟩ := scheduled_eq_some_iff.mp found
  exact List.mem_map_of_mem active

/-- A rewrite that leaves activity and jobs alone changes no schedule. -/
theorem scheduled_modify (db : Db) (pipelineId : UUID) (f : Pipeline → Pipeline)
    (keeps : ∀ pipeline, (f pipeline).pipelineId = pipeline.pipelineId)
    (active : ∀ pipeline, (f pipeline).isActive = pipeline.isActive)
    (job : ∀ pipeline, (f pipeline).scheduledJob = pipeline.scheduledJob)
    : scheduled { db with pipelines := db.pipelines.modify pipelineId f keeps }
      = scheduled db := by
  funext other
  simp only [scheduled, Table.get?_modify]
  split
  · next same =>
      subst same
      cases db.pipelines.get? other with
      | none => rfl
      | some pipeline => simp [Option.filter_some, active, apply_ite, job]
  · rfl

/-- The schedule depends on the pipelines only. -/
theorem scheduled_congr {db next : Db} (same : next.pipelines = db.pipelines)
    : scheduled next = scheduled db := by
  funext pipelineId
  rw [scheduled, same, scheduled]

/-- A report may move a cursor, which no schedule depends on. -/
theorem scheduled_reported {db next : Db} {jobId : UUID} {body : StatusUpdate}
    {now : Datetime} (updated : updateJobStatus db jobId body now = some next)
    : scheduled next = scheduled db := by
  obtain ⟨row, _, _, rfl⟩ := updateJobStatus_some updated
  cases cursor : body.cursor with
  | none => exact scheduled_congr rfl
  | some moved =>
      have advanced := scheduled_modify db row.pipelineId
        (fun pipeline => pipeline.advanced moved) (fun _ => rfl) (fun _ => rfl) (fun _ => rfl)
      rw [← advanced]
      exact scheduled_congr rfl

/-- Deactivation takes one pipeline off the schedule. -/
theorem scheduled_deactivated (db : Db) (pipelineId : UUID)
    : scheduled
        { db with
          pipelines := db.pipelines.modify pipelineId Pipeline.deactivated (fun _ => rfl) }
      = Function.update (scheduled db) pipelineId none := by
  funext other
  have lookup := Table.get?_modify db.pipelines pipelineId Pipeline.deactivated (fun _ => rfl)
    other
  simp only [scheduled, lookup, Function.update_apply]
  split
  · next same =>
      subst same
      cases db.pipelines.get? other with
      | none => rfl
      | some pipeline => simp [Option.filter_some, Pipeline.deactivated]
  · rfl

/-- New rows are on the schedule when they are active, next to the old ones. -/
theorem scheduled_appended {db next : Db} {pipelines : List Pipeline}
    (appended : next.pipelines.rows = db.pipelines.rows ++ pipelines)
    (active : ∀ pipeline ∈ pipelines, pipeline.isActive = true)
    : (∀ pipeline ∈ pipelines,
        scheduled next pipeline.pipelineId = some pipeline.scheduledJob)
      ∧ (∀ pipelineId ∉ pipelines.map Pipeline.pipelineId,
          scheduled next pipelineId = scheduled db pipelineId)
      ∧ (pipelines.map Pipeline.pipelineId).Nodup := by
  refine ⟨?_, ?_, ?_⟩
  · intro pipeline member
    exact scheduled_of_active (mem_activePipelines.mpr
      ⟨appended ▸ List.mem_append_right _ member, active pipeline member⟩)
  · intro pipelineId other
    have absent : pipelines.find? (fun row => decide (row.pipelineId = pipelineId)) = none := by
      refine List.find?_eq_none.mpr fun row member same => other ?_
      rw [← of_decide_eq_true same]
      exact List.mem_map_of_mem member
    simp only [scheduled, Table.get?, appended, List.find?_append, absent, Option.or_none]
  · have unique := next.pipelines.unique
    rw [appended, List.map_append] at unique
    exact unique.of_append_right

-----------------------------------------------------------------------------------------
-- Steps
-----------------------------------------------------------------------------------------

/-- What a step does to the schedule in the database and to those of the processes. -/
inductive Reschedules (platform : Platform) (state next : State) : Event → Prop
  | idle {event} (stored : scheduled next.db = scheduled state.db)
    (schedulers : next.schedulers = state.schedulers)
    : Reschedules platform state next event
  | start {process} (stored : next.db = state.db)
    (schedulers
      : next.schedulers
        = Function.update state.schedulers process
            (some (loadSchedules platform.fromCrontab state.db .empty).1))
    : Reschedules platform state next (.start process)
  | stop {process} (stored : next.db = state.db)
    (schedulers : next.schedulers = Function.update state.schedulers process none)
    : Reschedules platform state next (.stop process)
  | create {process call scheduler agentId connectionId tables}
    (request : call.request = .bulkCreatePipelines agentId connectionId tables)
    (up : state.schedulers process = some scheduler)
    (commits
      : CommitsBulk call.env state.db call.accountId agentId connectionId tables next.db)
    (schedulers
      : next.schedulers
        = Function.update state.schedulers process
            (some (registerEach platform.fromCrontab scheduler
              (requestedPipelines call.env call.accountId agentId connectionId tables)).1))
    : Reschedules platform state next (.request process call)
  | deactivate {process call scheduler pipelineId}
    (up : state.schedulers process = some scheduler)
    (stored : scheduled next.db = Function.update (scheduled state.db) pipelineId none)
    (schedulers
      : next.schedulers
        = Function.update state.schedulers process
            (some (deregisterPipeline scheduler pipelineId)))
    : Reschedules platform state next (.request process call)

/-- A request creates pipelines, deactivates one or leaves the schedules alone. -/
theorem reschedules_request (platform : Platform) {state : State} {process : Nat}
    {scheduler : Scheduler} (up : state.schedulers process = some scheduler) (call : Call)
    : Reschedules platform state (state.serve platform process scheduler call)
        (.request process call) := by
  have same : Function.update state.schedulers process (some scheduler) = state.schedulers :=
    up ▸ Function.update_eq_self process state.schedulers
  generalize served : state.serve platform process scheduler call = next
  have db : next.db
      = (Orchestrator.serve platform ⟨state.db, state.secrets, scheduler⟩ call).1.db :=
    served ▸ rfl
  have schedulers : next.schedulers
      = Function.update state.schedulers process
          (some (Orchestrator.serve platform ⟨state.db, state.secrets, scheduler⟩ call).1.scheduler) :=
    served ▸ rfl
  have effect := handle_effect platform call.env ⟨state.db, state.secrets, scheduler⟩
    call.accountId call.request
  unfold Orchestrator.serve at db schedulers
  generalize request : call.request = requested at db schedulers effect
  generalize made : (handle platform call.env ⟨state.db, state.secrets, scheduler⟩
    call.accountId requested).1 = backend at db schedulers effect
  cases effect with
  | unchanged => exact .idle (by rw [db]) (schedulers.trans same)
  | stored _ => exact .idle (by rw [db]) (schedulers.trans same)
  | created _ _ _ _ _ => exact .idle (by rw [db]; exact scheduled_congr rfl) (schedulers.trans same)
  | tested _ _ => exact .idle (by rw [db]; rfl) (schedulers.trans same)
  | @bulk agentId connectionId tables connection inserted _ _ _ =>
      rcases bulkCreatePipelines_commits platform call.env
        ⟨state.db, state.secrets, scheduler⟩ call.accountId agentId connectionId tables
        with refused | ⟨written, commits, done⟩
      · rw [← made] at db schedulers
        simp only [handle, refused] at db schedulers
        exact .idle (by rw [db]) (schedulers.trans same)
      · rw [← made] at db schedulers
        simp only [handle, done] at db schedulers
        exact .create request up (db ▸ commits) schedulers
  | deactivated _ _ =>
      exact .deactivate up (by rw [db]; exact scheduled_deactivated state.db _) schedulers

/-- Every step has one of these effects, by cases of the step. -/
theorem step_reschedules {platform : Platform} {state next : State} {event : Event}
    (stepped : step platform state event = some next)
    : Reschedules platform state next event := by
  cases step_takes stepped with
  | start _ => exact .start rfl rfl
  | stop => exact .stop rfl rfl
  | request up => exact reschedules_request platform up _
  | tick _ _ _ => exact .idle rfl rfl
  | contend _ _ _ => exact .idle rfl rfl
  | reload _ => exact .idle rfl rfl
  | build _ _ _ _ _ => exact .idle rfl rfl
  | respond _ _ _ => exact .idle rfl rfl
  | work _ => exact .idle rfl rfl
  | @act number payload action rest _ => cases action <;> exact .idle rfl rfl
  | @process number now report db _ _ updated =>
      exact .idle (scheduled_reported updated) rfl
  | lose => exact .idle rfl rfl
  | crash => exact .idle rfl rfl
  | drop => exact .idle rfl rfl

-----------------------------------------------------------------------------------------
-- Accepted schedules
-----------------------------------------------------------------------------------------

/-- Every active pipeline has a schedule that can be read. -/
def SchedulesAccepted (platform : Platform) (db : Db) : Prop :=
  ∀ pipeline ∈ db.activePipelines, pipeline.Accepted platform.fromCrontab

theorem schedulesAccepted_iff {platform : Platform} {db : Db}
    : SchedulesAccepted platform db
      ↔ ∀ pipelineId job, scheduled db pipelineId = some job →
          platform.fromCrontab job.schedule = .ok () := by
  constructor
  · intro accepted pipelineId job found
    obtain ⟨pipeline, active, _, rfl⟩ := scheduled_eq_some_iff.mp found
    exact accepted pipeline active
  · exact fun accepted pipeline active =>
      accepted pipeline.pipelineId pipeline.scheduledJob (scheduled_of_active active)

/-- A bulk request that is committed names accepted schedules only. -/
def CommitsAccepted (platform : Platform) (state : State) (event : Event) : Prop :=
  ∀ call ∈ event.call, ∀ agentId connectionId tables db,
    call.request = .bulkCreatePipelines agentId connectionId tables
    → CommitsBulk call.env state.db call.accountId agentId connectionId tables db
    → ∀ table ∈ tables, platform.fromCrontab table.schedule = .ok ()

section

variable {platform : Platform} {state next : State}

/-- The pipelines of a committed request are accepted. -/
theorem CommitsAccepted.pipelines {process : Nat} {call : Call}
    (allowed : CommitsAccepted platform state (.request process call))
    {agentId connectionId : UUID} {tables : List PipelineTableConfig} {db : Db}
    (request : call.request = .bulkCreatePipelines agentId connectionId tables)
    (commits : CommitsBulk call.env state.db call.accountId agentId connectionId tables db)
    : ∀ pipeline ∈ requestedPipelines call.env call.accountId agentId connectionId tables,
        pipeline.isActive = true ∧ pipeline.Accepted platform.fromCrontab := by
  intro pipeline member
  obtain ⟨active, table, among, same⟩ := requestedPipelines_active member
  refine ⟨active, ?_⟩
  rw [Pipeline.Accepted, same]
  exact allowed call rfl agentId connectionId tables db request commits table among

/-- Accepted schedules stay accepted, by cases of what the step does to them. -/
theorem SchedulesAccepted.step {event : Event} (accepted : SchedulesAccepted platform state.db)
    (allowed : CommitsAccepted platform state event)
    (stepped : System.step platform state event = some next)
    : SchedulesAccepted platform next.db := by
  rw [schedulesAccepted_iff] at accepted ⊢
  cases step_reschedules stepped with
  | idle stored _ => exact stored ▸ accepted
  | start stored _ => exact stored ▸ accepted
  | stop stored _ => exact stored ▸ accepted
  | create request _ commits _ =>
      have new := allowed.pipelines request commits
      obtain ⟨_, old, _⟩ := scheduled_appended commits.appended (fun p among => (new p among).1)
      intro pipelineId job found
      obtain ⟨pipeline, active, rfl, rfl⟩ := scheduled_eq_some_iff.mp found
      obtain ⟨member, isActive⟩ := mem_activePipelines.mp active
      rcases List.mem_append.mp (commits.appended ▸ member) with before | created
      · exact accepted _ _ (scheduled_of_active (mem_activePipelines.mpr ⟨before, isActive⟩))
      · exact (new pipeline created).2
  | deactivate _ stored _ =>
      intro pipelineId job found
      rw [stored, Function.update_apply] at found
      split at found
      · cases found
      · exact accepted pipelineId job found

end

theorem schedulesAccepted_initial (platform : Platform) (agents : Table Agent.agentId)
    : SchedulesAccepted platform (Db.provisioned agents) :=
  fun _ active => absurd active List.not_mem_nil

end Turbocat.System
