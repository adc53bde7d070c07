import Turbocat.System.Schedules

/-! In a deployment of one orchestrator process the scheduler and the database agree after
every step: there is one cron job for each active pipeline and no other.
-/

namespace Turbocat.System

open Turbocat.Library Turbocat.Python Turbocat.Connectors Turbocat.Orchestrator Turbocat.Agent

/-- The orchestrator process a step happens in. -/
def Event.server : Event → Option Nat
  | .start server => some server
  | .stop server => some server
  | .request server _ => some server
  | .tick server _ _ => some server
  | _ => none

/-- A scheduler holds the jobs the database asks for, and no other. -/
def AgreesWith (db : Db) (scheduler : Scheduler) : Prop :=
  ∀ pipelineId, scheduler.get? pipelineId = scheduled db pipelineId

/-- The jobs of a scheduler that agrees are those of the active pipelines, each once. -/
theorem AgreesWith.perm {db : Db} {scheduler : Scheduler} (agrees : AgreesWith db scheduler)
    : scheduler.rows.Perm (db.activePipelines.map Pipeline.scheduledJob) := by
  have keys : (db.activePipelines.map Pipeline.scheduledJob).map ScheduledJob.pipelineId
      = db.activePipelines.map Pipeline.pipelineId :=
    List.map_map
  have distinct : (db.activePipelines.map Pipeline.scheduledJob).Nodup := by
    apply List.Nodup.of_map ScheduledJob.pipelineId
    rw [keys]
    exact activePipelines_distinct db
  refine (List.perm_ext_iff_of_nodup scheduler.unique.of_map distinct).mpr fun job => ?_
  have listed : job ∈ scheduler.rows ↔ scheduled db job.pipelineId = some job := by
    rw [← agrees]
    exact ⟨Table.get?_of_mem, Table.mem_of_get?⟩
  rw [listed, scheduled_eq_some_iff, List.mem_map]
  constructor
  · intro found
    obtain ⟨pipeline, active, _, same⟩ := found
    exact ⟨pipeline, active, same⟩
  · intro found
    obtain ⟨pipeline, active, rfl⟩ := found
    exact ⟨pipeline, active, rfl, rfl⟩

/-- Loading the schedules into an empty scheduler makes it agree. -/
theorem agrees_loadSchedules {platform : Platform} {db : Db}
    (accepted : SchedulesAccepted platform db)
    : AgreesWith db (loadSchedules platform.fromCrontab db .empty).1 := by
  intro pipelineId
  rw [loadSchedules_empty]
  by_cases active : pipelineId ∈ db.activePipelines.map Pipeline.pipelineId
  · obtain ⟨pipeline, member, rfl⟩ := List.mem_map.mp active
    rw [get?_registerEach_of_mem (activePipelines_distinct db) accepted member,
      scheduled_of_active member]
  · rw [get?_registerEach_of_not_mem active, scheduled_eq_none active]
    rfl

/-- Registering the pipelines of a committed request keeps the agreement. -/
theorem AgreesWith.create {fromCrontab : FromCrontab} {db next : Db} {scheduler : Scheduler}
    {pipelines : List Pipeline} (agrees : AgreesWith db scheduler)
    (appended : next.pipelines.rows = db.pipelines.rows ++ pipelines)
    (new
      : ∀ pipeline ∈ pipelines,
          pipeline.isActive = true ∧ pipeline.Accepted fromCrontab)
    : AgreesWith next (registerEach fromCrontab scheduler pipelines).1 := by
  obtain ⟨created, old, distinct⟩ := scheduled_appended appended (fun p among => (new p among).1)
  intro pipelineId
  by_cases among : pipelineId ∈ pipelines.map Pipeline.pipelineId
  · obtain ⟨pipeline, member, rfl⟩ := List.mem_map.mp among
    rw [get?_registerEach_of_mem distinct (fun p among => (new p among).2) member,
      created pipeline member]
  · rw [get?_registerEach_of_not_mem among, old pipelineId among, agrees pipelineId]

/-- Taking one pipeline off both keeps the agreement. -/
theorem AgreesWith.deactivate {db next : Db} {scheduler : Scheduler} {pipelineId : UUID}
    (agrees : AgreesWith db scheduler)
    (stored : scheduled next = Function.update (scheduled db) pipelineId none)
    : AgreesWith next (deregisterPipeline scheduler pipelineId) := by
  intro other
  rw [deregisterPipeline, Table.get?_erase, stored, Function.update_apply, agrees other]

-----------------------------------------------------------------------------------------
-- Runs
-----------------------------------------------------------------------------------------

/-- The one process agrees with the database whenever it is up. -/
structure Agreement (platform : Platform) (process : Nat) (state : State) : Prop where
  accepted : SchedulesAccepted platform state.db
  agrees : ∀ scheduler, state.schedulers process = some scheduler → AgreesWith state.db scheduler

/-- Every step in the one process keeps the agreement, by cases of what it reschedules. -/
theorem Agreement.step {platform : Platform} {process : Nat} {state next : State}
    {event : Event} (holds : Agreement platform process state)
    (allowed : CommitsAccepted platform state event)
    (single : ∀ other ∈ event.server, other = process)
    (stepped : System.step platform state event = some next)
    : Agreement platform process next := by
  refine ⟨holds.accepted.step allowed stepped, ?_⟩
  intro scheduler up
  cases step_reschedules stepped with
  | idle stored schedulers =>
      intro pipelineId
      rw [stored]
      exact holds.agrees scheduler (schedulers ▸ up) pipelineId
  | start stored schedulers =>
      obtain rfl := single _ rfl
      rw [schedulers, Function.update_self] at up
      cases up
      rw [stored]
      exact agrees_loadSchedules holds.accepted
  | stop stored schedulers =>
      obtain rfl := single _ rfl
      rw [schedulers, Function.update_self] at up
      cases up
  | create request before commits schedulers =>
      obtain rfl := single _ rfl
      rw [schedulers, Function.update_self] at up
      cases up
      exact (holds.agrees _ before).create commits.appended (allowed.pipelines request commits)
  | deactivate before stored schedulers =>
      obtain rfl := single _ rfl
      rw [schedulers, Function.update_self] at up
      cases up
      exact (holds.agrees _ before).deactivate stored

/-- After every run of a deployment with one orchestrator process whose committed bulk
requests name accepted schedules, the process's cron jobs are exactly one for each active
pipeline, with its id, agent and schedule.
-/
theorem scheduler_agrees {platform : Platform} {agents : Table Agent.agentId}
    {secrets : SecretStore} {events : List Event} {last : State} {process : Nat}
    {scheduler : Scheduler}
    (ran : run (step platform) (State.initial agents secrets) events = some last)
    (single : ∀ event ∈ events, ∀ other ∈ event.server, other = process)
    (accepted
      : Along (step platform) (CommitsAccepted platform) (State.initial agents secrets) events)
    (up : last.schedulers process = some scheduler)
    : scheduler.rows.Perm (last.db.activePipelines.map Pipeline.scheduledJob) := by
  have start : Agreement platform process (State.initial agents secrets) :=
    ⟨schedulesAccepted_initial platform agents, fun _ up => absurd up (by simp [State.initial])⟩
  have holds : Agreement platform process last :=
    Along.invariant (fun held allowed stepped => held.step allowed.1 allowed.2 stepped) start
      (accepted.and_of_forall single) ran
  exact (holds.agrees scheduler up).perm

/-- A pipeline is created and the process restarts. -/
theorem scheduler_agrees_restart
    : ∃ last scheduler,
        run (step Platform.written) (State.initial Sample.agents Sample.secrets)
            [.start 0, Sample.save 2 11 "key", Sample.create 2 11 21, .stop 0, .start 0]
          = some last
        ∧ last.schedulers 0 = some scheduler
        ∧ scheduler.rows = [⟨⟨21⟩, ⟨1⟩, "0 * * * *"⟩]
        ∧ scheduler.rows.Perm (last.db.activePipelines.map Pipeline.scheduledJob) :=
  ⟨_, _, rfl, rfl, rfl, @scheduler_agrees Platform.written Sample.agents Sample.secrets
    [.start 0, Sample.save 2 11 "key", Sample.create 2 11 21, .stop 0, .start 0] _ 0 _ rfl
    (by decide)
    (along_of_forall (fun _ _ _ _ _ _ _ _ _ _ _ _ => rfl) _ _) rfl⟩

end Turbocat.System
