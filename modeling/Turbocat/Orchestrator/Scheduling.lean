import Turbocat.Library.Runs
import Turbocat.Orchestrator.Registration

/-! Orchestrator processes over one database, each with its own scheduler, step by step:
creating pipelines, deactivating one, starting a process and cron ticks are interrupted
between their commits and what they do to a scheduler.
-/

namespace Turbocat.Orchestrator.Scheduling

open Turbocat.Library Turbocat.Python

/-- What an operation has still to do. -/
inductive Work where
  -- Created pipelines to refresh and register.
  | registering (pipelines : List Pipeline)
  | deregistering (pipelineId : UUID)
  -- The active pipelines a process has selected at its start.
  | loading (pipelines : List Pipeline)
  -- A job that has fired.
  | enqueueing (job : ScheduledJob)
  deriving Repr

structure Operation where
  process : Nat
  work : Work
  deriving Repr

/-- What others see of an operation: a deactivation returned, or a job run was inserted. -/
inductive Happening where
  | deactivated (pipelineId : UUID)
  | inserted (pipelineId : UUID)
  deriving DecidableEq, Repr

structure State where
  db : Db
  -- The scheduler of each process that is up.
  schedulers : Nat → Option Scheduler
  operations : List Operation
  -- What has happened, the latest first. No step reads it.
  log : List Happening

/-- A database before any of its processes is up. -/
def State.initial (db : Db) : State := ⟨db, fun _ => none, [], []⟩

inductive Event where
  | start (process : Nat)
  | stop (process : Nat)
  | bulk (process : Nat) (env : RequestEnv) (accountId agentId connectionId : UUID)
      (tables : List PipelineTableConfig)
  | deactivate (process : Nat) (env : RequestEnv) (accountId pipelineId : UUID)
  | tick (process : Nat) (pipelineId : UUID)
  -- The operation with a given number does its next step; an inserted row takes this id.
  | advance (number : Nat) (jobId : UUID)

/-- The state with one more operation under way. -/
def State.opened (state : State) (process : Nat) (work : Work) : State :=
  { state with operations := ⟨process, work⟩ :: state.operations }

/-- The state with another scheduler in a process. -/
def State.rescheduled (state : State) (process : Nat) (scheduler : Scheduler) : State :=
  { state with schedulers := Function.update state.schedulers process (some scheduler) }

/-- `register_pipeline` in a process that has more to register; an exception ends the
operation.
-/
def State.registered (fromCrontab : FromCrontab) (state : State) (process : Nat)
    (scheduler : Scheduler) (pipeline : Pipeline) (rest : Work)
    : State :=
  match registerPipeline fromCrontab scheduler pipeline with
  | .error _ => state
  | .ok scheduler => (state.rescheduled process scheduler).opened process rest

/-- The next step of an operation that has been taken from the list. -/
def State.advanced (fromCrontab : FromCrontab) (state : State) (process : Nat)
    (scheduler : Scheduler) (jobId : UUID)
    : Work → Option State
  | .registering [] => some state
  | .registering (pipeline :: rest) =>
      match state.db.pipelines.get? pipeline.pipelineId with
      | none => some state
      | some refreshed =>
          some (state.registered fromCrontab process scheduler refreshed (.registering rest))
  | .deregistering pipelineId =>
      some { state.rescheduled process (deregisterPipeline scheduler pipelineId) with
        log := .deactivated pipelineId :: state.log }
  | .loading [] => some state
  | .loading (pipeline :: rest) =>
      if (scheduler.get? pipeline.pipelineId).isSome then
        some (state.opened process (.loading rest))
      else some (state.registered fromCrontab process scheduler pipeline (.loading rest))
  | .enqueueing job =>
      (enqueueJob state.db.jobRuns jobId job.pipelineId job.agentId).map
        (fun jobRuns =>
          { state with
            db := { state.db with jobRuns }
            log := .inserted job.pipelineId :: state.log })

theorem Pipeline.deactivated_pipelineId (pipeline : Pipeline)
    : pipeline.deactivated.pipelineId = pipeline.pipelineId :=
  rfl

/-- One step, or nothing where the event cannot happen. A process that stops takes its
operations with it.
-/
def step (fromCrontab : FromCrontab) (state : State) : Event → Option State
  | .start process =>
      match state.schedulers process with
      | some _ => none
      | none =>
          some ((state.rescheduled process .empty).opened process
            (.loading state.db.activePipelines))
  | .stop process =>
      some { state with
        schedulers := Function.update state.schedulers process none
        operations := state.operations.filter
          (fun operation => decide (operation.process ≠ process)) }
  | .bulk process env accountId agentId connectionId tables =>
      match state.schedulers process with
      | none => none
      | some _ =>
          match ownRow Connection.accountId "Connection not found" accountId
              (state.db.connections.get? connectionId) with
          | .error _ => some state
          | .ok _ =>
              let pipelines := requestedPipelines env accountId agentId connectionId tables
              match insertPipelines state.db pipelines >>= env.commit with
              | .error _ => some state
              | .ok db => some ({ state with db }.opened process (.registering pipelines))
  | .deactivate process env accountId pipelineId =>
      match state.schedulers process with
      | none => none
      | some _ =>
          match ownRow Pipeline.accountId "Pipeline not found" accountId
              (state.db.pipelines.get? pipelineId) with
          | .error _ => some state
          | .ok _ =>
              let pipelines := state.db.pipelines.modify pipelineId
                Pipeline.deactivated Pipeline.deactivated_pipelineId
              match env.commit { state.db with pipelines } with
              | .error _ => some state
              | .ok db => some ({ state with db }.opened process (.deregistering pipelineId))
  | .tick process pipelineId =>
      match (state.schedulers process).bind (fun scheduler => scheduler.get? pipelineId) with
      | none => none
      | some job => some (state.opened process (.enqueueing job))
  | .advance number jobId =>
      match state.operations[number]? with
      | none => none
      | some operation =>
          match state.schedulers operation.process with
          | none => none
          | some scheduler =>
              { state with operations := state.operations.eraseIdx number }.advanced
                fromCrontab operation.process scheduler jobId operation.work

-----------------------------------------------------------------------------------------
-- Operations that nothing interrupts
-----------------------------------------------------------------------------------------

/-- The state after an operation of a process that did nothing but schedule. -/
def State.finished (state : State) (process : Nat) (backend : Backend) : State :=
  { state.rescheduled process backend.scheduler with db := backend.db }

section

variable {fromCrontab : FromCrontab} {state : State} {process : Nat} {scheduler : Scheduler}

theorem rescheduled_same (up : state.schedulers process = some scheduler)
    : state.rescheduled process scheduler = state := by
  have same := Function.update_eq_self process state.schedulers
  rw [up] at same
  rw [State.rescheduled, same]

theorem rescheduled_up : (state.rescheduled process scheduler).schedulers process
    = some scheduler :=
  Function.update_self _ _ _

theorem rescheduled_twice (later : Scheduler)
    : (state.rescheduled process scheduler).rescheduled process later
      = state.rescheduled process later := by
  simp only [State.rescheduled, Function.update_idem]

/-- The next step of the operation that was opened last. -/
theorem step_opened (up : state.schedulers process = some scheduler) (work : Work)
    (jobId : UUID)
    : step fromCrontab (state.opened process work) (.advance 0 jobId)
      = state.advanced fromCrontab process scheduler jobId work := by
  simp only [step, State.opened, List.getElem?_cons_zero, up, List.eraseIdx_cons_zero]

/-- An operation that registers one pipeline, if it can, and then does what a loop does to
the rest.
-/
theorem registered_then {pipeline : Pipeline} {work rest : Work} {jobId : UUID}
    {loop : Scheduler → Scheduler} {outcome : Scheduler}
    (up : state.schedulers process = some scheduler)
    (next
      : step fromCrontab (state.opened process work) (.advance 0 jobId)
        = some (state.registered fromCrontab process scheduler pipeline rest))
    (raised
      : ∀ exception,
          registerPipeline fromCrontab scheduler pipeline = .error exception
          → outcome = scheduler)
    (moves
      : ∀ moved,
          registerPipeline fromCrontab scheduler pipeline = .ok moved → outcome = loop moved)
    (later
      : ∀ moved, ∃ count,
          run (step fromCrontab) ((state.rescheduled process moved).opened process rest)
              (List.replicate count (.advance 0 jobId))
            = some ((state.rescheduled process moved).rescheduled process (loop moved)))
    : ∃ count,
        run (step fromCrontab) (state.opened process work)
            (List.replicate count (.advance 0 jobId))
          = some (state.rescheduled process outcome) := by
  cases registered : registerPipeline fromCrontab scheduler pipeline with
  | error exception =>
      simp only [State.registered, registered] at next
      refine ⟨1, run_cons_iff.mpr ⟨_, next, ?_⟩⟩
      rw [raised exception registered, rescheduled_same up]
      rfl
  | ok moved =>
      simp only [State.registered, registered] at next
      obtain ⟨count, ran⟩ := later moved
      refine ⟨count + 1, ?_⟩
      rw [List.replicate_succ, run_cons_iff]
      refine ⟨_, next, ?_⟩
      rw [ran, moves moved registered, rescheduled_twice]

/-- Registering created pipelines, when nothing else runs, is the loop of the endpoint. -/
theorem registering_alone (jobId : UUID) {pipelines : List Pipeline}
    (stored
      : ∀ pipeline ∈ pipelines,
          state.db.pipelines.get? pipeline.pipelineId = some pipeline)
    (up : state.schedulers process = some scheduler)
    : ∃ count,
        run (step fromCrontab) (state.opened process (.registering pipelines))
            (List.replicate count (.advance 0 jobId))
          = some (state.rescheduled process
              (registerEach fromCrontab scheduler pipelines).1) := by
  induction pipelines generalizing state scheduler with
  | nil =>
      refine ⟨1, run_cons_iff.mpr ⟨state, step_opened up _ jobId, ?_⟩⟩
      rw [registerEach, rescheduled_same up]
      rfl
  | cons pipeline rest ih =>
      obtain ⟨found, later⟩ := List.forall_mem_cons.mp stored
      have next : step fromCrontab (state.opened process (.registering (pipeline :: rest)))
          (.advance 0 jobId)
          = some (state.registered fromCrontab process scheduler pipeline
              (.registering rest)) := by
        rw [step_opened up, State.advanced, found]
      apply registered_then up next
      · intro exception raised
        rw [registerEach, raised]
      · intro moved registered
        rw [registerEach, registered]
      · exact fun moved => @ih (state.rescheduled process moved) moved later rescheduled_up

/-- Loading the selected pipelines, when nothing else runs, is the loop of
`load_schedules`.
-/
theorem loading_alone (jobId : UUID) {pipelines : List Pipeline}
    (up : state.schedulers process = some scheduler)
    : ∃ count,
        run (step fromCrontab) (state.opened process (.loading pipelines))
            (List.replicate count (.advance 0 jobId))
          = some (state.rescheduled process
              (registerAll fromCrontab scheduler pipelines).1) := by
  induction pipelines generalizing state scheduler with
  | nil =>
      refine ⟨1, run_cons_iff.mpr ⟨state, step_opened up _ jobId, ?_⟩⟩
      rw [registerAll, rescheduled_same up]
      rfl
  | cons pipeline rest ih =>
      have next := @step_opened fromCrontab state process scheduler up
        (.loading (pipeline :: rest)) jobId
      simp only [State.advanced] at next
      unfold registerAll
      split at next
      · next present =>
          obtain ⟨count, ran⟩ := ih up
          refine ⟨count + 1, ?_⟩
          rw [List.replicate_succ, run_cons_iff]
          exact ⟨_, next, by rw [ran, if_pos present]⟩
      · next absent =>
          rw [if_neg absent]
          apply registered_then up next
          · intro exception raised
            rw [raised]
          · intro moved registered
            rw [registered]
          · exact fun moved => @ih (state.rescheduled process moved) moved rescheduled_up

/-- A process that starts, when nothing else runs, does what `load_schedules` does. -/
theorem start_alone (fromCrontab : FromCrontab) (jobId : UUID)
    (down : state.schedulers process = none)
    : ∃ count,
        run (step fromCrontab) state
            (.start process :: List.replicate count (.advance 0 jobId))
          = some (state.rescheduled process
              (loadSchedules fromCrontab state.db .empty).1) := by
  obtain ⟨count, ran⟩ := @loading_alone fromCrontab (state.rescheduled process .empty) process
    .empty jobId state.db.activePipelines rescheduled_up
  refine ⟨count, run_cons_iff.mpr ⟨_, ?_, ran.trans ?_⟩⟩
  · simp only [step, down]
  · rw [rescheduled_twice]
    rfl

/-- A bulk request, when nothing else runs, does what its endpoint does. -/
theorem bulk_alone (platform : Platform) (secrets : SecretStore) (env : RequestEnv)
    (accountId agentId connectionId jobId : UUID) (tables : List PipelineTableConfig)
    (up : state.schedulers process = some scheduler)
    : ∃ count,
        run (step platform.fromCrontab) state
            (.bulk process env accountId agentId connectionId tables
              :: List.replicate count (.advance 0 jobId))
          = some (state.finished process
              (bulkCreatePipelines platform env ⟨state.db, secrets, scheduler⟩ accountId
                agentId connectionId tables).1) := by
  have refused : state.finished process ⟨state.db, secrets, scheduler⟩ = state := by
    rw [State.finished, rescheduled_same up]
  simp only [run_cons_iff, step, up, bulkCreatePipelines]
  cases ownRow Connection.accountId "Connection not found" accountId
      (state.db.connections.get? connectionId) with
  | error response => exact ⟨0, state, rfl, congrArg some refused.symm⟩
  | ok connection =>
      cases written : insertPipelines state.db
          (requestedPipelines env accountId agentId connectionId tables) >>= env.commit with
      | error exception => exact ⟨0, state, rfl, congrArg some refused.symm⟩
      | ok db =>
          obtain ⟨middle, inserted, committed⟩ := bind_eq_ok_iff.mp written
          cases commit_ok committed
          have appended := (insertPipelines_ok inserted).2.2.2.1
          obtain ⟨count, ran⟩ := @registering_alone platform.fromCrontab { state with db }
            process scheduler jobId
            (requestedPipelines env accountId agentId connectionId tables)
            (fun pipeline member =>
              Table.get?_of_mem (appended ▸ List.mem_append_right _ member)) up
          refine ⟨count, _, rfl, ran.trans ?_⟩
          dsimp only
          split
          · next registered =>
              rw [registered]
              rfl
          · next registered =>
              rw [registered]
              rfl

/-- A deactivation that succeeds, when nothing else runs, does what its endpoint does. -/
theorem deactivate_alone (fromCrontab : FromCrontab) (secrets : SecretStore)
    (env : RequestEnv) (accountId pipelineId jobId : UUID) {body : ResponseBody}
    (up : state.schedulers process = some scheduler)
    (returned
      : (deactivatePipeline env ⟨state.db, secrets, scheduler⟩ accountId pipelineId).2
        = .ok body)
    : run (step fromCrontab) state
          [.deactivate process env accountId pipelineId, .advance 0 jobId]
        = some { state.finished process
              (deactivatePipeline env ⟨state.db, secrets, scheduler⟩ accountId pipelineId).1 with
            log := .deactivated pipelineId :: state.log } := by
  simp only [deactivatePipeline] at returned ⊢
  simp only [run_cons_iff, step, up]
  cases own : ownRow Pipeline.accountId "Pipeline not found" accountId
      (state.db.pipelines.get? pipelineId) with
  | error response =>
      rw [own] at returned
      exact absurd returned (ownRow_error own body)
  | ok pipeline =>
      rw [own] at returned
      dsimp only at returned ⊢
      cases written : env.commit { state.db with
          pipelines := state.db.pipelines.modify pipelineId Pipeline.deactivated
            (fun _ => rfl) } with
      | error exception =>
          rw [written] at returned
          cases returned
      | ok db =>
          exact ⟨_, rfl, _, @step_opened fromCrontab { state with db } process scheduler up
            (.deregistering pipelineId) jobId, rfl⟩

end

end Turbocat.Orchestrator.Scheduling
