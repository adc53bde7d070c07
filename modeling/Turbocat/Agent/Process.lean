import Mathlib.Data.Finset.Card
import Turbocat.Agent.Executor
import Turbocat.Library.Runs

/-! The agent's process: the poll loop and the thread that asks for jobs, the tasks that run
them under a semaphore and a thread pool, and the shutdown. A step is what the event loop
does between two awaits, or what happens in a thread.
-/

namespace Turbocat.Agent.Process

open Turbocat.Orchestrator

inductive PollLoop where
  -- About to take a turn, or asleep before it.
  | ready
  -- In the await of `get_pending_jobs`.
  | awaiting
  | cancelled
  deriving DecidableEq, Repr

/-- The thread of a request. It runs on when the loop that awaits it is cancelled. -/
inductive RequestThread where
  | idle
  | asking
  -- The call has returned some jobs or, without them, has raised.
  | ended (jobs : Option (List JobPayload))
  deriving Repr

inductive TaskPhase where
  -- Without a permit of the semaphore.
  | waiting
  -- In the queue of the thread pool.
  | queued
  | executing
  -- `run_job` has returned, its coroutine has not been resumed.
  | returned
  | done
  deriving DecidableEq, Repr

structure Task where
  job : JobPayload
  phase : TaskPhase
  deriving Repr

/-- How far `_run` of the entry point has come. -/
inductive Main where
  -- In `stop.wait()`.
  | waiting
  | stopping
  -- It has cancelled the loops.
  | cancelling
  -- In `drain`, which waits for these tasks.
  | draining (tasks : Finset Nat)
  | drained
  | exited

/-- A task is known by the number of tasks created before it. -/
structure State where
  loop : PollLoop
  thread : RequestThread
  -- The semaphore.
  permits : Nat
  tasks : List Task
  activeTasks : Finset Nat
  main : Main
  -- What has happened; no step reads it. The jobs of responses that reached the poll loop, the
  -- calls of `run_job` and those that returned, and the reports that were attempted.
  received : List JobPayload
  called : List JobPayload
  returned : List JobPayload
  attempted : List Report

/-- An agent that has just started. -/
def State.initial (maxWorkers : Nat) : State :=
  {
    loop := .ready
    thread := .idle
    permits := maxWorkers
    tasks := []
    activeTasks := ∅
    main := .waiting
    received := []
    called := []
    returned := []
    attempted := []
  }

inductive Event where
  | turn
  | requestEnds (jobs : Option (List JobPayload))
  -- The poll loop goes on after its request.
  | resume
  | acquire (number : Nat)
  -- A thread takes the job of a task from the queue.
  | call (number : Nat)
  -- `run_job` returns, after all it met.
  | returns (number : Nat) (env : JobEnv)
  -- The coroutine of a task is resumed and ends.
  | finish (number : Nat)
  -- The callback of a task that is done.
  | discard (number : Nat)
  | signal
  | cancel
  | drain
  | drainReturns
  | exit

/-- `available`. -/
def State.available (maxWorkers : Nat) (state : State) : Int :=
  maxWorkers - state.activeTasks.card

/-- Whether a request is in its thread. -/
def State.isAsking (state : State) : Bool :=
  match state.thread with
  | .asking => true
  | _ => false

/-- `_spawn`. -/
def State.spawn (state : State) (job : JobPayload) : State :=
  { state with
    tasks := state.tasks ++ [⟨job, .waiting⟩]
    activeTasks := insert state.tasks.length state.activeTasks }

/-- The state with a task in another phase. -/
def State.moved (state : State) (number : Nat) (task : Task) (phase : TaskPhase) : State :=
  { state with tasks := state.tasks.set number { task with phase } }

/-- The number of `run_job` calls under way. -/
def State.executing (state : State) : Nat :=
  state.tasks.countP (fun task => decide (task.phase = .executing))

/-- Whether a task has ended. -/
def State.isDone (state : State) (number : Nat) : Bool :=
  state.tasks[number]?.any (fun task => decide (task.phase = .done))

/-- A step of a task that is in a given phase. -/
def State.inPhase (state : State) (number : Nat) (phase : TaskPhase) (go : Task → Option State)
    : Option State :=
  state.tasks[number]?.bind (fun task => if task.phase = phase then go task else none)

/-- One step, or nothing where the event cannot happen. Which of the waiting tasks gets a
permit is left open.
-/
def step (repr : String → String) (maxWorkers : Nat) (state : State) : Event → Option State
  | .turn =>
      match state.loop with
      | .ready =>
          if 0 < state.available maxWorkers then
            some { state with loop := .awaiting, thread := .asking }
          else some state
      | _ => none
  | .requestEnds jobs =>
      match state.thread with
      | .asking => some { state with thread := .ended jobs }
      | _ => none
  | .resume =>
      match state.loop, state.thread with
      | .awaiting, .ended jobs =>
          let jobs := jobs.getD []
          some (jobs.foldl State.spawn { state with
            loop := .ready
            thread := .idle
            received := state.received ++ jobs })
      | _, _ => none
  | .acquire number =>
      state.inPhase number .waiting (fun task =>
        match state.permits with
        | 0 => none
        | permits + 1 => some { state.moved number task .queued with permits })
  -- The thread pool has `max_workers` threads.
  | .call number =>
      state.inPhase number .queued (fun task =>
        if state.executing < maxWorkers then
          some { state.moved number task .executing with called := task.job :: state.called }
        else none)
  | .returns number env =>
      state.inPhase number .executing (fun task =>
        if returns repr env task.job then
          some { state.moved number task .returned with
            returned := task.job :: state.returned
            attempted := reportsOf (runJob repr env task.job) ++ state.attempted }
        else none)
  | .finish number =>
      state.inPhase number .returned (fun task =>
        some { state.moved number task .done with permits := state.permits + 1 })
  | .discard number =>
      state.inPhase number .done (fun _ =>
        some { state with activeTasks := state.activeTasks.erase number })
  | .signal =>
      match state.main with
      | .waiting => some { state with main := .stopping }
      | _ => some state
  | .cancel =>
      match state.main with
      | .stopping => some { state with main := .cancelling, loop := .cancelled }
      | _ => none
  | .drain =>
      match state.main with
      | .cancelling =>
          if state.activeTasks = ∅ then some { state with main := .drained }
          else some { state with main := .draining state.activeTasks }
      | _ => none
  | .drainReturns =>
      match state.main with
      | .draining tasks =>
          if ∀ number ∈ tasks, state.isDone number = true then
            some { state with main := .drained }
          else none
      | _ => none
  -- The event loop still waits for the request's thread.
  | .exit =>
      match state.main, state.thread with
      | .drained, .asking => none
      | .drained, _ => some { state with main := .exited }
      | _, _ => none

end Turbocat.Agent.Process
