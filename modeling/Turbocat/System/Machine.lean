import Turbocat.Agent.Executor
import Turbocat.Library.Runs
import Turbocat.Orchestrator.ApiEffects
import Turbocat.Orchestrator.Dispatch

/-! The whole system as one state machine: orchestrator processes that share a database and
a secret store, the polls they serve, the jobs agents run and the status reports on their
way. Requests run one at a time, polls step by step; payloads, jobs and reports may be
overtaken, held up for ever or lost.
-/

namespace Turbocat.System

open Turbocat.Library Turbocat.Python Turbocat.Connectors Turbocat.Orchestrator Turbocat.Agent

/-- A payload, with the connection whose secret it holds. -/
structure BuiltPayload where
  connection : Connection
  payload : JobPayload

/-- The loop of a poll over its reloaded jobs: those still to come and the payloads made. -/
structure Build where
  remaining : List LoadedJob := []
  built : List BuiltPayload := []

/-- A job an agent runs, with the actions to come. -/
structure Task where
  payload : JobPayload
  actions : List Action

/-- Credentials a request had stored. -/
structure Submission where
  accountId : UUID
  source : String
  credentials : List (String × String)
  deriving DecidableEq, Repr

/-- A payload in a response to a poll of an agent. -/
structure Answer where
  agentId : UUID
  built : BuiltPayload

/-- What has happened, the latest first. No step reads it. -/
structure Log where
  submissions : List Submission := []
  built : List BuiltPayload := []
  answers : List Answer := []
  syncs : List (JobPayload × SyncRun) := []
  reports : List Report := []

structure State where
  db : Db
  secrets : SecretStore
  -- The scheduler of each process that is up.
  schedulers : Nat → Option Scheduler
  polls : Table Dispatch.Poll.pollId
  builds : Nat → Build
  -- Payloads that were answered and whose jobs have not been started.
  waiting : List JobPayload
  tasks : List Task
  -- Reports that were posted and have not been processed.
  network : List Report
  log : Log

/-- A new deployment, before its first process is up. -/
def State.initial (agents : Table Agent.agentId) (secrets : SecretStore) : State :=
  {
    db := Db.provisioned agents
    secrets
    schedulers := fun _ => none
    polls := .empty
    builds := fun _ => {}
    waiting := []
    tasks := []
    network := []
    log := {}
  }

/-- The part that polls, cron ticks and reports contend for. -/
def State.dispatch (state : State) : Dispatch.State := ⟨state.db.jobRuns, state.polls⟩

/-- The state after a step of that part. -/
def State.dispatched (state : State) (dispatch : Dispatch.State) : State :=
  { state with db := { state.db with jobRuns := dispatch.jobRuns }, polls := dispatch.polls }

-----------------------------------------------------------------------------------------
-- Steps
-----------------------------------------------------------------------------------------

inductive Event where
  | start (process : Nat)
  | stop (process : Nat)
  | request (process : Nat) (call : Call)
  | tick (process : Nat) (pipelineId jobId : UUID)
  | select (pollId : Nat) (agentId : UUID) (jobIds : List UUID)
  | commit (pollId : Nat)
  | reload (pollId : Nat) (jobIds : List UUID)
  -- The next turn of the loop over the reloaded jobs.
  | build (pollId : Nat) (getFault : Option String) (now : Datetime)
  | respond (pollId : Nat)
  | abort (pollId : Nat)
  -- An agent starts the waiting job with a given number.
  | work (number : Nat) (env : JobEnv)
  -- A task does its next action.
  | act (number : Nat)
  | process (number : Nat) (now : Datetime)
  | lose (number : Nat)
  | crash (number : Nat)
  | drop (number : Nat)

/-- The credentials a request has stored, when the secret store accepts them. -/
def submission (call : Call) : Option Submission :=
  match call.request with
  | .createConnection _ source credentials =>
      if call.env.putFault.isNone then some ⟨call.accountId, source, credentials⟩ else none
  | _ => none

/-- The state after a request to a process with this scheduler. -/
def State.serve (platform : Platform) (state : State) (process : Nat) (scheduler : Scheduler)
    (call : Call)
    : State :=
  let backend := (Orchestrator.serve platform ⟨state.db, state.secrets, scheduler⟩ call).1
  { state with
    db := backend.db
    secrets := backend.secrets
    schedulers := Function.update state.schedulers process (some backend.scheduler)
    log := { state.log with
      submissions := (submission call).toList ++ state.log.submissions } }

/-- The state after one more payload of a poll. -/
def State.built (state : State) (pollId : Nat) (remaining : List LoadedJob)
    (entry : BuiltPayload)
    : State :=
  { state with
    builds := Function.update state.builds pollId
      ⟨remaining, (state.builds pollId).built ++ [entry]⟩
    log := { state.log with built := entry :: state.log.built } }

/-- The state after the response of a poll for an agent. -/
def State.answered (state : State) (pollId : Nat) (agentId : UUID) : State :=
  let entries := (state.builds pollId).built
  { state with
    waiting := state.waiting ++ entries.map (fun entry => entry.payload)
    log := { state.log with
      answers := entries.map (fun entry => ⟨agentId, entry⟩) ++ state.log.answers } }

/-- The state after an action of the task with a given number, with the actions after it. -/
def State.acted (state : State) (number : Nat) (payload : JobPayload) (rest : List Action)
    : Action → State
  | .report report =>
      { state with
        tasks := ⟨payload, rest⟩ :: state.tasks.eraseIdx number
        network := report :: state.network }
  | .synced run =>
      { state with
        tasks := ⟨payload, rest⟩ :: state.tasks.eraseIdx number
        log := { state.log with syncs := (payload, run) :: state.log.syncs } }

/-- The rows of reloaded jobs, with what their relationships load. -/
def loadedJobs (db : Db) (jobIds : List UUID) : List LoadedJob :=
  jobIds.filterMap (fun jobId => (db.jobRuns.get? jobId).map db.load)

/-- One step, or nothing where the event cannot happen. -/
def step (platform : Platform) (state : State) : Event → Option State
  | .start process =>
      match state.schedulers process with
      | some _ => none
      | none =>
          -- Schedules before one that is rejected stay registered while the process ends.
          let scheduler := (loadSchedules platform.fromCrontab state.db .empty).1
          some { state with
            schedulers := Function.update state.schedulers process (some scheduler) }
  | .stop process =>
      some { state with schedulers := Function.update state.schedulers process none }
  | .request process call =>
      (state.schedulers process).map
        (fun scheduler => state.serve platform process scheduler call)
  | .tick process pipelineId jobId =>
      match (state.schedulers process).bind (fun scheduler => scheduler.get? pipelineId) with
      | none => none
      | some job =>
          (Dispatch.step state.dispatch (.enqueue jobId job.pipelineId job.agentId)).map
            state.dispatched
  | .select pollId agentId jobIds =>
      (Dispatch.step state.dispatch (.select pollId agentId jobIds)).map state.dispatched
  | .commit pollId => (Dispatch.step state.dispatch (.commit pollId)).map state.dispatched
  | .reload pollId jobIds =>
      (Dispatch.step state.dispatch (.reload pollId jobIds)).map
        (fun dispatch =>
          { state.dispatched dispatch with
            builds := Function.update state.builds pollId ⟨loadedJobs state.db jobIds, []⟩ })
  | .build pollId getFault now =>
      match state.polls.get? pollId, (state.builds pollId).remaining with
      | some ⟨_, _, _, .reloaded _⟩, loaded :: remaining =>
          let fetch := getSecret state.secrets getFault
          match buildPayload platform fetch now loaded, loaded.connection with
          | .ok payload, some connection =>
              some (state.built pollId remaining ⟨connection, payload⟩)
          | _, _ => (Dispatch.step state.dispatch (.fail pollId)).map state.dispatched
      | _, _ => none
  | .respond pollId =>
      match state.polls.get? pollId, (state.builds pollId).remaining with
      | some poll, [] =>
          (Dispatch.step state.dispatch (.respond pollId)).map
            (fun dispatch => (state.dispatched dispatch).answered pollId poll.agentId)
      | _, _ => none
  | .abort pollId => (Dispatch.step state.dispatch (.fail pollId)).map state.dispatched
  | .work number env =>
      state.waiting[number]?.map
        (fun payload =>
          { state with
            waiting := state.waiting.eraseIdx number
            tasks := ⟨payload, runJob platform.repr env payload⟩ :: state.tasks })
  | .act number =>
      match state.tasks[number]? with
      | some ⟨payload, action :: rest⟩ => some (state.acted number payload rest action)
      | _ => none
  | .process number now =>
      match state.network[number]? with
      | none => none
      | some report =>
          -- The row is written once no open transaction holds it.
          if state.dispatch.locked report.jobId then none
          else
            let network := state.network.eraseIdx number
            match updateJobStatus state.db report.jobId report.body now with
            | none => some { state with network }
            | some db =>
                some { state with
                  db
                  network
                  log := { state.log with reports := report :: state.log.reports } }
  | .lose number => some { state with waiting := state.waiting.eraseIdx number }
  | .crash number => some { state with tasks := state.tasks.eraseIdx number }
  | .drop number => some { state with network := state.network.eraseIdx number }

-----------------------------------------------------------------------------------------
-- A small deployment
-----------------------------------------------------------------------------------------

namespace Sample

instance neZeroHour : NeZero 3600 := ⟨by decide⟩

theorem time_range (seconds : Fin 3600)
    : minDay * day ≤ seconds * second ∧ seconds * second < (maxDay + 1) * day := by
  simp only [minDay, maxDay, day, second]
  omega

/-- Some seconds after the epoch. -/
def time (seconds : Fin 3600) : Datetime :=
  ⟨seconds * second, (time_range seconds).1, (time_range seconds).2⟩

/-- A request that generates one id and whose credentials pass their test. -/
def env (id : Fin (2 ^ 128)) : RequestEnv :=
  {
    uuid := fun _ => ⟨id⟩
    now := time 0
    createdAt := time 0
    configure := fun _ _ => .ok ()
    testConnection := fun _ _ => .ok ()
  }

/-- A job whose source has one page without items. -/
def jobEnv : JobEnv :=
  {
    configure := fun _ _ => .ok {}
    destination := .ok ()
    host := Host.utc
    now := time 0
    clock := fun _ => time 0
    replies := [.ok (.dict [])]
    load := fun _ _ => .ok none
  }

/-- Agent 1, of account 2. -/
def agents : Table Agent.agentId := ⟨[⟨⟨1⟩, ⟨2⟩⟩], List.nodup_singleton _⟩

def secrets : SecretStore := fun _ => none

/-- An account saves a connection to Razorpay. -/
def save (accountId connectionId : Fin (2 ^ 128)) (apiKey : String) : Event :=
  .request 0 ⟨⟨accountId⟩, env connectionId,
    .createConnection "shop" "razorpay" [("api_key", apiKey)]⟩

/-- An account creates a pipeline for orders on its connection, run by the agent. -/
def create (accountId connectionId pipelineId : Fin (2 ^ 128)) : Event :=
  .request 0 ⟨⟨accountId⟩, env pipelineId,
    .bulkCreatePipelines ⟨1⟩ ⟨connectionId⟩
      [⟨"razorpay_orders", "orders", "0 * * * *", []⟩]⟩

/-- A poll by the agent that claims one job and is answered. -/
def poll (pollId : Nat) (jobId : Fin (2 ^ 128)) (now : Datetime) : List Event :=
  [.select pollId ⟨1⟩ [⟨jobId⟩], .commit pollId, .reload pollId [⟨jobId⟩],
    .build pollId none now, .respond pollId]

/-- A first sync, with its payload built ten seconds after the epoch. Its last report is
processed first.
-/
def firstSync : List Event :=
  [.start 0, save 2 11 "key", create 2 11 21, .tick 0 ⟨21⟩ ⟨31⟩] ++ poll 1 31 (time 10)
  ++ [.work 0 jobEnv, .act 0, .act 0, .act 0, .process 0 (time 12)]

end Sample

end Turbocat.System
