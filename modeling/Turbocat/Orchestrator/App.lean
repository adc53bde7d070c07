import Turbocat.Orchestrator.ApiEffects
import Turbocat.Orchestrator.Auth

/-! The deployed app: requests reach it over HTTP with whatever token and key they carry,
cron jobs fire in between and its process is restarted. Routers guard their endpoints.
-/

namespace Turbocat.Orchestrator

open Turbocat.Library Turbocat.Python

/-- The app with its database and secret store. -/
structure App where
  db : Db
  secrets : SecretStore
  -- Nothing while no process is up.
  scheduler : Option Scheduler
  lastSeenAt : UUID → Option Datetime

/-- A new deployment whose process is up. -/
def App.deployed (agents : Table Agent.agentId) (secrets : SecretStore) : App :=
  ⟨Db.provisioned agents, secrets, some .empty, fun _ => none⟩

/-- What the app takes from its settings and its libraries. -/
structure Service where
  platform : Platform
  settings : Settings
  tokens : TokenReader

inductive AgentRequest where
  | getPendingJobs (agentId : UUID)
  | updateJobStatus (jobId : UUID) (body : StatusUpdate)
  | heartbeat (agentId : UUID)

inductive Endpoint where
  -- The routers `/connections` and `/pipelines`.
  | api (request : ApiRequest)
  -- The routers `/jobs` and `/agents`.
  | agent (request : AgentRequest)
  | health

/-- What a request of an agent meets: the clock, the rows other transactions hold, failures
of its commit and of a reload, and for each job a clock reading and the service's error.
-/
structure AgentEnv where
  now : Datetime
  locked : UUID → Bool := fun _ => false
  commitFault : Option PyException := none
  reloadFault : Option PyException := none
  clock : Nat → Datetime
  getFault : Nat → Option String := fun _ => none

structure HttpRequest where
  credentials : Option String := none
  agentKey : Option String := none
  endpoint : Endpoint
  receivedAt : Datetime
  env : RequestEnv
  agentEnv : AgentEnv

/-- What an app is run by. -/
inductive Arrival where
  | http (request : HttpRequest)
  | tick (pipelineId jobId : UUID)
  | restart

inductive AppResponse where
  | answer (response : Response)
  | jobs (payloads : List JobPayload)
  -- `{"status": "ok"}`
  | acknowledged
  -- No process is up, or nobody is answered.
  | nothing

/-- What a poll meets, with the secrets as they are. -/
def AgentEnv.poll (env : AgentEnv) (secrets : SecretStore) : PollEnv :=
  {
    locked := env.locked
    commitFault := env.commitFault
    reloadFault := env.reloadFault
    clock := env.clock
    fetch := fun number => getSecret secrets (env.getFault number)
  }

/-- `DataError` for a report that the job's columns do not take. -/
def StatusUpdate.dataError (body : StatusUpdate) : PyException :=
  if 20 < body.status.length then tooLong 20 else ⟨.dataError, "integer out of range"⟩

-----------------------------------------------------------------------------------------
-- Endpoints of agents
-----------------------------------------------------------------------------------------

section

variable (platform : Platform) (env : AgentEnv) (app : App)

def App.getPendingJobs (agentId : UUID) : App × AppResponse :=
  match Orchestrator.getPendingJobs platform (env.poll app.secrets) app.db agentId with
  | (db, .ok payloads) => ({ app with db }, .jobs payloads)
  | (db, .error exception) => ({ app with db }, .answer (.serverError exception))

def App.updateJobStatus (jobId : UUID) (body : StatusUpdate) : App × AppResponse :=
  match app.db.jobRuns.get? jobId with
  | none => (app, .answer (.httpError 404 "Job not found"))
  | some _ =>
      match Orchestrator.updateJobStatus app.db jobId body env.now, env.commitFault with
      | none, _ => (app, .answer (.serverError body.dataError))
      | some _, some exception => (app, .answer (.serverError exception))
      | some db, none => ({ app with db }, .acknowledged)

def App.heartbeat (agentId : UUID) : App × AppResponse :=
  match app.db.agents.get? agentId with
  | none => (app, .answer (.httpError 404 "Agent not found"))
  | some _ =>
      match env.commitFault with
      | some exception => (app, .answer (.serverError exception))
      | none =>
          ({ app with
              lastSeenAt := Function.update app.lastSeenAt agentId (some env.now) },
            .acknowledged)

def App.handleAgent : AgentRequest → App × AppResponse
  | .getPendingJobs agentId => app.getPendingJobs platform env agentId
  | .updateJobStatus jobId body => app.updateJobStatus env jobId body
  | .heartbeat agentId => app.heartbeat env agentId

end

-----------------------------------------------------------------------------------------
-- Routing
-----------------------------------------------------------------------------------------

/-- The backend its process serves API clients from. -/
def App.backend (app : App) (scheduler : Scheduler) : Backend := ⟨app.db, app.secrets, scheduler⟩

/-- The app after its process served an API client. -/
def App.served (app : App) (backend : Backend) : App :=
  { app with db := backend.db, secrets := backend.secrets, scheduler := some backend.scheduler }

/-- The token of a request. -/
def HttpRequest.token (service : Service) (request : HttpRequest) : Except Response TokenPayload :=
  verifyToken service.tokens service.settings request.receivedAt request.credentials

/-- Serve a request, behind the guard of its router. -/
def App.serve (service : Service) (app : App) (scheduler : Scheduler) (request : HttpRequest)
    : App × AppResponse :=
  match request.endpoint with
  | .api apiRequest =>
      match request.token service with
      | .error response => (app, .answer response)
      | .ok token =>
          let result := handle service.platform request.env (app.backend scheduler)
            (getAccountId token) apiRequest
          (app.served result.1, .answer result.2)
  | .agent agentRequest =>
      match verifyAgentKey service.settings request.agentKey with
      | .error response => (app, .answer response)
      | .ok _ => app.handleAgent service.platform request.agentEnv agentRequest
  | .health => (app, .acknowledged)

/-- A cron job fires; an id in use inserts nothing. -/
def App.tick (app : App) (scheduler : Scheduler) (pipelineId jobId : UUID) : App :=
  match scheduler.get? pipelineId with
  | none => app
  | some job =>
      match enqueueJob app.db.jobRuns jobId job.pipelineId job.agentId with
      | none => app
      | some jobRuns => { app with db := { app.db with jobRuns } }

/-- The process ends and the next one loads the schedules, or fails to come up. -/
def App.restart (service : Service) (app : App) : App :=
  match loadSchedules service.platform.fromCrontab app.db .empty with
  | (scheduler, none) => { app with scheduler := some scheduler }
  | (_, some _) => { app with scheduler := none }

def App.step (service : Service) (app : App) (arrival : Arrival) : App × AppResponse :=
  match arrival, app.scheduler with
  | .http request, some scheduler => app.serve service scheduler request
  | .tick pipelineId jobId, some scheduler =>
      (app.tick scheduler pipelineId jobId, .nothing)
  | .restart, _ => (app.restart service, .nothing)
  | _, none => (app, .nothing)

/-- The account whose token a request to the API carries. -/
def HttpRequest.caller (service : Service) (request : HttpRequest) : Option UUID :=
  match request.endpoint, request.token service with
  | .api _, .ok token => some (getAccountId token)
  | _, _ => none

end Turbocat.Orchestrator
