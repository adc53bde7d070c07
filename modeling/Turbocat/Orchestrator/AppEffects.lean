import Turbocat.Orchestrator.App

/-! What each arrival can change: behind the guard of its router a request does what its
endpoint does, and anything else leaves the app as it was.
-/

namespace Turbocat.Orchestrator

open Turbocat.Library Turbocat.Python

theorem verifyAgentKey_ok_iff {settings : Settings} {key : Option String}
    : verifyAgentKey settings key = .ok () ↔ key = some settings.agentApiKey := by
  unfold verifyAgentKey
  split
  · next refused =>
      simp only [reduceCtorEq, false_iff]
      intro same
      subst same
      simp at refused
  · next passed =>
      simp only [not_or, not_not] at passed
      exact iff_of_true rfl passed.2

/-- A poll that changes the database has dispatched jobs of its agent. -/
theorem getPendingJobs_db (platform : Platform) (env : PollEnv) (db : Db) (agentId : UUID)
    : (getPendingJobs platform env db agentId).1 = db
      ∨ ∃ jobIds,
          (∀ job ∈ db.jobRuns.rows, job.jobId ∈ jobIds → job.agentId = agentId)
          ∧ (getPendingJobs platform env db agentId).1
            = { db with jobRuns := markDispatched db.jobRuns jobIds } := by
  have selected : ∀ job ∈ db.jobRuns.rows,
      job.jobId ∈ (selectedJobs env db agentId).map (fun job => job.jobId)
      → job.agentId = agentId := by
    intro job member claimed
    obtain ⟨other, otherSelected, same⟩ := List.mem_map.mp claimed
    obtain ⟨stored, passes⟩ := List.mem_filter.mp otherSelected
    rw [Table.eq_of_key stored member same] at passes
    simp only [isPendingFor, Bool.and_eq_true, decide_eq_true_eq] at passes
    exact passes.1.1
  unfold getPendingJobs
  dsimp only
  split
  · exact Or.inl rfl
  · split
    · exact Or.inl rfl
    · split
      · exact Or.inr ⟨_, selected, rfl⟩
      · exact Or.inr ⟨_, selected, rfl⟩

/-- What one arrival does to the app. -/
inductive AppEffect (service : Service) (app : App) : Arrival → App → Prop
  | unchanged {arrival} : AppEffect service app arrival app
  | served {request accountId apiRequest scheduler} (up : app.scheduler = some scheduler)
    (caller : request.caller service = some accountId)
    (endpoint : request.endpoint = .api apiRequest)
    : AppEffect service app (.http request)
        (app.served
          (handle service.platform request.env (app.backend scheduler) accountId apiRequest).1)
  | dispatched {request agentId jobIds}
    (key : request.agentKey = some service.settings.agentApiKey)
    (endpoint : request.endpoint = .agent (.getPendingJobs agentId))
    (own : ∀ job ∈ app.db.jobRuns.rows, job.jobId ∈ jobIds → job.agentId = agentId)
    : AppEffect service app (.http request)
        { app with db := { app.db with jobRuns := markDispatched app.db.jobRuns jobIds } }
  | reported {request jobId body db}
    (key : request.agentKey = some service.settings.agentApiKey)
    (endpoint : request.endpoint = .agent (.updateJobStatus jobId body))
    (updated : updateJobStatus app.db jobId body request.agentEnv.now = some db)
    : AppEffect service app (.http request) { app with db }
  | seen {request agentId agent}
    (key : request.agentKey = some service.settings.agentApiKey)
    (endpoint : request.endpoint = .agent (.heartbeat agentId))
    (known : app.db.agents.get? agentId = some agent)
    : AppEffect service app (.http request)
        { app with
          lastSeenAt := Function.update app.lastSeenAt agentId (some request.agentEnv.now) }
  | ticked {pipelineId jobId scheduler job jobRuns} (up : app.scheduler = some scheduler)
    (found : scheduler.get? pipelineId = some job)
    (inserted : enqueueJob app.db.jobRuns jobId job.pipelineId job.agentId = some jobRuns)
    : AppEffect service app (.tick pipelineId jobId)
        { app with db := { app.db with jobRuns } }
  | restarted {scheduler}
    (loaded
      : ∀ jobs, scheduler = some jobs →
          jobs = (loadSchedules service.platform.fromCrontab app.db .empty).1)
    : AppEffect service app .restart { app with scheduler }

/-- An agent's request that passed the guard, by cases of its endpoint. -/
theorem handleAgent_effect {service : Service} {app : App} {request : HttpRequest}
    {agentRequest : AgentRequest} (key : request.agentKey = some service.settings.agentApiKey)
    (endpoint : request.endpoint = .agent agentRequest)
    : AppEffect service app (.http request)
        (app.handleAgent service.platform request.agentEnv agentRequest).1 := by
  cases agentRequest with
  | getPendingJobs agentId =>
      have next
          : (app.getPendingJobs service.platform request.agentEnv agentId).1
            = { app with db := (getPendingJobs service.platform
                (request.agentEnv.poll app.secrets) app.db agentId).1 } := by
        unfold App.getPendingJobs
        split
        · next polled => rw [polled]
        · next polled => rw [polled]
      simp only [App.handleAgent, next]
      rcases getPendingJobs_db service.platform (request.agentEnv.poll app.secrets) app.db
          agentId with same | ⟨jobIds, own, moved⟩
      · rw [same]
        exact .unchanged
      · rw [moved]
        exact .dispatched key endpoint own
  | updateJobStatus jobId body =>
      simp only [App.handleAgent, App.updateJobStatus]
      split
      · exact .unchanged
      · split
        · exact .unchanged
        · exact .unchanged
        · next updated _ => exact .reported key endpoint updated
  | heartbeat agentId =>
      simp only [App.handleAgent, App.heartbeat]
      split
      · exact .unchanged
      · next known =>
          split
          · exact .unchanged
          · exact .seen key endpoint known

/-- A request changes something only behind the guard of its router. -/
theorem serve_effect {service : Service} {app : App} {scheduler : Scheduler}
    (request : HttpRequest) (up : app.scheduler = some scheduler)
    : AppEffect service app (.http request) (app.serve service scheduler request).1 := by
  unfold App.serve
  split
  · next apiRequest endpoint =>
      split
      · exact .unchanged
      · next token verified =>
          have caller : request.caller service = some (getAccountId token) := by
            simp only [HttpRequest.caller, endpoint, verified]
          exact .served up caller endpoint
  · next agentRequest endpoint =>
      split
      · exact .unchanged
      · next verified => exact handleAgent_effect (verifyAgentKey_ok_iff.mp verified) endpoint
  · exact .unchanged

/-- Every arrival has one of these effects. -/
theorem step_effect (service : Service) (app : App) (arrival : Arrival)
    : AppEffect service app arrival (app.step service arrival).1 := by
  unfold App.step
  split
  · next up => exact serve_effect _ up
  · next pipelineId jobId scheduler up =>
      dsimp only [App.tick]
      split
      · exact .unchanged
      · next found =>
          split
          · exact .unchanged
          · next inserted => exact .ticked up found inserted
  · dsimp only [App.restart]
    split
    · next loaded =>
        refine .restarted fun jobs same => ?_
        rw [loaded]
        exact (Option.some.inj same).symm
    · exact .restarted fun jobs same => nomatch same
  · exact .unchanged

end Turbocat.Orchestrator
