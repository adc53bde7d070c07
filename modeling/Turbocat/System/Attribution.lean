import Turbocat.Library.Unwinding
import Turbocat.Orchestrator.AppEffects
import Turbocat.System.Credentials

/-! Whatever the app has stored was brought by requests that passed the guards of their
routers: rows and secrets by a token of their account, cursors, outcomes and signs of life
by the key of the agents.
-/

namespace Turbocat.System

open Turbocat.Library Turbocat.Python Turbocat.Orchestrator

section

variable (service : Service)

/-- Among the arrivals is this request of an API client of an account. -/
def Requested (arrivals : List Arrival) (accountId : UUID) (request : ApiRequest) : Prop :=
  ∃ http, .http http ∈ arrivals
    ∧ http.caller service = some accountId
    ∧ http.endpoint = .api request

/-- Among the arrivals is this request, with the key of the agents, at a clock reading. -/
def Posted (arrivals : List Arrival) (now : Datetime) (request : AgentRequest) : Prop :=
  ∃ http, .http http ∈ arrivals
    ∧ http.agentKey = some service.settings.agentApiKey
    ∧ http.endpoint = .agent request
    ∧ http.agentEnv.now = now

end

section

variable {service : Service} {arrivals later : List Arrival}

theorem Requested.mono {accountId : UUID} {request : ApiRequest}
    (requested : Requested service arrivals accountId request) (among : arrivals ⊆ later)
    : Requested service later accountId request := by
  obtain ⟨http, member, rest⟩ := requested
  exact ⟨http, among member, rest⟩

theorem Posted.mono {now : Datetime} {request : AgentRequest}
    (posted : Posted service arrivals now request) (among : arrivals ⊆ later)
    : Posted service later now request := by
  obtain ⟨http, member, rest⟩ := posted
  exact ⟨http, among member, rest⟩

end

-----------------------------------------------------------------------------------------
-- Where the rows after one arrival come from
-----------------------------------------------------------------------------------------

section

variable {service : Service} {app next : App} {arrival : Arrival}

/-- Every arrival leaves rows with their fixed fields. -/
theorem appEffect_grows (effect : AppEffect service app arrival next)
    : DbGrows app.db next.db := by
  cases effect with
  | unchanged => exact .refl _
  | @served request accountId apiRequest scheduler _ _ _ =>
      exact (handle_grows service.platform request.env (app.backend scheduler) accountId
        apiRequest).1
  | @dispatched request agentId jobIds _ _ _ =>
      exact ⟨rfl, .refl _, .refl _, Table.Keeps.update app.db.jobRuns
        (fun job => if job.jobId ∈ jobIds then job.dispatched else job)
        (fun job => by split <;> rfl) (fun job => by split <;> rfl)⟩
  | reported _ _ updated => exact updateJobStatus_grows updated
  | seen _ _ _ => exact .refl _
  | ticked _ _ inserted =>
      exact ⟨rfl, .refl _, .refl _, .append (Table.insert_eq_some_iff.mp inserted).2⟩
  | restarted _ => exact .refl _

/-- A connection is an old one, perhaps tested again, or its account has just created it. -/
theorem connection_origin (effect : AppEffect service app arrival next) {row : Connection}
    (member : row ∈ next.db.connections.rows)
    : (∃ old ∈ app.db.connections.rows, row.fixed = old.fixed)
      ∨ (row.secretRef = secretRefOf row.accountId row.source
        ∧ ∃ name credentials,
            Requested service [arrival] row.accountId
              (.createConnection name row.source credentials)) := by
  cases effect with
  | unchanged => exact Or.inl ⟨row, member, rfl⟩
  | @served request accountId apiRequest scheduler up caller endpoint =>
      have effect := handle_effect service.platform request.env (app.backend scheduler) accountId
        apiRequest
      simp only [App.served] at member
      generalize (handle service.platform request.env (app.backend scheduler) accountId
        apiRequest).1 = backend at effect member
      cases effect with
      | unchanged => exact Or.inl ⟨row, member, rfl⟩
      | stored _ => exact Or.inl ⟨row, member, rfl⟩
      | @created name source credentials connection connections _ inserted own source_ ref =>
          rcases List.mem_append.mp ((Table.insert_eq_some_iff.mp inserted).2 ▸ member)
            with old | new
          · exact Or.inl ⟨row, old, rfl⟩
          · cases List.mem_singleton.mp new
            subst own source_
            exact Or.inr ⟨ref, name, credentials, request, List.mem_singleton_self _, caller,
              endpoint⟩
      | @tested connectionId connection status _ _ =>
          obtain ⟨old, stored, rfl⟩ := (Table.mem_modify app.db.connections connectionId
            (fun row => row.retested status request.env.now) (fun _ => rfl)).mp member
          refine Or.inl ⟨old, stored, ?_⟩
          split <;> rfl
      | bulk _ _ inserted =>
          exact Or.inl ⟨row, (insertPipelines_ok inserted).2.1 ▸ member, rfl⟩
      | deactivated _ _ => exact Or.inl ⟨row, member, rfl⟩
  | dispatched _ _ _ => exact Or.inl ⟨row, member, rfl⟩
  | reported _ _ updated =>
      obtain ⟨_, _, _, rfl⟩ := updateJobStatus_some updated
      exact Or.inl ⟨row, member, rfl⟩
  | seen _ _ _ => exact Or.inl ⟨row, member, rfl⟩
  | ticked _ _ _ => exact Or.inl ⟨row, member, rfl⟩
  | restarted _ => exact Or.inl ⟨row, member, rfl⟩

/-- What a bulk request says about one of its pipelines. -/
def tableOf (pipeline : Pipeline) : PipelineTableConfig :=
  ⟨pipeline.connector, pipeline.tableName, pipeline.schedule, pipeline.params⟩

/-- What a pipeline's account or a report on one of its jobs may have changed. -/
structure Followed (service : Service) (app : App) (arrival : Arrival) (old row : Pipeline)
    : Prop where
  fixed : row.fixed = old.fixed
  active
    : row.isActive = old.isActive
      ∨ Requested service [arrival] row.accountId (.deactivatePipeline row.pipelineId)
  state
    : row.state = old.state
      ∨ ∃ now jobId body job,
          Posted service [arrival] now (.updateJobStatus jobId body)
          ∧ body.cursor = row.state
          ∧ app.db.jobRuns.get? jobId = some job
          ∧ job.pipelineId = row.pipelineId

theorem Followed.same (row : Pipeline) : Followed service app arrival row row :=
  ⟨rfl, Or.inl rfl, Or.inl rfl⟩

/-- An active pipeline without a cursor, just created on a connection of its account. -/
structure JustCreated (service : Service) (app : App) (arrival : Arrival) (row : Pipeline)
    : Prop where
  isActive : row.isActive = true
  state : row.state = none
  requested
    : ∃ tables,
        Requested service [arrival] row.accountId
          (.bulkCreatePipelines row.agentId row.connectionId tables)
        ∧ tableOf row ∈ tables
  connection
    : ∃ connection,
        app.db.connections.get? row.connectionId = some connection
        ∧ connection.accountId = row.accountId

/-- A pipeline follows an old one or its account has just created it. -/
theorem pipeline_origin (effect : AppEffect service app arrival next) {row : Pipeline}
    (member : row ∈ next.db.pipelines.rows)
    : (∃ old ∈ app.db.pipelines.rows, Followed service app arrival old row)
      ∨ JustCreated service app arrival row := by
  cases effect with
  | unchanged => exact Or.inl ⟨row, member, .same row⟩
  | @served request accountId apiRequest scheduler up caller endpoint =>
      have effect := handle_effect service.platform request.env (app.backend scheduler) accountId
        apiRequest
      simp only [App.served] at member
      generalize (handle service.platform request.env (app.backend scheduler) accountId
        apiRequest).1 = backend at effect member
      cases effect with
      | unchanged => exact Or.inl ⟨row, member, .same row⟩
      | stored _ => exact Or.inl ⟨row, member, .same row⟩
      | created _ _ _ _ _ => exact Or.inl ⟨row, member, .same row⟩
      | tested _ _ => exact Or.inl ⟨row, member, .same row⟩
      | @bulk agentId connectionId tables connection db found own inserted =>
          rcases List.mem_append.mp ((insertPipelines_ok inserted).2.2.2.1 ▸ member)
            with old | new
          · exact Or.inl ⟨row, old, .same row⟩
          · obtain ⟨number, inside, rfl⟩ := List.mem_mapIdx.mp new
            exact Or.inr {
              isActive := rfl
              state := rfl
              requested := ⟨tables, ⟨request, List.mem_singleton_self _, caller, endpoint⟩,
                List.getElem_mem inside⟩
              connection := ⟨connection, found, own⟩
            }
      | @deactivated pipelineId pipeline found own =>
          obtain ⟨old, stored, rfl⟩ := (Table.mem_modify app.db.pipelines pipelineId
            Pipeline.deactivated (fun _ => rfl)).mp member
          by_cases same : old.pipelineId = pipelineId
          · have row : old = pipeline :=
              Table.eq_of_key stored (Table.mem_of_get? found)
                (same.trans (Table.key_of_get? found).symm)
            subst row same
            rw [if_pos rfl]
            refine Or.inl ⟨old, stored, rfl, Or.inr ?_, Or.inl rfl⟩
            exact ⟨request, List.mem_singleton_self _, own ▸ caller, endpoint⟩
          · rw [if_neg same]
            exact Or.inl ⟨old, stored, .same old⟩
  | dispatched _ _ _ => exact Or.inl ⟨row, member, .same row⟩
  | @reported request jobId body db key endpoint updated =>
      obtain ⟨job, found, _, rfl⟩ := updateJobStatus_some updated
      dsimp only at member
      split at member
      · exact Or.inl ⟨row, member, .same row⟩
      · next state sets =>
          obtain ⟨old, stored, rfl⟩ := (Table.mem_modify app.db.pipelines job.pipelineId
            (fun pipeline => pipeline.advanced state) (fun _ => rfl)).mp member
          by_cases same : old.pipelineId = job.pipelineId
          · rw [if_pos same]
            refine Or.inl ⟨old, stored, rfl, Or.inl rfl, Or.inr ?_⟩
            exact ⟨request.agentEnv.now, jobId, body, job,
              ⟨request, List.mem_singleton_self _, key, endpoint, rfl⟩, sets, found, same.symm⟩
          · rw [if_neg same]
            exact Or.inl ⟨old, stored, .same old⟩
  | seen _ _ _ => exact Or.inl ⟨row, member, .same row⟩
  | ticked _ _ _ => exact Or.inl ⟨row, member, .same row⟩
  | restarted _ => exact Or.inl ⟨row, member, .same row⟩

/-- What a poll by a job's agent or a report on the job may have changed. -/
structure Touched (service : Service) (arrival : Arrival) (old row : JobRun) : Prop where
  jobId : row.jobId = old.jobId
  fixed : row.fixed = old.fixed
  status
    : row.status = old.status
      ∨ (row.status = JobStatus.dispatched.value
        ∧ ∃ now, Posted service [arrival] now (.getPendingJobs row.agentId))
      ∨ ∃ now body,
          Posted service [arrival] now (.updateJobStatus row.jobId body)
          ∧ row.status = body.status
  results
    : (row.rowsSynced = old.rowsSynced
        ∧ row.error = old.error
        ∧ row.startedAt = old.startedAt
        ∧ row.completedAt = old.completedAt)
      ∨ ∃ now body,
          Posted service [arrival] now (.updateJobStatus row.jobId body)
          ∧ row.rowsSynced = body.rowsSynced
          ∧ row.error = body.error
          ∧ (row.startedAt = old.startedAt ∨ row.startedAt = some now)
          ∧ (row.completedAt = old.completedAt ∨ row.completedAt = some now)

theorem Touched.same (row : JobRun) : Touched service arrival row row :=
  ⟨rfl, rfl, Or.inl rfl, Or.inl ⟨rfl, rfl, rfl, rfl⟩⟩

/-- The times a report writes are those of its clock reading. -/
theorem report_times (job : JobRun) (body : StatusUpdate) (now : Datetime)
    : ((job.report body now).startedAt = job.startedAt
        ∨ (job.report body now).startedAt = some now)
      ∧ ((job.report body now).completedAt = job.completedAt
        ∨ (job.report body now).completedAt = some now) := by
  unfold JobRun.report
  dsimp only
  split
  · exact ⟨Or.inr rfl, Or.inl rfl⟩
  · split
    · exact ⟨Or.inl rfl, Or.inr rfl⟩
    · exact ⟨Or.inl rfl, Or.inl rfl⟩

theorem report_results (job : JobRun) (body : StatusUpdate) (now : Datetime)
    : (job.report body now).rowsSynced = body.rowsSynced
      ∧ (job.report body now).error = body.error := by
  unfold JobRun.report
  dsimp only
  split
  · exact ⟨rfl, rfl⟩
  · split <;> exact ⟨rfl, rfl⟩

/-- A job follows an old row or a cron job of the scheduler has just inserted it. -/
theorem jobRun_origin (effect : AppEffect service app arrival next) {row : JobRun}
    (member : row ∈ next.db.jobRuns.rows)
    : (∃ old ∈ app.db.jobRuns.rows, Touched service arrival old row)
      ∨ (arrival = .tick row.pipelineId row.jobId
        ∧ row = { jobId := row.jobId, pipelineId := row.pipelineId, agentId := row.agentId }
        ∧ ∃ scheduler job,
            app.scheduler = some scheduler
            ∧ job ∈ scheduler.rows
            ∧ job.pipelineId = row.pipelineId
            ∧ job.agentId = row.agentId) := by
  cases effect with
  | unchanged => exact Or.inl ⟨row, member, .same row⟩
  | @served request accountId apiRequest scheduler _ _ _ =>
      have same := (handle_grows service.platform request.env (app.backend scheduler) accountId
        apiRequest).2
      exact Or.inl ⟨row, same ▸ member, .same row⟩
  | @dispatched request agentId jobIds key endpoint own =>
      obtain ⟨old, stored, rfl⟩ := List.mem_map.mp member
      by_cases claimed : old.jobId ∈ jobIds
      · have agent := own old stored claimed
        subst agent
        simp only [if_pos claimed]
        refine Or.inl ⟨old, stored, rfl, rfl, Or.inr (Or.inl ⟨rfl, request.agentEnv.now, ?_⟩),
          Or.inl ⟨rfl, rfl, rfl, rfl⟩⟩
        exact ⟨request, List.mem_singleton_self _, key, endpoint, rfl⟩
      · simp only [if_neg claimed]
        exact Or.inl ⟨old, stored, .same old⟩
  | @reported request jobId body db key endpoint updated =>
      obtain ⟨_, _, _, rfl⟩ := updateJobStatus_some updated
      obtain ⟨old, stored, rfl⟩ := (Table.mem_modify app.db.jobRuns jobId
        (fun job => job.report body request.agentEnv.now)
        (fun job => job.report_jobId body request.agentEnv.now)).mp member
      by_cases same : old.jobId = jobId
      · rw [if_pos same]
        have id := old.report_jobId body request.agentEnv.now
        have posted
            : Posted service [.http request] request.agentEnv.now
                (.updateJobStatus (old.report body request.agentEnv.now).jobId body) :=
          ⟨request, List.mem_singleton_self _, key, (id.trans same).symm ▸ endpoint, rfl⟩
        obtain ⟨rowsSynced, error⟩ := report_results old body request.agentEnv.now
        obtain ⟨startedAt, completedAt⟩ := report_times old body request.agentEnv.now
        refine Or.inl ⟨old, stored, id, old.report_fixed body _, Or.inr (Or.inr ?_), Or.inr ?_⟩
        · exact ⟨request.agentEnv.now, body, posted, old.report_status body _⟩
        · exact ⟨request.agentEnv.now, body, posted, rowsSynced, error, startedAt, completedAt⟩
      · rw [if_neg same]
        exact Or.inl ⟨old, stored, .same old⟩
  | seen _ _ _ => exact Or.inl ⟨row, member, .same row⟩
  | @ticked pipelineId jobId scheduler job jobRuns up found inserted =>
      rcases List.mem_append.mp ((Table.insert_eq_some_iff.mp inserted).2 ▸ member)
        with old | new
      · exact Or.inl ⟨row, old, .same row⟩
      · cases List.mem_singleton.mp new
        obtain ⟨scheduled, same⟩ := Table.get?_eq_some_iff.mp found
        subst same
        exact Or.inr ⟨rfl, rfl, scheduler, job, up, scheduled, rfl, rfl⟩
  | restarted _ => exact Or.inl ⟨row, member, .same row⟩

/-- A submission is what its request asked to save. -/
theorem submission_some {call : Call} {entry : Submission} (submitted : submission call = some entry)
    : entry.accountId = call.accountId
      ∧ ∃ name, call.request = .createConnection name entry.source entry.credentials := by
  unfold submission at submitted
  split at submitted
  · next name source credentials request =>
      split at submitted
      · cases submitted
        exact ⟨rfl, name, request⟩
      · cases submitted
  · cases submitted

/-- Only the creation of a connection writes a secret: its account's for its source. -/
theorem secret_origin (effect : AppEffect service app arrival next) (secretRef : String)
    : next.secrets secretRef = app.secrets secretRef
      ∨ ∃ accountId name source credentials,
          Requested service [arrival] accountId (.createConnection name source credentials)
          ∧ secretRef = secretRefOf accountId source
          ∧ next.secrets secretRef = some (.decoded (credentialsJson credentials)) := by
  cases effect with
  | @served request accountId apiRequest scheduler up caller endpoint =>
      let call : Call := ⟨accountId, request.env, apiRequest⟩
      have written := handle_secrets service.platform (app.backend scheduler) call
      simp only [App.served]
      rw [show (handle service.platform request.env (app.backend scheduler) accountId
        apiRequest).1.secrets = _ from written]
      cases submitted : submission call with
      | none => exact Or.inl rfl
      | some entry =>
          obtain ⟨own, name, asked⟩ := submission_some submitted
          by_cases same : secretRef = secretRefOf entry.accountId entry.source
          · subst same
            refine Or.inr ⟨entry.accountId, name, entry.source, entry.credentials,
              ⟨request, List.mem_singleton_self _, own ▸ caller, asked ▸ endpoint⟩, rfl, ?_⟩
            exact Function.update_self _ _ _
          · exact Or.inl (Function.update_of_ne same _ _)
  | unchanged => exact Or.inl rfl
  | dispatched _ _ _ => exact Or.inl rfl
  | reported _ _ _ => exact Or.inl rfl
  | seen _ _ _ => exact Or.inl rfl
  | ticked _ _ _ => exact Or.inl rfl
  | restarted _ => exact Or.inl rfl

/-- An agent was last seen when it was before, or at the heartbeat that has just come in. -/
theorem lastSeenAt_origin (effect : AppEffect service app arrival next) (agentId : UUID)
    : next.lastSeenAt agentId = app.lastSeenAt agentId
      ∨ ∃ now,
          Posted service [arrival] now (.heartbeat agentId)
          ∧ (app.db.agents.get? agentId).isSome
          ∧ next.lastSeenAt agentId = some now := by
  cases effect with
  | @seen request other agent key endpoint known =>
      by_cases same : agentId = other
      · subst same
        refine Or.inr ⟨request.agentEnv.now,
          ⟨request, List.mem_singleton_self _, key, endpoint, rfl⟩, ?_, ?_⟩
        · rw [known]
          rfl
        · exact Function.update_self _ _ _
      · exact Or.inl (Function.update_of_ne same _ _)
  | unchanged => exact Or.inl rfl
  | served _ _ _ => exact Or.inl rfl
  | dispatched _ _ _ => exact Or.inl rfl
  | reported _ _ _ => exact Or.inl rfl
  | ticked _ _ _ => exact Or.inl rfl
  | restarted _ => exact Or.inl rfl

/-- A cron job is an old one or the one of a stored pipeline. -/
theorem scheduled_origin (effect : AppEffect service app arrival next) {scheduler : Scheduler}
    (up : next.scheduler = some scheduler) {job : ScheduledJob} (member : job ∈ scheduler.rows)
    : (∃ earlier, app.scheduler = some earlier ∧ job ∈ earlier.rows)
      ∨ ∃ pipeline ∈ next.db.pipelines.rows, job = pipeline.scheduledJob := by
  cases effect with
  | @served request accountId apiRequest earlier wasUp caller endpoint =>
      have effect := handle_effect service.platform request.env (app.backend earlier) accountId
        apiRequest
      simp only [App.served] at up ⊢
      generalize (handle service.platform request.env (app.backend earlier) accountId
        apiRequest).1 = backend at effect up ⊢
      cases up
      cases effect with
      | unchanged => exact Or.inl ⟨earlier, wasUp, member⟩
      | stored _ => exact Or.inl ⟨earlier, wasUp, member⟩
      | created _ _ _ _ _ => exact Or.inl ⟨earlier, wasUp, member⟩
      | tested _ _ => exact Or.inl ⟨earlier, wasUp, member⟩
      | bulk _ _ inserted =>
          rcases mem_registerEach member with ⟨pipeline, new, same⟩ | old
          · refine Or.inr ⟨pipeline, ?_, same⟩
            rw [(insertPipelines_ok inserted).2.2.2.1]
            exact List.mem_append_right _ new
          · exact Or.inl ⟨earlier, wasUp, old⟩
      | deactivated _ _ =>
          exact Or.inl ⟨earlier, wasUp, (List.mem_filter.mp member).1⟩
  | restarted loaded =>
      rw [loaded scheduler up] at member
      rcases mem_registerAll member with ⟨pipeline, stored, same⟩ | old
      · exact Or.inr ⟨pipeline, (List.mem_filter.mp stored).1, same⟩
      · exact nomatch old
  | unchanged => exact Or.inl ⟨scheduler, up, member⟩
  | dispatched _ _ _ => exact Or.inl ⟨scheduler, up, member⟩
  | reported _ _ _ => exact Or.inl ⟨scheduler, up, member⟩
  | seen _ _ _ => exact Or.inl ⟨scheduler, up, member⟩
  | ticked _ _ _ => exact Or.inl ⟨scheduler, up, member⟩

end

-----------------------------------------------------------------------------------------
-- Runs
-----------------------------------------------------------------------------------------

section

variable (service : Service) (arrivals : List Arrival) (db : Db)

/-- A connection was created for its account, with the reference of its secret. -/
structure ConnectionAttributed (row : Connection) : Prop where
  secretRef : row.secretRef = secretRefOf row.accountId row.source
  requested
    : ∃ name credentials,
        Requested service arrivals row.accountId (.createConnection name row.source credentials)

/-- A pipeline was created by its account on a connection of its own, was deactivated by
its account if at all, and carries the cursor of a report on one of its jobs.
-/
structure PipelineAttributed (row : Pipeline) : Prop where
  requested
    : ∃ tables,
        Requested service arrivals row.accountId
          (.bulkCreatePipelines row.agentId row.connectionId tables)
        ∧ tableOf row ∈ tables
  connection
    : ∃ connection,
        db.connections.get? row.connectionId = some connection
        ∧ connection.accountId = row.accountId
  deactivated
    : row.isActive = false
      → Requested service arrivals row.accountId (.deactivatePipeline row.pipelineId)
  cursor
    : ∀ state,
        row.state = some state
        → ∃ now jobId body job,
            Posted service arrivals now (.updateJobStatus jobId body)
            ∧ body.cursor = some state
            ∧ db.jobRuns.get? jobId = some job
            ∧ job.pipelineId = row.pipelineId

/-- A job was inserted by a tick for its pipeline and the agent of that, and shows what a
poll of its agent or reports on it have left.
-/
structure JobAttributed (row : JobRun) : Prop where
  ticked : .tick row.pipelineId row.jobId ∈ arrivals
  pipeline
    : ∃ pipeline,
        db.pipelines.get? row.pipelineId = some pipeline ∧ pipeline.agentId = row.agentId
  status
    : row.status = JobStatus.pending.value
      ∨ (row.status = JobStatus.dispatched.value
        ∧ ∃ now, Posted service arrivals now (.getPendingJobs row.agentId))
      ∨ ∃ now body,
          Posted service arrivals now (.updateJobStatus row.jobId body)
          ∧ row.status = body.status
  results
    : (row.rowsSynced = none ∧ row.error = none)
      ∨ ∃ now body,
          Posted service arrivals now (.updateJobStatus row.jobId body)
          ∧ row.rowsSynced = body.rowsSynced
          ∧ row.error = body.error
  times
    : ∀ time,
        row.startedAt = some time ∨ row.completedAt = some time
        → ∃ body, Posted service arrivals time (.updateJobStatus row.jobId body)

end

/-- Each thing the app holds was brought by one of these arrivals, over the agents and the
secrets it was deployed with.
-/
structure Attributed (service : Service) (provisioned : Table Agent.agentId)
    (stored : SecretStore) (arrivals : List Arrival) (app : App)
    : Prop where
  agents : app.db.agents = provisioned
  connections : ∀ row ∈ app.db.connections.rows, ConnectionAttributed service arrivals row
  pipelines : ∀ row ∈ app.db.pipelines.rows, PipelineAttributed service arrivals app.db row
  jobs : ∀ row ∈ app.db.jobRuns.rows, JobAttributed service arrivals app.db row
  secrets
    : ∀ secretRef,
        app.secrets secretRef = stored secretRef
        ∨ ∃ accountId name source credentials,
            Requested service arrivals accountId (.createConnection name source credentials)
            ∧ secretRef = secretRefOf accountId source
            ∧ app.secrets secretRef = some (.decoded (credentialsJson credentials))
  lastSeenAt
    : ∀ agentId time,
        app.lastSeenAt agentId = some time
        → Posted service arrivals time (.heartbeat agentId)
          ∧ (provisioned.get? agentId).isSome
  scheduled
    : ∀ scheduler,
        app.scheduler = some scheduler
        → ∀ job ∈ scheduler.rows,
            ∃ pipeline,
              app.db.pipelines.get? job.pipelineId = some pipeline
              ∧ pipeline.agentId = job.agentId

section

variable {service : Service} {provisioned : Table Agent.agentId} {stored : SecretStore}
  {arrivals : List Arrival} {arrival : Arrival} {app next : App}

theorem subset_earlier : arrivals ⊆ arrivals ++ [arrival] := List.subset_append_left _ _

theorem subset_latest : [arrival] ⊆ arrivals ++ [arrival] := List.subset_append_right _ _

/-- One arrival keeps connections attributed. -/
theorem Attributed.connection (attributed : Attributed service provisioned stored arrivals app)
    (effect : AppEffect service app arrival next) {row : Connection}
    (member : row ∈ next.db.connections.rows)
    : ConnectionAttributed service (arrivals ++ [arrival]) row := by
  rcases connection_origin effect member
    with ⟨old, oldMember, fixed⟩ | ⟨secretRef, name, credentials, requested⟩
  · obtain ⟨oldRef, name, credentials, requested⟩ := attributed.connections old oldMember
    have account : row.accountId = old.accountId := (congrArg Connection.accountId fixed :)
    have source : row.source = old.source := (congrArg Connection.source fixed :)
    have ref : row.secretRef = old.secretRef := (congrArg Connection.secretRef fixed :)
    refine ⟨by rw [account, source, ref, oldRef], name, credentials, ?_⟩
    rw [account, source]
    exact requested.mono subset_earlier
  · exact ⟨secretRef, name, credentials, requested.mono subset_latest⟩

/-- One arrival keeps pipelines attributed. -/
theorem Attributed.pipeline (attributed : Attributed service provisioned stored arrivals app)
    (effect : AppEffect service app arrival next) {row : Pipeline}
    (member : row ∈ next.db.pipelines.rows)
    : PipelineAttributed service (arrivals ++ [arrival]) next.db row := by
  have grows := appEffect_grows effect
  have keptConnection {connection : Connection}
      (found : app.db.connections.get? row.connectionId = some connection)
      (own : connection.accountId = row.accountId)
      : ∃ connection,
          next.db.connections.get? row.connectionId = some connection
          ∧ connection.accountId = row.accountId := by
    obtain ⟨later, foundLater, same⟩ := grows.connections _ _ found
    exact ⟨later, foundLater, (congrArg Connection.accountId same :).trans own⟩
  have keptJob {jobId : UUID} {job : JobRun} (found : app.db.jobRuns.get? jobId = some job)
      (own : job.pipelineId = row.pipelineId)
      : ∃ job, next.db.jobRuns.get? jobId = some job ∧ job.pipelineId = row.pipelineId := by
    obtain ⟨later, foundLater, same⟩ := grows.jobRuns _ _ found
    exact ⟨later, foundLater, (congrArg Prod.fst same :).trans own⟩
  rcases pipeline_origin effect member with ⟨old, oldMember, followed⟩ | created
  · have before := attributed.pipelines old oldMember
    have account : row.accountId = old.accountId := (congrArg Pipeline.accountId followed.fixed :)
    have id : row.pipelineId = old.pipelineId := (congrArg Pipeline.pipelineId followed.fixed :)
    have agent : row.agentId = old.agentId := (congrArg Pipeline.agentId followed.fixed :)
    have on : row.connectionId = old.connectionId :=
      (congrArg Pipeline.connectionId followed.fixed :)
    have table : tableOf row = tableOf old := (congrArg tableOf followed.fixed :)
    constructor
    · obtain ⟨tables, requested, listed⟩ := before.requested
      rw [account, agent, on, table]
      exact ⟨tables, requested.mono subset_earlier, listed⟩
    · obtain ⟨connection, found, own⟩ := before.connection
      exact keptConnection (on ▸ found) (own.trans account.symm)
    · intro inactive
      rcases followed.active with same | requested
      · rw [account, id]
        exact (before.deactivated (same ▸ inactive)).mono subset_earlier
      · exact requested.mono subset_latest
    · intro state sets
      rcases followed.state with same | ⟨now, jobId, body, job, posted, cursor, found, own⟩
      · obtain ⟨now, jobId, body, job, posted, cursor, found, own⟩ :=
          before.cursor state (same ▸ sets)
        obtain ⟨later, foundLater, ownLater⟩ := keptJob found (own.trans id.symm)
        exact ⟨now, jobId, body, later, posted.mono subset_earlier, cursor, foundLater, ownLater⟩
      · obtain ⟨later, foundLater, ownLater⟩ := keptJob found own
        exact ⟨now, jobId, body, later, posted.mono subset_latest, cursor.trans sets, foundLater,
          ownLater⟩
  · constructor
    · obtain ⟨tables, requested, listed⟩ := created.requested
      exact ⟨tables, requested.mono subset_latest, listed⟩
    · obtain ⟨connection, found, own⟩ := created.connection
      exact keptConnection found own
    · intro inactive
      rw [created.isActive] at inactive
      cases inactive
    · intro state sets
      rw [created.state] at sets
      cases sets

/-- One arrival keeps jobs attributed. -/
theorem Attributed.job (attributed : Attributed service provisioned stored arrivals app)
    (effect : AppEffect service app arrival next) {row : JobRun}
    (member : row ∈ next.db.jobRuns.rows)
    : JobAttributed service (arrivals ++ [arrival]) next.db row := by
  have keptPipeline {pipeline : Pipeline}
      (found : app.db.pipelines.get? row.pipelineId = some pipeline)
      (own : pipeline.agentId = row.agentId)
      : ∃ pipeline,
          next.db.pipelines.get? row.pipelineId = some pipeline
          ∧ pipeline.agentId = row.agentId := by
    obtain ⟨later, foundLater, same⟩ := (appEffect_grows effect).pipelines _ _ found
    exact ⟨later, foundLater, (congrArg Pipeline.agentId same :).trans own⟩
  rcases jobRun_origin effect member
    with ⟨old, oldMember, touched⟩ | ⟨tick, fresh, scheduler, job, up, scheduled, on, agent⟩
  · have before := attributed.jobs old oldMember
    have pipelineId : row.pipelineId = old.pipelineId := (congrArg Prod.fst touched.fixed :)
    have agentId : row.agentId = old.agentId := (congrArg Prod.snd touched.fixed :)
    constructor
    · rw [pipelineId, touched.jobId]
      exact subset_earlier before.ticked
    · obtain ⟨pipeline, found, own⟩ := before.pipeline
      exact keptPipeline (pipelineId ▸ found) (own.trans agentId.symm)
    · rcases touched.status with same | ⟨dispatched, now, posted⟩ | ⟨now, body, posted, status⟩
      · rw [same, agentId, touched.jobId]
        rcases before.status with pending | ⟨dispatched, now, posted⟩ | ⟨now, body, posted, status⟩
        · exact Or.inl pending
        · exact Or.inr (Or.inl ⟨dispatched, now, posted.mono subset_earlier⟩)
        · exact Or.inr (Or.inr ⟨now, body, posted.mono subset_earlier, status⟩)
      · exact Or.inr (Or.inl ⟨dispatched, now, posted.mono subset_latest⟩)
      · exact Or.inr (Or.inr ⟨now, body, posted.mono subset_latest, status⟩)
    · rcases touched.results
        with ⟨rowsSynced, error, _⟩ | ⟨now, body, posted, rowsSynced, error, _⟩
      · rw [rowsSynced, error, touched.jobId]
        rcases before.results with none_ | ⟨now, body, posted, same⟩
        · exact Or.inl none_
        · exact Or.inr ⟨now, body, posted.mono subset_earlier, same⟩
      · exact Or.inr ⟨now, body, posted.mono subset_latest, rowsSynced, error⟩
    · intro time shown
      rcases touched.results
        with ⟨_, _, startedAt, completedAt⟩ | ⟨now, body, posted, _, _, startedAt, completedAt⟩
      · rw [startedAt, completedAt] at shown
        obtain ⟨body, posted⟩ := before.times time shown
        exact ⟨body, touched.jobId ▸ posted.mono subset_earlier⟩
      · have earlier (shown : old.startedAt = some time ∨ old.completedAt = some time)
            : ∃ body,
                Posted service (arrivals ++ [arrival]) time (.updateJobStatus row.jobId body) := by
          obtain ⟨body, posted⟩ := before.times time shown
          exact ⟨body, touched.jobId ▸ posted.mono subset_earlier⟩
        rcases shown with started | completed
        · rcases startedAt with same | latest
          · exact earlier (Or.inl (same ▸ started))
          · cases latest.symm.trans started
            exact ⟨body, posted.mono subset_latest⟩
        · rcases completedAt with same | latest
          · exact earlier (Or.inr (same ▸ completed))
          · cases latest.symm.trans completed
            exact ⟨body, posted.mono subset_latest⟩
  · constructor
    · exact subset_latest (List.mem_singleton.mpr tick.symm)
    · obtain ⟨pipeline, found, own⟩ := attributed.scheduled scheduler up job scheduled
      exact keptPipeline (on ▸ found) (own.trans agent)
    · exact Or.inl (by rw [fresh])
    · exact Or.inl (by rw [fresh]; exact ⟨rfl, rfl⟩)
    · intro time shown
      rw [fresh] at shown
      rcases shown with started | completed
      · cases started
      · cases completed

/-- One arrival keeps everything attributed. -/
theorem Attributed.step (attributed : Attributed service provisioned stored arrivals app)
    (effect : AppEffect service app arrival next)
    : Attributed service provisioned stored (arrivals ++ [arrival]) next where
  agents := (appEffect_grows effect).agents.trans attributed.agents
  connections := fun _ member => attributed.connection effect member
  pipelines := fun _ member => attributed.pipeline effect member
  jobs := fun _ member => attributed.job effect member
  secrets := by
    intro secretRef
    rcases secret_origin effect secretRef
      with same | ⟨accountId, name, source, credentials, requested, rest⟩
    · rw [same]
      rcases attributed.secrets secretRef
        with initial | ⟨accountId, name, source, credentials, requested, rest⟩
      · exact Or.inl initial
      · exact Or.inr ⟨accountId, name, source, credentials, requested.mono subset_earlier, rest⟩
    · exact Or.inr ⟨accountId, name, source, credentials, requested.mono subset_latest, rest⟩
  lastSeenAt := by
    intro agentId time seen
    rcases lastSeenAt_origin effect agentId with same | ⟨now, posted, known, latest⟩
    · obtain ⟨posted, known⟩ := attributed.lastSeenAt agentId time (same ▸ seen)
      exact ⟨posted.mono subset_earlier, known⟩
    · cases latest.symm.trans seen
      exact ⟨posted.mono subset_latest, attributed.agents ▸ known⟩
  scheduled := by
    intro scheduler up job member
    rcases scheduled_origin effect up member
      with ⟨earlier, wasUp, old⟩ | ⟨pipeline, stored, same⟩
    · obtain ⟨pipeline, found, own⟩ := attributed.scheduled earlier wasUp job old
      obtain ⟨later, foundLater, fixed⟩ := (appEffect_grows effect).pipelines _ _ found
      exact ⟨later, foundLater, (congrArg Pipeline.agentId fixed :).trans own⟩
    · subst same
      exact ⟨pipeline, Table.get?_of_mem stored, rfl⟩

theorem Attributed.run (attributed : Attributed service provisioned stored arrivals app)
    (later : List Arrival)
    : Attributed service provisioned stored (arrivals ++ later)
        (finalState (App.step service) app later) := by
  induction later generalizing arrivals app with
  | nil => rwa [List.append_nil]
  | cons arrival rest ih =>
      have next := ih (attributed.step (step_effect service app arrival))
      rwa [List.append_assoc] at next

end

theorem deployed_attributed (service : Service) (agents : Table Agent.agentId)
    (secrets : SecretStore)
    : Attributed service agents secrets [] (App.deployed agents secrets) where
  agents := rfl
  connections := fun _ member => nomatch member
  pipelines := fun _ member => nomatch member
  jobs := fun _ member => nomatch member
  secrets := fun _ => Or.inl rfl
  lastSeenAt := fun _ _ seen => nomatch seen
  scheduled := by
    intro scheduler up job member
    cases up
    cases member

/-- After any arrivals at a new deployment, whatever tokens and keys they carry, each row,
secret, cursor, outcome and sign of life is attributed to a request that passed the guard of
its router.
-/
theorem app_attributed (service : Service) (agents : Table Agent.agentId) (secrets : SecretStore)
    (arrivals : List Arrival)
    : Attributed service agents secrets arrivals
        (finalState (App.step service) (App.deployed agents secrets) arrivals) :=
  (deployed_attributed service agents secrets).run arrivals

end Turbocat.System
