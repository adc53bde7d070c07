import Turbocat.System.AnsweredOnce
import Turbocat.System.Credentials

/-! Credentials reach only agents of the account that submitted them, as long as pipelines
are created for the caller's own agents: the chain from an answer through its job, its
pipeline and the pipeline's connection stays within one account.
-/

namespace Turbocat.System

open Turbocat.Library Turbocat.Python Turbocat.Connectors Turbocat.Orchestrator Turbocat.Agent

def Event.call : Event → Option Call
  | .request _ call => some call
  | _ => none

/-- The agent a request creates pipelines for. -/
def requestedAgent (request : ApiRequest) : Option UUID :=
  match request with
  | .bulkCreatePipelines agentId _ _ => some agentId
  | _ => none

/-- Pipelines are created for agents of the caller's account. -/
def NamesOwnAgent (state : State) (event : Event) : Prop :=
  ∀ call ∈ event.call, ∀ agentId ∈ requestedAgent call.request,
    ∀ agent ∈ state.db.agents.get? agentId, agent.accountId = call.accountId

instance (state : State) (event : Event) : Decidable (NamesOwnAgent state event) :=
  inferInstanceAs (Decidable (∀ call ∈ event.call, ∀ agentId ∈ requestedAgent call.request,
    ∀ agent ∈ state.db.agents.get? agentId, agent.accountId = call.accountId))

-----------------------------------------------------------------------------------------
-- The chain from job runs to accounts
-----------------------------------------------------------------------------------------

/-- A pipeline with this id runs on this agent. -/
def RunsOn (db : Db) (pipelineId agentId : UUID) : Prop :=
  ∃ pipeline, db.pipelines.get? pipelineId = some pipeline ∧ pipeline.agentId = agentId

/-- A pipeline's agent and its connection belong to its account. -/
structure WithinAccount (db : Db) (pipeline : Pipeline) : Prop where
  agent
    : ∃ agent,
        db.agents.get? pipeline.agentId = some agent ∧ agent.accountId = pipeline.accountId
  connection
    : ∃ connection,
        db.connections.get? pipeline.connectionId = some connection
        ∧ connection.accountId = pipeline.accountId

/-- The links between scheduled jobs, job runs, pipelines and accounts. -/
structure Linked (state : State) : Prop where
  pipelines : ∀ pipeline ∈ state.db.pipelines.rows, WithinAccount state.db pipeline
  scheduled
    : ∀ process scheduler, state.schedulers process = some scheduler →
        ∀ job ∈ scheduler.rows, RunsOn state.db job.pipelineId job.agentId
  jobRuns : ∀ row ∈ state.db.jobRuns.rows, RunsOn state.db row.pipelineId row.agentId

theorem RunsOn.mono {db next : Db} {pipelineId agentId : UUID}
    (runs : RunsOn db pipelineId agentId) (grows : DbGrows db next)
    : RunsOn next pipelineId agentId := by
  obtain ⟨pipeline, found, same⟩ := runs
  obtain ⟨kept, foundKept, fixed⟩ := grows.pipelines _ _ found
  exact ⟨kept, foundKept, (congrArg Pipeline.agentId fixed :).trans same⟩

theorem runsOn_of_mem {db : Db} {pipeline : Pipeline} (member : pipeline ∈ db.pipelines.rows)
    : RunsOn db pipeline.pipelineId pipeline.agentId :=
  ⟨pipeline, Table.get?_of_mem member, rfl⟩

/-- A pipeline stays within its account when only other fields of rows are rewritten. -/
theorem WithinAccount.mono {db next : Db} {pipeline changed : Pipeline}
    (within : WithinAccount db pipeline) (grows : DbGrows db next)
    (fixed : changed.fixed = pipeline.fixed)
    : WithinAccount next changed where
  agent := by
    obtain ⟨agent, found, own⟩ := within.agent
    have agentId : changed.agentId = pipeline.agentId := (congrArg Pipeline.agentId fixed :)
    have accountId : changed.accountId = pipeline.accountId :=
      (congrArg Pipeline.accountId fixed :)
    exact ⟨agent, by rw [grows.agents, agentId, found], own.trans accountId.symm⟩
  connection := by
    obtain ⟨connection, found, own⟩ := within.connection
    obtain ⟨kept, foundKept, same⟩ := grows.connections _ _ found
    have connectionId : changed.connectionId = pipeline.connectionId :=
      (congrArg Pipeline.connectionId fixed :)
    have accountId : changed.accountId = pipeline.accountId :=
      (congrArg Pipeline.accountId fixed :)
    have account : kept.accountId = connection.accountId :=
      (congrArg Connection.accountId same :)
    exact ⟨kept, by rw [connectionId, foundKept], account.trans (own.trans accountId.symm)⟩

/-- Polls, ticks and reports leave every row with its pipeline and agent; a tick adds one. -/
theorem dispatch_rows {state next : Dispatch.State} {event : Dispatch.Event}
    (stepped : Dispatch.step state event = some next) {row : JobRun}
    (member : row ∈ next.jobRuns.rows)
    : (∃ old ∈ state.jobRuns.rows, row.fixed = old.fixed)
      ∨ ∃ jobId, event = .enqueue jobId row.pipelineId row.agentId := by
  cases Dispatch.step_takes stepped with
  | select _ _ => exact Or.inl ⟨row, member, rfl⟩
  | commit _ _ =>
      obtain ⟨old, stored, rfl⟩ := List.mem_map.mp member
      refine Or.inl ⟨old, stored, ?_⟩
      split <;> rfl
  | reload _ _ _ => exact Or.inl ⟨row, member, rfl⟩
  | respond _ _ => exact Or.inl ⟨row, member, rfl⟩
  | fail _ _ _ => exact Or.inl ⟨row, member, rfl⟩
  | enqueue inserted =>
      rcases List.mem_append.mp ((Table.insert_eq_some_iff.mp inserted).2 ▸ member)
        with old | new
      · exact Or.inl ⟨row, old, rfl⟩
      · cases List.mem_singleton.mp new
        exact Or.inr ⟨_, rfl⟩
  | @report report now found _ _ =>
      obtain ⟨old, stored, rfl⟩ := (Table.mem_modify state.jobRuns report.jobId
        (fun job => job.report report.body now)
        (fun job => job.report_jobId report.body now)).mp member
      refine Or.inl ⟨old, stored, ?_⟩
      split
      · exact old.report_fixed report.body now
      · rfl

section

variable {platform : Platform} {state next : State}

theorem Linked.scheduled_mono {db : Db} (linked : Linked state) (grows : DbGrows state.db db)
    {process : Nat} {scheduler : Scheduler} (up : state.schedulers process = some scheduler)
    : ∀ job ∈ scheduler.rows, RunsOn db job.pipelineId job.agentId :=
  fun job member => (linked.scheduled process scheduler up job member).mono grows

theorem Linked.jobRuns_mono {db : Db} (linked : Linked state) (grows : DbGrows state.db db)
    {row old : JobRun} (stored : old ∈ state.db.jobRuns.rows) (fixed : row.fixed = old.fixed)
    : RunsOn db row.pipelineId row.agentId := by
  have pipelineId : row.pipelineId = old.pipelineId := congrArg Prod.fst fixed
  have agentId : row.agentId = old.agentId := congrArg Prod.snd fixed
  rw [pipelineId, agentId]
  exact (linked.jobRuns old stored).mono grows

/-- A step that leaves pipelines, schedulers and job runs as they are keeps the links. -/
theorem Linked.of_same (linked : Linked state) (db : next.db = state.db)
    (schedulers : next.schedulers = state.schedulers)
    : Linked next := by
  constructor
  · rw [db]
    exact linked.pipelines
  · rw [db, schedulers]
    exact linked.scheduled
  · rw [db]
    exact linked.jobRuns

/-- A step of polls and ticks keeps the links when a tick's row is linked. -/
theorem Linked.dispatched (linked : Linked state) {event : Dispatch.Event}
    {dispatch : Dispatch.State}
    (stepped : Dispatch.step state.dispatch event = some dispatch)
    (enqueued
      : ∀ jobId pipelineId agentId, event = .enqueue jobId pipelineId agentId →
          RunsOn state.db pipelineId agentId)
    : Linked (state.dispatched dispatch) where
  pipelines := fun pipeline member =>
    (linked.pipelines pipeline member).mono (dispatched_grows stepped) rfl
  scheduled := fun _ _ up => linked.scheduled_mono (dispatched_grows stepped) up
  jobRuns := by
    intro row member
    rcases dispatch_rows stepped member with ⟨old, stored, fixed⟩ | ⟨jobId, new⟩
    · exact linked.jobRuns_mono (dispatched_grows stepped) stored fixed
    · exact (enqueued _ _ _ new).mono (dispatched_grows stepped)

/-- The pipelines after a request stay within their accounts, when the request names an agent
of its caller's, by cases of its effect.
-/
theorem effect_withinAccount {env : RequestEnv} {scheduler : Scheduler} {accountId : UUID}
    {request : ApiRequest} {backend : Backend} (linked : Linked state)
    (effect
      : HandleEffect platform env ⟨state.db, state.secrets, scheduler⟩ accountId request backend)
    (grows : DbGrows state.db backend.db)
    (named
      : ∀ agentId ∈ requestedAgent request, ∀ agent ∈ state.db.agents.get? agentId,
          agent.accountId = accountId)
    : ∀ pipeline ∈ backend.db.pipelines.rows, WithinAccount backend.db pipeline := by
  cases effect with
  | unchanged => exact linked.pipelines
  | stored _ => exact linked.pipelines
  | created _ _ _ _ _ =>
      exact fun pipeline member => (linked.pipelines pipeline member).mono grows rfl
  | tested _ _ =>
      exact fun pipeline member => (linked.pipelines pipeline member).mono grows rfl
  | @bulk agentId connectionId tables connection db found ownConnection inserted =>
      obtain ⟨agents, connections, _, appended, known⟩ := insertPipelines_ok inserted
      intro pipeline member
      rcases List.mem_append.mp (appended ▸ member) with old | new
      · exact (linked.pipelines pipeline old).mono grows rfl
      · obtain ⟨account, agentOf, connectionOf, _⟩ := mem_requestedPipelines new
        obtain ⟨agent, foundAgent⟩ := known pipeline new
        have ownAgent := named agentId rfl agent (agentOf ▸ foundAgent)
        exact {
          agent := ⟨agent, by rw [agents, foundAgent], ownAgent.trans account.symm⟩
          connection := ⟨connection, by rw [connections, connectionOf, found],
            ownConnection.trans account.symm⟩
        }
  | @deactivated pipelineId pipeline found _ =>
      intro changed member
      obtain ⟨old, stored, rfl⟩ := (Table.mem_modify state.db.pipelines pipelineId
        Pipeline.deactivated (fun _ => rfl)).mp member
      refine (linked.pipelines old stored).mono grows ?_
      split <;> rfl

/-- The jobs a request leaves scheduled are those of stored pipelines, by cases of its
effect.
-/
theorem effect_scheduled {env : RequestEnv} {scheduler : Scheduler} {accountId : UUID}
    {request : ApiRequest} {backend : Backend}
    (scheduled : ∀ job ∈ scheduler.rows, RunsOn state.db job.pipelineId job.agentId)
    (effect
      : HandleEffect platform env ⟨state.db, state.secrets, scheduler⟩ accountId request backend)
    (grows : DbGrows state.db backend.db)
    : ∀ job ∈ backend.scheduler.rows, RunsOn backend.db job.pipelineId job.agentId := by
  have kept : ∀ job ∈ scheduler.rows, RunsOn backend.db job.pipelineId job.agentId :=
    fun job member => (scheduled job member).mono grows
  cases effect with
  | unchanged => exact kept
  | stored _ => exact kept
  | created _ _ _ _ _ => exact kept
  | tested _ _ => exact kept
  | bulk _ _ inserted =>
      obtain ⟨_, _, _, appended, _⟩ := insertPipelines_ok inserted
      intro job member
      rcases mem_registerEach member with ⟨origin, among, rfl⟩ | old
      · exact runsOn_of_mem (appended ▸ List.mem_append_right _ among)
      · exact kept job old
  | deactivated _ _ => exact fun job member => kept job (List.mem_filter.mp member).1

/-- A request for the caller's own agent keeps the links. -/
theorem Linked.request (linked : Linked state) {process : Nat} {scheduler : Scheduler}
    {call : Call} (up : state.schedulers process = some scheduler)
    (own : NamesOwnAgent state (.request process call))
    : Linked (state.serve platform process scheduler call) := by
  have effect := handle_effect platform call.env ⟨state.db, state.secrets, scheduler⟩
    call.accountId call.request
  obtain ⟨grows, jobRuns⟩ := handle_grows platform call.env
    ⟨state.db, state.secrets, scheduler⟩ call.accountId call.request
  have scheduled := effect_scheduled (linked.scheduled process scheduler up) effect grows
  refine ⟨effect_withinAccount linked effect grows (own call rfl), ?_, ?_⟩
  · intro other registered upOther
    by_cases same : other = process
    · subst same
      cases (Function.update_self _ _ _).symm.trans upOther
      exact scheduled
    · have before := (Function.update_of_ne same _ _).symm.trans upOther
      exact linked.scheduled_mono grows before
  · intro row member
    exact (linked.jobRuns row (jobRuns ▸ member)).mono grows

/-- A process that starts schedules the active pipelines on their own agents. -/
theorem Linked.start (linked : Linked state) (process : Nat)
    : Linked
        { state with
          schedulers := Function.update state.schedulers process
            (some (loadSchedules platform.fromCrontab state.db .empty).1) } where
  pipelines := linked.pipelines
  scheduled := by
    intro other scheduler up job member
    dsimp only at up
    by_cases same : other = process
    · subst same
      rw [Function.update_self] at up
      cases up
      rcases mem_registerAll member with ⟨origin, among, rfl⟩ | old
      · exact runsOn_of_mem (List.mem_filter.mp among).1
      · cases old
    · rw [Function.update_of_ne same] at up
      exact linked.scheduled other scheduler up job member
  jobRuns := linked.jobRuns

/-- A report rewrites rows in place. -/
theorem updateJobStatus_rows {db after : Db} {jobId : UUID} {body : StatusUpdate}
    {now : Datetime} (updated : updateJobStatus db jobId body now = some after)
    : (∀ pipeline ∈ after.pipelines.rows,
        ∃ old ∈ db.pipelines.rows, pipeline.fixed = old.fixed)
      ∧ ∀ row ∈ after.jobRuns.rows, ∃ old ∈ db.jobRuns.rows, row.fixed = old.fixed := by
  obtain ⟨row, _, _, rfl⟩ := updateJobStatus_some updated
  constructor
  · intro pipeline member
    dsimp only at member
    split at member
    · exact ⟨pipeline, member, rfl⟩
    · next cursor _ =>
        obtain ⟨old, stored, rfl⟩ := (Table.mem_modify db.pipelines row.pipelineId
          (fun pipeline => pipeline.advanced cursor) (fun _ => rfl)).mp member
        refine ⟨old, stored, ?_⟩
        split <;> rfl
  · intro job member
    obtain ⟨old, stored, rfl⟩ := (Table.mem_modify db.jobRuns jobId
      (fun job => job.report body now) (fun job => job.report_jobId body now)).mp member
    refine ⟨old, stored, ?_⟩
    split
    · exact old.report_fixed body now
    · rfl

/-- A report leaves the links. -/
theorem Linked.process (linked : Linked state) {report : Report} {now : Datetime} {db : Db}
    (updated : updateJobStatus state.db report.jobId report.body now = some db)
    (network : List Report) (log : Log)
    : Linked { state with db, network, log } := by
  have grows := updateJobStatus_grows updated
  obtain ⟨pipelines, jobRuns⟩ := updateJobStatus_rows updated
  constructor
  · intro pipeline member
    obtain ⟨old, stored, fixed⟩ := pipelines pipeline member
    exact (linked.pipelines old stored).mono grows fixed
  · exact fun _ _ up => linked.scheduled_mono grows up
  · intro row member
    obtain ⟨old, stored, fixed⟩ := jobRuns row member
    exact linked.jobRuns_mono grows stored fixed

/-- A step that names only own agents keeps the links, by cases of the step. -/
theorem Linked.step {event : Event} (linked : Linked state)
    (own : NamesOwnAgent state event)
    (stepped : System.step platform state event = some next)
    : Linked next := by
  have notTick {moved : Dispatch.Event}
      (other : ∀ jobId pipelineId agentId, moved ≠ .enqueue jobId pipelineId agentId)
      : ∀ jobId pipelineId agentId, moved = .enqueue jobId pipelineId agentId →
          RunsOn state.db pipelineId agentId :=
    fun jobId pipelineId agentId same => absurd same (other jobId pipelineId agentId)
  cases step_takes stepped with
  | start _ => exact linked.start _
  | @stop process =>
      refine ⟨linked.pipelines, fun other scheduler up => ?_, linked.jobRuns⟩
      dsimp only at up
      by_cases same : other = process
      · subst same
        rw [Function.update_self] at up
        cases up
      · rw [Function.update_of_ne same] at up
        exact linked.scheduled other scheduler up
  | request up => exact linked.request up own
  | tick up found moved =>
      refine linked.dispatched moved fun _ _ _ same => ?_
      cases same
      exact linked.scheduled _ _ up _ (Table.mem_of_get? found)
  | contend _ notEnqueue moved => exact linked.dispatched moved (notTick notEnqueue)
  | reload moved =>
      have after := linked.dispatched moved (notTick (by simp))
      exact ⟨after.pipelines, after.scheduled, after.jobRuns⟩
  | build _ _ _ _ _ => exact linked.of_same rfl rfl
  | respond _ _ moved =>
      have after := linked.dispatched moved (notTick (by simp))
      exact ⟨after.pipelines, after.scheduled, after.jobRuns⟩
  | work _ => exact linked.of_same rfl rfl
  | @act number payload action rest found =>
      cases action <;> exact linked.of_same rfl rfl
  | process _ _ updated => exact linked.process updated _ _
  | lose => exact linked.of_same rfl rfl
  | crash => exact linked.of_same rfl rfl
  | drop => exact linked.of_same rfl rfl

end

theorem linked_initial (agents : Table Agent.agentId) (secrets : SecretStore)
    : Linked (State.initial agents secrets) where
  pipelines := fun _ member => nomatch member
  scheduled := fun _ _ up => nomatch up
  jobRuns := fun _ member => nomatch member

/-- In every run whose bulk requests name agents of their caller's account, every payload
that was answered to a poll of an agent holds credentials that were submitted for the
account and source of the connection of its pipeline, and that account is the agent's.
-/
theorem credentials_reach_own_agents {platform : Platform} {agents : Table Agent.agentId}
    {secrets : SecretStore} {events : List Event} {last : State}
    (own : Along (step platform) NamesOwnAgent (State.initial agents secrets) events)
    (ran : run (step platform) (State.initial agents secrets) events = some last)
    : ∀ answer ∈ last.log.answers,
        ∃ agent pipeline connection,
          last.db.agents.get? answer.agentId = some agent
          ∧ last.db.pipelines.get? answer.built.payload.pipelineId = some pipeline
          ∧ last.db.connections.get? pipeline.connectionId = some connection
          ∧ connection.accountId = agent.accountId
          ∧ ∃ submission ∈ last.log.submissions,
              submission.accountId = connection.accountId
              ∧ submission.source = connection.source
              ∧ credentialsJson submission.credentials
                = .dict answer.built.payload.credentials := by
  intro answer answered
  have linked : Linked last :=
    Along.invariant (fun linked own stepped => linked.step own stepped)
      (linked_initial agents secrets) own ran
  have provenance := run_provenance ran
  have built := provenance.answers answer answered
  have grounded := provenance.built _ built
  obtain ⟨poll, polled, jobIds, phase, sameAgent, named⟩ := (run_answeredOnce ran).responded
    answer answered
  have consistent := run_consistent ran
  have claimed := (consistent.complete poll polled jobIds (Or.inr phase)).subset named
  obtain ⟨row, foundRow, rowAgent, _⟩ := consistent.owned poll polled (by simp [phase])
    (by simp [phase]) _ claimed
  obtain ⟨jobRow, foundJob, jobPipeline⟩ := grounded.job
  cases (foundJob : last.dispatch.jobRuns.get? answer.jobId = some jobRow).symm.trans foundRow
  obtain ⟨pipeline, foundPipeline, pipelineAgent⟩ :=
    linked.jobRuns row (Table.mem_of_get? foundRow)
  rw [jobPipeline] at foundPipeline
  obtain ⟨same, foundSame, _, _, connectionId⟩ := grounded.pipeline
  cases foundPipeline.symm.trans foundSame
  have within := linked.pipelines pipeline (Table.mem_of_get? foundPipeline)
  obtain ⟨agent, foundAgent, agentAccount⟩ := within.agent
  obtain ⟨connection, foundConnection, connectionAccount⟩ := within.connection
  obtain ⟨stored, foundStored, fixed⟩ := grounded.connection
  rw [connectionId, foundStored] at foundConnection
  obtain rfl := Option.some.inj foundConnection
  obtain ⟨submission, among, account, source, credentials⟩ := run_submitted ran _ built
  refine ⟨agent, pipeline, stored, ?_, foundPipeline, connectionId ▸ foundStored,
    connectionAccount.trans agentAccount.symm, submission, among, ?_, ?_, credentials⟩
  · rw [← sameAgent, ← rowAgent, ← pipelineAgent, foundAgent]
  · exact account.trans (congrArg Connection.accountId fixed :).symm
  · exact source.trans (congrArg Connection.source fixed :).symm

/-- The first sync's account uses its own agent. -/
theorem credentials_reach_own_agents_first_sync
    : ∃ last,
        run (step Platform.written) (State.initial Sample.agents Sample.secrets)
            Sample.firstSync
          = some last
        ∧ last.log.answers.length = 1
        ∧ ∀ answer ∈ last.log.answers,
            ∃ agent pipeline connection,
              last.db.agents.get? answer.agentId = some agent
              ∧ last.db.pipelines.get? answer.built.payload.pipelineId = some pipeline
              ∧ last.db.connections.get? pipeline.connectionId = some connection
              ∧ connection.accountId = agent.accountId
              ∧ ∃ submission ∈ last.log.submissions,
                  submission.accountId = connection.accountId
                  ∧ submission.source = connection.source
                  ∧ credentialsJson submission.credentials
                    = .dict answer.built.payload.credentials :=
  ⟨_, rfl, rfl, @credentials_reach_own_agents Platform.written Sample.agents Sample.secrets
    Sample.firstSync _ (by decide +kernel) rfl⟩

/-- Account 3 creates a pipeline for the agent of account 2, whose next poll is answered with
the credentials of account 3.
-/
theorem foreign_agent_gets_credentials
    : ∃ last answer agent connection,
        run (step Platform.written) (State.initial Sample.agents Sample.secrets)
            ([.start 0, Sample.save 3 11 "third", Sample.create 3 11 21, .tick 0 ⟨21⟩ ⟨31⟩]
              ++ Sample.poll 1 31 (Sample.time 10))
          = some last
        ∧ last.log.answers = [answer]
        ∧ last.db.agents.get? answer.agentId = some agent
        ∧ last.db.connections.get? answer.built.connection.connectionId = some connection
        ∧ answer.built.payload.credentials = [("api_key", .str "third")]
        ∧ agent.accountId = ⟨2⟩
        ∧ connection.accountId = ⟨3⟩ :=
  ⟨_, _, _, _, rfl, rfl, rfl, rfl, rfl, rfl, rfl⟩

end Turbocat.System
