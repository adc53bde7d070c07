import Turbocat.Orchestrator.AtMostOnceDispatch
import Turbocat.System.Machine

/-! What one step of the system does, with the guards it has passed, and what no step undoes:
rows stay with the fields nothing rewrites, and the log grows.
-/

namespace Turbocat.System

open Turbocat.Library Turbocat.Python Turbocat.Connectors Turbocat.Orchestrator Turbocat.Agent

/-- The steps of polls and cron ticks that touch nothing else. -/
def contends : Dispatch.Event → Bool
  | .select _ _ _ => true
  | .commit _ => true
  | .fail _ => true
  | .enqueue _ _ _ => true
  | .reload _ _ => false
  | .respond _ => false
  | .report _ _ => false

/-- What each accepted event does. -/
inductive Takes (platform : Platform) (state : State) : Event → State → Prop
  | start {process} (down : state.schedulers process = none)
    : Takes platform state (.start process)
        { state with
          schedulers := Function.update state.schedulers process
            (some (loadSchedules platform.fromCrontab state.db .empty).1) }
  | stop {process}
    : Takes platform state (.stop process)
        { state with schedulers := Function.update state.schedulers process none }
  | request {process call scheduler} (up : state.schedulers process = some scheduler)
    : Takes platform state (.request process call)
        (state.serve platform process scheduler call)
  | tick {process pipelineId jobId scheduler job dispatch}
    (up : state.schedulers process = some scheduler)
    (found : scheduler.get? pipelineId = some job)
    (stepped
      : Dispatch.step state.dispatch (.enqueue jobId job.pipelineId job.agentId)
        = some dispatch)
    : Takes platform state (.tick process pipelineId jobId) (state.dispatched dispatch)
  | contend {event moved dispatch} (contending : contends moved = true)
    (notEnqueue : ∀ jobId pipelineId agentId, moved ≠ .enqueue jobId pipelineId agentId)
    (stepped : Dispatch.step state.dispatch moved = some dispatch)
    : Takes platform state event (state.dispatched dispatch)
  | reload {pollId jobIds dispatch}
    (stepped : Dispatch.step state.dispatch (.reload pollId jobIds) = some dispatch)
    : Takes platform state (.reload pollId jobIds)
        { state.dispatched dispatch with
          builds := Function.update state.builds pollId ⟨loadedJobs state.db jobIds, []⟩ }
  | build {getFault now loaded remaining connection payload} {poll : Dispatch.Poll}
    {jobIds : List UUID} (member : poll ∈ state.polls.rows)
    (phase : poll.phase = .reloaded jobIds)
    (next : (state.builds poll.pollId).remaining = loaded :: remaining)
    (made
      : buildPayload platform (getSecret state.secrets getFault) now loaded = .ok payload)
    (found : loaded.connection = some connection)
    : Takes platform state (.build poll.pollId getFault now)
        (state.built poll.pollId remaining ⟨connection, payload⟩)
  | respond {dispatch} {poll : Dispatch.Poll} (member : poll ∈ state.polls.rows)
    (done : (state.builds poll.pollId).remaining = [])
    (stepped : Dispatch.step state.dispatch (.respond poll.pollId) = some dispatch)
    : Takes platform state (.respond poll.pollId)
        ((state.dispatched dispatch).answered poll.pollId poll.agentId)
  | work {number env payload} (found : state.waiting[number]? = some payload)
    : Takes platform state (.work number env)
        { state with
          waiting := state.waiting.eraseIdx number
          tasks := ⟨payload, runJob platform.repr env payload⟩ :: state.tasks }
  | act {number payload action rest}
    (found : state.tasks[number]? = some ⟨payload, action :: rest⟩)
    : Takes platform state (.act number) (state.acted number payload rest action)
  | process {number now report db} (found : state.network[number]? = some report)
    (unlocked : state.dispatch.locked report.jobId = false)
    (updated : updateJobStatus state.db report.jobId report.body now = some db)
    : Takes platform state (.process number now)
        { state with
          db
          network := state.network.eraseIdx number
          log := { state.log with reports := report :: state.log.reports } }
  | lose {number}
    : Takes platform state (.lose number)
        { state with waiting := state.waiting.eraseIdx number }
  | crash {number}
    : Takes platform state (.crash number)
        { state with tasks := state.tasks.eraseIdx number }
  -- A report that is dropped, or that the orchestrator answers with an error.
  | drop {event number}
    : Takes platform state event { state with network := state.network.eraseIdx number }

theorem step_takes {platform : Platform} {state next : State} {event : Event}
    (stepped : step platform state event = some next)
    : Takes platform state event next := by
  cases event with
  | start process =>
      simp only [step] at stepped
      split at stepped
      · cases stepped
      · next down =>
          cases stepped
          exact .start down
  | stop process =>
      cases stepped
      exact .stop
  | request process call =>
      obtain ⟨scheduler, up, rfl⟩ := Option.map_eq_some_iff.mp stepped
      exact .request up
  | tick process pipelineId jobId =>
      simp only [step] at stepped
      split at stepped
      · cases stepped
      · next job found =>
          obtain ⟨scheduler, up, scheduled⟩ := Option.bind_eq_some_iff.mp found
          obtain ⟨dispatch, moved, rfl⟩ := Option.map_eq_some_iff.mp stepped
          exact .tick up scheduled moved
  | select pollId agentId jobIds =>
      obtain ⟨dispatch, moved, rfl⟩ := Option.map_eq_some_iff.mp stepped
      exact .contend rfl (by simp) moved
  | commit pollId =>
      obtain ⟨dispatch, moved, rfl⟩ := Option.map_eq_some_iff.mp stepped
      exact .contend rfl (by simp) moved
  | reload pollId jobIds =>
      obtain ⟨dispatch, moved, rfl⟩ := Option.map_eq_some_iff.mp stepped
      exact .reload moved
  | build pollId getFault now =>
      simp only [step] at stepped
      split at stepped
      · next agentId polled jobIds reloaded loaded remaining found turn =>
          obtain ⟨member, rfl⟩ := Table.get?_eq_some_iff.mp found
          split at stepped
          · next payload connection made foundConnection =>
              cases stepped
              exact .build member rfl turn made foundConnection
          · obtain ⟨dispatch, moved, rfl⟩ := Option.map_eq_some_iff.mp stepped
            exact .contend rfl (by simp) moved
      · cases stepped
  | respond pollId =>
      simp only [step] at stepped
      split at stepped
      · next poll found done =>
          obtain ⟨member, rfl⟩ := Table.get?_eq_some_iff.mp found
          obtain ⟨dispatch, moved, rfl⟩ := Option.map_eq_some_iff.mp stepped
          exact .respond member done moved
      · cases stepped
  | abort pollId =>
      obtain ⟨dispatch, moved, rfl⟩ := Option.map_eq_some_iff.mp stepped
      exact .contend rfl (by simp) moved
  | work number env =>
      obtain ⟨payload, found, rfl⟩ := Option.map_eq_some_iff.mp stepped
      exact .work found
  | act number =>
      simp only [step] at stepped
      split at stepped
      · next payload action rest found =>
          cases stepped
          exact .act found
      · cases stepped
  | process number now =>
      simp only [step] at stepped
      split at stepped
      · cases stepped
      · next report found =>
          split at stepped
          · cases stepped
          · next unlocked =>
              split at stepped
              · cases stepped
                exact .drop
              · next db updated =>
                  cases stepped
                  exact .process found (by simpa using unlocked) updated
  | lose number =>
      cases stepped
      exact .lose
  | crash number =>
      cases stepped
      exact .crash
  | drop number =>
      cases stepped
      exact .drop

-----------------------------------------------------------------------------------------
-- What no step undoes
-----------------------------------------------------------------------------------------

/-- Rows stay, with the fields that nothing rewrites. -/
structure DbGrows (db next : Db) : Prop where
  agents : next.agents = db.agents
  connections : Table.Keeps Connection.fixed db.connections next.connections
  pipelines : Table.Keeps Pipeline.fixed db.pipelines next.pipelines
  jobRuns : Table.Keeps JobRun.fixed db.jobRuns next.jobRuns

theorem DbGrows.refl (db : Db) : DbGrows db db :=
  ⟨rfl, .refl _, .refl _, .refl _⟩

theorem DbGrows.trans {first second third : Db} (earlier : DbGrows first second)
    (later : DbGrows second third)
    : DbGrows first third :=
  ⟨later.agents.trans earlier.agents, earlier.connections.trans later.connections,
    earlier.pipelines.trans later.pipelines, earlier.jobRuns.trans later.jobRuns⟩

/-- A request rewrites only what tests and deactivation rewrite, by cases of its effect. -/
theorem handle_grows (platform : Platform) (env : RequestEnv) (backend : Backend)
    (accountId : UUID) (request : ApiRequest)
    : DbGrows backend.db (handle platform env backend accountId request).1.db
      ∧ (handle platform env backend accountId request).1.db.jobRuns = backend.db.jobRuns := by
  have effect := handle_effect platform env backend accountId request
  generalize (handle platform env backend accountId request).1 = next at effect ⊢
  cases effect with
  | unchanged => exact ⟨.refl _, rfl⟩
  | stored _ => exact ⟨.refl _, rfl⟩
  | created _ inserted _ _ _ =>
      have appended := (Table.insert_eq_some_iff.mp inserted).2
      exact ⟨⟨rfl, Table.Keeps.append appended, .refl _, .refl _⟩, rfl⟩
  | @tested connectionId connection status _ _ =>
      exact ⟨⟨rfl, Table.Keeps.modify backend.db.connections connectionId
        (fun row => row.retested status env.now) (fun _ => rfl) (fun _ => rfl), .refl _,
        .refl _⟩, rfl⟩
  | bulk _ _ inserted =>
      obtain ⟨agents, connections, jobRuns, rows, _⟩ := insertPipelines_ok inserted
      refine ⟨⟨agents, ?_, Table.Keeps.append rows, ?_⟩, jobRuns⟩
      · exact connections ▸ .refl _
      · exact jobRuns ▸ .refl _
  | @deactivated pipelineId pipeline _ _ =>
      exact ⟨⟨rfl, .refl _, Table.Keeps.modify backend.db.pipelines pipelineId
        Pipeline.deactivated (fun _ => rfl) (fun _ => rfl), .refl _⟩, rfl⟩

theorem reportJob_keeps (jobRuns : Table JobRun.jobId) (jobId : UUID) (body : StatusUpdate)
    (now : Datetime)
    : Table.Keeps JobRun.fixed jobRuns (reportJob jobRuns jobId body now) :=
  Table.Keeps.modify jobRuns jobId (fun job => job.report body now)
    (fun job => job.report_jobId body now) (fun job => job.report_fixed body now)

/-- A claim, a cron tick or a report leaves job rows with their pipeline and agent. -/
theorem dispatch_keeps {state next : Dispatch.State} {event : Dispatch.Event}
    (stepped : Dispatch.step state event = some next)
    : Table.Keeps JobRun.fixed state.jobRuns next.jobRuns := by
  cases Dispatch.step_takes stepped with
  | select _ _ => exact .refl _
  | @commit poll _ _ =>
      exact Table.Keeps.update state.jobRuns
        (fun job => if job.jobId ∈ poll.jobIds then job.dispatched else job)
        (fun job => by split <;> rfl) (fun job => by split <;> rfl)
  | reload _ _ _ => exact .refl _
  | respond _ _ => exact .refl _
  | fail _ _ _ => exact .refl _
  | enqueue inserted => exact .append (Table.insert_eq_some_iff.mp inserted).2
  | @report report now row _ _ => exact reportJob_keeps state.jobRuns report.jobId report.body now

/-- A report leaves every row with its fixed fields. -/
theorem updateJobStatus_grows {db next : Db} {jobId : UUID} {body : StatusUpdate}
    {now : Datetime} (updated : updateJobStatus db jobId body now = some next)
    : DbGrows db next := by
  obtain ⟨row, _, _, rfl⟩ := updateJobStatus_some updated
  refine ⟨rfl, .refl _, ?_, reportJob_keeps db.jobRuns jobId body now⟩
  dsimp only
  split
  · exact .refl _
  · next state _ =>
      exact Table.Keeps.modify db.pipelines row.pipelineId
        (fun pipeline => pipeline.advanced state) (fun _ => rfl) (fun _ => rfl)

/-- What a step adds to and never takes from. -/
structure Grows (state next : State) : Prop where
  db : DbGrows state.db next.db
  submissions : state.log.submissions ⊆ next.log.submissions
  built : state.log.built ⊆ next.log.built
  answers : state.log.answers ⊆ next.log.answers
  syncs : state.log.syncs ⊆ next.log.syncs
  reports : state.log.reports ⊆ next.log.reports

/-- A step that leaves the log alone. -/
theorem Grows.of_log {state next : State} (db : DbGrows state.db next.db)
    (log : next.log = state.log)
    : Grows state next := by
  constructor
  · exact db
  all_goals
    rw [log]
    exact fun _ member => member

theorem Grows.refl (state : State) : Grows state state := .of_log (.refl _) rfl

theorem Grows.trans {first second third : State} (earlier : Grows first second)
    (later : Grows second third)
    : Grows first third :=
  ⟨earlier.db.trans later.db, List.Subset.trans earlier.submissions later.submissions,
    List.Subset.trans earlier.built later.built,
    List.Subset.trans earlier.answers later.answers,
    List.Subset.trans earlier.syncs later.syncs,
    List.Subset.trans earlier.reports later.reports⟩

/-- A step of polls, ticks or reports grows the database. -/
theorem dispatched_grows {state : State} {event : Dispatch.Event} {dispatch : Dispatch.State}
    (stepped : Dispatch.step state.dispatch event = some dispatch)
    : DbGrows state.db (state.dispatched dispatch).db :=
  ⟨rfl, .refl _, .refl _, dispatch_keeps stepped⟩

/-- Every step grows the state, by cases of the step. -/
theorem step_grows {platform : Platform} {state next : State} {event : Event}
    (stepped : step platform state event = some next)
    : Grows state next := by
  cases step_takes stepped with
  | start _ => exact .of_log (.refl _) rfl
  | stop => exact .of_log (.refl _) rfl
  | @request process call scheduler up =>
      have grows := (handle_grows platform call.env ⟨state.db, state.secrets, scheduler⟩
        call.accountId call.request).1
      exact ⟨grows, List.subset_append_right _ _, List.Subset.refl _, List.Subset.refl _,
        List.Subset.refl _, List.Subset.refl _⟩
  | tick _ _ moved => exact .of_log (dispatched_grows moved) rfl
  | contend _ _ moved => exact .of_log (dispatched_grows moved) rfl
  | reload moved => exact .of_log (dispatched_grows moved) rfl
  | build _ _ _ _ _ =>
      exact ⟨.refl _, List.Subset.refl _, List.subset_cons_self _ _, List.Subset.refl _,
        List.Subset.refl _, List.Subset.refl _⟩
  | respond _ _ moved =>
      exact ⟨dispatched_grows moved, List.Subset.refl _, List.Subset.refl _,
        List.subset_append_right _ _, List.Subset.refl _, List.Subset.refl _⟩
  | work _ => exact .of_log (.refl _) rfl
  | @act number payload action rest found =>
      cases action with
      | report report => exact .of_log (.refl _) rfl
      | synced run =>
          exact ⟨.refl _, List.Subset.refl _, List.Subset.refl _, List.Subset.refl _,
            List.subset_cons_self _ _, List.Subset.refl _⟩
  | process _ _ updated =>
      exact ⟨updateJobStatus_grows updated, List.Subset.refl _, List.Subset.refl _,
        List.Subset.refl _, List.Subset.refl _, List.subset_cons_self _ _⟩
  | lose => exact .of_log (.refl _) rfl
  | crash => exact .of_log (.refl _) rfl
  | drop => exact .of_log (.refl _) rfl

/-- Every run grows the state. -/
theorem run_grows {platform : Platform} {state last : State} {events : List Event}
    (ran : run (step platform) state events = some last)
    : Grows state last :=
  run_relates Grows.refl Grows.trans step_grows ran

/-- Every step is at most one step of the polls, ticks and reports. -/
theorem step_dispatch {platform : Platform} {state next : State} {event : Event}
    (stepped : step platform state event = some next)
    : next.dispatch = state.dispatch
      ∨ ∃ moved, Dispatch.step state.dispatch moved = some next.dispatch := by
  cases step_takes stepped with
  | start _ => exact Or.inl rfl
  | stop => exact Or.inl rfl
  | @request process call scheduler up =>
      refine Or.inl ?_
      have jobRuns := (handle_grows platform call.env ⟨state.db, state.secrets, scheduler⟩
        call.accountId call.request).2
      simp only [State.dispatch, State.serve, Orchestrator.serve, jobRuns]
  | tick _ _ moved => exact Or.inr ⟨_, moved⟩
  | contend _ _ moved => exact Or.inr ⟨_, moved⟩
  | reload moved => exact Or.inr ⟨_, moved⟩
  | build _ _ _ _ _ => exact Or.inl rfl
  | respond _ _ moved => exact Or.inr ⟨_, moved⟩
  | work _ => exact Or.inl rfl
  | @act number payload action rest found => cases action <;> exact Or.inl rfl
  | @process number now report db found unlocked updated =>
      obtain ⟨row, stored, fits, rfl⟩ := updateJobStatus_some updated
      refine Or.inr ⟨.report report now, ?_⟩
      have stored' : state.dispatch.jobRuns.get? report.jobId = some row := stored
      simp only [Dispatch.step, stored', unlocked, fits, Bool.not_false, Bool.and_self,
        if_true]
      rfl
  | lose => exact Or.inl rfl
  | crash => exact Or.inl rfl
  | drop => exact Or.inl rfl

/-- Every step keeps what relates job rows, locks and responses. -/
theorem step_consistent {platform : Platform} {state next : State} {event : Event}
    (consistent : Dispatch.Consistent state.dispatch)
    (stepped : step platform state event = some next)
    : Dispatch.Consistent next.dispatch := by
  rcases step_dispatch stepped with same | ⟨moved, stepped⟩
  · exact same ▸ consistent
  · exact consistent.step stepped

/-- Every run of the system is a run of its polls, ticks and reports. -/
theorem run_dispatch {platform : Platform} {state last : State} {events : List Event}
    (ran : run (step platform) state events = some last)
    : ∃ moves, run Dispatch.step state.dispatch moves = some last.dispatch := by
  refine @run_simulates _ _ _ _ (step platform) Dispatch.step State.dispatch ?_ _ _ _ ran
  intro state event next stepped
  rcases step_dispatch stepped with same | ⟨moved, stepped⟩
  · exact ⟨[], congrArg some same.symm⟩
  · exact ⟨[moved], run_cons_iff.mpr ⟨next.dispatch, stepped, rfl⟩⟩

/-- What relates job rows, locks and responses holds in every reachable state. -/
theorem run_consistent {platform : Platform} {agents : Table Agent.agentId}
    {secrets : SecretStore} {events : List Event} {last : State}
    (ran : run (step platform) (State.initial agents secrets) events = some last)
    : Dispatch.Consistent last.dispatch := by
  obtain ⟨moves, ran⟩ := run_dispatch ran
  exact run_invariant (fun consistent stepped => consistent.step stepped)
    (Dispatch.consistent_initial .empty) ran

end Turbocat.System
