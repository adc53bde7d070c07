import Turbocat.Orchestrator.SessionWrites
import Turbocat.System.JobRows

/-! Status updates that run side by side, as steps over the system: each loads its rows first
and writes changed columns at its commit, and anything may happen in between.
-/

namespace Turbocat.System

open Turbocat.Library Turbocat.Python Turbocat.Connectors Turbocat.Orchestrator Turbocat.Agent

-----------------------------------------------------------------------------------------
-- One "running" report for each job
-----------------------------------------------------------------------------------------

/-- Whether a report tells that a job is running. -/
def beginsJob (jobId : UUID) (report : Report) : Bool :=
  decide (report.jobId = jobId) && !report.terminal

/-- Whether a task is about to report that its job is running. -/
def Task.mayBegin (jobId : UUID) (task : Task) : Bool :=
  decide (task.payload.jobId = jobId)
  && match task.actions with
    | .report report :: _ => !report.terminal
    | _ => false

/-- How often a job has been or may still be reported to be running. -/
def State.beginnings (state : State) (jobId : UUID) : Nat :=
  state.waiting.countP (fun payload => decide (payload.jobId = jobId))
  + state.tasks.countP (Task.mayBegin jobId)
  + state.network.countP (beginsJob jobId)
  + state.log.reports.countP (beginsJob jobId)

section

variable {platform : Platform} {state next : State} {event : Event}

/-- Only the first action of a job reports that it is running. -/
theorem Progress.not_begin {log : Log} {job : JobPayload} {action : Action}
    {rest : List Action} (progress : Progress platform log job (action :: rest)) (jobId : UUID)
    : Task.mayBegin jobId ⟨job, rest⟩ = false := by
  have ended (run : SyncRun)
      : Task.mayBegin jobId ⟨job, [.report (resultReport job run.result)]⟩ = false := by
    simp [Task.mayBegin, (resultReport_terminal job run.result).2]
  generalize actions : action :: rest = all at progress
  cases progress with
  | @started env =>
      unfold runJob at actions
      obtain ⟨_, rfl⟩ := List.cons.inj actions
      cases buildSource platform.repr env job with
      | error exception => simp [Task.mayBegin, unhandledReport, Report.terminal]
      | ok source =>
          dsimp only
          cases syncJob env job source <;> simp [Task.mayBegin]
  | unhandled =>
      cases actions
      simp [Task.mayBegin]
  | synced _ _ =>
      cases actions
      exact ended _
  | reporting _ =>
      cases actions
      simp [Task.mayBegin]
  | done => cases actions

/-- What a task reports of a job's beginning moves from the task to the network. -/
theorem beginnings_act {number : Nat} {payload : JobPayload} {action : Action}
    {rest : List Action} (found : state.tasks[number]? = some ⟨payload, action :: rest⟩)
    (progress : Progress platform state.log payload (action :: rest)) (jobId : UUID)
    : (state.acted number payload rest action).beginnings jobId ≤ state.beginnings jobId := by
  have moved := countP_eraseIdx (Task.mayBegin jobId) found
  have after := progress.not_begin jobId
  cases action with
  | report report =>
      have own := progress.origin.jobId
      have same : Task.mayBegin jobId ⟨payload, .report report :: rest⟩
          = beginsJob jobId report := by
        simp only [Task.mayBegin, beginsJob, own]
      rw [same] at moved
      simp only [State.beginnings, State.acted, List.countP_cons, after, Bool.false_eq_true,
        if_false] at moved ⊢
      omega
  | synced run =>
      simp only [State.beginnings, State.acted, List.countP_cons, after, Bool.false_eq_true,
        if_false] at moved ⊢
      omega

/-- Beginnings of a job are answered payloads that were passed on, by cases of the step. -/
theorem step_beginnings (provenance : Provenance platform state)
    (stepped : step platform state event = some next) (jobId : UUID)
    (bounded : state.beginnings jobId ≤ state.answers jobId)
    : next.beginnings jobId ≤ next.answers jobId := by
  cases step_takes stepped with
  | start _ => exact bounded
  | stop => exact bounded
  | request _ => exact bounded
  | tick _ _ _ => exact bounded
  | contend _ _ _ => exact bounded
  | reload _ => exact bounded
  | build _ _ _ _ _ => exact bounded
  | @respond dispatch poll _ _ _ =>
      have same : ((state.builds poll.pollId).built.map (fun entry => entry.payload)).countP
            (fun payload => decide (payload.jobId = jobId))
          = ((state.builds poll.pollId).built.map
              (fun entry => (⟨poll.agentId, entry⟩ : Answer))).countP
            (fun answer => decide (answer.jobId = jobId)) := by
        rw [List.countP_map, List.countP_map]
        rfl
      simp only [State.beginnings, State.answers, State.answered, State.dispatched,
        List.countP_append] at bounded same ⊢
      omega
  | @work number env payload found =>
      have moved := countP_eraseIdx (fun payload => decide (payload.jobId = jobId)) found
      have same : Task.mayBegin jobId ⟨payload, runJob platform.repr env payload⟩
          = decide (payload.jobId = jobId) := by
        simp [Task.mayBegin, runJob, runningReport, Report.terminal]
      simp only [State.beginnings, State.answers, List.countP_cons, same] at bounded moved ⊢
      omega
  | @act number payload action rest found =>
      have progress := (provenance.tasks _ (List.mem_of_getElem? found)).2
      have fewer := beginnings_act found progress jobId
      have same : (state.acted number payload rest action).answers jobId
          = state.answers jobId := by
        cases action <;> rfl
      omega
  | @process number now report db found _ _ =>
      have moved := countP_eraseIdx (beginsJob jobId) found
      simp only [State.beginnings, State.answers, List.countP_cons] at bounded moved ⊢
      omega
  | @lose number =>
      have fewer := countP_eraseIdx_le state.waiting number
        (fun payload => decide (payload.jobId = jobId))
      simp only [State.beginnings, State.answers] at bounded fewer ⊢
      omega
  | @crash number =>
      have fewer := countP_eraseIdx_le state.tasks number (Task.mayBegin jobId)
      simp only [State.beginnings, State.answers] at bounded fewer ⊢
      omega
  | @drop _ number =>
      have fewer := countP_eraseIdx_le state.network number (beginsJob jobId)
      simp only [State.beginnings, State.answers] at bounded fewer ⊢
      omega

end

-----------------------------------------------------------------------------------------
-- Updates
-----------------------------------------------------------------------------------------

namespace Updates

/-- What the request for a report on its way has loaded. -/
structure Request where
  job : Option JobRun := none
  pipeline : Option Pipeline := none

/-- The system, and the requests under way in the places of their reports. -/
structure State where
  system : System.State
  requests : List Request

def State.initial (agents : Table Agent.agentId) (secrets : SecretStore) : State :=
  ⟨System.State.initial agents secrets, []⟩

inductive Event where
  -- Any step of the system; its `process` is an update with nothing in between.
  | system (event : System.Event)
  -- `db.get(JobRun, job_id)`.
  | load (number : Nat)
  -- `job.pipeline`, for the cursor.
  | loadPipeline (number : Nat)
  | commit (number : Nat) (now : Datetime)

/-- What a step makes of things that stand in the places of the reports on their way. -/
def follow {α : Type} (posted : Report → α) (state : System.State) (event : System.Event)
    (items : List α)
    : List α :=
  match event with
  | .act number =>
      match state.tasks[number]? with
      | some ⟨_, .report report :: _⟩ => posted report :: items
      | _ => items
  | .process number _ => items.eraseIdx number
  | .drop number => items.eraseIdx number
  | _ => items

/-- The system after the commit of a report in the network, whose columns may not take it. -/
def committed (system : System.State) (number : Nat) (report : Report) (job : JobRun)
    (pipeline : Option Pipeline) (now : Datetime)
    : System.State :=
  let network := system.network.eraseIdx number
  if report.body.fits then
    { system with
      db := system.db.commitReport job pipeline report.body now
      network
      log := { system.log with reports := report :: system.log.reports } }
  else { system with network }

/-- One step, or nothing where the event cannot happen. A commit waits for the lock of its
row.
-/
def step (platform : Platform) (state : State) : Event → Option State
  | .system event =>
      (System.step platform state.system event).map
        (fun system => ⟨system, follow (fun _ => {}) state.system event state.requests⟩)
  | .load number =>
      match state.system.network[number]?, state.requests[number]? with
      | some report, some ⟨none, _⟩ =>
          (state.system.db.jobRuns.get? report.jobId).map
            (fun job =>
              { state with requests := state.requests.set number ⟨some job, none⟩ })
      | _, _ => none
  | .loadPipeline number =>
      match state.system.network[number]?, state.requests[number]? with
      | some report, some ⟨some job, none⟩ =>
          if report.body.cursor.isSome then
            (state.system.db.pipelines.get? job.pipelineId).map
              (fun pipeline =>
                { state with requests := state.requests.set number ⟨some job, some pipeline⟩ })
          else none
      | _, _ => none
  | .commit number now =>
      match state.system.network[number]?, state.requests[number]? with
      | some report, some ⟨some job, pipeline⟩ =>
          if state.system.dispatch.locked report.jobId
            || (report.body.cursor.isSome && pipeline.isNone) then none
          else
            some ⟨committed state.system number report job pipeline now,
              state.requests.eraseIdx number⟩
      | _, _ => none

/-- The step of the system an event stands for: an update happens at its commit. -/
def Event.atomic : Event → Option System.Event
  | .system event => some event
  | .load _ => none
  | .loadPipeline _ => none
  | .commit number now => some (.process number now)

/-- A "running" report was overtaken: its request has loaded a row that showed no outcome, and
the row shows one by now.
-/
def Overtaken (system : System.State) (report : Report) (job : JobRun) : Prop :=
  report.status = .running
  ∧ ¬ job.Terminal
  ∧ ∃ row, system.db.jobRuns.get? report.jobId = some row ∧ row.Terminal

/-- A success is stale: its cursor is the one its request has loaded, and another one is stored
by now.
-/
def Stale (system : System.State) (report : Report) (job : JobRun) (pipeline : Option Pipeline)
    : Prop :=
  report.body.fits = true
  ∧ ∃ cursor loaded stored,
      report.body.cursor = some cursor
      ∧ pipeline = some loaded
      ∧ loaded.unchangedBy cursor = true
      ∧ system.db.pipelines.get? job.pipelineId = some stored
      ∧ stored.state ≠ some cursor

/-- An update that is committed was neither overtaken nor is it stale. -/
def Timely (state : State) : Event → Prop
  | .commit number _ =>
      ∀ report ∈ state.system.network[number]?, ∀ request ∈ state.requests[number]?,
        ∀ job ∈ request.job,
          ¬ Overtaken state.system report job
          ∧ ¬ Stale state.system report job request.pipeline
  | _ => True

end Updates

end Turbocat.System
