import Turbocat.Connectors.Registry
import Turbocat.Connectors.Sync
import Turbocat.Orchestrator.Jobs

/-! `run_job`: one sync job as the list of what it does that others can see. A status report
that fails is not raised, so the job goes on to its next action.
-/

namespace Turbocat.Agent

open Turbocat.Python Turbocat.Connectors Turbocat.Orchestrator

/-- What a job meets: how the class of its connector is configured and built, the
destination, and what its sync reads and loads.
-/
structure JobEnv where
  configure : ConnectorClass → Dict → Except PyException KaptureTickets.Config
  destination : Except PyException Unit
  host : Host
  now : Datetime
  clock : Nat → Datetime
  replies : List Reply
  load : Load

/-- A visible action of a job. -/
inductive Action where
  | report (report : Report)
  | synced (run : SyncRun)

/-- The source connector of a job, with its destination. -/
def buildSource (repr : String → String) (env : JobEnv) (job : JobPayload)
    : Except PyException (ConnectorClass × KaptureTickets.Config) := do
  let cls ← lookup repr job.connector
  -- Credentials win over parameters of the same name.
  let config ← env.configure cls (mergeDicts job.params job.credentials)
  env.destination
  return (cls, config)

/-- `source.sync(destination, start_time, end_time, state)` for a job's window. -/
def syncJob (env : JobEnv) (job : JobPayload) (source : ConnectorClass × KaptureTickets.Config)
    : Option SyncRun :=
  let extractEnv : ExtractEnv := ⟨env.host, source.2, env.now, env.clock⟩
  sync source.1.getSchema
    (source.1.extract extractEnv job.startTime job.endTime env.replies)
    env.load job.endTime (if job.state.isEmpty then none else some job.state)

def runningReport (job : JobPayload) : Report := { jobId := job.jobId, status := .running }

/-- The report of a job whose source or destination could not be built. -/
def unhandledReport (job : JobPayload) (exception : PyException) : Report :=
  { jobId := job.jobId, status := .failed, error := some exception.message }

/-- The report of a job whose sync returned. -/
def resultReport (job : JobPayload) (result : SyncResult) : Report :=
  match result.status with
  | .success =>
      {
        jobId := job.jobId
        status := .success
        rowsSynced := some result.recordsLoaded
        nextState := if result.nextState.isEmpty then none else some result.nextState
      }
  | .error =>
      {
        jobId := job.jobId
        status := .failed
        rowsSynced := some result.recordsLoaded
        error := result.error
      }

/-- `run_job`; a sync that waits for a reply has nothing after its first report. -/
def runJob (repr : String → String) (env : JobEnv) (job : JobPayload) : List Action :=
  .report (runningReport job)
    :: match buildSource repr env job with
      | .error exception => [.report (unhandledReport job exception)]
      | .ok source =>
          match syncJob env job source with
          | none => []
          | some run => [.synced run, .report (resultReport job run.result)]

/-- Whether `run_job` returns: its sync does not wait for a reply. -/
def returns (repr : String → String) (env : JobEnv) (job : JobPayload) : Bool :=
  match buildSource repr env job with
  | .error _ => true
  | .ok source => (syncJob env job source).isSome

/-- The status reports among some actions. -/
def reportsOf (actions : List Action) : List Report :=
  actions.filterMap
    (fun action =>
      match action with
      | .report report => some report
      | .synced _ => none)

theorem resultReport_terminal (job : JobPayload) (result : SyncResult)
    : (resultReport job result).jobId = job.jobId
      ∧ (resultReport job result).terminal = true := by
  unfold resultReport
  cases result.status with
  | success => exact ⟨rfl, rfl⟩
  | error => exact ⟨rfl, rfl⟩

/-- A job that returns has tried to report how it ended. -/
theorem runJob_reports_end {repr : String → String} {env : JobEnv} {job : JobPayload}
    (returned : returns repr env job = true)
    : ∃ report ∈ reportsOf (runJob repr env job),
        report.jobId = job.jobId ∧ report.terminal = true := by
  unfold returns at returned
  unfold runJob
  cases built : buildSource repr env job with
  | error exception =>
      exact ⟨unhandledReport job exception, List.mem_cons_of_mem _ List.mem_cons_self, rfl,
        rfl⟩
  | ok source =>
      simp only [built] at returned
      obtain ⟨run, synced⟩ := Option.isSome_iff_exists.mp returned
      simp only [synced]
      exact ⟨resultReport job run.result, List.mem_cons_of_mem _ List.mem_cons_self,
        resultReport_terminal job run.result⟩

/-- A successful sync of a job, as its own window and cursor determine it. -/
theorem syncJob_success {env : JobEnv} {job : JobPayload}
    {source : ConnectorClass × KaptureTickets.Config} {run : SyncRun}
    (returned : syncJob env job source = some run) (success : run.result.status = .success)
    {endTime : Datetime} (ends : job.endTime = some endTime)
    : run.result.nextState = [("last_sync_at", .str endTime.isoformat)] := by
  obtain ⟨_, _, next⟩ := sync_success returned success
  rw [next, ends]
  rfl

end Turbocat.Agent
