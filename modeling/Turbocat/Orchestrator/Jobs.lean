import Turbocat.Orchestrator.Secrets
import Turbocat.Orchestrator.Scheduler

/-! The two endpoints agents use: claiming pending jobs and reporting on them. -/

namespace Turbocat.Orchestrator

open Turbocat.Library Turbocat.Python

/-- What the orchestrator takes from its libraries. -/
structure Platform where
  reader : IsoReader
  repr : String → String
  fromCrontab : FromCrontab

/-- Libraries that read only what the orchestrator itself writes, and every schedule. -/
def Platform.written : Platform :=
  {
    reader := IsoReader.written
    repr := fun text => "'" ++ text ++ "'"
    fromCrontab := fun _ => .ok ()
  }

/-- What an agent is sent to run a job. -/
structure JobPayload where
  jobId : UUID
  pipelineId : UUID
  connector : String
  params : Dict
  credentials : Dict
  startTime : Option Datetime
  endTime : Option Datetime
  state : Dict
  deriving Repr

/-- What an agent reports about a job. -/
structure StatusUpdate where
  status : String
  rowsSynced : Option Int := none
  error : Option String := none
  nextState : Option Dict := none
  deriving Repr

/-- The statuses an agent reports. -/
inductive ReportStatus where
  | running
  | success
  | failed
  deriving DecidableEq, Repr

def ReportStatus.jobStatus : ReportStatus → JobStatus
  | running => .running
  | success => .success
  | failed => .failed

/-- The arguments of an agent's `report_status` call. -/
structure Report where
  jobId : UUID
  status : ReportStatus
  rowsSynced : Option Int := none
  error : Option String := none
  nextState : Option Dict := none
  deriving Repr

/-- The body the call posts. -/
def Report.body (report : Report) : StatusUpdate :=
  ⟨report.status.jobStatus.value, report.rowsSynced, report.error, report.nextState⟩

/-- Whether a report tells how its job ended. -/
def Report.terminal (report : Report) : Bool := decide (report.status ≠ .running)

/-- No report makes a job pending. -/
theorem Report.body_not_pending (report : Report)
    : report.body.status ≠ JobStatus.pending.value := by
  intro same
  have pending := JobStatus.value_inj same
  cases status : report.status <;> rw [status] at pending <;> cases pending

/-- The filter of the locking select. -/
def isPendingFor (agentId : UUID) (job : JobRun) : Bool :=
  decide (job.agentId = agentId ∧ job.status = JobStatus.pending.value)

/-- `job.status = JobStatus.DISPATCHED`. -/
def JobRun.dispatched (job : JobRun) : JobRun :=
  { job with status := JobStatus.dispatched.value }

theorem JobRun.dispatched_not_pending (job : JobRun)
    : job.dispatched.status ≠ JobStatus.pending.value := by
  intro same
  have pending : JobStatus.dispatched.value = JobStatus.pending.value := same
  exact absurd pending (by decide)

/-- The committed claim of some jobs. -/
def markDispatched (jobRuns : Table JobRun.jobId) (jobIds : List UUID) : Table JobRun.jobId :=
  jobRuns.update (fun job => if job.jobId ∈ jobIds then job.dispatched else job)
    (fun job => by split <;> rfl)

/-- A job with the rows its relationships load. -/
structure LoadedJob where
  job : JobRun
  pipeline : Option Pipeline
  connection : Option Connection

/-- `joinedload(JobRun.pipeline).joinedload(Pipeline.connection)`. -/
def Db.load (db : Db) (job : JobRun) : LoadedJob :=
  let pipeline := db.pipelines.get? job.pipelineId
  ⟨job, pipeline, pipeline.bind (fun pipeline => db.connections.get? pipeline.connectionId)⟩

/-- The reload of the claimed jobs, in the order of the table. -/
def Db.reload (db : Db) (jobIds : List UUID) : List LoadedJob :=
  (db.jobRuns.rows.filter (fun job => decide (job.jobId ∈ jobIds))).map db.load

/-- `params.get("lookback_days", 7)`. -/
def lookbackDaysOf (params : Dict) : Json := (params.lookup "lookback_days").getD (.int 7)

/-- `job.pipeline.params.get("lookback_days", 7)`. -/
def Pipeline.lookbackDays (pipeline : Pipeline) : Json := lookbackDaysOf pipeline.params

/-- `job.pipeline.state or {}`. -/
def Pipeline.pipelineState (pipeline : Pipeline) : Dict := pipeline.state.getD []

/-- `datetime.fromisoformat(value)`. -/
def fromisoformat (platform : Platform) (value : Json) : Except PyException Datetime :=
  match value with
  | .str text =>
      match platform.reader.fromisoformat text with
      | some time => .ok time
      | none =>
          .error ⟨.valueError, "Invalid isoformat string: " ++ platform.repr text⟩
  | _ => .error ⟨.typeError, "fromisoformat: argument must be str"⟩

/-- The start of a job's window: the cursor less the lookback, or nothing on a first run. -/
def windowStart (platform : Platform) (pipeline : Pipeline)
    : Except PyException (Option Datetime) :=
  let lastSyncAt := Json.getOrNone pipeline.pipelineState "last_sync_at"
  if lastSyncAt.truthy then do
    let lastSync ← fromisoformat platform lastSyncAt
    let lookback ← timedelta pipeline.lookbackDays
    return some (← lastSync.sub lookback)
  else return none

/-- Whether a value is a text. -/
def isText : Json → Bool
  | .str _ => true
  | _ => false

/-- The payload model's check of `credentials: dict[str, str]`. -/
def validateCredentials (credentials : Json) : Except PyException Dict :=
  match credentials with
  | .dict entries =>
      if entries.all (fun entry => isText entry.2) then .ok entries
      else .error ⟨.validationError, "credentials"⟩
  | _ => .error ⟨.validationError, "credentials"⟩

/-- The payload of one claimed job, at a clock reading and with the secrets as they are. -/
def buildPayload (platform : Platform) (fetch : String → Except PyException Json)
    (now : Datetime) (loaded : LoadedJob)
    : Except PyException JobPayload :=
  match loaded.pipeline with
  | none => .error (.noAttribute .null "state")
  | some pipeline => do
      let startTime ← windowStart platform pipeline
      match loaded.connection with
      | none => .error (.noAttribute .null "secret_ref")
      | some connection => do
          let secret ← fetch connection.secretRef
          let credentials ← validateCredentials secret
          return {
            jobId := loaded.job.jobId
            pipelineId := loaded.job.pipelineId
            connector := pipeline.connector
            params := pipeline.params
            credentials := credentials
            startTime := startTime
            endTime := some now
            state := pipeline.pipelineState
          }

/-- The loop over the reloaded jobs, from the one with a given number on. -/
def buildPayloads (platform : Platform) (fetch : Nat → String → Except PyException Json)
    (clock : Nat → Datetime)
    : Nat → List LoadedJob → Except PyException (List JobPayload)
  | _, [] => .ok []
  | number, loaded :: rest => do
      let payload ← buildPayload platform (fetch number) (clock number) loaded
      return payload :: (← buildPayloads platform fetch clock (number + 1) rest)

/-- What one call of `get_pending_jobs` meets: the rows other transactions hold, failures of
its commit and of its reload, and the clock reading and secret fetch of each job.
-/
structure PollEnv where
  locked : UUID → Bool := fun _ => false
  commitFault : Option PyException := none
  reloadFault : Option PyException := none
  clock : Nat → Datetime
  fetch : Nat → String → Except PyException Json

/-- The jobs a poll selects. -/
def selectedJobs (env : PollEnv) (db : Db) (agentId : UUID) : List JobRun :=
  db.jobRuns.rows.filter (fun job => isPendingFor agentId job && !env.locked job.jobId)

/-- `get_pending_jobs`, run without other requests in between. The claim is committed before
the first payload is built.
-/
def getPendingJobs (platform : Platform) (env : PollEnv) (db : Db) (agentId : UUID)
    : Db × Except PyException (List JobPayload) :=
  let jobs := selectedJobs env db agentId
  if jobs.isEmpty then (db, .ok [])
  else
    let jobIds := jobs.map (fun job => job.jobId)
    match env.commitFault with
    | some exception => (db, .error exception)
    | none =>
        let claimed := { db with jobRuns := markDispatched db.jobRuns jobIds }
        match env.reloadFault with
        | some exception => (claimed, .error exception)
        | none =>
            (claimed, buildPayloads platform env.fetch env.clock 0 (claimed.reload jobIds))

-----------------------------------------------------------------------------------------
-- Reporting
-----------------------------------------------------------------------------------------

/-- The row after a report, at a clock reading. -/
def JobRun.report (job : JobRun) (body : StatusUpdate) (now : Datetime) : JobRun :=
  let job :=
    { job with status := body.status, rowsSynced := body.rowsSynced, error := body.error }
  if body.status = JobStatus.running.value ∧ job.startedAt.isNone then
    { job with startedAt := some now }
  else if body.status = JobStatus.success.value ∨ body.status = JobStatus.failed.value then
    { job with completedAt := some now }
  else job

@[simp]
theorem JobRun.report_jobId (job : JobRun) (body : StatusUpdate) (now : Datetime)
    : (job.report body now).jobId = job.jobId := by
  unfold JobRun.report
  dsimp only
  split
  · rfl
  · split <;> rfl

/-- A report leaves the row with its pipeline and its agent. -/
theorem JobRun.report_fixed (job : JobRun) (body : StatusUpdate) (now : Datetime)
    : (job.report body now).fixed = job.fixed := by
  unfold JobRun.report
  dsimp only
  split
  · rfl
  · split <;> rfl

theorem JobRun.report_status (job : JobRun) (body : StatusUpdate) (now : Datetime)
    : (job.report body now).status = body.status := by
  unfold JobRun.report
  dsimp only
  split
  · rfl
  · split <;> rfl

/-- The cursor a report sets: only a success with a `next_state` that is not empty. -/
def StatusUpdate.cursor (body : StatusUpdate) : Option Dict :=
  if body.status = JobStatus.success.value then body.nextState.filter (fun state => !state.isEmpty)
  else none

/-- A report that sets a cursor is a success and carries it. -/
theorem Report.cursor_some {report : Report} {state : Dict}
    (sets : report.body.cursor = some state)
    : report.status = .success ∧ report.nextState = some state := by
  unfold StatusUpdate.cursor at sets
  split at sets
  · next success =>
      have status := JobStatus.value_inj success
      refine ⟨?_, (Option.filter_eq_some_iff.mp sets).1⟩
      cases same : report.status with
      | success => rfl
      | running =>
          rw [same] at status
          cases status
      | failed =>
          rw [same] at status
          cases status
  · cases sets

/-- The range of an `Integer` column. -/
def integerColumn (value : Int) : Bool := decide (-2147483648 ≤ value ∧ value ≤ 2147483647)

/-- What the job's columns take: a status of at most 20 characters and a 32-bit count. -/
def StatusUpdate.fits (body : StatusUpdate) : Bool :=
  decide (body.status.length ≤ 20) && body.rowsSynced.all integerColumn

/-- The job's row after a report. -/
def reportJob (jobRuns : Table JobRun.jobId) (jobId : UUID) (body : StatusUpdate)
    (now : Datetime)
    : Table JobRun.jobId :=
  jobRuns.modify jobId (fun job => job.report body now) (fun job => job.report_jobId body now)

/-- `job.pipeline.state = body.next_state`. -/
def Pipeline.advanced (pipeline : Pipeline) (state : Dict) : Pipeline :=
  { pipeline with state := some state }

/-- `update_job_status`: nothing for an unknown job or a report the columns do not take. -/
def updateJobStatus (db : Db) (jobId : UUID) (body : StatusUpdate) (now : Datetime)
    : Option Db :=
  match db.jobRuns.get? jobId with
  | none => none
  | some job =>
      if body.fits then
        some { db with
          jobRuns := reportJob db.jobRuns jobId body now
          pipelines :=
            match body.cursor with
            | none => db.pipelines
            | some state =>
                db.pipelines.modify job.pipelineId
                  (fun pipeline => pipeline.advanced state) (fun _ => rfl) }
      else none

/-- What an accepted report changes. -/
theorem updateJobStatus_some {db next : Db} {jobId : UUID} {body : StatusUpdate}
    {now : Datetime} (updated : updateJobStatus db jobId body now = some next)
    : ∃ row,
        db.jobRuns.get? jobId = some row
        ∧ body.fits = true
        ∧ next
          = { db with
              jobRuns := reportJob db.jobRuns jobId body now
              pipelines :=
                match body.cursor with
                | none => db.pipelines
                | some state =>
                    db.pipelines.modify row.pipelineId
                      (fun pipeline => pipeline.advanced state) (fun _ => rfl) } := by
  unfold updateJobStatus at updated
  split at updated
  · cases updated
  · next row found =>
      split at updated
      · next fits =>
          cases updated
          exact ⟨row, found, fits, rfl⟩
      · cases updated

-----------------------------------------------------------------------------------------
-- When a payload can be built
-----------------------------------------------------------------------------------------

/-- A window has no start on a first run; otherwise its start is the cursor less the
lookback.
-/
theorem windowStart_ok_iff {platform : Platform} {pipeline : Pipeline}
    {start : Option Datetime}
    : windowStart platform pipeline = .ok start
      ↔ let lastSyncAt := Json.getOrNone pipeline.pipelineState "last_sync_at"
        (lastSyncAt.truthy = false ∧ start = none)
        ∨ (lastSyncAt.truthy = true
          ∧ ∃ lastSync lookback earlier,
              fromisoformat platform lastSyncAt = .ok lastSync
              ∧ timedelta pipeline.lookbackDays = .ok lookback
              ∧ lastSync.sub lookback = .ok earlier
              ∧ start = some earlier) := by
  unfold windowStart
  dsimp only
  cases truthy : (Json.getOrNone pipeline.pipelineState "last_sync_at").truthy with
  | false => simp [pure, Except.pure, eq_comm]
  | true =>
      simp only [if_true, bind_eq_ok_iff, Bool.true_eq_false, false_and, true_and, false_or,
        pure, Except.pure, Except.ok.injEq]
      constructor
      · intro started
        obtain ⟨lastSync, read, lookback, made, earlier, moved, rfl⟩ := started
        exact ⟨lastSync, lookback, earlier, read, made, moved, rfl⟩
      · intro started
        obtain ⟨lastSync, lookback, earlier, read, made, moved, rfl⟩ := started
        exact ⟨lastSync, read, lookback, made, earlier, moved, rfl⟩

/-- A text is read as the reader reads it; nothing else is. -/
theorem fromisoformat_ok_iff {platform : Platform} {value : Json} {time : Datetime}
    : fromisoformat platform value = .ok time
      ↔ ∃ text, value = .str text ∧ platform.reader.fromisoformat text = some time := by
  cases value with
  | str text =>
      unfold fromisoformat
      cases read : platform.reader.fromisoformat text <;> simp [read]
  | null | bool _ | int _ | float _ | list _ | dict _ => simp [fromisoformat]

/-- Credentials are an object of texts. -/
theorem validateCredentials_ok_iff {secret : Json} {credentials : Dict}
    : validateCredentials secret = .ok credentials
      ↔ secret = .dict credentials ∧ ∀ entry ∈ credentials, isText entry.2 = true := by
  cases secret with
  | dict entries =>
      unfold validateCredentials
      dsimp only
      by_cases texts : entries.all (fun entry => isText entry.2) = true
      · rw [if_pos texts]
        constructor
        · intro same
          cases same
          exact ⟨rfl, List.all_eq_true.mp texts⟩
        · intro both
          obtain ⟨same, _⟩ := both
          cases same
          rfl
      · rw [if_neg texts]
        constructor
        · exact fun failed => nomatch failed
        · intro both
          obtain ⟨same, all⟩ := both
          cases same
          exact absurd (List.all_eq_true.mpr all) texts
  | null | bool _ | int _ | float _ | str _ | list _ => simp [validateCredentials]

/-- A payload holds the loaded rows, the fetched credentials and the window they give. -/
theorem buildPayload_ok_iff {platform : Platform} {fetch : String → Except PyException Json}
    {now : Datetime} {loaded : LoadedJob} {payload : JobPayload}
    : buildPayload platform fetch now loaded = .ok payload
      ↔ ∃ pipeline connection start credentials,
          loaded.pipeline = some pipeline
          ∧ loaded.connection = some connection
          ∧ windowStart platform pipeline = .ok start
          ∧ fetch connection.secretRef = .ok (.dict credentials)
          ∧ (∀ entry ∈ credentials, isText entry.2 = true)
          ∧ payload
            = {
                jobId := loaded.job.jobId
                pipelineId := loaded.job.pipelineId
                connector := pipeline.connector
                params := pipeline.params
                credentials := credentials
                startTime := start
                endTime := some now
                state := pipeline.pipelineState
              } := by
  unfold buildPayload
  cases loaded.pipeline with
  | none => simp
  | some pipeline =>
      simp only [bind_eq_ok_iff]
      cases loaded.connection with
      | none => simp
      | some connection =>
          simp only [bind_eq_ok_iff, validateCredentials_ok_iff, pure, Except.pure,
            Except.ok.injEq, Option.some.injEq]
          constructor
          · intro steps
            obtain ⟨start, window, secret, fetched, credentials, ⟨rfl, texts⟩, rfl⟩ := steps
            exact ⟨pipeline, connection, start, credentials, rfl, rfl, window, fetched, texts, rfl⟩
          · intro made
            obtain ⟨_, _, start, credentials, rfl, rfl, window, fetched, texts, rfl⟩ := made
            exact ⟨start, window, _, fetched, credentials, ⟨rfl, texts⟩, rfl⟩

/-- The loop returns exactly when it can build each payload, by induction over the jobs. -/
theorem buildPayloads_returns_iff {platform : Platform}
    {fetch : Nat → String → Except PyException Json} {clock : Nat → Datetime} {number : Nat}
    {jobs : List LoadedJob}
    : (∃ payloads, buildPayloads platform fetch clock number jobs = .ok payloads)
      ↔ ∀ position loaded, jobs[position]? = some loaded →
          ∃ payload,
            buildPayload platform (fetch (number + position)) (clock (number + position)) loaded
              = .ok payload := by
  induction jobs generalizing number with
  | nil => simp [buildPayloads]
  | cons first rest ih =>
      simp only [buildPayloads, bind_eq_ok_iff, pure, Except.pure]
      constructor
      · intro all position loaded found
        obtain ⟨_, payload, built, payloads, later, _⟩ := all
        cases position with
        | zero =>
            cases found
            exact ⟨payload, built⟩
        | succ position =>
            have shift : number + (position + 1) = number + 1 + position := by omega
            rw [shift]
            exact ih.mp ⟨payloads, later⟩ position loaded found
      · intro each
        obtain ⟨payload, built⟩ := each 0 first rfl
        obtain ⟨payloads, later⟩ := ih.mpr (fun position loaded found => by
          have shift : number + 1 + position = number + (position + 1) := by omega
          rw [shift]
          exact each (position + 1) loaded found)
        exact ⟨_, payload, built, payloads, later, rfl⟩

@[simp]
theorem JobRun.dispatched_jobId (job : JobRun) : job.dispatched.jobId = job.jobId := rfl

@[simp]
theorem get?_markDispatched (jobRuns : Table JobRun.jobId) (jobIds : List UUID) (jobId : UUID)
    : (markDispatched jobRuns jobIds).get? jobId
      = (jobRuns.get? jobId).map
          (fun job => if job.jobId ∈ jobIds then job.dispatched else job) :=
  Table.get?_update _ _ _ _

/-- A row after a claim is the row it was before, dispatched when it was claimed. -/
theorem get?_markDispatched_eq_some_iff {jobRuns : Table JobRun.jobId} {jobIds : List UUID}
    {jobId : UUID} {job : JobRun}
    : (markDispatched jobRuns jobIds).get? jobId = some job
      ↔ ∃ old, jobRuns.get? jobId = some old
          ∧ job = if jobId ∈ jobIds then old.dispatched else old := by
  rw [get?_markDispatched, Option.map_eq_some_iff]
  constructor
  · intro listed
    obtain ⟨old, found, rfl⟩ := listed
    exact ⟨old, found, by rw [Table.key_of_get? found]⟩
  · intro listed
    obtain ⟨old, found, rfl⟩ := listed
    exact ⟨old, found, by rw [Table.key_of_get? found]⟩

end Turbocat.Orchestrator
