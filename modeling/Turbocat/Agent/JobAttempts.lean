import Turbocat.Agent.Executor
import Turbocat.Library.Effects

/-! `run_job` when anything it calls may raise: the calls it attempts, in order, and how each
of them ends. Reporting is one of these calls.
-/

namespace Turbocat.Agent.Attempts

open Turbocat.Library Turbocat.Python Turbocat.Connectors Turbocat.Orchestrator

/-- A call `run_job` attempts, with its arguments. -/
inductive Attempt (Class Config Source Destination : Type) where
  | report (report : Report)
  | lookup (connector : String)
  | configure (cls : Class) (arguments : Dict)
  | construct (cls : Class) (config : Config)
  | connect
  | sync (source : Source) (destination : Destination) (startTime endTime : Option Datetime)
    (state : Option Dict)

/-- How each call ends: with a value or an exception. The class stands for the pair of a
connector and its configuration class that `lookup` returns.
-/
structure Collaborators (Class Config Source Destination : Type) where
  reportStatus : Report → Except PyException Unit
  lookup : String → Except PyException Class
  configure : Class → Dict → Except PyException Config
  construct : Class → Config → Except PyException Source
  connect : Except PyException Destination
  sync
    : Source → Destination → Option Datetime → Option Datetime → Option Dict
      → Except PyException SyncResult

/-- `job.state or None`. -/
def syncState (job : JobPayload) : Option Dict :=
  if job.state.isEmpty then none else some job.state

section

variable {Class Config Source Destination : Type}

/-- A part of a job. -/
abbrev Job (Class Config Source Destination α : Type) :=
  Traced PyException (Attempt Class Config Source Destination) α

section

variable (env : Collaborators Class Config Source Destination) (job : JobPayload)

/-- `_safe_report`. -/
def safeReport (report : Report) : Job Class Config Source Destination Unit :=
  tryCatch (attempt (.report report) (env.reportStatus report)) (fun _ => return ())

/-- The body of the second `try` block. -/
def buildAndSync : Job Class Config Source Destination SyncResult := do
  let cls ← attempt (.lookup job.connector) (env.lookup job.connector)
  let merged := mergeDicts job.params job.credentials
  let config ← attempt (.configure cls merged) (env.configure cls merged)
  let source ← attempt (.construct cls config) (env.construct cls config)
  let destination ← attempt .connect env.connect
  attempt (.sync source destination job.startTime job.endTime (syncState job))
    (env.sync source destination job.startTime job.endTime (syncState job))

/-- `run_job`. -/
def runJob : Job Class Config Source Destination Unit := do
  tryCatch (attempt (.report (runningReport job)) (env.reportStatus (runningReport job)))
    (fun _ => return ())
  let ended ← tryCatch (Except.ok <$> buildAndSync env job)
    (fun exception => return Except.error exception)
  match ended with
  | .error exception => safeReport env (unhandledReport job exception)
  | .ok result => safeReport env (resultReport job result)

end

variable {env : Collaborators Class Config Source Destination} {job : JobPayload}

/-- A report is attempted, and what it raises goes no further. -/
theorem safeReport_ends (report : Report)
    : Ends (safeReport env report) [.report report] (.ok ()) := by
  unfold safeReport
  cases ended : env.reportStatus report with
  | ok _ => exact Ends.tryCatch (Ends.attempt _ _)
  | error exception => exact Ends.tryCatch_raised (Ends.attempt _ _) (Ends.pure ())

/-- How the body of the second `try` block ends, by how its calls end. -/
def outcomeOf (env : Collaborators Class Config Source Destination) (job : JobPayload)
    : Except PyException SyncResult := do
  let cls ← env.lookup job.connector
  let config ← env.configure cls (mergeDicts job.params job.credentials)
  let source ← env.construct cls config
  let destination ← env.connect
  env.sync source destination job.startTime job.endTime (syncState job)

/-- How a part of the second `try` block ends: it attempts no report, it syncs nothing but the
job's own window, and it returns exactly what a sync it attempts returns.
-/
structure BuildEnds (env : Collaborators Class Config Source Destination) (job : JobPayload)
    (part : Job Class Config Source Destination SyncResult)
    (steps : List (Attempt Class Config Source Destination))
    (outcome : Except PyException SyncResult)
    : Prop where
  ends : Ends part steps outcome
  silent : ∀ report, .report report ∉ steps
  window
    : ∀ source destination startTime endTime state,
        .sync source destination startTime endTime state ∈ steps
        → startTime = job.startTime ∧ endTime = job.endTime ∧ state = syncState job
  synced
    : ∀ result,
        outcome = .ok result
        ↔ ∃ source destination startTime endTime state,
            .sync source destination startTime endTime state ∈ steps
            ∧ env.sync source destination startTime endTime state = .ok result

/-- A call before the sync: what it raises ends the block. -/
theorem BuildEnds.attempt_bind {α : Type} {call : Attempt Class Config Source Destination}
    {ended : Except PyException α} {next : α → Job Class Config Source Destination SyncResult}
    {outcome : α → Except PyException SyncResult}
    (silent : ∀ report, call ≠ .report report)
    (early : ∀ source destination startTime endTime state,
      call ≠ .sync source destination startTime endTime state)
    (rest : ∀ value, ∃ steps, BuildEnds env job (next value) steps (outcome value))
    : ∃ steps, BuildEnds env job (attempt call ended >>= next) steps (ended >>= outcome) := by
  cases ended with
  | error exception =>
      refine ⟨[call], Ends.attempt_raised, ?_, ?_, ?_⟩
      · intro report reported
        exact silent report (List.mem_singleton.mp reported).symm
      · intro source destination startTime endTime state synced
        exact absurd (List.mem_singleton.mp synced).symm (early _ _ _ _ _)
      · intro result
        constructor
        · intro returned
          nomatch returned
        · rintro ⟨source, destination, startTime, endTime, state, synced, _⟩
          exact absurd (List.mem_singleton.mp synced).symm (early _ _ _ _ _)
  | ok value =>
      obtain ⟨steps, ends, unreported, window, synced⟩ := rest value
      have later : ∀ source destination startTime endTime state,
          .sync source destination startTime endTime state ∈ call :: steps
          → .sync source destination startTime endTime state ∈ steps := by
        intro source destination startTime endTime state attempted
        rcases List.mem_cons.mp attempted with here | later
        · exact absurd here.symm (early _ _ _ _ _)
        · exact later
      refine ⟨call :: steps, Ends.attempt_bind ends, ?_, ?_, ?_⟩
      · intro report reported
        rcases List.mem_cons.mp reported with here | later
        · exact silent report here.symm
        · exact unreported report later
      · intro source destination startTime endTime state attempted
        exact window _ _ _ _ _ (later _ _ _ _ _ attempted)
      · intro result
        constructor
        · intro returned
          obtain ⟨source, destination, startTime, endTime, state, attempted, returned⟩ :=
            (synced result).mp returned
          exact ⟨source, destination, startTime, endTime, state,
            List.mem_cons_of_mem _ attempted, returned⟩
        · rintro ⟨source, destination, startTime, endTime, state, attempted, returned⟩
          apply (synced result).mpr
          exact ⟨source, destination, startTime, endTime, state, later _ _ _ _ _ attempted,
            returned⟩

/-- The sync is the last call of the block. -/
theorem BuildEnds.attempt_sync (source : Source) (destination : Destination)
    : ∃ steps,
        BuildEnds env job
          (attempt (.sync source destination job.startTime job.endTime (syncState job))
            (env.sync source destination job.startTime job.endTime (syncState job)))
          steps (env.sync source destination job.startTime job.endTime (syncState job)) := by
  refine ⟨_, Ends.attempt _ _, by simp, ?_, ?_⟩
  · intro source' destination' startTime endTime state attempted
    cases List.mem_singleton.mp attempted
    exact ⟨rfl, rfl, rfl⟩
  · intro result
    constructor
    · intro returned
      exact ⟨source, destination, _, _, _, List.mem_singleton_self _, returned⟩
    · rintro ⟨source', destination', startTime, endTime, state, attempted, returned⟩
      cases List.mem_singleton.mp attempted
      exact returned

/-- The block ends, whatever its calls raise. -/
theorem buildAndSync_ends (env : Collaborators Class Config Source Destination)
    (job : JobPayload)
    : ∃ steps, BuildEnds env job (buildAndSync env job) steps (outcomeOf env job) := by
  unfold buildAndSync outcomeOf
  apply BuildEnds.attempt_bind (by simp) (by simp)
  intro cls
  apply BuildEnds.attempt_bind (by simp) (by simp)
  intro config
  apply BuildEnds.attempt_bind (by simp) (by simp)
  intro source
  apply BuildEnds.attempt_bind (by simp) (by simp)
  intro destination
  exact BuildEnds.attempt_sync source destination

/-- The report that ends a job, by how its second `try` block ended. -/
def terminalReport (job : JobPayload) (ended : Except PyException SyncResult) : Report :=
  match ended with
  | .error exception => unhandledReport job exception
  | .ok result => resultReport job result

/-- A job attempts its first report, the calls of its second `try` block and one more report,
and it returns.
-/
theorem runJob_ends {steps : List (Attempt Class Config Source Destination)}
    {outcome : Except PyException SyncResult}
    (built : Ends (buildAndSync env job) steps outcome)
    : Ends (runJob env job)
        (.report (runningReport job) :: (steps ++ [.report (terminalReport job outcome)]))
        (.ok ()) := by
  unfold runJob
  apply Ends.bind (safeReport_ends (runningReport job))
  cases outcome with
  | error exception =>
      have caught : Ends
          (tryCatch (Except.ok <$> buildAndSync env job)
            (fun exception => return Except.error exception))
          (steps ++ []) (.ok (.error exception)) :=
        Ends.tryCatch_raised built.map_raised (Ends.pure _)
      rw [List.append_nil] at caught
      exact Ends.bind caught (safeReport_ends _)
  | ok result => exact Ends.bind (Ends.tryCatch built.map) (safeReport_ends _)

/-- The last report names the job and how it ended. -/
theorem terminalReport_terminal (job : JobPayload) (ended : Except PyException SyncResult)
    : (terminalReport job ended).jobId = job.jobId
      ∧ (terminalReport job ended).terminal = true := by
  cases ended with
  | error exception => exact ⟨rfl, rfl⟩
  | ok result => exact resultReport_terminal job result

/-- A report of success is the report of a sync that returned it. -/
theorem terminalReport_success (job : JobPayload) (ended : Except PyException SyncResult)
    : (terminalReport job ended).status = .success
      ↔ ∃ result, ended = .ok result ∧ result.status = .success := by
  cases ended with
  | error exception => simp [terminalReport, unhandledReport]
  | ok result =>
      unfold terminalReport resultReport
      cases status : result.status with
      | success => simp [status]
      | error => simp [status]

theorem resultReport_of_success {result : SyncResult} (success : result.status = .success)
    : (resultReport job result).rowsSynced = some result.recordsLoaded
      ∧ (resultReport job result).nextState
        = if result.nextState.isEmpty then none else some result.nextState := by
  unfold resultReport
  rw [success]
  exact ⟨rfl, rfl⟩

/-- A report of failure moves no cursor. -/
theorem terminalReport_failed {ended : Except PyException SyncResult}
    (failed : (terminalReport job ended).status = .failed)
    : (terminalReport job ended).nextState = none := by
  cases ended with
  | error exception => rfl
  | ok result =>
      unfold terminalReport resultReport at failed ⊢
      cases status : result.status with
      | success => simp [status] at failed
      | error => simp [status]

/-- `run_job` returns whatever its calls do. It attempts a report that the job runs, then the
calls of its sync, and then one report that ends the job. That report is of success exactly
when a sync was attempted and returned success, and then it carries the rows and the cursor of
the sync, or no cursor where the sync's is empty; a report of failure carries no cursor. What
becomes of the reports changes none of this.
-/
theorem runJob_reports_faithfully (env : Collaborators Class Config Source Destination)
    (job : JobPayload)
    : ∃ steps terminal,
        Ends (runJob env job)
            (.report (runningReport job) :: (steps ++ [.report terminal])) (.ok ())
          ∧ (∀ report, .report report ∉ steps)
          ∧ terminal.jobId = job.jobId
          ∧ (terminal.status = .success ∨ terminal.status = .failed)
          ∧ (terminal.status = .success
            ↔ ∃ source destination startTime endTime state result,
                .sync source destination startTime endTime state ∈ steps
                ∧ env.sync source destination startTime endTime state = .ok result
                ∧ result.status = .success)
          ∧ (∀ source destination startTime endTime state result,
              .sync source destination startTime endTime state ∈ steps
              → env.sync source destination startTime endTime state = .ok result
              → result.status = .success
              → terminal.rowsSynced = some (result.recordsLoaded : Int)
                ∧ terminal.nextState
                  = if result.nextState.isEmpty then none else some result.nextState)
          ∧ (terminal.status = .failed → terminal.nextState = none)
          ∧ ∀ reportStatus,
              Ends (runJob { env with reportStatus := reportStatus } job)
                (.report (runningReport job) :: (steps ++ [.report terminal])) (.ok ()) := by
  obtain ⟨steps, ends, silent, _, synced⟩ := buildAndSync_ends env job
  refine ⟨steps, terminalReport job (outcomeOf env job), runJob_ends ends, silent,
    (terminalReport_terminal job _).1, ?_, ?_, ?_, terminalReport_failed, ?_⟩
  · have terminal := (terminalReport_terminal job (outcomeOf env job)).2
    unfold Report.terminal at terminal
    cases status : (terminalReport job (outcomeOf env job)).status with
    | running => simp [status] at terminal
    | success => exact Or.inl rfl
    | failed => exact Or.inr rfl
  · rw [terminalReport_success]
    constructor
    · rintro ⟨result, returned, success⟩
      obtain ⟨source, destination, startTime, endTime, state, attempted, returned⟩ :=
        (synced result).mp returned
      exact ⟨source, destination, startTime, endTime, state, result, attempted, returned,
        success⟩
    · rintro ⟨source, destination, startTime, endTime, state, result, attempted, returned,
        success⟩
      exact ⟨result,
        (synced result).mpr ⟨source, destination, startTime, endTime, state, attempted, returned⟩,
        success⟩
  · intro source destination startTime endTime state result attempted returned success
    have outcome : outcomeOf env job = .ok result :=
      (synced result).mpr ⟨source, destination, startTime, endTime, state, attempted, returned⟩
    rw [outcome]
    exact resultReport_of_success success
  · intro reportStatus
    -- Nothing the second `try` block does refers to the reports.
    exact @runJob_ends _ _ _ _ { env with reportStatus := reportStatus } job _ _ ends

end

/-- Collaborators whose sync succeeds without a cursor, as that of a job without a window and
without a state does.
-/
def emptyCursor : Collaborators Unit Unit Unit Unit where
  reportStatus := fun _ => .ok ()
  lookup := fun _ => .ok ()
  configure := fun _ _ => .ok ()
  construct := fun _ _ => .ok ()
  connect := .ok ()
  sync := fun _ _ _ _ _ =>
    .ok
      {
        status := .success
        recordsExtracted := 0
        recordsLoaded := 0
        recordsFailed := 0
        nextState := []
      }

/-- A job without a window and without a state. -/
def windowless : JobPayload :=
  {
    jobId := ⟨1⟩
    pipelineId := ⟨2⟩
    connector := "razorpay_orders"
    params := []
    credentials := []
    startTime := none
    endTime := none
    state := []
  }

/-- The report of a success does not carry the cursor of its sync where that is empty. -/
theorem runJob_empty_cursor
    : ∃ steps terminal result,
        Ends (runJob emptyCursor windowless)
            (.report (runningReport windowless) :: (steps ++ [.report terminal])) (.ok ())
          ∧ .sync () () none none none ∈ steps
          ∧ emptyCursor.sync () () none none none = .ok result
          ∧ result.status = .success
          ∧ terminal.status = .success
          ∧ terminal.nextState ≠ some result.nextState := by
  obtain ⟨steps, ends, _, window, synced⟩ := buildAndSync_ends emptyCursor windowless
  obtain ⟨_, _, startTime, endTime, state, attempted, _⟩ := (synced _).mp rfl
  obtain ⟨rfl, rfl, rfl⟩ := window _ _ _ _ _ attempted
  refine ⟨steps, _, _, runJob_ends ends, attempted, rfl, rfl, rfl, ?_⟩
  intro same
  nomatch same

section

variable {Class Config Source Destination : Type}

/-- The reports among some attempted calls. -/
def reportsAttempted (steps : List (Attempt Class Config Source Destination)) : List Report :=
  steps.filterMap
    (fun step =>
      match step with
      | .report report => some report
      | _ => none)

theorem reportsAttempted_silent {steps : List (Attempt Class Config Source Destination)}
    (silent : ∀ report, .report report ∉ steps)
    : reportsAttempted steps = [] := by
  unfold reportsAttempted
  rw [List.filterMap_eq_nil_iff]
  intro step attempted
  cases step with
  | report report => exact absurd attempted (silent report)
  | _ => rfl

end

section

variable (repr : String → String) (env : JobEnv) (reportStatus : Report → Except PyException Unit)
  (waiting : PyException)

/-- The calls of a job in its environment. A sync that waits for a reply has no end: `waiting`
stands there, where no job that returns comes.
-/
def collaborators
    : Collaborators ConnectorClass KaptureTickets.Config
        (ConnectorClass × KaptureTickets.Config) Unit where
  reportStatus := reportStatus
  lookup := lookup repr
  configure := env.configure
  construct := fun cls config => .ok (cls, config)
  connect := env.destination
  sync := fun source _ startTime endTime state =>
    match sync source.1.getSchema
        (source.1.extract ⟨env.host, source.2, env.now, env.clock⟩ startTime endTime env.replies)
        env.load endTime state with
    | some run => .ok run.result
    | none => .error waiting

variable {repr env reportStatus waiting}

theorem outcomeOf_collaborators (job : JobPayload)
    : outcomeOf (collaborators repr env reportStatus waiting) job
      = buildSource repr env job
        >>= fun source =>
          (collaborators repr env reportStatus waiting).sync source () job.startTime job.endTime
            (syncState job) := by
  unfold outcomeOf buildSource
  simp only [bind_assoc, pure_bind]
  rfl

/-- A job that returns reports that it runs and how its second `try` block ended. -/
theorem reportsOf_runJob {job : JobPayload} (returned : returns repr env job = true)
    : reportsOf (Agent.runJob repr env job)
      = [runningReport job,
          terminalReport job
            (outcomeOf (collaborators repr env reportStatus waiting) job)] := by
  have outcome := @outcomeOf_collaborators repr env reportStatus waiting job
  unfold returns at returned
  unfold Agent.runJob
  cases built : buildSource repr env job with
  | error exception =>
      rw [built] at outcome
      rw [outcome]
      rfl
  | ok source =>
      simp only [built] at returned
      obtain ⟨run, synced⟩ := Option.isSome_iff_exists.mp returned
      have ended : (collaborators repr env reportStatus waiting).sync source () job.startTime
          job.endTime (syncState job) = .ok run.result := by
        unfold syncJob at synced
        unfold collaborators syncState
        simp only [synced]
      have settled : outcomeOf (collaborators repr env reportStatus waiting) job
          = .ok run.result := by
        rw [built] at outcome
        exact outcome.trans ended
      simp only [synced]
      rw [settled]
      rfl

/-- The reports a job attempts are the reports of its run. -/
theorem runJob_attempts_reports {job : JobPayload} (returned : returns repr env job = true)
    : ∃ steps,
        Ends (runJob (collaborators repr env reportStatus waiting) job) steps (.ok ())
          ∧ reportsAttempted steps = reportsOf (Agent.runJob repr env job) := by
  obtain ⟨steps, ends, silent, _, _⟩ :=
    buildAndSync_ends (collaborators repr env reportStatus waiting) job
  refine ⟨_, runJob_ends ends, ?_⟩
  rw [@reportsOf_runJob repr env reportStatus waiting job returned]
  have quiet := reportsAttempted_silent silent
  unfold reportsAttempted at quiet ⊢
  simp [quiet]

end

end Turbocat.Agent.Attempts
