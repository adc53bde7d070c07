import Turbocat.System.Updates

/-! As long as no update is overtaken and none is stale, updates that run side by side do what
they do one after the other, in the order of their commits.
-/

namespace Turbocat.System

open Turbocat.Library Turbocat.Python Turbocat.Connectors Turbocat.Orchestrator Turbocat.Agent

namespace Updates

-----------------------------------------------------------------------------------------
-- What one commit writes
-----------------------------------------------------------------------------------------

/-- A flush writes what the report says when the row shows what was loaded, except for a
status and times that the report sets anyway.
-/
theorem flush_report {job row : JobRun} {report : Report} (now : Datetime)
    (status : job.status ≠ report.status.jobStatus.value)
    (rows : row.rowsSynced = job.rowsSynced) (error : row.error = job.error)
    (started : report.status = .running → job.startedAt = none ∧ row.startedAt = none)
    (completed : report.terminal = true → job.completedAt = none)
    : job.flush (job.report report.body now) row = row.report report.body now := by
  obtain ⟨ownRows, ownError⟩ := report_fields job report now
  obtain ⟨rowsAfter, errorAfter⟩ := report_fields row report now
  have statusColumn
      : flushed job.status (job.report report.body now).status row.status
        = (row.report report.body now).status := by
    rw [report_status, report_status]
    exact flushed_eq_iff.mpr (fun same => absurd same.symm status)
  have rowsColumn
      : flushed job.rowsSynced (job.report report.body now).rowsSynced row.rowsSynced
        = (row.report report.body now).rowsSynced := by
    rw [ownRows, rowsAfter]
    exact flushed_eq_iff.mpr (fun same => rows.trans same.symm)
  have errorColumn
      : flushed job.error (job.report report.body now).error row.error
        = (row.report report.body now).error := by
    rw [ownError, errorAfter]
    exact flushed_eq_iff.mpr (fun same => error.trans same.symm)
  have startedColumn
      : flushed job.startedAt (job.report report.body now).startedAt row.startedAt
        = (row.report report.body now).startedAt := by
    rw [report_startedAt, report_startedAt]
    split
    · next running =>
        obtain ⟨unset, unsetRow⟩ := started running
        rw [unset, unsetRow]
        exact flushed_eq_iff.mpr (fun same => by cases same)
    · exact flushed_unassigned _ _
  have completedColumn
      : flushed job.completedAt (job.report report.body now).completedAt row.completedAt
        = (row.report report.body now).completedAt := by
    rw [report_completedAt, report_completedAt]
    split
    · next ends =>
        rw [completed ends]
        exact flushed_eq_iff.mpr (fun same => by cases same)
    · exact flushed_unassigned _ _
  have fixed := row.report_fixed report.body now
  have own := row.report_jobId report.body now
  unfold JobRun.flush
  rw [statusColumn, rowsColumn, errorColumn, startedColumn, completedColumn]
  generalize row.report report.body now = after at fixed own
  cases after
  cases row
  cases own
  cases fixed
  rfl

-----------------------------------------------------------------------------------------
-- What requests have loaded
-----------------------------------------------------------------------------------------

/-- A loaded object is the row of the report's job as it once was. -/
structure Sound (system : System.State) (report : Report) (job : JobRun) : Prop where
  own : job.jobId = report.jobId
  stored
    : ∃ row, system.db.jobRuns.get? report.jobId = some row ∧ row.fixed = job.fixed
  replays
    : ∃ newer earlier,
        system.log.reportsOn report.jobId = newer ++ earlier ∧ Replays job earlier

/-- What holds of the system when every update so far was atomic, and of the objects that
requests have loaded.
-/
structure Holds (platform : Platform) (state : State) : Prop where
  settled : Settled platform state.system
  rows : RowsReplay state.system
  begun : ∀ jobId, state.system.beginnings jobId ≤ state.system.answers jobId
  sound
    : ∀ (number : Nat) report request,
        state.system.network[number]? = some report
        → state.requests[number]? = some request
        → ∀ job ∈ request.job, Sound state.system report job

section

variable {platform : Platform} {system next : System.State} {event : System.Event}

/-- The log of processed reports grows at its front. -/
theorem step_reports_append (stepped : System.step platform system event = some next)
    : ∃ newer, next.log.reports = newer ++ system.log.reports := by
  cases step_takes stepped with
  | process _ _ _ => exact ⟨[_], rfl⟩
  | @act number payload action rest found => cases action <;> exact ⟨[], rfl⟩
  | start _ => exact ⟨[], rfl⟩
  | stop => exact ⟨[], rfl⟩
  | request _ => exact ⟨[], rfl⟩
  | tick _ _ _ => exact ⟨[], rfl⟩
  | contend _ _ _ => exact ⟨[], rfl⟩
  | reload _ => exact ⟨[], rfl⟩
  | build _ _ _ _ _ => exact ⟨[], rfl⟩
  | respond _ _ _ => exact ⟨[], rfl⟩
  | work _ => exact ⟨[], rfl⟩
  | lose => exact ⟨[], rfl⟩
  | crash => exact ⟨[], rfl⟩
  | drop => exact ⟨[], rfl⟩

/-- A loaded object was once its job's row for ever. -/
theorem Sound.step {report : Report} {job : JobRun} (sound : Sound system report job)
    (stepped : System.step platform system event = some next)
    : Sound next report job where
  own := sound.own
  stored := by
    obtain ⟨row, found, fixed⟩ := sound.stored
    obtain ⟨kept, foundKept, same⟩ := (step_grows stepped).db.jobRuns _ _ found
    exact ⟨kept, foundKept, same.trans fixed⟩
  replays := by
    obtain ⟨newer, earlier, parts, replays⟩ := sound.replays
    obtain ⟨newest, grown⟩ := step_reports_append stepped
    refine ⟨newest.filter (fun other => decide (other.jobId = report.jobId)) ++ newer, earlier,
      ?_, replays⟩
    rw [List.append_assoc, ← parts, Log.reportsOn, grown, List.filter_append]
    rfl

/-- Reports keep their places in the network as what follows them does. -/
theorem step_network (stepped : System.step platform system event = some next)
    : next.network = follow id system event system.network := by
  cases event with
  | act number =>
      simp only [System.step] at stepped
      split at stepped
      · next payload action rest found =>
          cases stepped
          simp only [follow, found]
          cases action <;> rfl
      · next none_ =>
          cases stepped
  | process number now =>
      simp only [System.step] at stepped
      split at stepped
      · cases stepped
      · split at stepped
        · cases stepped
        · split at stepped <;> (cases stepped; rfl)
  | drop number =>
      cases stepped
      rfl
  | start process =>
      simp only [System.step] at stepped
      split at stepped
      · cases stepped
      · cases stepped
        rfl
  | build pollId getFault now =>
      simp only [System.step] at stepped
      split at stepped
      · split at stepped
        · cases stepped
          rfl
        · obtain ⟨dispatch, _, rfl⟩ := Option.map_eq_some_iff.mp stepped
          rfl
      · cases stepped
  | tick process pipelineId jobId =>
      simp only [System.step] at stepped
      split at stepped
      · cases stepped
      · obtain ⟨dispatch, _, rfl⟩ := Option.map_eq_some_iff.mp stepped
        rfl
  | respond pollId =>
      simp only [System.step] at stepped
      split at stepped
      · obtain ⟨dispatch, _, rfl⟩ := Option.map_eq_some_iff.mp stepped
        rfl
      · cases stepped
  | stop _ | lose _ | crash _ =>
      cases stepped
      rfl
  | request _ _ | select _ _ _ | commit _ | reload _ _ | abort _ | work _ _ =>
      obtain ⟨_, _, rfl⟩ := Option.map_eq_some_iff.mp stepped
      rfl

/-- What relates things in one place still does after a step, by cases of the step. -/
theorem follow_related {α β : Type} {Related : α → β → Prop} {lefts : List α}
    {rights : List β} {left : Report → α} {right : Report → β}
    (related
      : ∀ (number : Nat) first second,
          lefts[number]? = some first → rights[number]? = some second → Related first second)
    (posted : ∀ report, Related (left report) (right report))
    : ∀ (number : Nat) first second,
        (follow left system event lefts)[number]? = some first
        → (follow right system event rights)[number]? = some second
        → Related first second := by
  have erased (place : Nat)
      : ∀ (number : Nat) first second,
          (lefts.eraseIdx place)[number]? = some first
          → (rights.eraseIdx place)[number]? = some second
          → Related first second := by
    intro number first second atLeft atRight
    rw [List.getElem?_eraseIdx] at atLeft atRight
    split at atLeft
    · next before =>
        rw [if_pos before] at atRight
        exact related number first second atLeft atRight
    · next after =>
        rw [if_neg after] at atRight
        exact related (number + 1) first second atLeft atRight
  cases event with
  | act place =>
      simp only [follow]
      split
      · intro number first second atLeft atRight
        cases number with
        | zero =>
            cases atLeft
            cases atRight
            exact posted _
        | succ number => exact related number first second atLeft atRight
      · exact related
  | process place now => exact erased place
  | drop place => exact erased place
  | start _ | stop _ | request _ _ | tick _ _ _ | select _ _ _ | commit _ | reload _ _
  | build _ _ _ | respond _ | abort _ | work _ _ | lose _ | crash _ => exact related

end

-----------------------------------------------------------------------------------------
-- Commits
-----------------------------------------------------------------------------------------

/-- A "running" report carries neither a count nor an error. -/
theorem running_fields {log : Log} {report : Report} (reported : Reported log report)
    (running : report.status = .running)
    : report.rowsSynced = none ∧ report.error = none := by
  obtain ⟨job, _, origin⟩ := reported
  cases origin with
  | running => exact ⟨rfl, rfl⟩
  | unhandled => cases running
  | @result run _ =>
      have ends := (resultReport_terminal job run.result).2
      rw [Report.terminal, running] at ends
      cases ends

/-- A report that ends a job carries a count or an error. -/
theorem terminal_fields {log : Log} {report : Report} (reported : Reported log report)
    (ends : report.terminal = true)
    : report.rowsSynced ≠ none ∨ report.error ≠ none := by
  obtain ⟨job, _, origin⟩ := reported
  cases origin with
  | running => cases ends
  | unhandled => exact Or.inr (Option.some_ne_none _)
  | @result run _ =>
      refine Or.inl ?_
      unfold resultReport
      split <;> exact Option.some_ne_none _

section

variable {platform : Platform} {state : State} {number : Nat} {report : Report}
  {job row : JobRun}

/-- A row whose latest report ends its job shows an outcome. -/
theorem terminal_of_latest {latest : Report} {rest : List Report}
    (replays : Replays row (latest :: rest)) (ends : latest.terminal = true)
    : row.Terminal := by
  obtain ⟨status, _⟩ := replays.latest latest rest rfl
  unfold JobRun.Terminal
  rw [status]
  revert ends
  unfold Report.terminal
  cases latest.status <;> decide

/-- While a "running" report is on its way, only one report on its job can have been processed,
and it ends the job.
-/
theorem Holds.before_running (holds : Holds platform state)
    (posted : state.system.network[number]? = some report)
    (running : report.status = .running)
    : (∀ other ∈ state.system.log.reportsOn report.jobId, other.terminal = true)
      ∧ (state.system.log.reportsOn report.jobId).length ≤ 1 := by
  have once := (holds.begun report.jobId).trans (holds.settled.once.answers_le report.jobId)
  have single := holds.settled.outcomes_le report.jobId
  have onItsWay : 0 < state.system.network.countP (beginsJob report.jobId) :=
    List.countP_pos_iff.mpr ⟨report, List.mem_of_getElem? posted, by
      simp [beginsJob, Report.terminal, running]⟩
  unfold State.beginnings at once
  unfold State.outcomes at single
  have noOther : state.system.log.reports.countP (beginsJob report.jobId) = 0 := by omega
  have ended (other : Report) (member : other ∈ state.system.log.reportsOn report.jobId)
      : other.terminal = true := by
    obtain ⟨processed, own⟩ := List.mem_filter.mp member
    have notBegun := List.countP_eq_zero.mp noOther other processed
    rw [beginsJob, own, Bool.true_and, Bool.not_eq_true', Bool.not_eq_false] at notBegun
    exact notBegun
  refine ⟨ended, ?_⟩
  have counted
      : state.system.log.reports.countP (endsJob report.jobId)
        = (state.system.log.reportsOn report.jobId).length := by
    rw [Log.reportsOn, ← List.countP_eq_length_filter]
    refine List.countP_congr fun other processed => ?_
    rw [endsJob, Bool.and_eq_true]
    exact ⟨fun both => both.1, fun own => ⟨own, ended other (List.mem_filter.mpr
      ⟨processed, own⟩)⟩⟩
  omega

/-- While a report that ends a job is on its way, only "running" reports on it can have been
processed.
-/
theorem Holds.before_end (holds : Holds platform state)
    (posted : state.system.network[number]? = some report) (ends : report.terminal = true)
    : ∀ other ∈ state.system.log.reportsOn report.jobId, other.status = .running := by
  have single := holds.settled.outcomes_le report.jobId
  have onItsWay : 0 < state.system.network.countP (endsJob report.jobId) :=
    List.countP_pos_iff.mpr ⟨report, List.mem_of_getElem? posted, by simp [endsJob, ends]⟩
  unfold State.outcomes at single
  have noOther : state.system.log.reports.countP (endsJob report.jobId) = 0 := by omega
  intro other member
  obtain ⟨processed, own⟩ := List.mem_filter.mp member
  have notEnded := List.countP_eq_zero.mp noOther other processed
  rw [endsJob, own, Bool.true_and] at notEnded
  simpa [Report.terminal] using notEnded

/-- A row that replays only "running" reports shows no outcome, count or error. -/
theorem unfinished_fields {log : Log} {reports : List Report} (replays : Replays row reports)
    (running : ∀ other ∈ reports, other.status = .running)
    (reported : ∀ other ∈ reports, Reported log other)
    : row.rowsSynced = none
      ∧ row.error = none
      ∧ row.completedAt = none
      ∧ ∀ status : JobStatus, row.status = status.value → status ≠ .success ∧ status ≠ .failed := by
  have incomplete : row.completedAt = none := by
    cases completed : row.completedAt with
    | none => rfl
    | some time =>
        obtain ⟨other, member, ends⟩ := replays.completed.mp (by rw [completed]; rfl)
        exact absurd (running other member) ends
  cases reports with
  | nil =>
      obtain ⟨status, rows, error⟩ := replays.unreported rfl
      refine ⟨rows, error, incomplete, fun shown same => ?_⟩
      rw [same] at status
      rcases status with pending | dispatched
      · cases JobStatus.value_inj pending
        exact ⟨nofun, nofun⟩
      · cases JobStatus.value_inj dispatched
        exact ⟨nofun, nofun⟩
  | cons latest rest =>
      obtain ⟨status, rows, error⟩ := replays.latest latest rest rfl
      have first := running latest List.mem_cons_self
      obtain ⟨noRows, noError⟩ := running_fields (reported latest List.mem_cons_self) first
      refine ⟨rows.trans noRows, error.trans noError, incomplete, fun shown same => ?_⟩
      rw [first, same] at status
      cases JobStatus.value_inj status
      exact ⟨nofun, nofun⟩

/-- A row without an outcome, on which no "running" report was processed, replays nothing. -/
theorem reports_nil {reports : List Report} (replays : Replays row reports)
    (ended : ∀ other ∈ reports, other.terminal = true) (unfinished : ¬ row.Terminal)
    : reports = [] := by
  cases reports with
  | nil => rfl
  | cons latest rest =>
      exact absurd (terminal_of_latest replays (ended latest List.mem_cons_self)) unfinished

/-- A row that replays nothing shows no outcome. -/
theorem not_terminal_of_nil (replays : Replays row []) : ¬ row.Terminal := by
  obtain ⟨status, _⟩ := replays.unreported rfl
  unfold JobRun.Terminal
  rcases status with pending | dispatched
  · rw [pending]
    decide
  · rw [dispatched]
    decide

/-- A "running" report that is not overtaken meets the row as it was loaded. -/
theorem Holds.flushes_running (holds : Holds platform state)
    (posted : state.system.network[number]? = some report)
    (running : report.status = .running) (sound : Sound state.system report job)
    (found : state.system.db.jobRuns.get? report.jobId = some row)
    (inTime : ¬ Overtaken state.system report job) (now : Datetime)
    : job.flush (job.report report.body now) row = row.report report.body now := by
  obtain ⟨ended, short⟩ := holds.before_running posted running
  have replays := holds.rows.replays row (Table.mem_of_get? found)
  rw [Table.key_of_get? found] at replays
  obtain ⟨newer, earlier, parts, loaded⟩ := sound.replays
  have same : state.system.log.reportsOn report.jobId = earlier := by
    by_cases unfinished : row.Terminal
    · have already : job.Terminal := by
        by_contra notYet
        exact inTime ⟨running, notYet, row, found, unfinished⟩
      cases earlier with
      | nil => exact absurd already (not_terminal_of_nil loaded)
      | cons latest rest =>
          rw [parts, List.length_append, List.length_cons] at short
          have none_ : newer = [] := List.length_eq_zero_iff.mp (by omega)
          rw [parts, none_, List.nil_append]
    · have nothing := reports_nil replays ended unfinished
      rw [nothing] at parts ⊢
      exact (List.append_eq_nil_iff.mp parts.symm).2.symm
  rw [same] at replays ended
  have unset {shown : JobRun} (shows : Replays shown earlier) : shown.startedAt = none := by
    cases started : shown.startedAt with
    | none => rfl
    | some time =>
        obtain ⟨other, member, begun⟩ := shows.started.mp (by rw [started]; rfl)
        have ends := ended other member
        rw [Report.terminal, begun] at ends
        cases ends
  have fields
      : row.rowsSynced = job.rowsSynced ∧ row.error = job.error
        ∧ job.status ≠ report.status.jobStatus.value := by
    rw [running]
    cases earlier with
    | nil =>
        obtain ⟨_, rows, error⟩ := replays.unreported rfl
        obtain ⟨status, rowsLoaded, errorLoaded⟩ := loaded.unreported rfl
        refine ⟨rows.trans rowsLoaded.symm, error.trans errorLoaded.symm, fun shown => ?_⟩
        rcases status with pending | dispatched
        · cases JobStatus.value_inj (pending.symm.trans shown)
        · cases JobStatus.value_inj (dispatched.symm.trans shown)
    | cons latest rest =>
        obtain ⟨_, rows, error⟩ := replays.latest latest rest rfl
        obtain ⟨status, rowsLoaded, errorLoaded⟩ := loaded.latest latest rest rfl
        refine ⟨rows.trans rowsLoaded.symm, error.trans errorLoaded.symm, fun shown => ?_⟩
        have ends := ended latest List.mem_cons_self
        rw [status] at shown
        have both := JobStatus.value_inj shown
        revert ends both
        unfold Report.terminal
        cases latest.status <;> decide
  refine flush_report now fields.2.2 fields.1 fields.2.1 (fun _ => ⟨unset loaded, unset replays⟩)
    (fun ends => ?_)
  rw [Report.terminal, running] at ends
  cases ends

/-- A report that ends its job always meets a row without an outcome, as it was loaded. -/
theorem Holds.flushes_end (holds : Holds platform state)
    (posted : state.system.network[number]? = some report) (ends : report.terminal = true)
    (sound : Sound state.system report job)
    (found : state.system.db.jobRuns.get? report.jobId = some row) (now : Datetime)
    : job.flush (job.report report.body now) row = row.report report.body now := by
  have running := holds.before_end posted ends
  have reported (other : Report)
      (member : other ∈ state.system.log.reportsOn report.jobId)
      : Reported state.system.log other :=
    holds.settled.provenance.reports other (List.mem_filter.mp member).1
  have replays := holds.rows.replays row (Table.mem_of_get? found)
  rw [Table.key_of_get? found] at replays
  obtain ⟨newer, earlier, parts, loaded⟩ := sound.replays
  have among {other : Report} (member : other ∈ earlier)
      : other ∈ state.system.log.reportsOn report.jobId :=
    parts ▸ List.mem_append_right _ member
  obtain ⟨rows, error, _, _⟩ := unfinished_fields replays running reported
  obtain ⟨rowsLoaded, errorLoaded, incomplete, status⟩ :=
    unfinished_fields loaded (fun other member => running other (among member))
      (fun other member => reported other (among member))
  refine flush_report now (fun shown => ?_) (rows.trans rowsLoaded.symm)
    (error.trans errorLoaded.symm) (fun begun => ?_) (fun _ => incomplete)
  · have neither := status _ shown
    revert neither ends
    unfold Report.terminal
    cases report.status <;> decide
  · rw [Report.terminal, begun] at ends
    cases ends

/-- An overtaken report leaves what it did not change. -/
theorem Holds.overtaken_differs (holds : Holds platform state)
    (posted : state.system.network[number]? = some report) (sound : Sound state.system report job)
    (found : state.system.db.jobRuns.get? report.jobId = some row)
    (overtaken : Overtaken state.system report job) (now : Datetime)
    : job.flush (job.report report.body now) row ≠ row.report report.body now := by
  obtain ⟨running, notYet, stored, foundStored, terminal⟩ := overtaken
  cases found.symm.trans foundStored
  obtain ⟨ended, short⟩ := holds.before_running posted running
  have replays := holds.rows.replays row (Table.mem_of_get? found)
  rw [Table.key_of_get? found] at replays
  obtain ⟨newer, earlier, parts, loaded⟩ := sound.replays
  have nothing : earlier = [] :=
    reports_nil loaded
      (fun other member => ended other (parts ▸ List.mem_append_right _ member)) notYet
  rw [nothing] at loaded
  obtain ⟨_, rowsLoaded, errorLoaded⟩ := loaded.unreported rfl
  obtain ⟨noRows, noError⟩ :=
    running_fields (holds.settled.provenance.network report (List.mem_of_getElem? posted)) running
  intro same
  have rowsKept : row.rowsSynced = none := by
    have column := congrArg JobRun.rowsSynced same
    rwa [JobRun.flush, (report_fields job report now).1, (report_fields row report now).1,
      noRows, rowsLoaded, flushed_unassigned] at column
  have errorKept : row.error = none := by
    have column := congrArg JobRun.error same
    rwa [JobRun.flush, (report_fields job report now).2, (report_fields row report now).2,
      noError, errorLoaded, flushed_unassigned] at column
  generalize reports : state.system.log.reportsOn report.jobId = processed at replays ended
  cases processed with
  | nil => exact not_terminal_of_nil replays terminal
  | cons latest rest =>
      obtain ⟨_, rows, error⟩ := replays.latest latest rest rfl
      have member : latest ∈ state.system.log.reports :=
        (List.mem_filter.mp (show latest ∈ state.system.log.reportsOn report.jobId from
          reports ▸ List.mem_cons_self)).1
      rcases terminal_fields (holds.settled.provenance.reports latest member)
        (ended latest List.mem_cons_self) with shown | shown
      · exact shown (rows.symm.trans rowsKept)
      · exact shown (error.symm.trans errorKept)

/-- A commit writes what the report says exactly when its update is timely. -/
theorem Holds.commitReport_eq_iff (holds : Holds platform state)
    (posted : state.system.network[number]? = some report) (sound : Sound state.system report job)
    (found : state.system.db.jobRuns.get? report.jobId = some row)
    (fits : report.body.fits = true) {pipeline : Option Pipeline}
    (loads : report.body.cursor.isSome = true → pipeline.isSome = true) (now : Datetime)
    : updateJobStatus state.system.db report.jobId report.body now
        = some (state.system.db.commitReport job pipeline report.body now)
      ↔ ¬ Overtaken state.system report job ∧ ¬ Stale state.system report job pipeline := by
  have samePipeline : row.pipelineId = job.pipelineId := by
    obtain ⟨stored, foundStored, fixed⟩ := sound.stored
    cases found.symm.trans foundStored
    exact congrArg Prod.fst fixed
  have rowsAgree
      : (reportJob state.system.db.jobRuns report.jobId report.body now
          = state.system.db.jobRuns.modify job.jobId
              (fun stored => job.flush (job.report report.body now) stored) (fun _ => rfl))
        ↔ ¬ Overtaken state.system report job := by
    rw [sound.own, reportJob]
    refine Table.modify_eq_iff.trans ⟨?_, ?_⟩
    · exact fun agree overtaken =>
        holds.overtaken_differs posted sound found overtaken now (agree row found).symm
    · intro inTime stored foundStored
      cases ends : report.terminal with
      | true => exact (holds.flushes_end posted ends sound foundStored now).symm
      | false =>
          have running : report.status = .running := by simpa [Report.terminal] using ends
          exact (holds.flushes_running posted running sound foundStored inTime now).symm
  unfold updateJobStatus Db.commitReport
  simp only [found, fits, if_true, Option.some.injEq, Db.mk.injEq, true_and]
  rw [and_comm, rowsAgree]
  refine and_congr_right fun _ => ?_
  cases cursor : report.body.cursor with
  | none =>
      refine iff_of_true rfl fun stale => ?_
      obtain ⟨_, state, _, _, sets, _⟩ := stale
      cases cursor.symm.trans sets
  | some moved =>
      rw [cursor] at loads
      obtain ⟨loaded, rfl⟩ := Option.isSome_iff_exists.mp (loads rfl)
      dsimp only
      rw [samePipeline]
      refine Table.modify_eq_iff.trans ⟨?_, ?_⟩
      · intro agree stale
        obtain ⟨_, state, _, stored, sets, same, unchanged, foundStored, differs⟩ := stale
        cases cursor.symm.trans sets
        cases same
        have kept := agree stored foundStored
        rw [Pipeline.flush, if_pos unchanged] at kept
        exact differs (congrArg Pipeline.state kept).symm
      · intro fresh stored foundStored
        unfold Pipeline.flush
        split
        · next unchanged =>
            have already : stored.state = some moved := by
              by_contra differs
              exact fresh ⟨fits, moved, loaded, stored, cursor, rfl, unchanged, foundStored,
                differs⟩
            rw [Pipeline.advanced, ← already]
        · rfl

/-- A "running" report fits its columns. -/
theorem running_fits {log : Log} (reported : Reported log report)
    (running : report.status = .running)
    : report.body.fits = true := by
  have noRows : report.body.rowsSynced = none := (running_fields reported running).1
  have status : report.body.status = JobStatus.running.value :=
    congrArg (fun status => status.jobStatus.value) running
  rw [StatusUpdate.fits, noRows, status]
  rfl

/-- A commit does what its update does at once exactly when the update is timely. -/
theorem Holds.commit_atomic_iff (holds : Holds platform state)
    (posted : state.system.network[number]? = some report) (sound : Sound state.system report job)
    (unlocked : state.system.dispatch.locked report.jobId = false) {pipeline : Option Pipeline}
    (loads : report.body.cursor.isSome = true → pipeline.isSome = true) (now : Datetime)
    : System.step platform state.system (.process number now)
        = some (committed state.system number report job pipeline now)
      ↔ ¬ Overtaken state.system report job ∧ ¬ Stale state.system report job pipeline := by
  obtain ⟨row, found, _⟩ := sound.stored
  unfold committed
  simp only [System.step, posted, unlocked, Bool.false_eq_true, if_false]
  by_cases fits : report.body.fits = true
  · rw [← holds.commitReport_eq_iff posted sound found fits loads now]
    have updates : ∃ db, updateJobStatus state.system.db report.jobId report.body now = some db := by
      simp only [updateJobStatus, found, fits, if_true, Option.some.injEq, exists_eq']
    obtain ⟨db, updated⟩ := updates
    rw [updated, if_pos fits]
    constructor
    · intro same
      exact congrArg some (congrArg System.State.db (Option.some.inj same))
    · intro same
      rw [Option.some.inj same]
  · have refused : updateJobStatus state.system.db report.jobId report.body now = none := by
      simp only [updateJobStatus, found, fits, Bool.false_eq_true, if_false]
    rw [refused, if_neg fits]
    refine iff_of_true rfl ⟨fun overtaken => fits ?_, fun stale => fits stale.1⟩
    exact running_fits (holds.settled.provenance.network report (List.mem_of_getElem? posted))
      overtaken.1

-----------------------------------------------------------------------------------------
-- Runs
-----------------------------------------------------------------------------------------

/-- What holds goes on to hold after a step of the system. -/
theorem Holds.follow (holds : Holds platform state) {event : System.Event}
    {system : System.State} (stepped : System.step platform state.system event = some system)
    : Holds platform
        ⟨system, Updates.follow (fun _ => {}) state.system event state.requests⟩ where
  settled := holds.settled.step stepped
  rows := holds.rows.step holds.settled.consistent stepped
  begun := fun jobId =>
    step_beginnings holds.settled.provenance stepped jobId (holds.begun jobId)
  sound := by
    rw [step_network stepped]
    exact @follow_related state.system event _ _
      (fun report request => ∀ job ∈ request.job, Sound system report job)
      state.system.network state.requests id (fun _ => {})
      (fun number report request posted requested job loaded =>
        (holds.sound number report request posted requested job loaded).step stepped)
      (fun _ _ nothing => by cases nothing)

/-- A request may load a row of its job. -/
theorem Holds.loaded (holds : Holds platform state) {request : Request}
    (sound
      : ∀ report, state.system.network[number]? = some report →
          ∀ job ∈ request.job, Sound state.system report job)
    : Holds platform { state with requests := state.requests.set number request } where
  settled := holds.settled
  rows := holds.rows
  begun := holds.begun
  sound := by
    intro place report other posted requested
    dsimp only at requested
    rw [List.getElem?_set] at requested
    split at requested
    · next same =>
        split at requested
        · cases requested
          exact sound report (same ▸ posted)
        · cases requested
    · exact holds.sound place report other posted requested

/-- What a loading request has found. -/
theorem step_load {next : State} (stepped : step platform state (.load number) = some next)
    : ∃ report job,
        state.system.network[number]? = some report
        ∧ state.system.db.jobRuns.get? report.jobId = some job
        ∧ next = { state with requests := state.requests.set number ⟨some job, none⟩ } := by
  simp only [step] at stepped
  split at stepped
  · next report _ posted _ =>
      obtain ⟨job, found, rfl⟩ := Option.map_eq_some_iff.mp stepped
      exact ⟨report, job, posted, found, rfl⟩
  · cases stepped

/-- What a request that loads its pipeline has loaded before. -/
theorem step_loadPipeline {next : State}
    (stepped : step platform state (.loadPipeline number) = some next)
    : ∃ job pipeline,
        state.requests[number]? = some ⟨some job, none⟩
        ∧ next = { state with requests := state.requests.set number ⟨some job, some pipeline⟩ } := by
  simp only [step] at stepped
  split at stepped
  · next report job posted requested =>
      split at stepped
      · obtain ⟨pipeline, _, rfl⟩ := Option.map_eq_some_iff.mp stepped
        exact ⟨job, pipeline, requested, rfl⟩
      · cases stepped
  · cases stepped

/-- What a commit has found. -/
theorem step_commit {next : State} {now : Datetime}
    (stepped : step platform state (.commit number now) = some next)
    : ∃ report job pipeline,
        state.system.network[number]? = some report
        ∧ state.requests[number]? = some ⟨some job, pipeline⟩
        ∧ state.system.dispatch.locked report.jobId = false
        ∧ (report.body.cursor.isSome = true → pipeline.isSome = true)
        ∧ next
          = ⟨committed state.system number report job pipeline now,
              state.requests.eraseIdx number⟩ := by
  simp only [step] at stepped
  split at stepped
  · next report job pipeline posted requested =>
      split at stepped
      · cases stepped
      · next free =>
          cases stepped
          simp only [Bool.or_eq_true, Bool.and_eq_true, not_or, not_and, Bool.not_eq_true] at free
          refine ⟨report, job, pipeline, posted, requested, free.1, fun moves => ?_, rfl⟩
          cases pipeline with
          | none => cases free.2 moves
          | some _ => rfl
  · cases stepped

/-- A step is the step of the system it stands for exactly when it is timely. -/
theorem Holds.step_atomic_iff (holds : Holds platform state) {event : Event} {next : State}
    (stepped : step platform state event = some next)
    : run (System.step platform) state.system event.atomic.toList = some next.system
      ↔ Timely state event := by
  cases event with
  | system event =>
      obtain ⟨system, moved, rfl⟩ := Option.map_eq_some_iff.mp stepped
      exact iff_of_true (run_cons_iff.mpr ⟨system, moved, rfl⟩) trivial
  | load number =>
      obtain ⟨_, _, _, _, rfl⟩ := step_load stepped
      exact iff_of_true rfl trivial
  | loadPipeline number =>
      obtain ⟨_, _, _, rfl⟩ := step_loadPipeline stepped
      exact iff_of_true rfl trivial
  | commit number now =>
      obtain ⟨report, job, pipeline, posted, requested, unlocked, loads, rfl⟩ :=
        step_commit stepped
      have sound := holds.sound number report _ posted requested job rfl
      have exact_ := holds.commit_atomic_iff posted sound unlocked loads now
      have timely
          : Timely state (.commit number now)
            ↔ ¬ Overtaken state.system report job ∧ ¬ Stale state.system report job pipeline := by
        simp only [Timely, posted, requested, Option.mem_def, Option.some.injEq, forall_eq']
      rw [timely, ← exact_]
      constructor
      · intro ran
        obtain ⟨system, moved, same⟩ := run_cons_iff.mp ran
        cases same
        exact moved
      · exact fun moved => run_cons_iff.mpr ⟨_, moved, rfl⟩

/-- What holds goes on to hold after a step that is the one it stands for. -/
theorem Holds.step (holds : Holds platform state) {event : Event} {next : State}
    (stepped : Updates.step platform state event = some next)
    (atomic
      : run (System.step platform) state.system event.atomic.toList = some next.system)
    : Holds platform next := by
  cases event with
  | system event =>
      obtain ⟨system, moved, rfl⟩ := Option.map_eq_some_iff.mp stepped
      exact holds.follow moved
  | load number =>
      obtain ⟨report, job, posted, found, rfl⟩ := step_load stepped
      refine holds.loaded fun other same loaded member => ?_
      cases posted.symm.trans same
      cases member
      have own := Table.key_of_get? found
      have replays := holds.rows.replays job (Table.mem_of_get? found)
      rw [own] at replays
      exact ⟨own, ⟨job, found, rfl⟩, [], _, rfl, replays⟩
  | loadPipeline number =>
      obtain ⟨job, pipeline, requested, rfl⟩ := step_loadPipeline stepped
      refine holds.loaded fun report posted loaded member => ?_
      cases member
      exact holds.sound number report _ posted requested job rfl
  | commit number now =>
      obtain ⟨report, job, pipeline, posted, requested, unlocked, loads, rfl⟩ :=
        step_commit stepped
      obtain ⟨system, moved, same⟩ := run_cons_iff.mp atomic
      cases same
      exact holds.follow moved

end

/-- In a new deployment everything holds. -/
theorem holds_initial (platform : Platform) (agents : Table Agent.agentId)
    (secrets : SecretStore)
    : Holds platform (State.initial agents secrets) where
  settled := settled_initial platform agents secrets
  rows := ⟨fun _ member => absurd member List.not_mem_nil,
    fun _ member => absurd member List.not_mem_nil⟩
  begun := fun _ => Nat.le_refl 0
  sound := fun _ _ _ posted => by cases posted

end Updates

/-- In every run whose status updates load and commit with anything in between, the system is
at every moment where it gets when each update is done at once at its commit, exactly as long
as all updates are timely: no "running" report finds that an outcome was stored since it
loaded its job, and no success that brings the cursor it has loaded finds another one stored.
-/
theorem concurrent_updates_atomic_iff {platform : Platform} {agents : Table Agent.agentId}
    {secrets : SecretStore} {events : List Updates.Event} {last : Updates.State}
    (ran
      : run (Updates.step platform) (Updates.State.initial agents secrets) events = some last)
    : (∀ before after middle,
        events = before ++ after
        → run (Updates.step platform) (Updates.State.initial agents secrets) before
          = some middle
        → run (step platform) (State.initial agents secrets)
            (before.filterMap Updates.Event.atomic)
          = some middle.system)
      ↔ Along (Updates.step platform) Updates.Timely (Updates.State.initial agents secrets)
          events := by
  exact @along_iff_abstracted _ _ _ _ (Updates.step platform) (step platform)
    Updates.State.system Updates.Event.atomic Updates.Timely (Updates.Holds platform)
    (fun holds stepped atomic => holds.step stepped atomic)
    (fun holds stepped => holds.step_atomic_iff stepped) _ _ _
    (Updates.holds_initial platform agents secrets) ran

namespace Sample

/-- Both reports of the first sync are loaded before either of them is committed. -/
def sideBySide : List Updates.Event :=
  firstSync.dropLast.map .system
  ++ [.load 1, .load 0, .commit 1 (time 11), .loadPipeline 0, .commit 0 (time 12)]

end Sample

/-- The overlapping updates of the sample are timely. -/
theorem concurrent_updates_atomic_side_by_side
    : ∃ last,
        run (Updates.step Platform.written)
            (Updates.State.initial Sample.agents Sample.secrets) Sample.sideBySide
          = some last
        ∧ run (step Platform.written) (State.initial Sample.agents Sample.secrets)
            (Sample.sideBySide.filterMap Updates.Event.atomic)
          = some last.system := by
  refine ⟨_, rfl, ?_⟩
  refine (@concurrent_updates_atomic_iff Platform.written Sample.agents Sample.secrets
    Sample.sideBySide _ rfl).mpr ?_ Sample.sideBySide [] _ (List.append_nil _).symm rfl
  repeat refine Along.cons trivial rfl ?_
  refine Along.cons ?_ rfl (Along.cons trivial rfl (Along.cons ?_ rfl trivial))
  · rintro report ⟨⟩ request ⟨⟩ job ⟨⟩
    refine ⟨fun overtaken => ?_, fun stale => ?_⟩
    · obtain ⟨_, _, row, found, terminal⟩ := overtaken
      cases found
      revert terminal
      decide
    · obtain ⟨_, cursor, _, _, sets, _⟩ := stale
      cases sets
  · rintro report ⟨⟩ request ⟨⟩ job ⟨⟩
    refine ⟨fun overtaken => ?_, fun stale => ?_⟩
    · cases overtaken.1
    · obtain ⟨_, cursor, loaded, _, _, same, unchanged, _⟩ := stale
      cases same
      cases unchanged

end Turbocat.System
