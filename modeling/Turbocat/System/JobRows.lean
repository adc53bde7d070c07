import Turbocat.System.TerminalStates

/-! The history of a job and its row: the row shows the reports that were processed on the
job, the job is synced at most once, and a job nothing in flight belongs to stays as it is.
-/

namespace Turbocat.System

open Turbocat.Library Turbocat.Python Turbocat.Connectors Turbocat.Orchestrator Turbocat.Agent

/-- The processed reports on a job, the latest first. -/
def Log.reportsOn (log : Log) (jobId : UUID) : List Report :=
  log.reports.filter (fun report => decide (report.jobId = jobId))

/-- What a row shows of the reports on its job, the latest first. -/
structure Replays (row : JobRun) (reports : List Report) : Prop where
  unreported
    : reports = [] →
        (row.status = JobStatus.pending.value ∨ row.status = JobStatus.dispatched.value)
        ∧ row.rowsSynced = none
        ∧ row.error = none
  latest
    : ∀ report rest, reports = report :: rest →
        row.status = report.status.jobStatus.value
        ∧ row.rowsSynced = report.rowsSynced
        ∧ row.error = report.error
  started
    : row.startedAt.isSome = true ↔ ∃ report ∈ reports, report.status = .running
  completed
    : row.completedAt.isSome = true ↔ ∃ report ∈ reports, report.status ≠ .running

/-- A row that has just been inserted replays no report. -/
theorem Replays.inserted (jobId pipelineId agentId : UUID)
    : Replays { jobId, pipelineId, agentId } [] where
  unreported := fun _ => ⟨Or.inl rfl, rfl, rfl⟩
  latest := fun _ _ empty => by cases empty
  started := iff_of_false (by simp) (by simp)
  completed := iff_of_false (by simp) (by simp)

/-- A pending row replays no report, and neither does it when it is claimed. -/
theorem Replays.dispatched {row : JobRun} {reports : List Report}
    (replays : Replays row reports) (pending : row.status = JobStatus.pending.value)
    : Replays row.dispatched reports := by
  cases reports with
  | nil =>
      obtain ⟨_, rows, error⟩ := replays.unreported rfl
      exact ⟨fun _ => ⟨Or.inr rfl, rows, error⟩, fun _ _ empty => (nomatch empty),
        replays.started, replays.completed⟩
  | cons report rest =>
      obtain ⟨status, _⟩ := replays.latest report rest rfl
      exact absurd (status.symm.trans pending) report.body_not_pending

/-- The first "running" report sets `started_at`; another one leaves it. -/
theorem report_startedAt (row : JobRun) (report : Report) (now : Datetime)
    : (row.report report.body now).startedAt
      = if report.status = .running then some (row.startedAt.getD now) else row.startedAt := by
  have status : report.body.status = report.status.jobStatus.value := rfl
  unfold JobRun.report
  rw [status]
  cases report.status with
  | running => cases row.startedAt <;> rfl
  | success => rfl
  | failed => rfl

/-- One more report is replayed by the row it rewrites. -/
theorem Replays.report {row : JobRun} {reports : List Report}
    (replays : Replays row reports) (report : Report) (now : Datetime)
    : Replays (row.report report.body now) (report :: reports) where
  unreported := fun empty => by cases empty
  latest := by
    intro last rest same
    cases same
    exact ⟨report_status row report now, report_fields row report now⟩
  started := by
    rw [report_startedAt, List.exists_mem_cons_iff, ← replays.started]
    cases reported : report.status <;> simp
  completed := by
    rw [report_completedAt, List.exists_mem_cons_iff, ← replays.completed]
    cases reported : report.status <;> simp [Report.terminal, reported]

-----------------------------------------------------------------------------------------
-- Rows over a run
-----------------------------------------------------------------------------------------

/-- Every row replays the reports processed on its job, and every report processed was on a
stored job.
-/
structure RowsReplay (state : State) : Prop where
  replays : ∀ row ∈ state.db.jobRuns.rows, Replays row (state.log.reportsOn row.jobId)
  stored : ∀ report ∈ state.log.reports, ∃ row, state.db.jobRuns.get? report.jobId = some row

section

variable {platform : Platform} {state next : State} {event : Event}

/-- A step that processes no report and keeps or claims pending rows. -/
theorem RowsReplay.unreported (before : RowsReplay state)
    (reports : next.log.reports = state.log.reports)
    (grows : Table.Keeps JobRun.fixed state.db.jobRuns next.db.jobRuns)
    (rows
      : ∀ row ∈ next.db.jobRuns.rows, Replays row (state.log.reportsOn row.jobId))
    : RowsReplay next where
  replays := fun row member => by
    have same : next.log.reportsOn row.jobId = state.log.reportsOn row.jobId := by
      rw [Log.reportsOn, Log.reportsOn, reports]
    rw [same]
    exact rows row member
  stored := fun report member => by
    obtain ⟨row, found⟩ := before.stored report (reports ▸ member)
    obtain ⟨kept, foundKept, _⟩ := grows _ _ found
    exact ⟨kept, foundKept⟩

/-- Claims and cron ticks leave rows that replay what was processed. -/
theorem RowsReplay.contend (before : RowsReplay state)
    (consistent : Dispatch.Consistent state.dispatch) {moved : Dispatch.Event}
    {dispatch : Dispatch.State} (contending : contends moved = true)
    (stepped : Dispatch.step state.dispatch moved = some dispatch)
    : RowsReplay (state.dispatched dispatch) := by
  refine before.unreported rfl (dispatch_keeps stepped) fun row member => ?_
  cases Dispatch.step_takes stepped with
  | select _ _ => exact before.replays row member
  | @commit poll polled phase =>
      obtain ⟨old, stored, same⟩ :=
        get?_markDispatched_eq_some_iff.mp (Table.get?_of_mem member)
      have own : old.jobId = row.jobId := Table.key_of_get? stored
      have replays := before.replays old (Table.mem_of_get? stored)
      rw [own] at replays
      split at same
      · next among =>
          obtain ⟨held, heldFound, pending⟩ := consistent.held poll polled phase row.jobId among
          cases heldFound.symm.trans stored
          simp only [isPendingFor, decide_eq_true_eq] at pending
          rw [same]
          exact same ▸ replays.dispatched pending.2
      · exact same ▸ replays
  | reload _ _ _ => cases contending
  | respond _ _ => cases contending
  | fail _ _ _ => exact before.replays row member
  | @enqueue jobId pipelineId agentId jobRuns inserted =>
      obtain ⟨fresh, rows⟩ := Table.insert_eq_some_iff.mp inserted
      rcases List.mem_append.mp (rows ▸ member) with old | new
      · exact before.replays row old
      · cases List.mem_singleton.mp new
        have none_ : state.log.reportsOn jobId = [] := by
          refine List.filter_eq_nil_iff.mpr fun report processed same => ?_
          obtain ⟨stored, found⟩ := before.stored report processed
          rw [of_decide_eq_true same] at found
          cases fresh.symm.trans found
        exact none_ ▸ .inserted jobId pipelineId agentId
  | report _ _ => cases contending

/-- A processed report is replayed by its row and leaves the others. -/
theorem RowsReplay.process (before : RowsReplay state) {report : Report} {now : Datetime}
    {db : Db} (updated : updateJobStatus state.db report.jobId report.body now = some db)
    (network : List Report)
    : RowsReplay
        { state with
          db, network, log := { state.log with reports := report :: state.log.reports } } := by
  have grows := (updateJobStatus_grows updated).jobRuns
  obtain ⟨old, stored, _, rfl⟩ := updateJobStatus_some updated
  constructor
  · intro row member
    have after : (reportJob state.db.jobRuns report.jobId report.body now).get? row.jobId
        = some row := Table.get?_of_mem member
    rw [reportJob, Table.get?_modify] at after
    dsimp only [Log.reportsOn]
    split at after
    · next own =>
        rw [stored, Option.map_some] at after
        have replays := before.replays old (Table.mem_of_get? stored)
        rw [Table.key_of_get? stored, ← own] at replays
        rw [List.filter_cons_of_pos (by simpa using own.symm)]
        have rewritten := replays.report report now
        rw [Option.some.inj after] at rewritten
        exact rewritten
    · next other =>
        rw [List.filter_cons_of_neg (by simpa using Ne.symm other)]
        exact before.replays row (Table.mem_of_get? after)
  · intro processed member
    rcases List.mem_cons.mp member with rfl | earlier
    · obtain ⟨kept, foundKept, _⟩ := grows _ _ stored
      exact ⟨kept, foundKept⟩
    · obtain ⟨row, found⟩ := before.stored processed earlier
      obtain ⟨kept, foundKept, _⟩ := grows _ _ found
      exact ⟨kept, foundKept⟩

/-- Every step leaves rows that replay what was processed, by cases of the step. -/
theorem RowsReplay.step (before : RowsReplay state)
    (consistent : Dispatch.Consistent state.dispatch)
    (stepped : System.step platform state event = some next)
    : RowsReplay next := by
  have same {changed : State} (jobRuns : changed.db.jobRuns = state.db.jobRuns)
      (reports : changed.log.reports = state.log.reports)
      : RowsReplay changed :=
    before.unreported reports (jobRuns ▸ .refl _)
      (fun row member => before.replays row (jobRuns ▸ member))
  cases step_takes stepped with
  | start _ => exact same rfl rfl
  | stop => exact same rfl rfl
  | @request process call scheduler up =>
      exact same (handle_grows platform call.env ⟨state.db, state.secrets, scheduler⟩
        call.accountId call.request).2 rfl
  | tick _ _ moved => exact before.contend consistent rfl moved
  | contend contending _ moved => exact before.contend consistent contending moved
  | reload moved =>
      obtain ⟨_, rfl⟩ := reload_inversion moved
      exact same rfl rfl
  | build _ _ _ _ _ => exact same rfl rfl
  | respond _ _ moved =>
      obtain ⟨_, _, _, _, _, rfl⟩ := respond_inversion moved
      exact same rfl rfl
  | work _ => exact same rfl rfl
  | @act number payload action rest found => cases action <;> exact same rfl rfl
  | process _ _ updated => exact before.process updated _
  | lose => exact same rfl rfl
  | crash => exact same rfl rfl
  | drop => exact same rfl rfl

end

/-- In every reachable state every job's row shows the reports processed on the job: the
status, count and error of the latest, `started_at` once a "running" report was among them
and `completed_at` once one that ends the job was. Without a report the job is pending or
dispatched.
-/
theorem rows_replay_reports {platform : Platform} {agents : Table Agent.agentId}
    {secrets : SecretStore} {events : List Event} {last : State}
    (ran : run (step platform) (State.initial agents secrets) events = some last)
    : ∀ row ∈ last.db.jobRuns.rows, Replays row (last.log.reportsOn row.jobId) := by
  have start : RowsReplay (State.initial agents secrets) :=
    ⟨fun _ member => (nomatch member), fun _ member => (nomatch member)⟩
  have both : Settled platform last ∧ RowsReplay last :=
    @run_invariant _ _ (System.step platform)
      (fun state => Settled platform state ∧ RowsReplay state)
      (fun holds stepped =>
        ⟨holds.1.step stepped, holds.2.step holds.1.consistent stepped⟩)
      (State.initial agents secrets) _ _ ⟨settled_initial platform agents secrets, start⟩ ran
  exact both.2.replays

/-- The only row of the first sync shows the only report processed. -/
theorem rows_replay_reports_first_sync
    : ∃ last,
        run (step Platform.written) (State.initial Sample.agents Sample.secrets)
            Sample.firstSync
          = some last
        ∧ ∃ row ∈ last.db.jobRuns.rows,
            row.status = JobStatus.success.value
            ∧ Replays row (last.log.reportsOn row.jobId) := by
  refine ⟨_, rfl, _, List.mem_cons_self, rfl, ?_⟩
  exact @rows_replay_reports Platform.written Sample.agents Sample.secrets Sample.firstSync _
    rfl _ List.mem_cons_self

-----------------------------------------------------------------------------------------
-- One sync for each job
-----------------------------------------------------------------------------------------

/-- A step adds at most one sync, the next action of a task. -/
theorem step_syncs_cons {platform : Platform} {state next : State} {event : Event}
    (stepped : step platform state event = some next)
    : next.log.syncs = state.log.syncs
      ∨ ∃ (number : Nat) (job : JobPayload) (run : SyncRun) (rest : List Action),
          state.tasks[number]? = some ⟨job, .synced run :: rest⟩
          ∧ next.log.syncs = (job, run) :: state.log.syncs := by
  cases step_takes stepped with
  | @act number payload action rest found =>
      cases action with
      | report report => exact Or.inl rfl
      | synced run => exact Or.inr ⟨number, payload, run, rest, found, rfl⟩
  | start _ => exact Or.inl rfl
  | stop => exact Or.inl rfl
  | request _ => exact Or.inl rfl
  | tick _ _ _ => exact Or.inl rfl
  | contend _ _ _ => exact Or.inl rfl
  | reload _ => exact Or.inl rfl
  | build _ _ _ _ _ => exact Or.inl rfl
  | respond _ _ _ => exact Or.inl rfl
  | work _ => exact Or.inl rfl
  | process _ _ _ => exact Or.inl rfl
  | lose => exact Or.inl rfl
  | crash => exact Or.inl rfl
  | drop => exact Or.inl rfl

/-- The jobs of the syncs that have returned, the latest first. -/
def Log.syncedJobs (log : Log) : List UUID := log.syncs.map (fun entry => entry.1.jobId)

/-- A job that has been synced is not synced again. -/
theorem Settled.syncs_once {platform : Platform} {state next : State} {event : Event}
    (settled : Settled platform state) (once : state.log.syncedJobs.Nodup)
    (stepped : System.step platform state event = some next)
    : next.log.syncedJobs.Nodup := by
  unfold Log.syncedJobs at once ⊢
  rcases step_syncs_cons stepped with same | ⟨number, job, run, rest, found, added⟩
  · exact same ▸ once
  · rw [added, List.map_cons, List.nodup_cons]
    refine ⟨fun already => ?_, once⟩
    obtain ⟨⟨earlier, earlierRun⟩, logged, own⟩ := List.mem_map.mp already
    have left := (settled.agrees earlier earlierRun logged).tasks _
      (List.mem_of_getElem? found) own.symm
    rcases left with empty | reporting
    · cases empty
    · cases reporting

/-- In every reachable state each job has returned from at most one sync, and at most one
report that ends the job was processed or is still on its way: when the sync has returned,
the one that tells its result.
-/
theorem jobs_sync_once {platform : Platform} {agents : Table Agent.agentId}
    {secrets : SecretStore} {events : List Event} {last : State}
    (ran : run (step platform) (State.initial agents secrets) events = some last)
    : last.log.syncedJobs.Nodup
      ∧ ∀ jobId,
          (last.network ++ last.log.reports).countP (endsJob jobId) ≤ 1
          ∧ ∀ job run, (job, run) ∈ last.log.syncs → job.jobId = jobId →
              ∀ report ∈ last.network ++ last.log.reports, endsJob jobId report = true →
                report = resultReport job run.result := by
  have both : Settled platform last ∧ last.log.syncedJobs.Nodup :=
    @run_invariant _ _ (System.step platform)
      (fun state => Settled platform state ∧ state.log.syncedJobs.Nodup)
      (fun holds stepped => ⟨holds.1.step stepped, holds.1.syncs_once holds.2 stepped⟩)
      (State.initial agents secrets) _ _
      ⟨settled_initial platform agents secrets, List.nodup_nil⟩ ran
  obtain ⟨settled, once⟩ := both
  refine ⟨once, fun jobId => ⟨?_, fun job run logged own report member ends => ?_⟩⟩
  · have single := settled.outcomes_le jobId
    unfold State.outcomes at single
    rw [List.countP_append]
    omega
  · subst own
    have agrees := settled.agrees job run logged
    rcases List.mem_append.mp member with posted | processed
    · exact agrees.network report posted ends
    · exact agrees.reports report processed ends

/-- The job of the first sync has been synced, so nothing else may end it. -/
theorem jobs_sync_once_first_sync
    : ∃ last,
        run (step Platform.written) (State.initial Sample.agents Sample.secrets)
            Sample.firstSync
          = some last
        ∧ last.log.syncedJobs = [⟨31⟩]
        ∧ (last.network ++ last.log.reports).countP (endsJob ⟨31⟩) ≤ 1 := by
  refine ⟨_, rfl, rfl, ?_⟩
  exact ((@jobs_sync_once Platform.written Sample.agents Sample.secrets Sample.firstSync _
    rfl).2 ⟨31⟩).1

end Turbocat.System
