import Turbocat.System.Settlement

/-! Job states over a run. A row shows an outcome from the report that ends its job on, as
long as no "running" report is processed after it.
-/

namespace Turbocat.System

open Turbocat.Library Turbocat.Python Turbocat.Connectors Turbocat.Orchestrator Turbocat.Agent

/-- Where a job's row comes from in one step. -/
inductive RowChange (state : State) (event : Event) (next : State) (row : JobRun) : Prop
  | kept (found : state.db.jobRuns.get? row.jobId = some row)
  | enqueued (status : row.status = JobStatus.pending.value) (unset : row.completedAt = none)
    (fresh : state.db.jobRuns.get? row.jobId = none)
  | claimed {old} (found : state.db.jobRuns.get? row.jobId = some old)
    (pending : old.status = JobStatus.pending.value) (same : row = old.dispatched)
  | reported {number now report old} (processed : event = .process number now)
    (posted : state.network[number]? = some report) (own : report.jobId = row.jobId)
    (found : state.db.jobRuns.get? row.jobId = some old)
    (logged : report ∈ next.log.reports) (same : row = old.report report.body now)

/-- Claims and cron ticks touch only pending rows. -/
theorem contend_rows {state next : State} {event : Event} {moved : Dispatch.Event}
    {dispatch : Dispatch.State} (consistent : Dispatch.Consistent state.dispatch)
    (contending : contends moved = true)
    (stepped : Dispatch.step state.dispatch moved = some dispatch) {row : JobRun}
    (member : row ∈ dispatch.jobRuns.rows)
    : RowChange state event next row := by
  have kept {table : Table JobRun.jobId} (same : table = state.db.jobRuns)
      (stored : row ∈ table.rows)
      : RowChange state event next row :=
    .kept (Table.get?_of_mem (same ▸ stored))
  cases Dispatch.step_takes stepped with
  | select _ _ => exact kept rfl member
  | @commit poll polled phase =>
      have found := Table.get?_of_mem member
      obtain ⟨old, stored, same⟩ := get?_markDispatched_eq_some_iff.mp found
      split at same
      · next among =>
          obtain ⟨held, heldFound, pending⟩ := consistent.held poll polled phase row.jobId among
          cases heldFound.symm.trans stored
          simp only [isPendingFor, decide_eq_true_eq] at pending
          exact .claimed stored pending.2 same
      · cases same
        exact .kept stored
  | reload _ _ _ => cases contending
  | respond _ _ => cases contending
  | fail _ _ _ => exact kept rfl member
  | enqueue inserted =>
      obtain ⟨fresh, rows⟩ := Table.insert_eq_some_iff.mp inserted
      rcases List.mem_append.mp (rows ▸ member) with old | new
      · exact kept rfl old
      · cases List.mem_singleton.mp new
        exact .enqueued rfl rfl fresh
  | report _ _ => cases contending

/-- Every row after a step comes from one of these, by cases of the step. -/
theorem step_rows {platform : Platform} {state next : State} {event : Event}
    (consistent : Dispatch.Consistent state.dispatch)
    (stepped : step platform state event = some next) {row : JobRun}
    (member : row ∈ next.db.jobRuns.rows)
    : RowChange state event next row := by
  cases step_takes stepped with
  | start _ => exact .kept (Table.get?_of_mem member)
  | stop => exact .kept (Table.get?_of_mem member)
  | @request process call scheduler up =>
      have jobRuns := (handle_grows platform call.env ⟨state.db, state.secrets, scheduler⟩
        call.accountId call.request).2
      have stored : row ∈ state.db.jobRuns.rows :=
        (congrArg (fun table => row ∈ table.rows) jobRuns).mp member
      exact .kept (Table.get?_of_mem stored)
  | tick _ _ moved => exact contend_rows consistent rfl moved member
  | contend contending _ moved => exact contend_rows consistent contending moved member
  | reload moved =>
      obtain ⟨_, rfl⟩ := reload_inversion moved
      exact .kept (Table.get?_of_mem member)
  | build _ _ _ _ _ => exact .kept (Table.get?_of_mem member)
  | respond _ _ moved =>
      obtain ⟨_, _, _, _, _, rfl⟩ := respond_inversion moved
      exact .kept (Table.get?_of_mem member)
  | work _ => exact .kept (Table.get?_of_mem member)
  | @act number payload action rest found =>
      cases action <;> exact .kept (Table.get?_of_mem member)
  | @process number now report db found unlocked updated =>
      obtain ⟨old, stored, _, rfl⟩ := updateJobStatus_some updated
      have after : (reportJob state.db.jobRuns report.jobId report.body now).get? row.jobId
          = some row := Table.get?_of_mem member
      rw [reportJob, Table.get?_modify] at after
      split at after
      · next own =>
          rw [stored, Option.map_some] at after
          exact .reported rfl found own.symm (own ▸ stored) List.mem_cons_self
            (Option.some.inj after).symm
      · exact .kept after
  | lose => exact .kept (Table.get?_of_mem member)
  | crash => exact .kept (Table.get?_of_mem member)
  | drop => exact .kept (Table.get?_of_mem member)

/-- A report that was newly processed was on its way, and its job's row is rewritten. -/
theorem step_reports {platform : Platform} {state next : State} {event : Event}
    (stepped : step platform state event = some next) {report : Report}
    (member : report ∈ next.log.reports)
    : report ∈ state.log.reports
      ∨ ∃ number now old,
          event = .process number now
          ∧ state.network[number]? = some report
          ∧ state.db.jobRuns.get? report.jobId = some old
          ∧ next.db.jobRuns.get? report.jobId = some (old.report report.body now) := by
  cases step_takes stepped with
  | @process number now posted db found unlocked updated =>
      rcases List.mem_cons.mp member with rfl | old
      · obtain ⟨old, stored, _, rfl⟩ := updateJobStatus_some updated
        refine Or.inr ⟨number, now, old, rfl, found, stored, ?_⟩
        dsimp only
        rw [reportJob, Table.get?_modify, if_pos rfl, stored, Option.map_some]
      · exact Or.inl old
  | @act number payload action rest found =>
      cases action <;> exact Or.inl member
  | start _ => exact Or.inl member
  | stop => exact Or.inl member
  | request _ => exact Or.inl member
  | tick _ _ _ => exact Or.inl member
  | contend _ _ _ => exact Or.inl member
  | reload _ => exact Or.inl member
  | build _ _ _ _ _ => exact Or.inl member
  | respond _ _ _ => exact Or.inl member
  | work _ => exact Or.inl member
  | lose => exact Or.inl member
  | crash => exact Or.inl member
  | drop => exact Or.inl member

theorem report_status (row : JobRun) (report : Report) (now : Datetime)
    : (row.report report.body now).status = report.status.jobStatus.value :=
  row.report_status report.body now

/-- A report shows its own count and error. -/
theorem report_fields (row : JobRun) (report : Report) (now : Datetime)
    : (row.report report.body now).rowsSynced = report.rowsSynced
      ∧ (row.report report.body now).error = report.error := by
  unfold JobRun.report
  dsimp only
  split
  · exact ⟨rfl, rfl⟩
  · split <;> exact ⟨rfl, rfl⟩

/-- A row shows an outcome after exactly the reports that end a job. -/
theorem report_terminal_iff (row : JobRun) (report : Report) (now : Datetime)
    : (row.report report.body now).Terminal ↔ report.terminal = true := by
  unfold JobRun.Terminal Report.terminal
  rw [report_status]
  cases report.status <;> decide

/-- A report that ends a job sets `completed_at`; another one leaves it. -/
theorem report_completedAt (row : JobRun) (report : Report) (now : Datetime)
    : (row.report report.body now).completedAt
      = if report.terminal then some now else row.completedAt := by
  have status : report.body.status = report.status.jobStatus.value := rfl
  unfold JobRun.report Report.terminal
  rw [status]
  cases report.status with
  | running =>
      cases row.startedAt <;> rfl
  | success => rfl
  | failed => rfl

theorem dispatched_not_terminal (row : JobRun) : ¬ row.dispatched.Terminal := by
  intro ends
  rcases ends with same | same
  · exact absurd same (by decide : JobStatus.dispatched.value ≠ JobStatus.success.value)
  · exact absurd same (by decide : JobStatus.dispatched.value ≠ JobStatus.failed.value)

theorem pending_not_terminal {row : JobRun} (pending : row.status = JobStatus.pending.value)
    : ¬ row.Terminal := by
  unfold JobRun.Terminal
  rw [pending]
  decide

-----------------------------------------------------------------------------------------
-- The invariant
-----------------------------------------------------------------------------------------

/-- The place in the network of the report an event processes. -/
def Event.processed : Event → Option Nat
  | .process number _ => some number
  | _ => none

/-- A "running" report is processed only while its job's row shows no outcome. -/
def RunningInTime (state : State) (event : Event) : Prop :=
  ∀ number ∈ event.processed, ∀ report ∈ state.network[number]?,
    report.status = .running → ∀ row ∈ state.db.jobRuns.get? report.jobId, ¬ row.Terminal

instance (state : State) (event : Event) : Decidable (RunningInTime state event) :=
  inferInstanceAs (Decidable (∀ number ∈ event.processed, ∀ report ∈ state.network[number]?,
    report.status = .running → ∀ row ∈ state.db.jobRuns.get? report.jobId, ¬ row.Terminal))

/-- Rows show outcomes, and exactly those that were reported. -/
structure ShowsOutcomes (state : State) : Prop where
  completed : ∀ row ∈ state.db.jobRuns.rows, row.completedAt.isSome = true ↔ row.Terminal
  shown
    : ∀ report ∈ state.log.reports, report.terminal = true →
        ∃ row,
          state.db.jobRuns.get? report.jobId = some row
          ∧ row.status = report.status.jobStatus.value
          ∧ row.rowsSynced = report.rowsSynced
          ∧ row.error = report.error
  ended
    : ∀ row ∈ state.db.jobRuns.rows, row.Terminal →
        ∃ report ∈ state.log.reports, endsJob row.jobId report = true

section

variable {platform : Platform} {state next : State} {event : Event}

/-- The row of a report that is processed in time shows no outcome yet: a "running" report
is in time, and of the reports that end the job there is only one.
-/
theorem ShowsOutcomes.open_row (shows : ShowsOutcomes state)
    (settled : Settled platform state) (inTime : RunningInTime state event) {number : Nat}
    {now : Datetime} (processed : event = .process number now) {report : Report}
    (posted : state.network[number]? = some report) {row : JobRun}
    (found : state.db.jobRuns.get? report.jobId = some row)
    : ¬ row.Terminal := by
  intro terminal
  by_cases ends : report.terminal = true
  · obtain ⟨earlier, member, same⟩ := shows.ended row (Table.mem_of_get? found) terminal
    rw [Table.key_of_get? found] at same
    have onItsWay : 0 < state.network.countP (endsJob report.jobId) :=
      List.countP_pos_iff.mpr ⟨report, List.mem_of_getElem? posted, by simp [endsJob, ends]⟩
    have already : 0 < state.log.reports.countP (endsJob report.jobId) :=
      List.countP_pos_iff.mpr ⟨earlier, member, same⟩
    have single := settled.outcomes_le report.jobId
    unfold State.outcomes at single
    omega
  · have running : report.status = .running := by simpa [Report.terminal] using ends
    subst processed
    exact inTime number rfl report posted running row found terminal

/-- A row that shows an outcome is not changed by a step in time. -/
theorem ShowsOutcomes.terminal_kept (shows : ShowsOutcomes state)
    (settled : Settled platform state) (inTime : RunningInTime state event)
    (stepped : step platform state event = some next) {row : JobRun}
    (member : row ∈ state.db.jobRuns.rows) (terminal : row.Terminal)
    : row ∈ next.db.jobRuns.rows := by
  have found := Table.get?_of_mem member
  obtain ⟨kept, foundKept, _⟩ := (step_grows stepped).db.jobRuns _ _ found
  have own := Table.key_of_get? foundKept
  have same : kept = row := by
    cases step_rows settled.consistent stepped (Table.mem_of_get? foundKept) with
    | kept before =>
        rw [own, found] at before
        exact (Option.some.inj before).symm
    | enqueued _ _ fresh =>
        rw [own, found] at fresh
        cases fresh
    | claimed before pending _ =>
        rw [own, found] at before
        cases before
        exact absurd terminal (pending_not_terminal pending)
    | reported processed posted ownReport before _ _ =>
        rw [own, found] at before
        cases before
        exact absurd terminal (shows.open_row settled inTime processed posted
          ((ownReport.trans own) ▸ found))
  exact same ▸ Table.mem_of_get? foundKept

/-- A step in time keeps the invariant, by cases of where each row comes from. -/
theorem ShowsOutcomes.step (shows : ShowsOutcomes state) (settled : Settled platform state)
    (inTime : RunningInTime state event)
    (stepped : System.step platform state event = some next)
    : ShowsOutcomes next where
  completed := by
    intro row member
    cases step_rows settled.consistent stepped member with
    | kept found => exact shows.completed row (Table.mem_of_get? found)
    | enqueued status unset _ =>
        rw [unset]
        exact iff_of_false (by simp) (pending_not_terminal status)
    | @claimed old found pending same =>
        have before := (shows.completed old (Table.mem_of_get? found)).not.mpr
          (pending_not_terminal pending)
        subst same
        exact iff_of_false before (dispatched_not_terminal old)
    | @reported number now report old processed posted own found _ same =>
        have notYet := shows.open_row settled inTime processed posted (own ▸ found)
        have before := (shows.completed old (Table.mem_of_get? found)).not.mpr notYet
        rw [same, report_completedAt, report_terminal_iff]
        split
        · next ends => exact iff_of_true rfl ends
        · next ends => exact iff_of_false before ends
  shown := by
    intro report member ends
    rcases step_reports stepped member with earlier | ⟨number, now, old, _, _, _, after⟩
    · obtain ⟨row, found, status, fields⟩ := shows.shown report earlier ends
      have terminal : row.Terminal := by
        unfold JobRun.Terminal
        rw [status]
        revert ends
        unfold Report.terminal
        cases report.status <;> decide
      have kept := shows.terminal_kept settled inTime stepped (Table.mem_of_get? found) terminal
      exact ⟨row, (Table.key_of_get? found) ▸ Table.get?_of_mem kept, status, fields⟩
    · exact ⟨_, after, report_status old report now, report_fields old report now⟩
  ended := by
    intro row member terminal
    have old {before : JobRun} (found : state.db.jobRuns.get? row.jobId = some before)
        (shown : before.Terminal)
        : ∃ report ∈ next.log.reports, endsJob row.jobId report = true := by
      obtain ⟨report, earlier, ends⟩ := shows.ended before (Table.mem_of_get? found) shown
      rw [Table.key_of_get? found] at ends
      exact ⟨report, (step_grows stepped).reports earlier, ends⟩
    cases step_rows settled.consistent stepped member with
    | kept found => exact old found terminal
    | enqueued status _ _ => exact absurd terminal (pending_not_terminal status)
    | @claimed before _ _ same => exact absurd (same ▸ terminal) (dispatched_not_terminal before)
    | @reported number now report before _ _ own _ logged same =>
        rw [same, report_terminal_iff] at terminal
        exact ⟨report, logged, by simp [endsJob, own, terminal]⟩

end

/-- A run in time shows outcomes from a start that does, and keeps them. -/
theorem run_showsOutcomes {platform : Platform} {state last : State} {events : List Event}
    (settled : Settled platform state) (shows : ShowsOutcomes state)
    (inTime : Along (step platform) RunningInTime state events)
    (ran : run (step platform) state events = some last)
    : (Settled platform last ∧ ShowsOutcomes last)
      ∧ ∀ row ∈ state.db.jobRuns.rows, row.Terminal → row ∈ last.db.jobRuns.rows := by
  refine @Along.invariant _ _ (step platform) RunningInTime
    (fun middle => (Settled platform middle ∧ ShowsOutcomes middle)
      ∧ ∀ row ∈ state.db.jobRuns.rows, row.Terminal → row ∈ middle.db.jobRuns.rows)
    ?_ state last events ⟨⟨settled, shows⟩, fun _ member _ => member⟩ inTime ran
  intro middle event next holds inTime stepped
  obtain ⟨⟨settled, shows⟩, kept⟩ := holds
  refine ⟨⟨settled.step stepped, shows.step settled inTime stepped⟩, ?_⟩
  exact fun row member terminal =>
    shows.terminal_kept settled inTime stepped (kept row member terminal) terminal

/-- In every run whose "running" reports are processed in time, a row that shows an outcome
stays as it is, `completed_at` is set exactly in the rows that show one, and the row of a job
whose outcome was processed shows it: the result of the job's sync, when that returned.
-/
theorem terminal_states_final {platform : Platform} {agents : Table Agent.agentId}
    {secrets : SecretStore} {events : List Event} {last : State}
    (inTime
      : Along (step platform) RunningInTime (State.initial agents secrets) events)
    (ran : run (step platform) (State.initial agents secrets) events = some last)
    : (∀ earlier later middle,
        events = earlier ++ later
        → run (step platform) (State.initial agents secrets) earlier = some middle
        → ∀ row ∈ middle.db.jobRuns.rows, row.Terminal → row ∈ last.db.jobRuns.rows)
      ∧ (∀ row ∈ last.db.jobRuns.rows, row.completedAt.isSome = true ↔ row.Terminal)
      ∧ (∀ report ∈ last.log.reports, report.status ≠ .running →
          (∃ row,
            last.db.jobRuns.get? report.jobId = some row
            ∧ row.status = report.status.jobStatus.value
            ∧ row.rowsSynced = report.rowsSynced
            ∧ row.error = report.error)
          ∧ ∀ job run, (job, run) ∈ last.log.syncs → report.jobId = job.jobId →
              report = resultReport job run.result) := by
  have settledStart := settled_initial platform agents secrets
  have showsStart : ShowsOutcomes (State.initial agents secrets) := by
    constructor <;> exact fun _ member => nomatch member
  have whole := (run_showsOutcomes settledStart showsStart inTime ran).1
  refine ⟨?_, whole.2.completed, fun report member ends => ?_⟩
  · intro earlier later middle whole first row member terminal
    subst whole
    obtain ⟨before, after⟩ := inTime.split first
    obtain ⟨state, reached, rest⟩ := run_append_iff.mp ran
    cases first.symm.trans reached
    have half := (run_showsOutcomes settledStart showsStart before first).1
    exact (run_showsOutcomes half.1 half.2 after rest).2 row member terminal
  · have terminal : report.terminal = true := decide_eq_true ends
    refine ⟨whole.2.shown report member terminal, fun job run logged own => ?_⟩
    exact (whole.1.agrees job run logged).reports report member
      (by simp [endsJob, own, terminal])

/-- The first sync reports in order; its row shows what it loaded and stays so. -/
theorem terminal_states_final_first_sync
    : ∃ last,
        run (step Platform.written) (State.initial Sample.agents Sample.secrets)
            (Sample.firstSync ++ [.drop 0])
          = some last
        ∧ ∀ row ∈ last.db.jobRuns.rows, row.completedAt.isSome = true ↔ row.Terminal := by
  refine ⟨_, rfl, ?_⟩
  exact (@terminal_states_final Platform.written Sample.agents Sample.secrets
    (Sample.firstSync ++ [.drop 0]) _ (by decide +kernel) rfl).2.1

/-- The "running" report of the first sync is held up and processed last. -/
theorem late_running_report
    : ∃ before last row,
        run (step Platform.written) (State.initial Sample.agents Sample.secrets)
            Sample.firstSync
          = some before
        ∧ (before.db.jobRuns.get? ⟨31⟩).map (fun row => row.status)
          = some JobStatus.success.value
        ∧ step Platform.written before (.process 0 (Sample.time 13)) = some last
        ∧ last.db.jobRuns.get? ⟨31⟩ = some row
        ∧ row.status = JobStatus.running.value
        ∧ row.completedAt.isSome = true :=
  ⟨_, _, _, rfl, rfl, rfl, rfl, rfl, rfl⟩

end Turbocat.System
