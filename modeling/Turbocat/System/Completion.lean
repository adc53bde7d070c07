import Mathlib.Data.Fintype.EquivFin
import Turbocat.System.SerialPolls
import Turbocat.System.TerminalStates

/-! No pending job is out of reach: whatever has happened, the transactions that are open can
end, one poll of an agent can take all of its pending jobs, and the agent can run each of
them to its end.
-/

namespace Turbocat.System

open Turbocat.Library Turbocat.Python Turbocat.Connectors Turbocat.Orchestrator Turbocat.Agent

/-- Steps by which what is there goes on: no process starts or stops, no request or tick
comes, and nothing is lost.
-/
def Event.GoesOn : Event → Prop
  | .select _ _ _ => True
  | .commit _ => True
  | .reload _ _ => True
  | .build _ _ _ => True
  | .respond _ => True
  | .abort _ => True
  | .work _ _ => True
  | .act _ => True
  | .process _ _ => True
  | _ => False

/-- The steps of a poll are such steps. -/
theorem Event.OfPoll.goesOn {pollId : Nat} (event : Event) (own : event.OfPoll pollId)
    : event.GoesOn := by
  cases event <;> trivial

-----------------------------------------------------------------------------------------
-- Open transactions
-----------------------------------------------------------------------------------------

section

variable {platform : Platform} {state : State}

/-- The open transactions of some polls can end, by induction over the polls. -/
theorem transactions_end_among (platform : Platform) (state : State) (pollIds : List Nat)
    : ∃ next,
        Reaches (step platform) Event.GoesOn state next
        ∧ (∃ polls, next = { state with polls })
        ∧ ∀ poll ∈ next.polls.rows,
            (∃ old ∈ state.polls.rows, old.pollId = poll.pollId)
            ∧ (poll.phase = .selected → poll.pollId ∉ pollIds) := by
  induction pollIds with
  | nil =>
      exact ⟨state, .refl state, ⟨state.polls, rfl⟩, fun poll member =>
        ⟨⟨poll, member, rfl⟩, fun _ => List.not_mem_nil⟩⟩
  | cons pollId rest ih =>
      obtain ⟨middle, reaches, ⟨polls, rfl⟩, others⟩ := ih
      by_cases opened : ∃ poll ∈ polls.rows, poll.pollId = pollId ∧ poll.phase = .selected
      · obtain ⟨poll, member, rfl, phase⟩ := opened
        have found : polls.get? poll.pollId = some poll := Table.get?_of_mem member
        let ended : Dispatch.State :=
          Dispatch.State.setPhase ⟨state.db.jobRuns, polls⟩ poll.pollId .failed
        have stepped
            : step platform { state with polls } (.abort poll.pollId)
              = some { state with polls := ended.polls } := by
          refine Option.map_eq_some_iff.mpr ⟨ended, ?_, rfl⟩
          simp only [Dispatch.step, State.dispatch, found, phase]
          rfl
        refine ⟨_, reaches.trans (.single stepped trivial), ⟨_, rfl⟩, fun other among => ?_⟩
        obtain ⟨old, oldMember, rfl⟩ := Dispatch.mem_setPhase.mp among
        obtain ⟨known, closed⟩ := others old oldMember
        by_cases same : old.pollId = poll.pollId
        · rw [if_pos same]
          exact ⟨known, fun selected => by cases selected⟩
        · rw [if_neg same]
          exact ⟨known, fun selected listed =>
            (List.mem_cons.mp listed).elim same (closed selected)⟩
      · refine ⟨_, reaches, ⟨polls, rfl⟩, fun poll member => ?_⟩
        obtain ⟨known, closed⟩ := others poll member
        refine ⟨known, fun selected listed => ?_⟩
        exact (List.mem_cons.mp listed).elim (fun same => opened ⟨poll, member, same, selected⟩)
          (closed selected)

/-- All open transactions can end, and then no row is held. -/
theorem transactions_end (platform : Platform) (state : State)
    : ∃ next,
        Reaches (step platform) Event.GoesOn state next
        ∧ (∃ polls, next = { state with polls })
        ∧ ∀ jobId, next.dispatch.locked jobId = false := by
  obtain ⟨next, reaches, same, closed⟩ :=
    transactions_end_among platform state (state.polls.rows.map Dispatch.Poll.pollId)
  refine ⟨next, reaches, same, fun jobId => ?_⟩
  cases held : next.dispatch.locked jobId with
  | false => rfl
  | true =>
      obtain ⟨poll, member, holds⟩ := List.any_eq_true.mp held
      simp only [Bool.and_eq_true, decide_eq_true_eq] at holds
      obtain ⟨⟨old, stored, same⟩, notSelected⟩ := closed poll member
      exact absurd (same ▸ List.mem_map_of_mem stored) (notSelected holds.1)

-----------------------------------------------------------------------------------------
-- One job
-----------------------------------------------------------------------------------------

/-- A row after some reports, processed in their order. -/
def reported (row : JobRun) (now : Datetime) (reports : List Report) : JobRun :=
  reports.foldl (fun row report => row.report report.body now) row

/-- A pipeline after a report on a job of some pipeline. -/
def pipelineAfter (pipelineId : UUID) (pipeline : Pipeline) (report : Report) : Pipeline :=
  match report.body.cursor with
  | none => pipeline
  | some state =>
      if pipeline.pipelineId = pipelineId then pipeline.advanced state else pipeline

/-- What the reports on a job change: its own row, and the cursor of its pipeline. -/
structure JobRan (state : State) (waiting : List JobPayload) (row : JobRun) (now : Datetime)
    (reports : List Report) (last : State)
    : Prop where
  same
    : ∃ jobRuns pipelines tasks log,
        last = { state with db := { state.db with jobRuns, pipelines }, waiting, tasks, log }
  shown : last.db.jobRuns.get? row.jobId = some (reported row now reports)
  others
    : ∀ jobId, jobId ≠ row.jobId → last.db.jobRuns.get? jobId = state.db.jobRuns.get? jobId
  pipelines
    : ∀ pipelineId,
        last.db.pipelines.get? pipelineId
        = (state.db.pipelines.get? pipelineId).map
            (fun pipeline => reports.foldl (pipelineAfter row.pipelineId) pipeline)

/-- Reports keep a row's job and pipeline, by induction over them. -/
theorem reported_fixed (row : JobRun) (now : Datetime) (reports : List Report)
    : (reported row now reports).jobId = row.jobId
      ∧ (reported row now reports).pipelineId = row.pipelineId := by
  unfold reported
  induction reports generalizing row with
  | nil => exact ⟨rfl, rfl⟩
  | cons report rest ih =>
      obtain ⟨sameJob, samePipeline⟩ := ih (row.report report.body now)
      have fixed := row.report_fixed report.body now
      exact ⟨sameJob.trans (row.report_jobId report.body now),
        samePipeline.trans (congrArg Prod.fst fixed)⟩

/-- A job that goes on from a state in which only it has moved. -/
theorem JobRan.after {middle last : State} {waiting : List JobPayload} {row : JobRun}
    {now : Datetime} {first second : List Report}
    (earlier : JobRan state waiting row now first middle)
    (later : JobRan middle middle.waiting (reported row now first) now second last)
    : JobRan state waiting row now (first ++ second) last := by
  obtain ⟨sameJob, samePipeline⟩ := reported_fixed row now first
  refine ⟨?_, ?_, fun jobId different => ?_, fun pipelineId => ?_⟩
  · obtain ⟨_, _, _, _, rfl⟩ := earlier.same
    obtain ⟨jobRuns, pipelines, tasks, log, rfl⟩ := later.same
    exact ⟨jobRuns, pipelines, tasks, log, rfl⟩
  · rw [← sameJob, later.shown]
    exact congrArg some List.foldl_append.symm
  · exact (later.others jobId (sameJob ▸ different)).trans (earlier.others jobId different)
  · rw [later.pipelines, earlier.pipelines, Option.map_map, samePipeline]
    exact congrArg (Option.map · _) (funext fun pipeline => List.foldl_append.symm)

theorem JobRan.locked_eq {last : State} {waiting : List JobPayload} {row : JobRun}
    {now : Datetime} {reports : List Report} (ran : JobRan state waiting row now reports last)
    : last.dispatch.locked = state.dispatch.locked := by
  obtain ⟨_, _, _, _, rfl⟩ := ran.same
  rfl

/-- The pipelines after a report, one by one. -/
theorem get?_cursor {pipelines : Table Pipeline.pipelineId} (report : Report)
    (own pipelineId : UUID)
    : (match report.body.cursor with
        | none => pipelines
        | some state =>
            pipelines.modify own (fun pipeline => pipeline.advanced state)
              (fun _ => rfl)).get? pipelineId
      = (pipelines.get? pipelineId).map
          (fun pipeline => [report].foldl (pipelineAfter own) pipeline) := by
  have key {pipeline : Pipeline} (found : pipelines.get? pipelineId = some pipeline)
      : pipeline.pipelineId = pipelineId :=
    Table.key_of_get? found
  simp only [List.foldl_cons, List.foldl_nil]
  unfold pipelineAfter
  cases report.body.cursor with
  | none => exact Option.map_id'.symm
  | some state =>
      refine (Table.get?_modify pipelines own _ _ pipelineId).trans ?_
      cases found : pipelines.get? pipelineId with
      | none =>
          by_cases same : pipelineId = own
          · rw [if_pos same, ← same, found]
            rfl
          · rw [if_neg same]
            rfl
      | some pipeline =>
          by_cases same : pipelineId = own
          · rw [if_pos same, ← same, found, Option.map_some, Option.map_some]
            dsimp only
            rw [if_pos (key found)]
          · rw [if_neg same, Option.map_some]
            dsimp only
            rw [key found, if_neg same]

/-- A task does its next action. A report is processed as soon as it is posted. -/
theorem action_done {payload : JobPayload} {action : Action} {more : List Action}
    {others : List Task} {row : JobRun} (now : Datetime)
    (running : state.tasks = ⟨payload, action :: more⟩ :: others)
    (own : ∀ report ∈ reportsOf [action], report.jobId = payload.jobId)
    (fits : ∀ report ∈ reportsOf [action], report.body.fits = true)
    (stored : state.db.jobRuns.get? payload.jobId = some row)
    (unlocked : ∀ jobId, state.dispatch.locked jobId = false)
    : ∃ next,
        Reaches (step platform) Event.GoesOn state next
        ∧ next.tasks = ⟨payload, more⟩ :: others
        ∧ JobRan state state.waiting row now (reportsOf [action]) next := by
  have ownRow : row.jobId = payload.jobId := Table.key_of_get? stored
  have acts : step platform state (.act 0) = some (state.acted 0 payload more action) := by
    simp only [step, running, List.getElem?_cons_zero]
  cases action with
  | synced run =>
      refine ⟨_, .single acts trivial, ?_, ?_, ownRow ▸ stored, fun _ _ => rfl, fun _ => ?_⟩
      · simp only [State.acted, running, List.eraseIdx_cons_zero]
      · exact ⟨state.db.jobRuns, state.db.pipelines, _, _, rfl⟩
      · exact Option.map_id'.symm
  | report report =>
      have ownReport : report.jobId = payload.jobId := own report List.mem_cons_self
      have fit : report.body.fits = true := fits report List.mem_cons_self
      obtain ⟨db, updated⟩
          : ∃ db, updateJobStatus state.db report.jobId report.body now = some db := by
        simp only [updateJobStatus, ownReport, stored, if_pos fit]
        exact ⟨_, rfl⟩
      have processes
          : step platform (state.acted 0 payload more (.report report)) (.process 0 now)
            = some
                { state.acted 0 payload more (.report report) with
                  db
                  network := state.network
                  log := { state.log with reports := report :: state.log.reports } } := by
        have free : (state.acted 0 payload more (.report report)).dispatch.locked report.jobId
            = false := unlocked report.jobId
        have same : (state.acted 0 payload more (.report report)).db = state.db := rfl
        have posted : (state.acted 0 payload more (.report report)).network
            = report :: state.network := rfl
        simp only [step, posted, List.getElem?_cons_zero, free, same, updated,
          Bool.false_eq_true, if_false, List.eraseIdx_cons_zero]
        rfl
      obtain ⟨old, found, _, rfl⟩ := updateJobStatus_some updated
      rw [ownReport] at found
      cases stored.symm.trans found
      refine ⟨_, (Reaches.single acts trivial).trans (.single processes trivial), ?_, ?_, ?_,
        fun jobId different => ?_, fun pipelineId => ?_⟩
      · simp only [State.acted, running, List.eraseIdx_cons_zero]
      · exact ⟨_, _, _, _, rfl⟩
      · simp only [reportJob, ownReport, ownRow, Table.get?_modify, if_true, stored,
          Option.map_some]
        rfl
      · rw [ownRow] at different
        simp only [reportJob, ownReport, Table.get?_modify, if_neg different]
      · exact get?_cursor report row.pipelineId pipelineId

/-- A task does all its actions, by induction over them. -/
theorem actions_done {payload : JobPayload} {actions : List Action} {others : List Task}
    {row : JobRun} (now : Datetime) (running : state.tasks = ⟨payload, actions⟩ :: others)
    (own : ∀ report ∈ reportsOf actions, report.jobId = payload.jobId)
    (fits : ∀ report ∈ reportsOf actions, report.body.fits = true)
    (stored : state.db.jobRuns.get? payload.jobId = some row)
    (unlocked : ∀ jobId, state.dispatch.locked jobId = false)
    : ∃ last,
        Reaches (step platform) Event.GoesOn state last
        ∧ JobRan state state.waiting row now (reportsOf actions) last := by
  induction actions generalizing state row with
  | nil =>
      refine ⟨state, .refl state, ⟨_, _, _, _, rfl⟩, ?_, fun _ _ => rfl, fun _ => ?_⟩
      · rw [Table.key_of_get? stored]
        exact stored
      · exact Option.map_id'.symm
  | cons action more ih =>
      have parts : reportsOf (action :: more) = reportsOf [action] ++ reportsOf more :=
        @List.filterMap_append _ _ [action] more _
      rw [parts] at own fits ⊢
      obtain ⟨ownFirst, ownMore⟩ := List.forall_mem_append.mp own
      obtain ⟨fitsFirst, fitsMore⟩ := List.forall_mem_append.mp fits
      obtain ⟨next, reaches, runs, ran⟩ :=
        @action_done platform state payload action more others row now running ownFirst
          fitsFirst stored unlocked
      obtain ⟨last, later, finished⟩ :=
        ih runs ownMore fitsMore (Table.key_of_get? stored ▸ ran.shown)
          (fun jobId => by rw [ran.locked_eq, unlocked])
      exact ⟨last, reaches.trans later, ran.after finished⟩

/-- Whether the sync of a job succeeds. -/
def succeeds (repr : String → String) (env : JobEnv) (payload : JobPayload) : Bool :=
  match buildSource repr env payload with
  | .error _ => false
  | .ok source =>
      match syncJob env payload source with
      | none => false
      | some run => decide (run.result.status = .success)

/-- The cursor that a sync up to some time stores. -/
def cursorAt (endTime : Datetime) : Dict := [("last_sync_at", .str endTime.isoformat)]

/-- A job that returns reports that it runs, and how it ended: with a cursor exactly when its
sync succeeded.
-/
theorem runJob_reports {repr : String → String} {env : JobEnv} {payload : JobPayload}
    {endTime : Datetime} (returned : returns repr env payload = true)
    (ends : payload.endTime = some endTime)
    : ∃ ended,
        reportsOf (runJob repr env payload) = [runningReport payload, ended]
        ∧ ended.jobId = payload.jobId
        ∧ ended.terminal = true
        ∧ ended.body.cursor
          = if succeeds repr env payload then some (cursorAt endTime) else none := by
  unfold returns at returned
  unfold runJob succeeds
  cases built : buildSource repr env payload with
  | error exception => exact ⟨unhandledReport payload exception, rfl, rfl, rfl, rfl⟩
  | ok source =>
      simp only [built] at returned
      obtain ⟨run, synced⟩ := Option.isSome_iff_exists.mp returned
      simp only [synced]
      refine ⟨resultReport payload run.result, rfl, (resultReport_terminal payload run.result).1,
        (resultReport_terminal payload run.result).2, ?_⟩
      cases status : run.result.status with
      | error => simp only [resultReport, status, reduceCtorEq, decide_false]; rfl
      | success =>
          have next := syncJob_success synced status ends
          simp only [resultReport, status, decide_true, if_true, next]
          rfl

/-- What the reports of a job make of a pipeline. -/
theorem pipelineAfter_runJob {repr : String → String} {env : JobEnv} {payload : JobPayload}
    {endTime : Datetime} (returned : returns repr env payload = true)
    (ends : payload.endTime = some endTime) (pipelineId : UUID) (pipeline : Pipeline)
    : (reportsOf (runJob repr env payload)).foldl (pipelineAfter pipelineId) pipeline
      = if succeeds repr env payload = true ∧ pipeline.pipelineId = pipelineId then
          pipeline.advanced (cursorAt endTime)
        else pipeline := by
  obtain ⟨ended, reports, _, _, cursor⟩ := runJob_reports returned ends
  have running : pipelineAfter pipelineId pipeline (runningReport payload) = pipeline := rfl
  rw [reports, List.foldl_cons, List.foldl_cons, List.foldl_nil, running]
  unfold pipelineAfter
  rw [cursor]
  cases succeeds repr env payload <;> simp

/-- A job has ended as its agent found: its row shows the last report of the agent. -/
def EndedAs (platform : Platform) (env : JobEnv) (payload : JobPayload) (last : State) : Prop :=
  ∃ ended row,
    (reportsOf (runJob platform.repr env payload)).getLast? = some ended
    ∧ last.db.jobRuns.get? payload.jobId = some row
    ∧ row.Terminal
    ∧ row.status = ended.status.jobStatus.value
    ∧ row.rowsSynced = ended.rowsSynced
    ∧ row.error = ended.error

/-- An agent can run a waiting job to its end. -/
theorem job_runs {env : JobEnv} {payload : JobPayload} {number : Nat} {row : JobRun}
    {endTime : Datetime} (now : Datetime) (waits : state.waiting[number]? = some payload)
    (ends : payload.endTime = some endTime)
    (returned : returns platform.repr env payload = true)
    (fits
      : ∀ report ∈ reportsOf (runJob platform.repr env payload), report.body.fits = true)
    (stored : state.db.jobRuns.get? payload.jobId = some row)
    (unlocked : ∀ jobId, state.dispatch.locked jobId = false)
    : ∃ last,
        Reaches (step platform) Event.GoesOn state last
        ∧ JobRan state (state.waiting.eraseIdx number) row now
            (reportsOf (runJob platform.repr env payload)) last
        ∧ EndedAs platform env payload last := by
  obtain ⟨report, reports, own, terminal, _⟩ := runJob_reports returned ends
  have starts
      : step platform state (.work number env)
        = some
            { state with
              waiting := state.waiting.eraseIdx number
              tasks := ⟨payload, runJob platform.repr env payload⟩ :: state.tasks } :=
    Option.map_eq_some_iff.mpr ⟨payload, waits, rfl⟩
  have owned
      : ∀ report ∈ reportsOf (runJob platform.repr env payload),
          report.jobId = payload.jobId := by
    rw [reports]
    exact List.forall_mem_cons.mpr ⟨rfl, List.forall_mem_singleton.mpr own⟩
  obtain ⟨last, reaches, ran⟩ :=
    @actions_done platform
      { state with
        waiting := state.waiting.eraseIdx number
        tasks := ⟨payload, runJob platform.repr env payload⟩ :: state.tasks }
      payload _ _ row now rfl owned fits stored unlocked
  have shown := ran.shown
  rw [Table.key_of_get? stored] at shown
  refine ⟨last, (Reaches.single starts trivial).trans reaches,
    ⟨?_, ran.shown, ran.others, ran.pipelines⟩, report, _, ?_, shown, ?_⟩
  · obtain ⟨jobRuns, pipelines, tasks, log, rfl⟩ := ran.same
    exact ⟨jobRuns, pipelines, tasks, log, rfl⟩
  · rw [reports]
    rfl
  · rw [reports]
    obtain ⟨rows, error⟩ := report_fields (row.report (runningReport payload).body now) report now
    exact ⟨(report_terminal_iff _ report now).mpr terminal, report_status _ report now, rows,
      error⟩

-----------------------------------------------------------------------------------------
-- All jobs of an agent
-----------------------------------------------------------------------------------------

/-- A pipeline after some jobs have ended: one whose sync succeeded has moved its cursor. -/
def caughtUp (platform : Platform) (envs : JobPayload → JobEnv) (payloads : List JobPayload)
    (now : Datetime) (pipeline : Pipeline)
    : Pipeline :=
  if payloads.any (fun payload =>
      succeeds platform.repr (envs payload) payload
      && decide (pipeline.pipelineId = payload.pipelineId))
  then pipeline.advanced (cursorAt now)
  else pipeline

/-- The cursor may be moved job by job. -/
theorem caughtUp_cons {envs : JobPayload → JobEnv} (payload : JobPayload)
    (rest : List JobPayload) (now : Datetime) (pipeline : Pipeline)
    : caughtUp platform envs rest now
          (if succeeds platform.repr (envs payload) payload = true
              ∧ pipeline.pipelineId = payload.pipelineId
            then pipeline.advanced (cursorAt now)
            else pipeline)
      = caughtUp platform envs (payload :: rest) now pipeline := by
  by_cases first
      : succeeds platform.repr (envs payload) payload = true
        ∧ pipeline.pipelineId = payload.pipelineId
  · have twice
        : (pipeline.advanced (cursorAt now)).advanced (cursorAt now)
          = pipeline.advanced (cursorAt now) :=
      rfl
    simp only [caughtUp, first, and_self, if_true, List.any_cons, decide_true, Bool.and_self,
      Bool.true_or, twice, ite_self]
  · have skipped
        : (succeeds platform.repr (envs payload) payload
            && decide (pipeline.pipelineId = payload.pipelineId))
          = false := by
      simpa using first
    simp only [if_neg first, caughtUp, List.any_cons, skipped, Bool.false_or]

/-- An agent can run all jobs that wait at the end of its list, by induction over them. -/
theorem jobs_run {envs : JobPayload → JobEnv} {waiting payloads : List JobPayload}
    (now : Datetime) (waits : state.waiting = waiting ++ payloads)
    (distinct : (payloads.map (fun payload => payload.jobId)).Nodup)
    (stored
      : ∀ payload ∈ payloads,
          payload.endTime = some now
          ∧ ∃ row,
              state.db.jobRuns.get? payload.jobId = some row
              ∧ row.pipelineId = payload.pipelineId)
    (returned
      : ∀ payload ∈ payloads,
          returns platform.repr (envs payload) payload = true
          ∧ ∀ report ∈ reportsOf (runJob platform.repr (envs payload) payload),
              report.body.fits = true)
    (unlocked : ∀ jobId, state.dispatch.locked jobId = false)
    : ∃ last,
        Reaches (step platform) Event.GoesOn state last
        ∧ (∀ payload ∈ payloads, EndedAs platform (envs payload) payload last)
        ∧ (∀ jobId, jobId ∉ payloads.map (fun payload => payload.jobId) →
            last.db.jobRuns.get? jobId = state.db.jobRuns.get? jobId)
        ∧ ∀ pipelineId,
            last.db.pipelines.get? pipelineId
            = (state.db.pipelines.get? pipelineId).map (caughtUp platform envs payloads now) := by
  induction payloads generalizing state with
  | nil =>
      exact ⟨state, .refl state, fun _ member => absurd member List.not_mem_nil,
        fun _ _ => rfl, fun _ => Option.map_id'.symm⟩
  | cons payload rest ih =>
      obtain ⟨⟨ends, row, found, ownPipeline⟩, storedRest⟩ := List.forall_mem_cons.mp stored
      obtain ⟨⟨returnedFirst, fitsFirst⟩, returnedRest⟩ := List.forall_mem_cons.mp returned
      obtain ⟨apart, distinctRest⟩ := List.nodup_cons.mp distinct
      have first : state.waiting[waiting.length]? = some payload := by
        rw [waits, List.getElem?_append_right (Nat.le_refl _), Nat.sub_self,
          List.getElem?_cons_zero]
      have left : state.waiting.eraseIdx waiting.length = waiting ++ rest := by
        rw [waits, List.eraseIdx_append_of_length_le (Nat.le_refl _), Nat.sub_self,
          List.eraseIdx_cons_zero]
      obtain ⟨next, reaches, ran, done⟩ :=
        @job_runs platform state (envs payload) payload _ row now now first ends returnedFirst
          fitsFirst found unlocked
      have own : row.jobId = payload.jobId := Table.key_of_get? found
      have other {later : JobPayload} (member : later ∈ rest) : later.jobId ≠ row.jobId :=
        fun same => apart (List.mem_map.mpr ⟨later, member, same.trans own⟩)
      have waitsNext : next.waiting = waiting ++ rest := by
        obtain ⟨_, _, _, _, rfl⟩ := ran.same
        exact left
      obtain ⟨last, later, endeds, kept, cursors⟩ :=
        ih waitsNext distinctRest
          (fun later member => by
            rw [ran.others _ (other member)]
            exact storedRest later member)
          returnedRest (fun jobId => by rw [ran.locked_eq, unlocked])
      refine ⟨last, reaches.trans later, List.forall_mem_cons.mpr ⟨?_, endeds⟩,
        fun jobId outside => ?_, fun pipelineId => ?_⟩
      · obtain ⟨report, shown, reported, row, facts⟩ := done
        exact ⟨report, shown, reported, (kept _ apart).trans row, facts⟩
      · rw [List.map_cons, List.mem_cons, not_or] at outside
        exact (kept jobId outside.2).trans (ran.others jobId (own ▸ outside.1))
      · rw [cursors, ran.pipelines, Option.map_map]
        refine congrArg (Option.map · _) (funext fun pipeline => ?_)
        rw [Function.comp_apply, pipelineAfter_runJob returnedFirst ends, ownPipeline]
        exact caughtUp_cons payload rest now pipeline

/-- There is always a number that no poll has. -/
theorem exists_fresh_poll (state : State) : ∃ pollId, state.polls.get? pollId = none := by
  obtain ⟨pollId, absent⟩ :=
    Infinite.exists_notMem_finset (state.polls.rows.map Dispatch.Poll.pollId).toFinset
  rw [List.mem_toFinset] at absent
  exact ⟨pollId, Table.get?_eq_none_iff.mpr absent⟩

/-- A poll that has ended holds no row. -/
theorem Ended.unlocked {last : State} {db : Db} {pollId : Nat}
    {answer : Option (List JobPayload)} (ended : Ended state db pollId answer last)
    (unlocked : ∀ jobId, state.dispatch.locked jobId = false) (jobId : UUID)
    : last.dispatch.locked jobId = false := by
  cases held : last.dispatch.locked jobId with
  | false => rfl
  | true =>
      obtain ⟨poll, member, holds⟩ := List.any_eq_true.mp held
      have found : last.polls.get? poll.pollId = some poll := Table.get?_of_mem member
      by_cases own : poll.pollId = pollId
      · obtain ⟨same, foundSame, phase⟩ := ended.ended
        rw [own, foundSame] at found
        cases found
        simp only [Bool.and_eq_true, decide_eq_true_eq] at holds
        cases answer with
        | none => cases holds.1.symm.trans phase
        | some payloads => cases holds.1.symm.trans phase
      · rw [ended.others _ own] at found
        rw [← unlocked jobId]
        exact (List.any_eq_true.mpr ⟨poll, Table.mem_of_get? found, holds⟩).symm

/-- A response names the selected jobs, and they are claimed if nothing fails before. -/
theorem getPendingJobs_answers {env : PollEnv} {db : Db} {agentId : UUID}
    (committed : env.commitFault = none) (reloaded : env.reloadFault = none)
    (deliverable
      : ∀ position job,
          (selectedJobs env db agentId)[position]? = some job
          → Deliverable platform (env.fetch position) db job)
    : ∃ payloads,
        (getPendingJobs platform env db agentId).2 = .ok payloads
        ∧ payloads.map (fun payload => payload.jobId)
          = (selectedJobs env db agentId).map (fun job => job.jobId)
        ∧ (∀ payload ∈ payloads,
            ∃ job ∈ selectedJobs env db agentId, ∃ position,
              payload.jobId = job.jobId
              ∧ payload.pipelineId = job.pipelineId
              ∧ payload.endTime = some (env.clock position))
        ∧ (getPendingJobs platform env db agentId).1.pipelines = db.pipelines
        ∧ ∀ jobId,
            (getPendingJobs platform env db agentId).1.jobRuns.get? jobId
            = (db.jobRuns.get? jobId).map
                (fun job =>
                  if job.jobId ∈ (selectedJobs env db agentId).map (fun job => job.jobId) then
                    job.dispatched
                  else job) := by
  by_cases nothing : selectedJobs env db agentId = []
  · have idle : getPendingJobs platform env db agentId = (db, .ok []) := by
      simp only [getPendingJobs, nothing, List.isEmpty_nil, if_true]
    rw [idle, nothing]
    exact ⟨[], rfl, rfl, fun _ member => absurd member List.not_mem_nil, rfl,
      fun _ => Option.map_id'.symm⟩
  · obtain ⟨rows, responds⟩ := getPendingJobs_committed platform nothing committed
    obtain ⟨payloads, answered⟩ := responds.mpr ⟨reloaded, deliverable⟩
    have some_ : (selectedJobs env db agentId).isEmpty = false := by simpa using nothing
    have made := answered
    simp only [getPendingJobs, some_, Bool.false_eq_true, if_false, committed, reloaded] at made
    obtain ⟨ids, origins⟩ := buildPayloads_origin made
    refine ⟨payloads, answered, ids.trans (reload_claimed env db agentId).2.2,
      fun payload member => ?_, ?_, fun jobId => ?_⟩
    · obtain ⟨loaded, among, position, facts⟩ := origins payload member
      rw [reload_selected env db agentId] at among
      obtain ⟨job, selected, rfl⟩ := List.mem_map.mp among
      exact ⟨job, selected, position, facts⟩
    · simp only [getPendingJobs, some_, Bool.false_eq_true, if_false, committed, reloaded]
    · rw [rows, get?_markDispatched]

end

/-- What a poll meets when nothing fails and no other transaction holds a row. -/
def calmPoll (secrets : SecretStore) (now : Datetime) : PollEnv :=
  { clock := fun _ => now, fetch := fun _ => getSecret secrets none }

/-- In every state, when the payloads of an agent's pending jobs can be built and the jobs
return with counts that their rows take, what is there can go on so that all of these jobs
end as the agent finds: open transactions end, and one poll claims exactly these jobs and
gets all their payloads. Pipelines with a successful sync among them catch up to the time of
the poll, and all other job rows and cursors stay as they are.
-/
theorem pending_jobs_complete {platform : Platform} {state : State} {agentId : UUID}
    {envs : JobPayload → JobEnv} (now : Datetime)
    (deliverable
      : ∀ job ∈ state.db.jobRuns.rows,
          isPendingFor agentId job = true
          → Deliverable platform (getSecret state.secrets none) state.db job)
    (returned
      : ∀ payloads,
          (getPendingJobs platform (calmPoll state.secrets now) state.db agentId).2
            = .ok payloads
          → ∀ payload ∈ payloads,
              returns platform.repr (envs payload) payload = true
              ∧ ∀ report ∈ reportsOf (runJob platform.repr (envs payload) payload),
                  report.body.fits = true)
    : let pending := state.db.jobRuns.rows.filter (isPendingFor agentId)
      ∃ payloads last,
        (getPendingJobs platform (calmPoll state.secrets now) state.db agentId).2
          = .ok payloads
        ∧ payloads.map (fun payload => payload.jobId) = pending.map (fun job => job.jobId)
        ∧ Reaches (step platform) Event.GoesOn state last
        ∧ (∀ payload ∈ payloads, EndedAs platform (envs payload) payload last)
        ∧ (∀ jobId, jobId ∉ pending.map (fun job => job.jobId) →
            last.db.jobRuns.get? jobId = state.db.jobRuns.get? jobId)
        ∧ ∀ pipelineId,
            last.db.pipelines.get? pipelineId
            = (state.db.pipelines.get? pipelineId).map (caughtUp platform envs payloads now) := by
  intro pending
  let env := calmPoll state.secrets now
  obtain ⟨opened, toOpened, ⟨polls, rfl⟩, unlocked⟩ := transactions_end platform state
  have locks : env.locked = ({ state with polls } : State).dispatch.locked :=
    funext fun jobId => (unlocked jobId).symm
  have selection : selectedJobs env state.db agentId = pending := by
    exact List.filter_congr fun job _ => Bool.and_true _
  obtain ⟨payloads, answered, ids, origins, samePipelines, rows⟩ :=
    @getPendingJobs_answers platform env state.db agentId rfl rfl fun position job found => by
      rw [selection] at found
      obtain ⟨stored, passes⟩ := List.mem_filter.mp (List.mem_of_getElem? found)
      exact deliverable job stored passes
  rw [selection] at ids origins rows
  obtain ⟨pollId, fresh⟩ := exists_fresh_poll { state with polls }
  obtain ⟨served, toServed, ended⟩ :=
    @poll_uninterrupted platform { state with polls } env (fun _ => none) pollId agentId fresh
      locks rfl
  rw [answered] at ended
  have claimed (jobId : UUID)
      : served.db.jobRuns.get? jobId
        = (state.db.jobRuns.get? jobId).map
            (fun job =>
              if job.jobId ∈ pending.map (fun job => job.jobId) then job.dispatched else job) := by
    obtain ⟨_, _, _, rfl⟩ := ended.same
    exact rows jobId
  have waits : served.waiting = state.waiting ++ payloads := by
    obtain ⟨_, _, _, rfl⟩ := ended.same
    rfl
  have pipelines : served.db.pipelines = state.db.pipelines := by
    obtain ⟨_, _, _, rfl⟩ := ended.same
    exact samePipelines
  have stored (payload : JobPayload) (member : payload ∈ payloads)
      : payload.endTime = some now
        ∧ ∃ row,
            served.db.jobRuns.get? payload.jobId = some row
            ∧ row.pipelineId = payload.pipelineId := by
    obtain ⟨job, found, _, ownJob, ownPipeline, ends⟩ := origins payload member
    rw [claimed, ownJob, Table.get?_of_mem (List.mem_filter.mp found).1]
    refine ⟨ends, _, rfl, ?_⟩
    rw [ownPipeline]
    dsimp only
    split <;> rfl
  obtain ⟨last, toLast, endeds, kept, cursors⟩ :=
    @jobs_run platform served envs state.waiting payloads now waits
      (ids ▸ state.db.jobRuns.unique.sublist (List.filter_sublist.map _))
      stored (returned payloads answered) (ended.unlocked unlocked)
  refine ⟨payloads, last, answered, ids, ?_, endeds, fun jobId outside => ?_,
    fun pipelineId => pipelines ▸ cursors pipelineId⟩
  · exact toOpened.trans ((toServed.mono Event.OfPoll.goesOn).trans toLast)
  · rw [kept jobId (ids ▸ outside), claimed]
    cases found : state.db.jobRuns.get? jobId with
    | none => rfl
    | some job =>
        have own : job.jobId = jobId := Table.key_of_get? found
        rw [Option.map_some, if_neg (own ▸ outside)]

namespace Sample

/-- A job of a pipeline is pending, and an earlier poll of its agent still holds it. -/
def heldJob : List Event :=
  [.start 0, save 2 11 "key", create 2 11 21, .tick 0 ⟨21⟩ ⟨31⟩, .select 1 ⟨1⟩ [⟨31⟩]]

end Sample

/-- The pending job of the sample, which an open transaction holds, can end. -/
theorem pending_jobs_complete_held_job
    : ∃ state payload last,
        run (step Platform.written) (State.initial Sample.agents Sample.secrets) Sample.heldJob
          = some state
        ∧ state.dispatch.locked ⟨31⟩ = true
        ∧ payload.jobId = ⟨31⟩
        ∧ Reaches (step Platform.written) Event.GoesOn state last
        ∧ EndedAs Platform.written Sample.jobEnv payload last := by
  obtain ⟨payloads, last, _, ids, reaches, ended, _⟩ :=
    @pending_jobs_complete Platform.written
      (Option.get
        (run (step Platform.written) (State.initial Sample.agents Sample.secrets)
          Sample.heldJob)
        rfl)
      ⟨1⟩ (fun _ => Sample.jobEnv) (Sample.time 10)
      (fun job member _ => by
        cases List.mem_singleton.mp member
        exact ⟨_, _, _, rfl, rfl, Or.inl rfl, rfl, by decide⟩)
      (fun payloads answered payload member => by
        cases answered
        cases List.mem_singleton.mp member
        exact ⟨rfl, by decide⟩)
  cases payloads with
  | nil => cases ids
  | cons payload rest =>
      exact ⟨_, payload, last, (Option.some_get _).symm, rfl, (List.cons.inj ids).1, reaches,
        ended payload List.mem_cons_self⟩

end Turbocat.System
