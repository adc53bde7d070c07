import Mathlib.Data.List.Find
import Turbocat.System.CursorCoverage

/-! Which job a pipeline's cursor comes from, and in which order cursors follow each other:
the last success report to be processed wins, whichever job it is of.
-/

namespace Turbocat.System

open Turbocat.Library Turbocat.Python Turbocat.Connectors Turbocat.Orchestrator Turbocat.Agent

/-- Whether a report moves the cursor of a pipeline. -/
def movesCursor (db : Db) (pipelineId : UUID) (report : Report) : Bool :=
  report.body.cursor.isSome
  && (db.jobRuns.get? report.jobId).any (fun row => decide (row.pipelineId = pipelineId))

/-- The last processed report that moved the cursor of a pipeline. -/
def lastMove (state : State) (pipelineId : UUID) : Option Report :=
  state.log.reports.find? (movesCursor state.db pipelineId)

/-- A pipeline's cursor is the end of the window of an answered job, whose report is the last
one that moved it.
-/
structure SetBy (state : State) (pipeline : Pipeline) (entry : BuiltPayload)
    (cursor : Datetime)
    : Prop where
  answered : ∃ answer ∈ state.log.answers, answer.built = entry
  own : entry.payload.pipelineId = pipeline.pipelineId
  reported
    : ∃ report,
        lastMove state pipeline.pipelineId = some report
        ∧ report.jobId = entry.payload.jobId
  ends : entry.payload.endTime = some cursor
  held : pipeline.state = some [("last_sync_at", .str cursor.isoformat)]

/-- Every cursor was set by some job. -/
def CursorsSet (state : State) : Prop :=
  ∀ pipeline ∈ state.db.pipelines.rows, pipeline.state.isSome = true →
    ∃ entry cursor, SetBy state pipeline entry cursor

section

variable {platform : Platform} {state next : State}

/-- The last move stays the same while no report is processed. -/
theorem lastMove_same (provenance : Provenance platform state)
    (grows : DbGrows state.db next.db) (reports : next.log.reports = state.log.reports)
    (pipelineId : UUID)
    : lastMove next pipelineId = lastMove state pipelineId := by
  unfold lastMove
  rw [reports]
  refine List.find?_congr fun report member => ?_
  obtain ⟨job, ⟨answer, answered, rfl⟩, origin⟩ := provenance.reports report member
  obtain ⟨row, found, _⟩ := (provenance.built _ (provenance.answers answer answered)).job
  obtain ⟨kept, foundKept, fixed⟩ := grows.jobRuns _ _ found
  have pipeline : kept.pipelineId = row.pipelineId := congrArg Prod.fst fixed
  simp only [movesCursor, origin.jobId, found, foundKept, Option.any_some, pipeline]

/-- A processed report is the last move of its own pipeline, when it has a cursor. -/
theorem lastMove_reported (provenance : Provenance platform state)
    (grows : DbGrows state.db next.db) {report : Report} {row : JobRun}
    (found : state.db.jobRuns.get? report.jobId = some row)
    (reports : next.log.reports = report :: state.log.reports) (pipelineId : UUID)
    : lastMove next pipelineId
      = if report.body.cursor.isSome = true ∧ row.pipelineId = pipelineId then some report
        else lastMove state pipelineId := by
  obtain ⟨after, foundAfter, fixed⟩ := grows.jobRuns _ _ found
  have afterPipeline : after.pipelineId = row.pipelineId := congrArg Prod.fst fixed
  rw [← @lastMove_same platform state { state with db := next.db } provenance grows rfl]
  simp only [lastMove, reports, List.find?_cons, movesCursor, foundAfter, Option.any_some,
    afterPipeline]
  by_cases mine : report.body.cursor.isSome = true ∧ row.pipelineId = pipelineId
  · simp [mine.1, mine.2]
  · have other : (report.body.cursor.isSome && decide (row.pipelineId = pipelineId)) = false := by
      simpa using mine
    simp only [mine, other, if_false]

/-- A cursor that no step touches stays set by its job. -/
theorem SetBy.mono {pipeline changed : Pipeline} {entry : BuiltPayload} {cursor : Datetime}
    (set : SetBy state pipeline entry cursor) (answers : state.log.answers ⊆ next.log.answers)
    (moves : lastMove next pipeline.pipelineId = lastMove state pipeline.pipelineId)
    (sameId : changed.pipelineId = pipeline.pipelineId)
    (sameState : changed.state = pipeline.state)
    : SetBy next changed entry cursor where
  answered := by
    obtain ⟨answer, member, same⟩ := set.answered
    exact ⟨answer, answers member, same⟩
  own := set.own.trans sameId.symm
  reported := by
    rw [sameId, moves]
    exact set.reported
  ends := set.ends
  held := sameState.trans set.held

/-- A step that leaves cursors and processed reports alone keeps the cursors set. -/
theorem CursorsSet.mono (cursors : CursorsSet state) (provenance : Provenance platform state)
    (grows : Grows state next) (reports : next.log.reports = state.log.reports)
    (pipelines
      : ∀ pipeline ∈ next.db.pipelines.rows,
          pipeline.state = none
          ∨ ∃ old ∈ state.db.pipelines.rows,
              pipeline.pipelineId = old.pipelineId ∧ pipeline.state = old.state)
    : CursorsSet next := by
  intro pipeline member held
  rcases pipelines pipeline member with none_ | ⟨old, stored, sameId, sameState⟩
  · rw [none_] at held
    cases held
  · rw [sameState] at held
    obtain ⟨entry, cursor, set⟩ := cursors old stored held
    exact ⟨entry, cursor, set.mono grows.answers
      (lastMove_same provenance grows.db reports old.pipelineId) sameId sameState⟩

/-- A request creates pipelines without a cursor and leaves the others' alone. -/
theorem request_cursors (platform : Platform) (process : Nat) (scheduler : Scheduler)
    (call : Call)
    : ∀ pipeline ∈ (state.serve platform process scheduler call).db.pipelines.rows,
        pipeline.state = none
        ∨ ∃ old ∈ state.db.pipelines.rows,
            pipeline.pipelineId = old.pipelineId ∧ pipeline.state = old.state := by
  have effect := handle_effect platform call.env ⟨state.db, state.secrets, scheduler⟩
    call.accountId call.request
  simp only [State.serve, Orchestrator.serve]
  generalize (handle platform call.env ⟨state.db, state.secrets, scheduler⟩ call.accountId
    call.request).1 = backend at effect ⊢
  generalize call.request = request at effect
  cases effect with
  | unchanged => exact fun pipeline member => Or.inr ⟨pipeline, member, rfl, rfl⟩
  | stored _ => exact fun pipeline member => Or.inr ⟨pipeline, member, rfl, rfl⟩
  | created _ _ _ _ _ => exact fun pipeline member => Or.inr ⟨pipeline, member, rfl, rfl⟩
  | tested _ _ => exact fun pipeline member => Or.inr ⟨pipeline, member, rfl, rfl⟩
  | bulk _ _ inserted =>
      obtain ⟨_, _, _, rows, _⟩ := insertPipelines_ok inserted
      intro pipeline member
      rcases List.mem_append.mp (rows ▸ member) with old | new
      · exact Or.inr ⟨pipeline, old, rfl, rfl⟩
      · exact Or.inl (mem_requestedPipelines new).2.2.2
  | @deactivated pipelineId pipeline _ _ =>
      intro changed member
      obtain ⟨old, stored, rfl⟩ := (Table.mem_modify state.db.pipelines pipelineId
        Pipeline.deactivated (fun _ => rfl)).mp member
      refine Or.inr ⟨old, stored, ?_, ?_⟩ <;> split <;> rfl

/-- The cursor of a report is the end of its job's window. -/
theorem reported_cursor (provenance : Provenance platform state) (gapFree : GapFree state)
    {report : Report} (reported : Reported state.log report) {cursor : Dict}
    (sets : report.body.cursor = some cursor)
    : ∃ answer ∈ state.log.answers,
        report.jobId = answer.built.payload.jobId
        ∧ ∃ endTime : Datetime,
            answer.built.payload.endTime = some endTime
            ∧ cursor = [("last_sync_at", .str endTime.isoformat)] := by
  obtain ⟨job, ⟨answer, answered, rfl⟩, origin⟩ := reported
  obtain ⟨_, endTime, ends⟩ := gapFree.payloads _ (provenance.answers answer answered)
  obtain ⟨run, logged, success, rfl⟩ := origin.cursor sets
  obtain ⟨_, env, source, _, returned⟩ := provenance.syncs _ logged
  exact ⟨answer, answered, origin.jobId, endTime, ends,
    syncJob_success returned success ends⟩

/-- A processed report sets its own pipeline's cursor and leaves the others set. -/
theorem CursorsSet.process (cursors : CursorsSet state)
    (provenance : Provenance platform state) (gapFree : GapFree state) {report : Report}
    {now : Datetime} {db : Db} (reported : Reported state.log report)
    (updated : updateJobStatus state.db report.jobId report.body now = some db)
    (network : List Report)
    : CursorsSet
        { state with
          db, network, log := { state.log with reports := report :: state.log.reports } } := by
  have grows := updateJobStatus_grows updated
  obtain ⟨row, foundRow, _, same⟩ := updateJobStatus_some updated
  let next : State :=
    { state with
      db, network, log := { state.log with reports := report :: state.log.reports } }
  have moves := @lastMove_reported platform state next provenance grows report row foundRow rfl
  have untouched {pipeline changed : Pipeline} (stored : pipeline ∈ state.db.pipelines.rows)
      (sameId : changed.pipelineId = pipeline.pipelineId)
      (sameState : changed.state = pipeline.state) (held : changed.state.isSome = true)
      (other : ¬ (report.body.cursor.isSome = true ∧ row.pipelineId = pipeline.pipelineId))
      : ∃ entry cursor, SetBy next changed entry cursor := by
    obtain ⟨entry, cursor, set⟩ := cursors pipeline stored (sameState ▸ held)
    refine ⟨entry, cursor, set.mono (List.Subset.refl _) ?_ sameId sameState⟩
    rw [moves, if_neg other]
  intro pipeline member held
  rw [show db.pipelines = _ from congrArg Db.pipelines same] at member
  dsimp only at member
  split at member
  · next noCursor => exact untouched member rfl rfl held (by simp [noCursor])
  · next cursor sets =>
      obtain ⟨old, stored, rfl⟩ := (Table.mem_modify state.db.pipelines row.pipelineId
        (fun pipeline => pipeline.advanced cursor) (fun _ => rfl)).mp member
      by_cases mine : old.pipelineId = row.pipelineId
      · rw [if_pos mine]
        obtain ⟨answer, answered, own, endTime, ends, rfl⟩ :=
          reported_cursor provenance gapFree reported sets
        obtain ⟨jobRow, foundJob, jobPipeline⟩ :=
          (provenance.built _ (provenance.answers answer answered)).job
        rw [own, foundJob] at foundRow
        cases foundRow
        refine ⟨answer.built, endTime, ⟨answer, answered, rfl⟩, ?_, ⟨report, ?_, own⟩, ends, rfl⟩
        · exact jobPipeline.symm.trans mine.symm
        · exact (moves _).trans (if_pos ⟨by rw [sets]; rfl, mine.symm⟩)
      · rw [if_neg mine] at held ⊢
        exact untouched stored rfl rfl held (fun both => mine both.2.symm)

/-- Every step keeps every cursor set by some job, by cases of the step. -/
theorem CursorsSet.step {event : Event} (cursors : CursorsSet state)
    (provenance : Provenance platform state) (gapFree : GapFree state)
    (stepped : System.step platform state event = some next)
    : CursorsSet next := by
  have grows := step_grows stepped
  have same (pipelines : next.db.pipelines = state.db.pipelines)
      (reports : next.log.reports = state.log.reports)
      : CursorsSet next :=
    cursors.mono provenance grows reports
      (fun pipeline member => Or.inr ⟨pipeline, pipelines ▸ member, rfl, rfl⟩)
  cases step_takes stepped with
  | start _ => exact same rfl rfl
  | stop => exact same rfl rfl
  | request _ => exact cursors.mono provenance grows rfl (request_cursors platform _ _ _)
  | tick _ _ _ => exact same rfl rfl
  | contend _ _ _ => exact same rfl rfl
  | reload _ => exact same rfl rfl
  | build _ _ _ _ _ => exact same rfl rfl
  | respond _ _ _ => exact same rfl rfl
  | work _ => exact same rfl rfl
  | @act number payload action rest found =>
      cases action <;> exact same rfl rfl
  | process found _ updated =>
      exact cursors.process provenance gapFree
        (provenance.network _ (List.mem_of_getElem? found)) updated _
  | lose => exact same rfl rfl
  | crash => exact same rfl rfl
  | drop => exact same rfl rfl

end

-----------------------------------------------------------------------------------------
-- The order of cursors
-----------------------------------------------------------------------------------------

/-- The clock reading of a payload. -/
def Event.reading : Event → Option Datetime
  | .build _ _ now => some now
  | _ => none

/-- Clock readings at polls never go back. -/
def MonotoneReadings (events : List Event) : Prop :=
  (events.filterMap Event.reading).Pairwise (fun earlier later => earlier.us ≤ later.us)

instance (events : List Event) : Decidable (MonotoneReadings events) :=
  inferInstanceAs (Decidable (List.Pairwise _ _))

/-- A payload was built before another one, or is it. -/
def BuiltNoLater (log : Log) (first second : BuiltPayload) : Prop :=
  ∃ newer older, log.built = newer ++ second :: older ∧ first ∈ second :: older

/-- The windows of the payloads end in the order in which they were built. -/
def EndsSorted (log : Log) : Prop :=
  log.built.Pairwise (fun newer older =>
    ∀ last ∈ older.payload.endTime, ∀ endTime ∈ newer.payload.endTime, last.us ≤ endTime.us)

/-- A step builds at most one payload, whose window ends at the step's clock reading. -/
theorem step_built {platform : Platform} {state next : State} {event : Event}
    (stepped : step platform state event = some next)
    : next.log.built = state.log.built
      ∨ ∃ entry now,
          next.log.built = entry :: state.log.built
          ∧ event.reading = some now
          ∧ entry.payload.endTime = some now := by
  cases step_takes stepped with
  | @build getFault now loaded remaining connection payload poll jobIds _ _ _ made _ =>
      obtain ⟨_, _, _, _, _, _, _, _, _, rfl⟩ := buildPayload_ok_iff.mp made
      exact Or.inr ⟨_, now, rfl, rfl, rfl⟩
  | @act number payload action rest found =>
      cases action <;> exact Or.inl rfl
  | start _ => exact Or.inl rfl
  | stop => exact Or.inl rfl
  | request _ => exact Or.inl rfl
  | tick _ _ _ => exact Or.inl rfl
  | contend _ _ _ => exact Or.inl rfl
  | reload _ => exact Or.inl rfl
  | respond _ _ _ => exact Or.inl rfl
  | work _ => exact Or.inl rfl
  | process _ _ _ => exact Or.inl rfl
  | lose => exact Or.inl rfl
  | crash => exact Or.inl rfl
  | drop => exact Or.inl rfl

/-- The readings after an event are among all readings. -/
theorem mem_readings_of_rest {event : Event} {rest : List Event} {now : Datetime}
    (member : now ∈ rest.filterMap Event.reading)
    : now ∈ (event :: rest).filterMap Event.reading := by
  rw [List.filterMap_cons]
  split
  · exact member
  · exact List.mem_cons_of_mem _ member

theorem MonotoneReadings.rest {event : Event} {rest : List Event}
    (monotone : MonotoneReadings (event :: rest))
    : MonotoneReadings rest := by
  unfold MonotoneReadings at monotone ⊢
  rw [List.filterMap_cons] at monotone
  split at monotone
  · exact monotone
  · exact (List.pairwise_cons.mp monotone).2

/-- No later reading is earlier than the first. -/
theorem MonotoneReadings.first_le {event : Event} {rest : List Event} {now : Datetime}
    (monotone : MonotoneReadings (event :: rest)) (reading : event.reading = some now)
    : ∀ later ∈ rest.filterMap Event.reading, now.us ≤ later.us := by
  unfold MonotoneReadings at monotone
  rw [List.filterMap_cons, reading] at monotone
  exact (List.pairwise_cons.mp monotone).1

/-- With monotone readings the windows stay sorted, by induction over the events; no
payload ends after a reading that is still to come.
-/
theorem run_endsSorted {platform : Platform} {state last : State} {events : List Event}
    (monotone : MonotoneReadings events) (sorted : EndsSorted state.log)
    (ahead
      : ∀ entry ∈ state.log.built, ∀ endTime ∈ entry.payload.endTime,
          ∀ now ∈ events.filterMap Event.reading, endTime.us ≤ now.us)
    (ran : run (step platform) state events = some last)
    : EndsSorted last.log := by
  induction events generalizing state with
  | nil =>
      cases ran
      exact sorted
  | cons event rest ih =>
      obtain ⟨next, stepped, tail⟩ := run_cons_iff.mp ran
      rcases step_built stepped with same | ⟨entry, now, added, reading, ends⟩
      · refine ih monotone.rest ?_ ?_ tail
        · unfold EndsSorted
          rw [same]
          exact sorted
        · rw [same]
          exact fun entry member endTime ends now among =>
            ahead entry member endTime ends now (mem_readings_of_rest among)
      · refine ih monotone.rest ?_ ?_ tail
        · have first : now ∈ (event :: rest).filterMap Event.reading := by
            rw [List.filterMap_cons, reading]
            exact List.mem_cons_self
          unfold EndsSorted
          rw [added]
          refine List.pairwise_cons.mpr ⟨fun older member last lastEnds endTime own => ?_, sorted⟩
          cases ends.symm.trans own
          exact ahead older member last lastEnds now first
        · rw [added]
          intro built member endTime own later among
          rcases List.mem_cons.mp member with rfl | old
          · cases ends.symm.trans own
            exact monotone.first_le reading later among
          · exact ahead built old endTime own later (mem_readings_of_rest among)

/-- Every cursor was set by some job in every reachable state. -/
theorem run_cursorsSet {platform : Platform} {agents : Table Agent.agentId}
    {secrets : SecretStore} {events : List Event} {last : State}
    (ran : run (step platform) (State.initial agents secrets) events = some last)
    : CursorsSet last := by
  have all : (Provenance platform last ∧ GapFree last) ∧ CursorsSet last :=
    @run_invariant _ _ (step platform)
      (fun state => (Provenance platform state ∧ GapFree state) ∧ CursorsSet state)
      (fun holds stepped =>
        ⟨⟨holds.1.1.step stepped, holds.1.2.step holds.1.1 stepped⟩,
          holds.2.step holds.1.1 holds.1.2 stepped⟩)
      (State.initial agents secrets) _ _
      ⟨⟨provenance_initial platform agents secrets, gapFree_initial agents secrets⟩,
        fun _ member => nomatch member⟩ ran
  exact all.2

/-- A pipeline's cursor is the end of the window of the job whose success was processed
last. With monotone clock readings at polls, a step that lets another job set it does not
move it back, when the payload of that job was built no earlier than that of the job before.
-/
theorem cursor_order {platform : Platform} {agents : Table Agent.agentId}
    {secrets : SecretStore} {events : List Event} {event : Event} {before after : State}
    (monotone : MonotoneReadings (events ++ [event]))
    (ran : run (step platform) (State.initial agents secrets) events = some before)
    (stepped : step platform before event = some after)
    : (∀ pipeline ∈ after.db.pipelines.rows, pipeline.state.isSome = true →
        ∃ entry cursor, SetBy after pipeline entry cursor)
      ∧ ∀ old ∈ before.db.pipelines.rows, ∀ new ∈ after.db.pipelines.rows,
          new.pipelineId = old.pipelineId →
            ∀ entry cursor nextEntry nextCursor,
              SetBy before old entry cursor
              → SetBy after new nextEntry nextCursor
              → BuiltNoLater after.log entry nextEntry
              → cursor.us ≤ nextCursor.us := by
  have ranAfter := run_concat ran stepped
  refine ⟨run_cursorsSet ranAfter, ?_⟩
  intro old _ new _ _ entry cursor nextEntry nextCursor set nextSet built
  have sorted : EndsSorted after.log :=
    @run_endsSorted platform (State.initial agents secrets) _ _ monotone List.Pairwise.nil
      (fun _ member => nomatch member) ranAfter
  obtain ⟨newer, older, whole, among⟩ := built
  unfold EndsSorted at sorted
  rw [whole] at sorted
  rcases List.mem_cons.mp among with rfl | earlier
  · have same := set.ends.symm.trans nextSet.ends
    cases same
    exact le_refl _
  · have tail := (List.pairwise_append.mp sorted).2.1
    exact (List.pairwise_cons.mp tail).1 entry earlier cursor set.ends nextCursor nextSet.ends

/-- The first sync sets its pipeline's cursor, and its late "running" report leaves it. -/
theorem cursor_order_first_sync
    : ∃ before after,
        run (step Platform.written) (State.initial Sample.agents Sample.secrets)
            Sample.firstSync
          = some before
        ∧ step Platform.written before (.process 0 (Sample.time 13)) = some after
        ∧ ∀ pipeline ∈ after.db.pipelines.rows, pipeline.state.isSome = true →
            ∃ entry cursor, SetBy after pipeline entry cursor :=
  ⟨_, _, rfl, rfl, (@cursor_order Platform.written Sample.agents Sample.secrets
    Sample.firstSync (.process 0 (Sample.time 13)) _ _ (by decide) rfl rfl).1⟩

/-- Two jobs of one pipeline overlap, and the later one succeeds first. -/
def Sample.overlap : List Event :=
  [.start 0, save 2 11 "key", create 2 11 21, .tick 0 ⟨21⟩ ⟨31⟩] ++ poll 1 31 (time 10)
  ++ [.tick 0 ⟨21⟩ ⟨32⟩] ++ poll 2 32 (time 20)
  ++ [.work 0 jobEnv, .work 0 jobEnv, .act 0, .act 0, .act 0, .process 0 (time 21), .act 1,
    .act 0, .act 0]

/-- The success of the earlier job, processed last, moves the cursor back. -/
theorem late_success_moves_back
    : MonotoneReadings (Sample.overlap ++ [.process 0 (Sample.time 22)])
      ∧ ∃ before after old new,
          run (step Platform.written) (State.initial Sample.agents Sample.secrets)
              Sample.overlap
            = some before
          ∧ step Platform.written before (.process 0 (Sample.time 22)) = some after
          ∧ before.db.pipelines.get? ⟨21⟩ = some old
          ∧ after.db.pipelines.get? ⟨21⟩ = some new
          ∧ old.state = some [("last_sync_at", .str (Sample.time 20).isoformat)]
          ∧ new.state = some [("last_sync_at", .str (Sample.time 10).isoformat)]
          ∧ (Sample.time 10).us < (Sample.time 20).us :=
  ⟨by decide, _, _, _, _, rfl, rfl, rfl, rfl, rfl, rfl, by decide⟩

end Turbocat.System
