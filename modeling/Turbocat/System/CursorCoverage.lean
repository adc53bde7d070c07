import Turbocat.Library.Coverage
import Turbocat.System.Provenance

/-! A pipeline's cursor leaves no gap: every instant up to it lies in the window of a
successful sync of the pipeline, whatever overlaps, fails, is lost or arrives out of order.
-/

namespace Turbocat.System

open Turbocat.Library Turbocat.Python Turbocat.Connectors Turbocat.Orchestrator Turbocat.Agent

/-- The instants in a job's window, in microseconds. -/
def window (job : JobPayload) : Span Int :=
  ⟨job.startTime.map Datetime.us, job.endTime.map Datetime.us⟩

/-- The whole seconds that the API selects for a job's window. -/
def secondsWindow (job : JobPayload) : Span Int :=
  ⟨job.startTime.map Datetime.intTimestamp, job.endTime.map Datetime.intTimestamp⟩

/-- The windows of the successful syncs of a pipeline. -/
def syncedWindows (syncs : List (JobPayload × SyncRun)) (pipelineId : UUID) : Set (Span Int) :=
  fun span =>
    ∃ job run,
      (job, run) ∈ syncs
      ∧ job.pipelineId = pipelineId
      ∧ run.result.status = .success
      ∧ span = window job

/-- The bounds that the successful syncs of a pipeline sent to the API. -/
def sentBounds (syncs : List (JobPayload × SyncRun)) (pipelineId : UUID) : Set (Span Int) :=
  fun span =>
    ∃ job run,
      (job, run) ∈ syncs
      ∧ job.pipelineId = pipelineId
      ∧ run.result.status = .success
      ∧ ∃ sent ∈ run.requests,
          sent.params.lookup "from" = span.start.map Json.int
          ∧ ∃ final, span.stop = some final ∧ sent.params.lookup "to" = some (.int final)

/-- Nothing up to a cursor was left out. -/
structure SyncedUpTo (syncs : List (JobPayload × SyncRun)) (pipelineId : UUID)
    (connector : String) (cursor : Datetime)
    : Prop where
  instants : CoveredUpTo (syncedWindows syncs pipelineId) cursor.us
  seconds
    : connector = "razorpay_orders" →
        CoveredUpTo (sentBounds syncs pipelineId) (cursor.us / second)

/-- Nothing below a job's window was left out. -/
structure Gapless (syncs : List (JobPayload × SyncRun)) (job : JobPayload) : Prop where
  instants : (window job).Follows (syncedWindows syncs job.pipelineId)
  seconds
    : job.connector = "razorpay_orders" →
        (secondsWindow job).Follows (sentBounds syncs job.pipelineId)

/-- A pipeline has no cursor, or one up to which nothing was left out. -/
def CursorSynced (syncs : List (JobPayload × SyncRun)) (pipeline : Pipeline) : Prop :=
  ∀ state, pipeline.state = some state →
    ∃ cursor : Datetime,
      state = [("last_sync_at", .str cursor.isoformat)]
      ∧ SyncedUpTo syncs pipeline.pipelineId pipeline.connector cursor

section Mono

variable {syncs more : List (JobPayload × SyncRun)}

theorem syncedWindows_mono (grows : syncs ⊆ more) (pipelineId : UUID)
    : syncedWindows syncs pipelineId ⊆ syncedWindows more pipelineId := by
  intro span synced
  obtain ⟨job, run, member, rest⟩ := synced
  exact ⟨job, run, grows member, rest⟩

theorem sentBounds_mono (grows : syncs ⊆ more) (pipelineId : UUID)
    : sentBounds syncs pipelineId ⊆ sentBounds more pipelineId := by
  intro span sent
  obtain ⟨job, run, member, rest⟩ := sent
  exact ⟨job, run, grows member, rest⟩

theorem CursorSynced.mono {pipeline : Pipeline} (synced : CursorSynced syncs pipeline)
    (grows : syncs ⊆ more)
    : CursorSynced more pipeline := by
  intro state held
  obtain ⟨cursor, same, upTo⟩ := synced state held
  exact ⟨cursor, same, upTo.instants.mono (syncedWindows_mono grows _),
    fun orders => (upTo.seconds orders).mono (sentBounds_mono grows _)⟩

theorem Gapless.mono {job : JobPayload} (gapless : Gapless syncs job) (grows : syncs ⊆ more)
    : Gapless more job :=
  ⟨gapless.instants.mono (syncedWindows_mono grows _),
    fun orders => (gapless.seconds orders).mono (sentBounds_mono grows _)⟩

end Mono

/-- The window of a payload starts at or before its pipeline's cursor, in instants and in
whole seconds.
-/
theorem gapless_of_cursor {platform : Platform} {syncs : List (JobPayload × SyncRun)}
    {pipeline : Pipeline} {job : JobPayload}
    (synced : CursorSynced syncs pipeline)
    (nonneg : NonNegativeDays pipeline.lookbackDays)
    (starts : windowStart platform pipeline = .ok job.startTime)
    (pipelineId : job.pipelineId = pipeline.pipelineId)
    (connector : job.connector = pipeline.connector)
    : Gapless syncs job := by
  rcases windowStart_ok_iff.mp starts with ⟨_, first⟩ | ⟨truthy, later⟩
  · constructor
    · intro bound start
      simp [window, first] at start
    · intro _ bound start
      simp [secondsWindow, first] at start
  · obtain ⟨lastSync, lookback, earlier, read, made, moved, start⟩ := later
    cases held : pipeline.state with
    | none => simp [Pipeline.pipelineState, held, Json.getOrNone, Json.truthy] at truthy
    | some state =>
        obtain ⟨cursor, rfl, upTo⟩ := synced state held
        have text : Json.getOrNone pipeline.pipelineState "last_sync_at"
            = .str cursor.isoformat := by
          simp [Pipeline.pipelineState, held, Json.getOrNone]
        rw [text, fromisoformat_ok_iff] at read
        obtain ⟨_, same, reads⟩ := read
        cases same
        cases (platform.reader.reads cursor).symm.trans reads
        have before := Datetime.sub_le (timedelta_nonneg nonneg made) moved
        constructor
        · rw [pipelineId]
          refine upTo.instants.follows fun bound among point below => ?_
          simp only [window, start, Option.map_some, Option.mem_some_iff] at among
          omega
        · intro orders
          rw [pipelineId]
          refine (upTo.seconds (connector ▸ orders)).follows fun bound among point below => ?_
          simp only [secondsWindow, start, Option.map_some, Option.mem_some_iff] at among
          rw [← among] at below
          have inside := Datetime.lt_of_lt_intTimestamp below
          exact (Int.le_ediv_iff_mul_le (by decide)).mpr (by omega)

/-- A Razorpay orders job sends its window's bounds with its first request. -/
theorem orders_bounds {platform : Platform} {env : JobEnv} {job : JobPayload}
    {source : ConnectorClass × KaptureTickets.Config} {run : SyncRun}
    (built : buildSource platform.repr env job = .ok source)
    (returned : syncJob env job source = some run) (success : run.result.status = .success)
    {endTime : Datetime} (ends : job.endTime = some endTime)
    (orders : job.connector = "razorpay_orders")
    : ∃ sent ∈ run.requests,
        sent.params.lookup "from" = (secondsWindow job).start.map Json.int
        ∧ ∃ final,
            (secondsWindow job).stop = some final
            ∧ sent.params.lookup "to" = some (.int final) := by
  obtain ⟨cls, found, rest⟩ := bind_eq_ok_iff.mp built
  obtain ⟨config, _, rest⟩ := bind_eq_ok_iff.mp rest
  obtain ⟨_, _, rest⟩ := bind_eq_ok_iff.mp rest
  cases rest
  rw [orders] at found
  cases found
  obtain ⟨_, requests, _⟩ := sync_success returned success
  obtain ⟨later, first⟩ := offsetPages_first_request
    (RazorpayOrders.request job.startTime job.endTime) (RazorpayOrders.transform env.host)
    env.clock 0 0 env.replies
  refine ⟨RazorpayOrders.request job.startTime job.endTime 0, ?_, ?_, ?_⟩
  · have whole : run.requests
        = RazorpayOrders.request job.startTime job.endTime 0 :: later := requests.trans first
    rw [whole]
    exact List.mem_cons_self
  · rw [RazorpayOrders.request, RazorpayOrders.params_from, secondsWindow, Option.map_map]
    rfl
  · refine ⟨endTime.intTimestamp, by rw [secondsWindow, ends, Option.map_some], ?_⟩
    rw [RazorpayOrders.request, RazorpayOrders.params_to, ends, Option.map_some]

/-- A job without a gap below its window has covered everything up to its end once its
successful sync is logged.
-/
theorem Gapless.syncedUpTo {platform : Platform} {log : Log} {job : JobPayload}
    {run : SyncRun} {endTime : Datetime} (gapless : Gapless log.syncs job)
    (logged : (job, run) ∈ log.syncs) (synced : Synced platform log (job, run))
    (success : run.result.status = .success) (ends : job.endTime = some endTime)
    : SyncedUpTo log.syncs job.pipelineId job.connector endTime where
  instants := by
    refine gapless.instants.covered ⟨job, run, logged, rfl, success, rfl⟩ ?_
    intro stop among
    simp only [window, ends, Option.map_some, Option.mem_some_iff] at among
    omega
  seconds := by
    intro orders
    obtain ⟨_, env, source, built, returned⟩ := synced
    have bounds := orders_bounds built returned success ends orders
    refine (gapless.seconds orders).covered ⟨job, run, logged, rfl, success, bounds⟩ ?_
    intro stop among
    simp only [secondsWindow, ends, Option.map_some, Option.mem_some_iff] at among
    rw [← among]
    exact Datetime.le_intTimestamp (Int.ediv_mul_le _ (by decide))

/-- The cursor a report sets is the end of the window of a logged successful sync. -/
theorem Origin.cursor {log : Log} {job : JobPayload} {report : Report} {state : Dict}
    (origin : Origin log job report) (sets : report.body.cursor = some state)
    : ∃ run,
        (job, run) ∈ log.syncs
        ∧ run.result.status = .success
        ∧ state = run.result.nextState := by
  obtain ⟨reported, carried⟩ := Report.cursor_some sets
  cases origin with
  | running => cases reported
  | unhandled => cases reported
  | @result run logged =>
      refine ⟨run, logged, ?_⟩
      cases status : run.result.status with
      | error =>
          simp only [resultReport, status] at reported
          cases reported
      | success =>
          refine ⟨rfl, ?_⟩
          simp only [resultReport, status] at carried
          split at carried
          · cases carried
          · exact (Option.some.inj carried).symm

-----------------------------------------------------------------------------------------
-- The invariant
-----------------------------------------------------------------------------------------

/-- No pipeline row, no snapshot of one and no payload skips anything, and every payload
has an end.
-/
structure GapFree (state : State) : Prop where
  rows
    : ∀ pipeline ∈ state.db.pipelines.rows,
        NonNegativeDays pipeline.lookbackDays → CursorSynced state.log.syncs pipeline
  snapshots
    : ∀ pollId, ∀ loaded ∈ (state.builds pollId).remaining,
        ∀ pipeline, loaded.pipeline = some pipeline →
          NonNegativeDays pipeline.lookbackDays → CursorSynced state.log.syncs pipeline
  payloads
    : ∀ entry ∈ state.log.built,
        (NonNegativeDays (lookbackDaysOf entry.payload.params) →
          Gapless state.log.syncs entry.payload)
        ∧ ∃ endTime, entry.payload.endTime = some endTime

/-- A step that changes no pipeline, snapshot or payload keeps the invariant. -/
theorem GapFree.mono {state next : State} (gapFree : GapFree state)
    (pipelines : next.db.pipelines = state.db.pipelines) (builds : next.builds = state.builds)
    (built : next.log.built = state.log.built) (syncs : state.log.syncs ⊆ next.log.syncs)
    : GapFree next where
  rows := fun pipeline member nonneg =>
    (gapFree.rows pipeline (pipelines ▸ member) nonneg).mono syncs
  snapshots := fun pollId loaded member pipeline loads nonneg =>
    (gapFree.snapshots pollId loaded (builds ▸ member) pipeline loads nonneg).mono syncs
  payloads := fun entry member =>
    have old := gapFree.payloads entry (built ▸ member)
    ⟨fun nonneg => (old.1 nonneg).mono syncs, old.2⟩

/-- Requests add pipelines without a cursor and leave the others' cursors alone. -/
theorem GapFree.request {state : State} (gapFree : GapFree state) (platform : Platform)
    (process : Nat) (scheduler : Scheduler) (call : Call)
    : GapFree (state.serve platform process scheduler call) where
  rows := by
    have effect := handle_effect platform call.env ⟨state.db, state.secrets, scheduler⟩
      call.accountId call.request
    simp only [State.serve, Orchestrator.serve]
    generalize (handle platform call.env ⟨state.db, state.secrets, scheduler⟩ call.accountId
      call.request).1 = backend at effect ⊢
    generalize call.request = request at effect
    cases effect with
    | unchanged => exact gapFree.rows
    | stored _ => exact gapFree.rows
    | created _ _ _ _ _ => exact gapFree.rows
    | tested _ _ => exact gapFree.rows
    | bulk _ _ inserted =>
        obtain ⟨_, _, _, rows, _⟩ := insertPipelines_ok inserted
        intro pipeline member nonneg
        rcases List.mem_append.mp (rows ▸ member) with old | new
        · exact gapFree.rows pipeline old nonneg
        · intro state held
          rw [(mem_requestedPipelines new).2.2.2] at held
          cases held
    | @deactivated pipelineId pipeline _ _ =>
        intro changed member nonneg
        obtain ⟨old, stored, rfl⟩ := (Table.mem_modify state.db.pipelines pipelineId
          Pipeline.deactivated (fun _ => rfl)).mp member
        split at nonneg <;> rename_i same
        · rw [if_pos same]
          exact gapFree.rows old stored nonneg
        · rw [if_neg same]
          exact gapFree.rows old stored nonneg
  snapshots := gapFree.snapshots
  payloads := gapFree.payloads

/-- A reload takes snapshots of rows. -/
theorem GapFree.reload {state : State} (gapFree : GapFree state) {pollId : Nat}
    {jobIds : List UUID} {dispatch : Dispatch.State}
    : GapFree
        { state.dispatched dispatch with
          builds := Function.update state.builds pollId ⟨loadedJobs state.db jobIds, []⟩ } where
  rows := gapFree.rows
  snapshots := by
    intro poll loaded member pipeline loads nonneg
    dsimp only at member
    by_cases same : poll = pollId
    · subst same
      rw [Function.update_self] at member
      obtain ⟨jobId, _, found⟩ := List.mem_filterMap.mp member
      obtain ⟨job, _, rfl⟩ := Option.map_eq_some_iff.mp found
      exact gapFree.rows pipeline (Table.mem_of_get? loads) nonneg
    · rw [Function.update_of_ne same] at member
      exact gapFree.snapshots poll loaded member pipeline loads nonneg
  payloads := gapFree.payloads

/-- A payload starts at or before the cursor of the snapshot it is made from. -/
theorem GapFree.build {platform : Platform} {state : State} (gapFree : GapFree state)
    {pollId : Nat} {loaded : LoadedJob} {remaining : List LoadedJob} {connection : Connection}
    {fetch : String → Except PyException Json} {now : Datetime} {payload : JobPayload}
    (turn : (state.builds pollId).remaining = loaded :: remaining)
    (snapshot : Snapshot state.db loaded)
    (made : buildPayload platform fetch now loaded = .ok payload)
    : GapFree (state.built pollId remaining ⟨connection, payload⟩) where
  rows := gapFree.rows
  snapshots := by
    intro poll other member
    simp only [State.built] at member
    by_cases same : poll = pollId
    · subst same
      rw [Function.update_self] at member
      exact gapFree.snapshots poll other (turn ▸ List.mem_cons_of_mem _ member)
    · rw [Function.update_of_ne same] at member
      exact gapFree.snapshots poll other member
  payloads := by
    intro entry member
    rcases List.mem_cons.mp member with rfl | old
    · obtain ⟨pipeline, _, _, _, loads, _, starts, _, _, rfl⟩ := buildPayload_ok_iff.mp made
      refine ⟨fun nonneg => ?_, now, rfl⟩
      have synced := gapFree.snapshots pollId loaded (turn ▸ List.mem_cons_self) pipeline loads
        nonneg
      exact gapless_of_cursor synced nonneg starts (snapshot.pipeline pipeline loads).1.symm rfl
    · exact gapFree.payloads entry old

/-- A report moves a cursor to the end of a logged successful sync of its pipeline. -/
theorem GapFree.process {platform : Platform} {state : State} (gapFree : GapFree state)
    (provenance : Provenance platform state) {report : Report} {now : Datetime} {db : Db}
    (reported : Reported state.log report)
    (updated : updateJobStatus state.db report.jobId report.body now = some db)
    (network : List Report)
    : GapFree
        { state with
          db, network, log := { state.log with reports := report :: state.log.reports } } where
  rows := by
    obtain ⟨row, foundRow, _, rfl⟩ := updateJobStatus_some updated
    obtain ⟨job, ⟨answer, answered, rfl⟩, origin⟩ := reported
    have builtEntry := provenance.answers answer answered
    have grounded := provenance.built _ builtEntry
    obtain ⟨gapless, endTime, ends⟩ := gapFree.payloads _ builtEntry
    intro pipeline member nonneg
    dsimp only at member ⊢
    split at member
    · exact gapFree.rows pipeline member nonneg
    · next cursor sets =>
        obtain ⟨old, stored, rfl⟩ := (Table.mem_modify state.db.pipelines row.pipelineId
          (fun pipeline => pipeline.advanced cursor) (fun _ => rfl)).mp member
        split at nonneg <;> rename_i same
        · rw [if_pos same]
          obtain ⟨run, logged, success, rfl⟩ := origin.cursor sets
          have synced := provenance.syncs _ logged
          obtain ⟨_, env, source, _, returned⟩ := synced
          have upTo := fun gapless : Gapless state.log.syncs answer.built.payload =>
            gapless.syncedUpTo logged (provenance.syncs _ logged) success ends
          obtain ⟨jobRow, foundJob, jobPipeline⟩ := grounded.job
          obtain ⟨pipelineRow, foundPipeline, connector, params, _⟩ := grounded.pipeline
          rw [origin.jobId, foundJob] at foundRow
          cases foundRow
          have key : old.pipelineId = answer.built.payload.pipelineId := same.trans jobPipeline
          have samePipeline := Table.get?_of_mem stored
          rw [key, foundPipeline] at samePipeline
          cases samePipeline
          have covered := upTo (gapless (params ▸ nonneg))
          intro held holds
          cases holds
          refine ⟨endTime, syncJob_success returned success ends, ?_⟩
          exact (key ▸ connector ▸ covered :)
        · rw [if_neg same]
          exact gapFree.rows old stored nonneg
  snapshots := gapFree.snapshots
  payloads := gapFree.payloads

/-- Every step keeps the invariant, by cases of the step. -/
theorem GapFree.step {platform : Platform} {state next : State} {event : Event}
    (gapFree : GapFree state) (provenance : Provenance platform state)
    (stepped : step platform state event = some next)
    : GapFree next := by
  have same {changed : State} (pipelines : changed.db.pipelines = state.db.pipelines)
      (builds : changed.builds = state.builds) (log : changed.log = state.log)
      : GapFree changed :=
    gapFree.mono pipelines builds (log ▸ rfl) (log ▸ List.Subset.refl _)
  cases step_takes stepped with
  | start _ => exact same rfl rfl rfl
  | stop => exact same rfl rfl rfl
  | request _ => exact gapFree.request platform _ _ _
  | tick _ _ _ => exact same rfl rfl rfl
  | contend _ _ _ => exact same rfl rfl rfl
  | reload _ => exact gapFree.reload
  | build _ _ turn made _ =>
      exact gapFree.build turn
        (provenance.snapshots _ _ (turn ▸ List.mem_cons_self)) made
  | respond _ _ _ => exact gapFree.mono rfl rfl rfl (List.Subset.refl _)
  | work _ => exact same rfl rfl rfl
  | @act number payload action rest found =>
      cases action with
      | report report => exact same rfl rfl rfl
      | synced run => exact gapFree.mono rfl rfl rfl (List.subset_cons_self _ _)
  | process found _ updated =>
      exact gapFree.process provenance
        (provenance.network _ (List.mem_of_getElem? found)) updated _
  | lose => exact same rfl rfl rfl
  | crash => exact same rfl rfl rfl
  | drop => exact same rfl rfl rfl

theorem gapFree_initial (agents : Table Agent.agentId) (secrets : SecretStore)
    : GapFree (State.initial agents secrets) where
  rows := fun _ member => nomatch member
  snapshots := fun _ _ member => nomatch member
  payloads := fun _ member => nomatch member

/-- No cursor leaves a gap in any reachable state. -/
theorem run_gapFree {platform : Platform} {agents : Table Agent.agentId}
    {secrets : SecretStore} {events : List Event} {last : State}
    (ran : run (System.step platform) (State.initial agents secrets) events = some last)
    : GapFree last := by
  have both : Provenance platform last ∧ GapFree last :=
    @run_invariant _ _ (System.step platform)
      (fun state => Provenance platform state ∧ GapFree state)
      (fun holds stepped => ⟨holds.1.step stepped, holds.2.step holds.1 stepped⟩)
      (State.initial agents secrets) _ _
      ⟨provenance_initial platform agents secrets, gapFree_initial agents secrets⟩
      ran
  exact both.2

/-- In every reachable state, every instant up to a pipeline's cursor lies in the window of
a successful sync of that pipeline, and for Razorpay orders every whole second up to it lies
within the bounds such a sync sent. The pipeline's lookback is not negative.
-/
theorem cursor_coverage {platform : Platform} {agents : Table Agent.agentId}
    {secrets : SecretStore} {events : List Event} {last : State}
    (ran : run (step platform) (State.initial agents secrets) events = some last)
    {pipeline : Pipeline} (stored : pipeline ∈ last.db.pipelines.rows)
    (nonneg : NonNegativeDays pipeline.lookbackDays) {cursor : Datetime}
    (reads
      : fromisoformat platform (Json.getOrNone pipeline.pipelineState "last_sync_at")
        = .ok cursor)
    : (∀ instant ≤ cursor.us,
        ∃ job run,
          (job, run) ∈ last.log.syncs
          ∧ job.pipelineId = pipeline.pipelineId
          ∧ run.result.status = .success
          ∧ (∀ start, job.startTime = some start → start.us ≤ instant)
          ∧ ∃ stop, job.endTime = some stop ∧ instant ≤ stop.us)
      ∧ (pipeline.connector = "razorpay_orders" →
          ∀ c ≤ cursor.us / second,
            ∃ job run,
              (job, run) ∈ last.log.syncs
              ∧ job.pipelineId = pipeline.pipelineId
              ∧ run.result.status = .success
              ∧ ∃ sent ∈ run.requests,
                  (sent.params.lookup "from" = none
                    ∨ ∃ first, sent.params.lookup "from" = some (.int first) ∧ first ≤ c)
                  ∧ ∃ final, sent.params.lookup "to" = some (.int final) ∧ c ≤ final) := by
  have gapFree := run_gapFree ran
  have provenance := run_provenance ran
  have upTo : SyncedUpTo last.log.syncs pipeline.pipelineId pipeline.connector cursor := by
    cases held : pipeline.state with
    | none =>
        rw [Pipeline.pipelineState, held] at reads
        cases reads
    | some state =>
        obtain ⟨written, rfl, upTo⟩ := gapFree.rows pipeline stored nonneg state held
        have text : Json.getOrNone pipeline.pipelineState "last_sync_at"
            = .str written.isoformat := by
          simp [Pipeline.pipelineState, held, Json.getOrNone]
        rw [text, fromisoformat_ok_iff] at reads
        obtain ⟨_, same, reads⟩ := reads
        cases same
        cases (platform.reader.reads written).symm.trans reads
        exact upTo
  constructor
  · intro instant before
    obtain ⟨_, ⟨job, run, logged, own, success, rfl⟩, lower, upper⟩ :=
      upTo.instants instant before
    obtain ⟨answer, answered, same⟩ := (provenance.syncs _ logged).1
    obtain ⟨_, endTime, ends⟩ := gapFree.payloads _ (provenance.answers answer answered)
    rw [same] at ends
    dsimp only at ends
    refine ⟨job, run, logged, own, success, fun start starts => lower start.us ?_,
      endTime, ends, upper endTime.us ?_⟩
    · simp [window, starts]
    · simp [window, ends]
  · intro orders c before
    obtain ⟨span, ⟨job, run, logged, own, success, sent, among, lookupFrom, final, stop, lookupTo⟩,
      lower, upper⟩ := upTo.seconds orders c before
    refine ⟨job, run, logged, own, success, sent, among, ?_, final, lookupTo, ?_⟩
    · cases start : span.start with
      | none => exact Or.inl (by rw [lookupFrom, start, Option.map_none])
      | some first =>
          refine Or.inr ⟨first, by rw [lookupFrom, start, Option.map_some], ?_⟩
          exact lower first (by rw [start, Option.mem_some_iff])
    · exact upper final (by rw [stop, Option.mem_some_iff])

/-- After the first sync everything up to the end of its window is covered. -/
theorem cursor_coverage_first_sync
    : ∃ last,
        run (step Platform.written) (State.initial Sample.agents Sample.secrets)
            Sample.firstSync
          = some last
        ∧ ∃ pipeline ∈ last.db.pipelines.rows,
            fromisoformat Platform.written
                (Json.getOrNone pipeline.pipelineState "last_sync_at")
              = .ok (Sample.time 10)
            ∧ ∀ instant ≤ (Sample.time 10).us,
                ∃ job run,
                  (job, run) ∈ last.log.syncs
                  ∧ job.pipelineId = pipeline.pipelineId
                  ∧ run.result.status = .success
                  ∧ (∀ start, job.startTime = some start → start.us ≤ instant)
                  ∧ ∃ stop, job.endTime = some stop ∧ instant ≤ stop.us :=
  ⟨_, rfl, _, List.mem_cons_self, rfl,
    (@cursor_coverage Platform.written Sample.agents Sample.secrets Sample.firstSync _ rfl _
      List.mem_cons_self (by decide) (Sample.time 10) rfl).1⟩

end Turbocat.System
