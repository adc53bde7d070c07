import Turbocat.Connectors.ServedExtracts
import Turbocat.Connectors.SourceCoverage
import Turbocat.System.CursorCoverage

/-! What reaches the destination: when the jobs of a pipeline meet a source that answers
truthfully, the rows they load are the source's, and none created up to the pipeline's
cursor is missing.
-/

namespace Turbocat.System

open Turbocat.Library Turbocat.Python Turbocat.Connectors Turbocat.Orchestrator Turbocat.Agent

-----------------------------------------------------------------------------------------
-- The environments of jobs
-----------------------------------------------------------------------------------------

/-- An event that starts a job starts it in an allowed environment. -/
def StartsIn (allowed : JobEnv → JobPayload → Prop) (state : State) : Event → Prop
  | .work number env => ∀ payload, state.waiting[number]? = some payload → allowed env payload
  | _ => True

/-- A sync of a job in an allowed environment. -/
def SyncedIn (platform : Platform) (allowed : JobEnv → JobPayload → Prop)
    (entry : JobPayload × SyncRun)
    : Prop :=
  ∃ env source,
    allowed env entry.1
    ∧ buildSource platform.repr env entry.1 = .ok source
    ∧ syncJob env entry.1 source = some entry.2

/-- Every task has the end of a job in an allowed environment before it, and every sync was
one of such a job.
-/
structure Worked (platform : Platform) (allowed : JobEnv → JobPayload → Prop) (state : State)
    : Prop where
  tasks
    : ∀ task ∈ state.tasks,
        ∃ env, allowed env task.payload ∧ task.actions <:+ runJob platform.repr env task.payload
  syncs : ∀ entry ∈ state.log.syncs, SyncedIn platform allowed entry

/-- The sync among the actions of a job is the one of its connector. -/
theorem mem_runJob_synced {repr : String → String} {env : JobEnv} {job : JobPayload}
    {run : SyncRun} (member : .synced run ∈ runJob repr env job)
    : ∃ source, buildSource repr env job = .ok source ∧ syncJob env job source = some run := by
  unfold runJob at member
  rcases List.mem_cons.mp member with first | later
  · cases first
  · cases built : buildSource repr env job with
    | error exception =>
        rw [built] at later
        cases List.mem_singleton.mp later
    | ok source =>
        rw [built] at later
        dsimp only at later
        cases returned : syncJob env job source with
        | none =>
            rw [returned] at later
            cases later
        | some synced =>
            rw [returned] at later
            rcases List.mem_cons.mp later with same | last
            · cases same
              exact ⟨source, rfl, returned⟩
            · cases List.mem_singleton.mp last

section

variable {platform : Platform} {allowed : JobEnv → JobPayload → Prop} {state next : State}

/-- A step that adds no task and no sync. -/
theorem Worked.mono (worked : Worked platform allowed state) (tasks : next.tasks ⊆ state.tasks)
    (syncs : next.log.syncs ⊆ state.log.syncs)
    : Worked platform allowed next :=
  ⟨fun task member => worked.tasks task (tasks member),
    fun entry member => worked.syncs entry (syncs member)⟩

/-- An action leaves the actions after it, and a sync it returns from is its job's. -/
theorem Worked.act (worked : Worked platform allowed state) {number : Nat}
    {payload : JobPayload} {action : Action} {rest : List Action}
    (found : state.tasks[number]? = some ⟨payload, action :: rest⟩)
    : Worked platform allowed (state.acted number payload rest action) := by
  obtain ⟨env, good, suffix⟩ := worked.tasks _ (List.mem_of_getElem? found)
  have tasks : ∀ task ∈ (⟨payload, rest⟩ : Task) :: state.tasks.eraseIdx number,
      ∃ env, allowed env task.payload
        ∧ task.actions <:+ runJob platform.repr env task.payload := by
    intro task member
    rcases List.mem_cons.mp member with rfl | old
    · exact ⟨env, good, (List.suffix_cons action rest).trans suffix⟩
    · exact worked.tasks task (List.mem_of_mem_eraseIdx old)
  cases action with
  | report report => exact ⟨tasks, worked.syncs⟩
  | synced run =>
      refine ⟨tasks, fun entry member => ?_⟩
      rcases List.mem_cons.mp member with rfl | old
      · obtain ⟨source, built, returned⟩ :=
          mem_runJob_synced (suffix.subset List.mem_cons_self)
        exact ⟨env, source, good, built, returned⟩
      · exact worked.syncs entry old

/-- A step that starts jobs in allowed environments only keeps what jobs do accounted for,
by cases of the step.
-/
theorem Worked.step {event : Event} (worked : Worked platform allowed state)
    (starts : StartsIn allowed state event)
    (stepped : System.step platform state event = some next)
    : Worked platform allowed next := by
  cases step_takes stepped with
  | @work number env payload found =>
      refine ⟨fun task member => ?_, worked.syncs⟩
      rcases List.mem_cons.mp member with rfl | old
      · exact ⟨env, starts payload found, List.suffix_refl _⟩
      · exact worked.tasks task old
  | act found => exact worked.act found
  | crash =>
      exact worked.mono (fun _ member => List.mem_of_mem_eraseIdx member) (List.Subset.refl _)
  | start _ => exact ⟨worked.tasks, worked.syncs⟩
  | stop => exact ⟨worked.tasks, worked.syncs⟩
  | request _ => exact ⟨worked.tasks, worked.syncs⟩
  | tick _ _ _ => exact ⟨worked.tasks, worked.syncs⟩
  | contend _ _ _ => exact ⟨worked.tasks, worked.syncs⟩
  | reload _ => exact ⟨worked.tasks, worked.syncs⟩
  | build _ _ _ _ _ => exact ⟨worked.tasks, worked.syncs⟩
  | respond _ _ _ => exact ⟨worked.tasks, worked.syncs⟩
  | process _ _ _ => exact ⟨worked.tasks, worked.syncs⟩
  | lose => exact ⟨worked.tasks, worked.syncs⟩
  | drop => exact ⟨worked.tasks, worked.syncs⟩

end

theorem worked_initial (platform : Platform) (allowed : JobEnv → JobPayload → Prop)
    (agents : Table Agent.agentId) (secrets : SecretStore)
    : Worked platform allowed (State.initial agents secrets) where
  tasks := fun _ member => nomatch member
  syncs := fun _ member => nomatch member

/-- When every job of a run starts in an allowed environment, every sync was made in one that
a job of the run started in.
-/
theorem run_worked {platform : Platform} {allowed : JobEnv → JobPayload → Prop}
    {agents : Table Agent.agentId} {secrets : SecretStore} {events : List Event} {last : State}
    (starts
      : Along (step platform) (StartsIn allowed) (State.initial agents secrets) events)
    (ran : run (step platform) (State.initial agents secrets) events = some last)
    : Worked platform
        (fun env job => allowed env job ∧ ∃ number, .work number env ∈ events) last := by
  have among : ∀ event ∈ events, ∀ number env,
      event = Event.work number env → ∃ number, Event.work number env ∈ events := by
    intro event member number env same
    exact ⟨number, same ▸ member⟩
  have both
      : Along (step platform)
          (StartsIn fun env job => allowed env job ∧ ∃ number, Event.work number env ∈ events)
          (State.initial agents secrets) events := by
    refine (starts.and_of_forall among).imp fun state event met => ?_
    cases event with
    | work number env => exact fun payload found => ⟨met.1 payload found, met.2 number env rfl⟩
    | _ => trivial
  exact Along.invariant (fun worked starts stepped => worked.step starts stepped)
    (worked_initial platform _ agents secrets) both ran

-----------------------------------------------------------------------------------------
-- Truthful sources
-----------------------------------------------------------------------------------------

/-- What an API shows when it holds no records but those of a source, among them all that
were created by some time.
-/
structure Shows (source : Set SourceRecord) (endTime : Datetime) (content : SourceContent)
    : Prop where
  genuine : ∀ record ∈ content.records, record ∈ source
  complete : ∀ record ∈ source, record.created.us ≤ endTime.us → record ∈ content.records

/-- What `extract` takes from the environment of a job. -/
def extractEnv (env : JobEnv) (source : ConnectorClass × KaptureTickets.Config) : ExtractEnv :=
  ⟨env.host, source.2, env.now, env.clock⟩

/-- A job's API shows its source while the job runs, and answers its requests from that. -/
structure Truthful (source : Set SourceRecord) (env : JobEnv) (job : JobPayload)
    (connector : ConnectorClass × KaptureTickets.Config) (endTime : Datetime)
    (content : SourceContent)
    : Prop where
  shows_source : Shows source endTime content
  answered
    : (connector.1.extract (extractEnv env connector) job.startTime (some endTime)
        env.replies).AnsweredBy (connector.1.serve content) env.replies
  inTime
    : connector.1.StartsInTime (extractEnv env connector) content job.startTime endTime

/-- Whether a job of a pipeline, when its connector is built, meets a truthful API. -/
def Meets (platform : Platform) (pipelineId : UUID) (source : Set SourceRecord) (env : JobEnv)
    (job : JobPayload)
    : Prop :=
  job.pipelineId = pipelineId →
    ∀ connector endTime,
      buildSource platform.repr env job = .ok connector → job.endTime = some endTime →
        ∃ content, Truthful source env job connector endTime content

section

variable {platform : Platform} {source : Set SourceRecord} {env : JobEnv} {job : JobPayload}
  {connector : ConnectorClass × KaptureTickets.Config} {endTime : Datetime}
  {content : SourceContent} {run : SyncRun}

/-- A row for a record in a batch whose load returned. -/
def LoadedRow (env : JobEnv) (connector : ConnectorClass × KaptureTickets.Config)
    (run : SyncRun) (record : SourceRecord)
    : Prop :=
  ∃ row,
    (∃ reading, connector.1.transform env.host (env.clock reading) record.raw = .ok row)
    ∧ (validate connector.1.getSchema row = true →
        ∃ number batch,
          run.batches[number]? = some batch
          ∧ row ∈ batch
          ∧ ∃ loaded, env.load number batch = .ok loaded)

/-- A successful sync of a truthful source has loaded the source's records of its window. -/
theorem Truthful.loaded_row (truthful : Truthful source env job connector endTime content)
    (ends : job.endTime = some endTime) (returned : syncJob env job connector = some run)
    (success : run.result.status = .success) {record : SourceRecord} (member : record ∈ source)
    (inside : InWindow job.startTime endTime record)
    : LoadedRow env connector run record := by
  have held := truthful.shows_source.complete record member inside.1
  have served := ConnectorClass.serves_window_iff.mpr truthful.inTime record held inside
  have yields := ConnectorClass.extract_yields truthful.answered
  rw [syncJob, ends] at returned
  obtain ⟨row, yielded, index, made⟩ := yields.complete (sync_success returned success).1
    record.raw (List.mem_map_of_mem served)
  exact ⟨row, ⟨index, made⟩, sync_success_loaded returned success yielded⟩

end

-----------------------------------------------------------------------------------------
-- Delivery
-----------------------------------------------------------------------------------------

/-- What a pipeline's cursor says has been synced. -/
theorem GapFree.upTo {platform : Platform} {state : State} (gapFree : GapFree state)
    {pipeline : Pipeline} (stored : pipeline ∈ state.db.pipelines.rows)
    (nonneg : NonNegativeDays pipeline.lookbackDays) {cursor : Datetime}
    (reads
      : fromisoformat platform (Json.getOrNone pipeline.pipelineState "last_sync_at")
        = .ok cursor)
    : SyncedUpTo state.log.syncs pipeline.pipelineId pipeline.connector cursor := by
  cases held : pipeline.state with
  | none =>
      rw [Pipeline.pipelineState, held] at reads
      cases reads
  | some entries =>
      obtain ⟨written, rfl, upTo⟩ := gapFree.rows pipeline stored nonneg entries held
      have text : Json.getOrNone pipeline.pipelineState "last_sync_at"
          = .str written.isoformat := by
        simp [Pipeline.pipelineState, held, Json.getOrNone]
      rw [text, fromisoformat_ok_iff] at reads
      obtain ⟨_, same, reads⟩ := reads
      cases same
      cases (platform.reader.reads written).symm.trans reads
      exact upTo

section

variable {platform : Platform} {agents : Table Agent.agentId} {secrets : SecretStore}
  {events : List Event} {last : State} {source : Set SourceRecord}

/-- A record created up to a pipeline's cursor is in the window of a successful sync. -/
theorem synced_window {pipeline : Pipeline}
    (ran : run (step platform) (State.initial agents secrets) events = some last)
    (stored : pipeline ∈ last.db.pipelines.rows)
    (nonneg : NonNegativeDays pipeline.lookbackDays) {cursor : Datetime}
    (reads
      : fromisoformat platform (Json.getOrNone pipeline.pipelineState "last_sync_at")
        = .ok cursor)
    {record : SourceRecord} (before : record.created.us ≤ cursor.us)
    : ∃ job run,
        (job, run) ∈ last.log.syncs
        ∧ job.pipelineId = pipeline.pipelineId
        ∧ run.result.status = .success
        ∧ ∀ endTime, job.endTime = some endTime → InWindow job.startTime endTime record := by
  obtain ⟨_, ⟨job, run, logged, own, success, rfl⟩, lower, upper⟩ :=
    ((run_gapFree ran).upTo stored nonneg reads).instants record.created.us before
  refine ⟨job, run, logged, own, success, fun endTime ends => ⟨?_, fun start starts => ?_⟩⟩
  · exact upper endTime.us (by simp [window, ends])
  · exact lower start.us (by simp [window, Option.mem_def.mp starts])

end

namespace Sample

/-- A customer created five seconds after the epoch. -/
def customer : SourceRecord :=
  ⟨time 5, by decide,
    .dict [("id", .str "cust_1"), ("contact", .str "1"), ("created_at", .int 5)]⟩

/-- A source that holds the customer only. -/
def shop : SourceContent := ⟨[customer], List.nodup_singleton _⟩

/-- The reply of that source to the first request for its customers. -/
def customerReply : Json :=
  ConnectorClass.razorpayCustomers.serve shop (RazorpayCustomers.request 0)

/-- The first sync of a pipeline for customers, when its source holds one. -/
def firstDelivery : List Event :=
  [.start 0, save 2 11 "key",
    .request 0 ⟨⟨2⟩, env 21, .bulkCreatePipelines ⟨1⟩ ⟨11⟩
      [⟨"razorpay_customers", "customers", "0 * * * *", []⟩]⟩,
    .tick 0 ⟨21⟩ ⟨31⟩]
  ++ poll 1 31 (time 10)
  ++ [.work 0 { jobEnv with replies := [.ok customerReply] }, .act 0, .act 0, .act 0,
    .process 0 (time 12)]

end Sample

/-- Wherever it loads its rows, a job for customers that gets this reply meets the source. -/
theorem shop_truthful (load : Load) (job : JobPayload) (config : KaptureTickets.Config)
    (endTime : Datetime)
    : Truthful {Sample.customer}
        { Sample.jobEnv with replies := [.ok Sample.customerReply], load := load } job
        (.razorpayCustomers, config) endTime Sample.shop where
  shows_source :=
    ⟨fun _ member => List.mem_singleton.mp member,
      fun _ member _ => List.mem_singleton.mpr member⟩
  answered := by
    intro exchange member data same
    have only : exchange = (RazorpayCustomers.request 0, .ok Sample.customerReply) :=
      List.mem_singleton.mp member
    subst only
    cases same
    rfl
  inTime := fun kapture => nomatch kapture

end Turbocat.System
