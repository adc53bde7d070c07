import Turbocat.Orchestrator.Jobs

/-! When a poll that returns no response loses the jobs it selected. The claim is committed
first, and one job whose payload cannot be built ends the request for all of them.
-/

namespace Turbocat.Orchestrator

open Turbocat.Library Turbocat.Python

/-- The stored cursor and lookback give a window: there is no cursor, or it is a text of a
datetime from which the lookback, a number of days, can be subtracted.
-/
def WindowDefined (platform : Platform) (pipeline : Pipeline) : Prop :=
  let lastSyncAt := Json.getOrNone pipeline.pipelineState "last_sync_at"
  lastSyncAt.truthy = false
  ∨ ∃ text lastSync lookback earlier,
      lastSyncAt = .str text
      ∧ platform.reader.fromisoformat text = some lastSync
      ∧ timedelta pipeline.lookbackDays = .ok lookback
      ∧ lastSync.sub lookback = .ok earlier

theorem windowStart_defined_iff {platform : Platform} {pipeline : Pipeline}
    : (∃ start, windowStart platform pipeline = .ok start) ↔ WindowDefined platform pipeline := by
  simp only [windowStart_ok_iff, WindowDefined, fromisoformat_ok_iff]
  constructor
  · intro started
    rcases started with
      ⟨start, ⟨first, _⟩ | ⟨_, lastSync, lookback, earlier, ⟨text, value, read⟩, made, moved, _⟩⟩
    · exact Or.inl first
    · exact Or.inr ⟨text, lastSync, lookback, earlier, value, read, made, moved⟩
  · intro readable
    rcases readable with first | ⟨text, lastSync, lookback, earlier, value, read, made, moved⟩
    · exact ⟨none, Or.inl ⟨first, rfl⟩⟩
    · cases truthy : (Json.getOrNone pipeline.pipelineState "last_sync_at").truthy with
      | false => exact ⟨none, Or.inl ⟨rfl, rfl⟩⟩
      | true =>
          exact ⟨some earlier,
            Or.inr ⟨rfl, lastSync, lookback, earlier, ⟨text, value, read⟩, made, moved, rfl⟩⟩

/-- What the database and the secret store must hold for a job's payload to be built: its
pipeline and connection, a window, and credentials that are an object of texts.
-/
def Deliverable (platform : Platform) (fetch : String → Except PyException Json) (db : Db)
    (job : JobRun)
    : Prop :=
  ∃ pipeline connection credentials,
    db.pipelines.get? job.pipelineId = some pipeline
    ∧ db.connections.get? pipeline.connectionId = some connection
    ∧ WindowDefined platform pipeline
    ∧ fetch connection.secretRef = .ok (.dict credentials)
    ∧ ∀ entry ∈ credentials, isText entry.2 = true

/-- A payload can be built exactly for a deliverable job. -/
theorem buildPayload_returns_iff {platform : Platform}
    {fetch : String → Except PyException Json} {now : Datetime} {db : Db} (job : JobRun)
    : (∃ payload, buildPayload platform fetch now (db.load job) = .ok payload)
      ↔ Deliverable platform fetch db job := by
  simp only [buildPayload_ok_iff, Deliverable, ← windowStart_defined_iff]
  constructor
  · intro built
    obtain ⟨_, pipeline, connection, start, credentials, loaded, related, window, fetched, texts,
      _⟩ := built
    have found : db.pipelines.get? job.pipelineId = some pipeline := loaded
    refine ⟨pipeline, connection, credentials, found, ?_, ⟨start, window⟩, fetched, texts⟩
    simpa [Db.load, found] using related
  · intro deliverable
    obtain ⟨pipeline, connection, credentials, found, related, ⟨start, window⟩, fetched, texts⟩ :=
      deliverable
    exact ⟨_, pipeline, connection, start, credentials, found,
      by simpa [Db.load, found] using related, window, fetched, texts, rfl⟩

/-- The reload of a claim loads exactly the selected jobs, each dispatched, with the
pipelines and connections as they were.
-/
theorem reload_selected (env : PollEnv) (db : Db) (agentId : UUID)
    : let jobIds := (selectedJobs env db agentId).map (fun job => job.jobId)
      Db.reload { db with jobRuns := markDispatched db.jobRuns jobIds } jobIds
      = (selectedJobs env db agentId).map (fun job => db.load job.dispatched) := by
  intro jobIds
  have selected {job : JobRun} (member : job ∈ db.jobRuns.rows)
      : job.jobId ∈ jobIds
        ↔ (isPendingFor agentId job && !env.locked job.jobId) = true := by
    constructor
    · intro claimed
      obtain ⟨other, otherSelected, same⟩ := List.mem_map.mp claimed
      obtain ⟨stored, passes⟩ := List.mem_filter.mp otherSelected
      rwa [Table.eq_of_key stored member same] at passes
    · exact fun passes => List.mem_map_of_mem (List.mem_filter.mpr ⟨member, passes⟩)
  unfold Db.reload selectedJobs markDispatched
  simp only [Table.update_rows, List.filter_map, List.map_map]
  have kept
      : db.jobRuns.rows.filter
          ((fun job => decide (job.jobId ∈ jobIds))
            ∘ fun job => if job.jobId ∈ jobIds then job.dispatched else job)
        = db.jobRuns.rows.filter
            (fun job => isPendingFor agentId job && !env.locked job.jobId) := by
    refine List.filter_congr fun job member => ?_
    rw [Bool.eq_iff_iff, ← selected member]
    by_cases claimed : job.jobId ∈ jobIds <;> simp [claimed]
  rw [kept]
  refine List.map_congr_left fun job member => ?_
  obtain ⟨stored, passes⟩ := List.mem_filter.mp member
  simp only [Function.comp_apply, if_pos ((selected stored).mpr passes)]
  rfl

/-- A poll whose commit succeeds has dispatched every job it selected, and responds exactly
when the reload succeeds and every selected job is deliverable.
-/
theorem getPendingJobs_committed (platform : Platform) {env : PollEnv} {db : Db}
    {agentId : UUID} (nonempty : selectedJobs env db agentId ≠ [])
    (committed : env.commitFault = none)
    : let result := getPendingJobs platform env db agentId
      let selected := selectedJobs env db agentId
      result.1.jobRuns = markDispatched db.jobRuns (selected.map (fun job => job.jobId))
      ∧ ((∃ payloads, result.2 = .ok payloads)
        ↔ env.reloadFault = none
          ∧ ∀ position job, selected[position]? = some job →
              Deliverable platform (env.fetch position) db job) := by
  have some_ : (selectedJobs env db agentId).isEmpty = false := by simpa using nonempty
  have loads := reload_selected env db agentId
  dsimp only at loads
  unfold getPendingJobs
  simp only [some_, Bool.false_eq_true, if_false, committed]
  cases env.reloadFault with
  | some exception => simp
  | none =>
      refine ⟨rfl, ?_⟩
      simp only [true_and, loads, buildPayloads_returns_iff, Nat.zero_add, List.getElem?_map,
        Option.map_eq_some_iff]
      constructor
      · intro each position job found
        exact (buildPayload_returns_iff job.dispatched).mp
          (each position _ ⟨job, found, rfl⟩)
      · intro each position loaded listed
        obtain ⟨job, found, rfl⟩ := listed
        exact (buildPayload_returns_iff job.dispatched).mpr (each position job found)

/-- A poll leaves its selected jobs pending when no response comes back exactly when it
selected none, its commit failed, or it does respond: the reload succeeds and every
selected job is deliverable.
-/
theorem getPendingJobs_keeps_pending_iff (platform : Platform) (env : PollEnv) (db : Db)
    (agentId : UUID)
    : let result := getPendingJobs platform env db agentId
      let selected := selectedJobs env db agentId
      ((∀ payloads, result.2 ≠ .ok payloads) →
          ∀ job ∈ selected,
            ∃ row,
              result.1.jobRuns.get? job.jobId = some row
              ∧ row.status = JobStatus.pending.value)
      ↔ selected = []
        ∨ env.commitFault ≠ none
        ∨ (env.reloadFault = none
          ∧ ∀ position job, selected[position]? = some job →
              Deliverable platform (env.fetch position) db job) := by
  intro result selected
  have pendingBefore {job : JobRun} (member : job ∈ selected)
      : db.jobRuns.get? job.jobId = some job ∧ job.status = JobStatus.pending.value := by
    obtain ⟨stored, passes⟩ := List.mem_filter.mp member
    simp only [isPendingFor, Bool.and_eq_true, decide_eq_true_eq] at passes
    exact ⟨Table.get?_of_mem stored, passes.1.2⟩
  by_cases nothing : selected = []
  · simp [nothing]
  · cases commitFault : env.commitFault with
    | some exception =>
        -- The transaction is rolled back.
        have unchanged : result.1 = db := by
          simp only [result, getPendingJobs, commitFault]
          split <;> rfl
        refine iff_of_true (fun _ job member => ?_) (Or.inr (Or.inl (by simp)))
        rw [unchanged]
        exact ⟨job, pendingBefore member⟩
    | none =>
        obtain ⟨rows, responds⟩ := getPendingJobs_committed platform nothing
          commitFault
        simp only [nothing, false_or, ne_eq, not_true_eq_false]
        rw [← responds]
        constructor
        · intro keeps
          by_contra silent
          have noResponse : ∀ payloads, result.2 ≠ .ok payloads := fun payloads answered =>
            silent ⟨payloads, answered⟩
          obtain ⟨first, member⟩ := List.exists_mem_of_ne_nil selected nothing
          obtain ⟨row, found, status⟩ := keeps noResponse first member
          rw [show result.1.jobRuns = _ from rows, get?_markDispatched_eq_some_iff] at found
          obtain ⟨old, _, rfl⟩ := found
          rw [if_pos (List.mem_map_of_mem member)] at status
          exact old.dispatched_not_pending status
        · intro response noResponse
          obtain ⟨payloads, answered⟩ := response
          exact absurd answered (noResponse payloads)

/-- One poll selects two jobs of its agent; the secret of the first is missing. No response
comes back and the second, whose secret is there, is no longer pending.
-/
theorem missing_secret_loses_other_job
    : let agentId : UUID := ⟨1⟩
      let epoch : Datetime := ⟨0, by decide, by decide⟩
      let connection (number : Fin (2 ^ 128)) (secretRef : String) : Connection :=
        ⟨⟨number⟩, ⟨2⟩, "shop", "razorpay", secretRef, .active, none, epoch⟩
      let pipeline (number connectionId : Fin (2 ^ 128)) : Pipeline :=
        ⟨⟨number⟩, ⟨2⟩, agentId, ⟨connectionId⟩, "razorpay_orders", "orders", "0 * * * *", [],
          none, true⟩
      let job (number pipelineId : Fin (2 ^ 128)) : JobRun :=
        { jobId := ⟨number⟩, pipelineId := ⟨pipelineId⟩, agentId := agentId }
      let db : Db :=
        {
          agents := ⟨[⟨agentId, ⟨2⟩⟩], by decide⟩
          connections := ⟨[connection 11 "lost", connection 12 "kept"], by decide⟩
          pipelines := ⟨[pipeline 21 11, pipeline 22 12], by decide⟩
          jobRuns := ⟨[job 31 21, job 32 22], by decide⟩
        }
      let store : SecretStore :=
        Function.update (fun _ => none) "kept" (some (.decoded (.dict [("api_key", .str "k")])))
      let env : PollEnv :=
        { clock := fun _ => epoch, fetch := fun _ => getSecret store none }
      let result := getPendingJobs Platform.written env db agentId
      (∀ payloads, result.2 ≠ .ok payloads)
      ∧ job 32 22 ∈ selectedJobs env db agentId
      ∧ (result.1.jobRuns.get? ⟨32⟩).map (fun row => row.status)
        = some JobStatus.dispatched.value := by
  refine ⟨fun payloads answered => ?_, by decide, by decide⟩
  cases answered

end Turbocat.Orchestrator
