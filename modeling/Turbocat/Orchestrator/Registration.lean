import Turbocat.Orchestrator.ApiEffects

/-! What the registration loops leave in a scheduler, and that loading the schedules of a
database into an empty one is the same loop as registering new pipelines.
-/

namespace Turbocat.Orchestrator

open Turbocat.Library Turbocat.Python

variable {fromCrontab : FromCrontab}

/-- `CronTrigger.from_crontab` accepts the pipeline's schedule. -/
def Pipeline.Accepted (fromCrontab : FromCrontab) (pipeline : Pipeline) : Prop :=
  fromCrontab pipeline.schedule = .ok ()

theorem registerPipeline_ok_iff {scheduler next : Scheduler} {pipeline : Pipeline}
    : registerPipeline fromCrontab scheduler pipeline = .ok next
      ↔ pipeline.Accepted fromCrontab ∧ next = scheduler.put pipeline.scheduledJob := by
  unfold registerPipeline Pipeline.Accepted
  rw [bind_eq_ok_iff]
  constructor
  · intro registered
    obtain ⟨_, parsed, same⟩ := registered
    cases same
    exact ⟨parsed, rfl⟩
  · intro both
    obtain ⟨parsed, rfl⟩ := both
    exact ⟨(), parsed, rfl⟩

/-- A rejected schedule raises. -/
theorem registerPipeline_rejected (scheduler : Scheduler) {pipeline : Pipeline}
    (rejected : ¬ pipeline.Accepted fromCrontab)
    : ∃ exception, registerPipeline fromCrontab scheduler pipeline = .error exception := by
  cases registered : registerPipeline fromCrontab scheduler pipeline with
  | error exception => exact ⟨exception, rfl⟩
  | ok next => exact absurd (registerPipeline_ok_iff.mp registered).1 rejected

/-- The next turn of a registration loop whose first schedule is accepted. -/
theorem registerEach_cons {scheduler : Scheduler} {pipeline : Pipeline}
    (accepted : pipeline.Accepted fromCrontab) (rest : List Pipeline)
    : registerEach fromCrontab scheduler (pipeline :: rest)
      = registerEach fromCrontab (scheduler.put pipeline.scheduledJob) rest := by
  rw [registerEach, registerPipeline_ok_iff.mpr ⟨accepted, rfl⟩]

/-- The loop stops at a rejected schedule. -/
theorem registerEach_rejected (scheduler : Scheduler) {pipeline : Pipeline}
    (rejected : ¬ pipeline.Accepted fromCrontab) (rest : List Pipeline)
    : ∃ exception,
        registerEach fromCrontab scheduler (pipeline :: rest) = (scheduler, some exception) := by
  obtain ⟨exception, raised⟩ := registerPipeline_rejected scheduler rejected
  exact ⟨exception, by rw [registerEach, raised]⟩

/-- A registration loop raises nothing exactly when every schedule is accepted, by induction
over the pipelines.
-/
theorem registerEach_completes_iff {scheduler : Scheduler} {pipelines : List Pipeline}
    : (registerEach fromCrontab scheduler pipelines).2 = none
      ↔ ∀ pipeline ∈ pipelines, pipeline.Accepted fromCrontab := by
  induction pipelines generalizing scheduler with
  | nil => simp [registerEach]
  | cons pipeline rest ih =>
      by_cases accepted : pipeline.Accepted fromCrontab
      · rw [registerEach_cons accepted, ih, List.forall_mem_cons]
        exact (and_iff_right accepted).symm
      · obtain ⟨exception, raised⟩ := registerEach_rejected scheduler accepted rest
        rw [raised, List.forall_mem_cons]
        simp [accepted]

/-- A registration loop leaves the jobs of other pipelines alone, by induction over the
pipelines.
-/
theorem get?_registerEach_of_not_mem {scheduler : Scheduler} {pipelines : List Pipeline}
    {pipelineId : UUID} (other : pipelineId ∉ pipelines.map Pipeline.pipelineId)
    : (registerEach fromCrontab scheduler pipelines).1.get? pipelineId
      = scheduler.get? pipelineId := by
  induction pipelines generalizing scheduler with
  | nil => rfl
  | cons pipeline rest ih =>
      obtain ⟨different, later⟩ := not_or.mp (mt List.mem_cons.mpr other)
      by_cases accepted : pipeline.Accepted fromCrontab
      · rw [registerEach_cons accepted, ih later, Table.get?_put, if_neg]
        exact different
      · obtain ⟨exception, raised⟩ := registerEach_rejected scheduler accepted rest
        rw [raised]

/-- With accepted schedules each pipeline has its job after the loop. -/
theorem get?_registerEach_of_mem {scheduler : Scheduler} {pipelines : List Pipeline}
    (distinct : (pipelines.map Pipeline.pipelineId).Nodup)
    (accepted : ∀ pipeline ∈ pipelines, pipeline.Accepted fromCrontab) {pipeline : Pipeline}
    (member : pipeline ∈ pipelines)
    : (registerEach fromCrontab scheduler pipelines).1.get? pipeline.pipelineId
      = some pipeline.scheduledJob := by
  induction pipelines generalizing scheduler with
  | nil => cases member
  | cons first rest ih =>
      obtain ⟨fresh, distinctRest⟩ := List.nodup_cons.mp distinct
      obtain ⟨acceptedFirst, acceptedRest⟩ := List.forall_mem_cons.mp accepted
      rw [registerEach_cons acceptedFirst]
      rcases List.mem_cons.mp member with rfl | later
      · rw [get?_registerEach_of_not_mem fresh, Table.get?_put]
        exact if_pos rfl
      · exact ih distinctRest acceptedRest later

/-- Where no pipeline has a job yet, loading registers each of them. -/
theorem registerAll_eq_registerEach {scheduler : Scheduler} {pipelines : List Pipeline}
    (distinct : (pipelines.map Pipeline.pipelineId).Nodup)
    (absent : ∀ pipeline ∈ pipelines, scheduler.get? pipeline.pipelineId = none)
    : registerAll fromCrontab scheduler pipelines
      = registerEach fromCrontab scheduler pipelines := by
  induction pipelines generalizing scheduler with
  | nil => rfl
  | cons first rest ih =>
      obtain ⟨fresh, distinctRest⟩ := List.nodup_cons.mp distinct
      obtain ⟨absentFirst, absentRest⟩ := List.forall_mem_cons.mp absent
      unfold registerAll
      rw [absentFirst, if_neg (by simp)]
      by_cases accepted : first.Accepted fromCrontab
      · rw [registerEach_cons accepted, registerPipeline_ok_iff.mpr ⟨accepted, rfl⟩]
        refine ih distinctRest ?_
        intro pipeline member
        rw [Table.get?_put, if_neg, absentRest pipeline member]
        intro same
        have listed := @List.mem_map_of_mem _ _ _ _ Pipeline.pipelineId member
        rw [same] at listed
        exact fresh listed
      · obtain ⟨exception, raised⟩ := registerPipeline_rejected scheduler accepted
        rw [registerEach, raised]

/-- The active pipelines, as `load_schedules` selects them. -/
def Db.activePipelines (db : Db) : List Pipeline :=
  db.pipelines.rows.filter (fun pipeline => pipeline.isActive)

theorem mem_activePipelines {db : Db} {pipeline : Pipeline}
    : pipeline ∈ db.activePipelines
      ↔ pipeline ∈ db.pipelines.rows ∧ pipeline.isActive = true :=
  List.mem_filter

theorem activePipelines_distinct (db : Db)
    : (db.activePipelines.map Pipeline.pipelineId).Nodup :=
  db.pipelines.unique.sublist (List.filter_sublist.map _)

/-- A process that starts loads as if every active pipeline had just been created. -/
theorem loadSchedules_empty (db : Db)
    : loadSchedules fromCrontab db .empty
      = registerEach fromCrontab .empty db.activePipelines :=
  registerAll_eq_registerEach (activePipelines_distinct db) (fun _ _ => rfl)

/-- A row that is refused is refused with an error response. -/
theorem ownRow_error {ρ : Type} {accountId : ρ → UUID} {missing : String} {caller : UUID}
    {found : Option ρ} {response : Response}
    (refused : ownRow accountId missing caller found = .error response) (body : ResponseBody)
    : response ≠ .ok body := by
  cases found with
  | none =>
      cases refused
      simp
  | some row =>
      simp only [ownRow] at refused
      split at refused
      · cases refused
        simp
      · cases refused

/-- A bulk request for an own connection whose rows the database takes, with the database
after the commit.
-/
structure CommitsBulk (env : RequestEnv) (db : Db) (accountId agentId connectionId : UUID)
    (tables : List PipelineTableConfig) (next : Db)
    : Prop where
  own
    : ∃ connection,
        db.connections.get? connectionId = some connection
        ∧ connection.accountId = accountId
  written
    : insertPipelines db (requestedPipelines env accountId agentId connectionId tables)
        >>= env.commit
      = .ok next

/-- The rows of a committed request are appended. -/
theorem CommitsBulk.appended {env : RequestEnv} {db next : Db}
    {accountId agentId connectionId : UUID} {tables : List PipelineTableConfig}
    (commits : CommitsBulk env db accountId agentId connectionId tables next)
    : next.pipelines.rows
      = db.pipelines.rows ++ requestedPipelines env accountId agentId connectionId tables := by
  obtain ⟨written, inserted, committed⟩ := bind_eq_ok_iff.mp commits.written
  cases commit_ok committed
  exact (insertPipelines_ok inserted).2.2.2.1

/-- The rows of a committed request are under new ids. -/
theorem CommitsBulk.fresh {env : RequestEnv} {db next : Db}
    {accountId agentId connectionId : UUID} {tables : List PipelineTableConfig}
    (commits : CommitsBulk env db accountId agentId connectionId tables next)
    {row : Pipeline} (stored : row ∈ db.pipelines.rows)
    : row.pipelineId
      ∉ (requestedPipelines env accountId agentId connectionId tables).map
          Pipeline.pipelineId := by
  have unique := next.pipelines.unique
  rw [commits.appended, List.map_append] at unique
  exact fun among =>
    (List.nodup_append.mp unique).2.2 _ (List.mem_map_of_mem stored) _ among rfl

/-- A bulk request is refused or commits its rows and then registers them. -/
theorem bulkCreatePipelines_commits (platform : Platform) (env : RequestEnv)
    (backend : Backend) (accountId agentId connectionId : UUID)
    (tables : List PipelineTableConfig)
    : let pipelines := requestedPipelines env accountId agentId connectionId tables
      let next :=
        (bulkCreatePipelines platform env backend accountId agentId connectionId tables).1
      next = backend
      ∨ ∃ db,
          CommitsBulk env backend.db accountId agentId connectionId tables db
          ∧ next
            = { backend with
                db
                scheduler :=
                  (registerEach platform.fromCrontab backend.scheduler pipelines).1 } := by
  intro pipelines next
  have made : next
      = (bulkCreatePipelines platform env backend accountId agentId connectionId tables).1 :=
    rfl
  unfold bulkCreatePipelines at made
  split at made
  · exact Or.inl made
  · next connection own =>
      dsimp only at made
      split at made
      · exact Or.inl made
      · next db written =>
          have commits : CommitsBulk env backend.db accountId agentId connectionId tables db :=
            ⟨⟨connection, ownRow_ok_iff.mp own⟩, written⟩
          refine Or.inr ⟨db, commits, ?_⟩
          split at made
          · next registered =>
              rw [made, registered]
          · next registered =>
              rw [made, registered]

/-- New pipelines are active. -/
theorem requestedPipelines_active {env : RequestEnv} {accountId agentId connectionId : UUID}
    {tables : List PipelineTableConfig} {pipeline : Pipeline}
    (member : pipeline ∈ requestedPipelines env accountId agentId connectionId tables)
    : pipeline.isActive = true ∧ ∃ table ∈ tables, pipeline.schedule = table.schedule := by
  obtain ⟨number, inside, rfl⟩ := List.mem_mapIdx.mp member
  exact ⟨rfl, tables[number], List.getElem_mem inside, rfl⟩

end Turbocat.Orchestrator
