import Turbocat.Orchestrator.Registration

/-! The creation of the pipelines of a bulk request when reading the database may fail too:
what it leaves in the two stores, and when that is all or nothing.
-/

namespace Turbocat.Orchestrator.BulkCreation

open Turbocat.Library Turbocat.Python

/-- What reading the database raises: `db.get`, and the `db.refresh` of each new row. -/
structure Faults where
  get : Option PyException := none
  refresh : Nat → Option PyException := fun _ => none

section

variable (platform : Platform) (env : RequestEnv) (faults : Faults) (backend : Backend)
  (accountId agentId connectionId : UUID) (tables : List PipelineTableConfig)

/-- The loop after the commit, from a certain row on. -/
def refreshEach (fromCrontab : FromCrontab)
    : Nat → Scheduler → List Pipeline → Scheduler × Option PyException
  | _, scheduler, [] => (scheduler, none)
  | number, scheduler, pipeline :: rest =>
      match faults.refresh number with
      | some exception => (scheduler, some exception)
      | none =>
          match registerPipeline fromCrontab scheduler pipeline with
          | .error exception => (scheduler, some exception)
          | .ok scheduler => refreshEach fromCrontab (number + 1) scheduler rest

/-- `bulk_create_pipelines`. -/
def bulkCreatePipelines : Backend × Response :=
  match faults.get with
  | some exception => (backend, .serverError exception)
  | none =>
      match ownRow Connection.accountId "Connection not found" accountId
          (backend.db.connections.get? connectionId) with
      | .error response => (backend, response)
      | .ok _ =>
          let pipelines := requestedPipelines env accountId agentId connectionId tables
          match insertPipelines backend.db pipelines >>= env.commit with
          | .error exception => (backend, .serverError exception)
          | .ok db =>
              match refreshEach faults platform.fromCrontab 0 backend.scheduler pipelines with
              | (scheduler, some exception) =>
                  ({ backend with db, scheduler }, .serverError exception)
              | (scheduler, none) =>
                  ({ backend with db, scheduler },
                    .ok (.pipelines (pipelines.map Pipeline.response)))

end

section

variable {platform : Platform} {env : RequestEnv} {faults : Faults} {backend : Backend}
  {accountId agentId connectionId : UUID} {tables : List PipelineTableConfig}
  {fromCrontab : FromCrontab}

/-- Where every row can be read again, the loop only registers. -/
theorem refreshEach_eq_registerEach {number : Nat} {scheduler : Scheduler}
    {pipelines : List Pipeline}
    (readable : ∀ index < pipelines.length, faults.refresh (number + index) = none)
    : refreshEach faults fromCrontab number scheduler pipelines
      = registerEach fromCrontab scheduler pipelines := by
  induction pipelines generalizing number scheduler with
  | nil => rfl
  | cons pipeline rest ih =>
      have here : faults.refresh number = none := readable 0 (Nat.succ_pos _)
      unfold refreshEach registerEach
      rw [here]
      cases registered : registerPipeline fromCrontab scheduler pipeline with
      | error exception => rfl
      | ok next =>
          apply ih
          intro index inside
          rw [Nat.add_assoc, Nat.add_comm 1 index]
          exact readable (index + 1) (Nat.succ_lt_succ inside)

/-- Without such failures the endpoint is the one of the API. -/
theorem bulkCreatePipelines_without_faults
    : bulkCreatePipelines platform env {} backend accountId agentId connectionId tables
      = Orchestrator.bulkCreatePipelines platform env backend accountId agentId connectionId
          tables := by
  have loop := @refreshEach_eq_registerEach {} platform.fromCrontab 0 backend.scheduler
    (requestedPipelines env accountId agentId connectionId tables) (fun _ _ => rfl)
  unfold bulkCreatePipelines
  dsimp only
  rw [loop]
  rfl

/-- The loop raises nothing exactly when every row can be read and every schedule is accepted,
by induction over the pipelines.
-/
theorem refreshEach_completes_iff {number : Nat} {scheduler : Scheduler}
    {pipelines : List Pipeline}
    : (refreshEach faults fromCrontab number scheduler pipelines).2 = none
      ↔ (∀ index < pipelines.length, faults.refresh (number + index) = none)
        ∧ ∀ pipeline ∈ pipelines, pipeline.Accepted fromCrontab := by
  constructor
  · intro completes
    have readable : ∀ index < pipelines.length, faults.refresh (number + index) = none := by
      induction pipelines generalizing number scheduler with
      | nil =>
          intro index inside
          nomatch inside
      | cons pipeline rest ih =>
          unfold refreshEach at completes
          cases read : faults.refresh number with
          | some exception => simp [read] at completes
          | none =>
              cases registered : registerPipeline fromCrontab scheduler pipeline with
              | error exception => simp [read, registered] at completes
              | ok next =>
                  simp only [read, registered] at completes
                  intro index inside
                  cases index with
                  | zero => exact read
                  | succ index =>
                      rw [Nat.add_comm index 1, ← Nat.add_assoc]
                      exact ih completes index (Nat.lt_of_succ_lt_succ inside)
    rw [refreshEach_eq_registerEach readable] at completes
    exact ⟨readable, registerEach_completes_iff.mp completes⟩
  · intro ⟨readable, accepted⟩
    rw [refreshEach_eq_registerEach readable]
    exact registerEach_completes_iff.mpr accepted

/-- A request whose rows are not committed ends in an error and leaves everything as it was. -/
theorem bulkCreatePipelines_refused
    (uncommitted
      : faults.get = none
        → ∀ db, ¬ CommitsBulk env backend.db accountId agentId connectionId tables db)
    : ∃ response,
        bulkCreatePipelines platform env faults backend accountId agentId connectionId tables
          = (backend, response)
        ∧ ∀ body, response ≠ .ok body := by
  unfold bulkCreatePipelines
  cases readable : faults.get with
  | some exception => exact ⟨_, rfl, by simp⟩
  | none =>
      cases owned : ownRow Connection.accountId "Connection not found" accountId
          (backend.db.connections.get? connectionId) with
      | error response => exact ⟨response, rfl, ownRow_error owned⟩
      | ok connection =>
          cases written : insertPipelines backend.db
              (requestedPipelines env accountId agentId connectionId tables) >>= env.commit with
          | error exception =>
              refine ⟨.serverError exception, ?_, by simp⟩
              simp only [written]
          | ok db =>
              exact absurd ⟨⟨connection, ownRow_ok_iff.mp owned⟩, written⟩
                (uncommitted readable db)

/-- A request whose rows are committed succeeds exactly when its loop raises nothing. -/
theorem bulkCreatePipelines_committed {db : Db} (readable : faults.get = none)
    (commits : CommitsBulk env backend.db accountId agentId connectionId tables db)
    : ∃ response,
        bulkCreatePipelines platform env faults backend accountId agentId connectionId tables
          = ({ backend with
              db
              scheduler :=
                (refreshEach faults platform.fromCrontab 0 backend.scheduler
                  (requestedPipelines env accountId agentId connectionId tables)).1 },
            response)
        ∧ ((∃ body, response = .ok body)
          ↔ (refreshEach faults platform.fromCrontab 0 backend.scheduler
              (requestedPipelines env accountId agentId connectionId tables)).2
            = none) := by
  obtain ⟨⟨connection, own⟩, written⟩ := commits
  unfold bulkCreatePipelines
  simp only [readable, ownRow_ok_iff.mpr own, written]
  cases refreshEach faults platform.fromCrontab 0 backend.scheduler
      (requestedPipelines env accountId agentId connectionId tables) with
  | mk scheduler raised =>
      cases raised with
      | none => exact ⟨_, rfl, by simp⟩
      | some exception => exact ⟨_, rfl, by simp⟩

/-- The active row of a requested table. -/
structure Creates (accountId agentId connectionId : UUID) (table : PipelineTableConfig)
    (pipeline : Pipeline)
    : Prop where
  owner
    : pipeline.accountId = accountId
      ∧ pipeline.agentId = agentId
      ∧ pipeline.connectionId = connectionId
  connector : pipeline.connector = table.connector
  tableName : pipeline.tableName = table.tableName
  schedule : pipeline.schedule = table.schedule
  params : pipeline.params = table.params
  active : pipeline.isActive = true

/-- The new rows are one for each requested table, and those with new schedule entries. -/
structure CreatesEach (accountId agentId connectionId : UUID)
    (tables : List PipelineTableConfig) (before after : Backend) (created : List Pipeline)
    : Prop where
  appended : after.db.pipelines.rows = before.db.pipelines.rows ++ created
  each : List.Forall₂ (Creates accountId agentId connectionId) tables created
  distinct : (created.map Pipeline.pipelineId).Nodup
  fresh
    : ∀ row ∈ before.db.pipelines.rows, row.pipelineId ∉ created.map Pipeline.pipelineId
  scheduled
    : ∀ pipeline ∈ created,
        after.scheduler.get? pipeline.pipelineId = some pipeline.scheduledJob
  others
    : ∀ pipelineId ∉ created.map Pipeline.pipelineId,
        after.scheduler.get? pipelineId = before.scheduler.get? pipelineId

/-- A request that ends in an error changes neither store, and one that succeeds creates a row
and a schedule entry for each table.
-/
def AllOrNothing (accountId agentId connectionId : UUID) (tables : List PipelineTableConfig)
    (before : Backend) (result : Backend × Response)
    : Prop :=
  ((∀ body, result.2 ≠ .ok body)
      → result.1.db.pipelines = before.db.pipelines ∧ result.1.scheduler = before.scheduler)
  ∧ ((∃ body, result.2 = .ok body)
      → ∃ created,
          CreatesEach accountId agentId connectionId tables before result.1 created)

/-- A new row stands for its table. -/
theorem requestedPipelines_creates (env : RequestEnv) (accountId agentId connectionId : UUID)
    (tables : List PipelineTableConfig)
    : List.Forall₂ (Creates accountId agentId connectionId) tables
        (requestedPipelines env accountId agentId connectionId tables) := by
  unfold requestedPipelines
  rw [List.forall₂_iff_get]
  refine ⟨List.length_mapIdx.symm, ?_⟩
  intro number inside requested
  rw [List.get_eq_getElem, List.get_eq_getElem, List.getElem_mapIdx]
  exact ⟨⟨rfl, rfl, rfl⟩, rfl, rfl, rfl, rfl, rfl⟩

/-- The loop after the commit raises nothing exactly when each row can be read and each table
has a schedule that is accepted.
-/
theorem refreshEach_requested_iff {scheduler : Scheduler}
    : (refreshEach faults fromCrontab 0 scheduler
          (requestedPipelines env accountId agentId connectionId tables)).2
        = none
      ↔ (∀ number < tables.length, faults.refresh number = none)
        ∧ ∀ table ∈ tables, fromCrontab table.schedule = .ok () := by
  rw [refreshEach_completes_iff]
  have length : (requestedPipelines env accountId agentId connectionId tables).length
      = tables.length :=
    List.length_mapIdx
  simp only [length, Nat.zero_add]
  apply and_congr_right
  intro _
  constructor
  · intro accepted table requested
    obtain ⟨number, inside, rfl⟩ := List.mem_iff_getElem.mp requested
    exact accepted _ (List.mem_mapIdx.mpr ⟨number, inside, rfl⟩)
  · intro accepted pipeline member
    obtain ⟨_, table, requested, schedule⟩ := requestedPipelines_active member
    unfold Pipeline.Accepted
    rw [schedule]
    exact accepted table requested

/-- Rows that are committed are each registered where the loop raises nothing. -/
theorem createsEach {db : Db}
    (commits : CommitsBulk env backend.db accountId agentId connectionId tables db)
    (completes
      : (refreshEach faults fromCrontab 0 backend.scheduler
          (requestedPipelines env accountId agentId connectionId tables)).2 = none)
    : CreatesEach accountId agentId connectionId tables backend
        { backend with
          db
          scheduler :=
            (refreshEach faults fromCrontab 0 backend.scheduler
              (requestedPipelines env accountId agentId connectionId tables)).1 }
        (requestedPipelines env accountId agentId connectionId tables) := by
  obtain ⟨readable, accepted⟩ := refreshEach_completes_iff.mp completes
  have unique := db.pipelines.unique
  rw [commits.appended, List.map_append] at unique
  have distinct := (List.nodup_append.mp unique).2.1
  rw [refreshEach_eq_registerEach readable]
  exact {
    appended := commits.appended
    each := requestedPipelines_creates env accountId agentId connectionId tables
    distinct := distinct
    fresh := fun _ stored => commits.fresh stored
    scheduled := fun _ member => get?_registerEach_of_mem distinct accepted member
    others := fun _ other => get?_registerEach_of_not_mem other
  }

/-- A bulk request is all or nothing exactly when it is refused before its rows are committed,
or each of its rows can be read again and has a schedule that is accepted.
-/
theorem bulkCreatePipelines_all_or_nothing_iff
    : AllOrNothing accountId agentId connectionId tables backend
        (bulkCreatePipelines platform env faults backend accountId agentId connectionId tables)
      ↔ (faults.get = none
        → (∃ db, CommitsBulk env backend.db accountId agentId connectionId tables db)
        → (∀ number < tables.length, faults.refresh number = none)
          ∧ ∀ table ∈ tables, platform.fromCrontab table.schedule = .ok ()) := by
  by_cases committed : faults.get = none
      ∧ ∃ db, CommitsBulk env backend.db accountId agentId connectionId tables db
  · obtain ⟨readable, db, commits⟩ := committed
    obtain ⟨response, result, succeeds⟩ :=
      @bulkCreatePipelines_committed platform env faults backend accountId agentId connectionId
        tables db readable commits
    rw [refreshEach_requested_iff] at succeeds
    rw [result]
    constructor
    · intro whole _ _
      rw [← succeeds]
      by_contra failed
      have unchanged := (whole.1 (fun body ok => failed ⟨body, ok⟩)).1
      have rows := commits.appended
      rw [congrArg Table.rows unchanged] at rows
      have empty : tables = [] :=
        List.mapIdx_eq_nil_iff.mp (List.append_right_eq_self.mp rows.symm)
      apply failed
      rw [succeeds, empty]
      simp
    · intro condition
      have fulfilled := condition readable ⟨db, commits⟩
      constructor
      · intro refused
        obtain ⟨body, ok⟩ := succeeds.mpr fulfilled
        exact absurd ok (refused body)
      · intro _
        exact ⟨_, createsEach commits (refreshEach_requested_iff.mpr fulfilled)⟩
  · obtain ⟨response, result, refused⟩ :=
      @bulkCreatePipelines_refused platform env faults backend accountId agentId connectionId
        tables (fun readable db commits => committed ⟨readable, db, commits⟩)
    rw [result]
    constructor
    · intro _ readable commits
      exact absurd ⟨readable, commits⟩ committed
    · intro _
      constructor
      · intro _
        exact ⟨rfl, rfl⟩
      · intro ⟨body, ok⟩
        exact absurd ok (refused body)

end

namespace Sample

/-- Libraries that read one schedule. -/
def platform : Platform :=
  { Platform.written with
    fromCrontab := fun schedule =>
      if schedule = "0 * * * *" then .ok ()
      else .error ⟨.valueError, "Wrong number of fields; got 1, expected 5"⟩ }

/-- A request that meets no failure. -/
def env : RequestEnv :=
  {
    uuid := fun number => ⟨21 + Fin.ofNat _ number⟩
    now := default
    createdAt := default
    configure := fun _ _ => .ok ()
    testConnection := fun _ _ => .ok ()
  }

/-- A connection of account 2. -/
def connection : Connection :=
  {
    connectionId := ⟨11⟩
    accountId := ⟨2⟩
    name := "shop"
    source := "razorpay"
    secretRef := "connections/11"
    createdAt := default
  }

/-- Account 2 with its agent and its connection. -/
def backend : Backend :=
  ⟨⟨⟨[⟨⟨4⟩, ⟨2⟩⟩], List.nodup_singleton _⟩, ⟨[connection], List.nodup_singleton _⟩, .empty,
    .empty⟩, fun _ => none, .empty⟩

/-- Two tables, the second with a malformed schedule. -/
def tables : List PipelineTableConfig :=
  [⟨"razorpay_orders", "orders", "0 * * * *", []⟩,
    ⟨"razorpay_customers", "customers", "daily", []⟩]

/-- What a request for them leaves, with its response. -/
def result : Backend × Response :=
  bulkCreatePipelines platform env {} backend ⟨2⟩ ⟨4⟩ ⟨11⟩ tables

end Sample

/-- A malformed schedule ends the request in an error that leaves the rows of all its tables,
and the schedules of those before it.
-/
theorem malformed_schedule_leaves_rows
    : Sample.result.2
        = .serverError ⟨.valueError, "Wrong number of fields; got 1, expected 5"⟩
      ∧ Sample.result.1.db.pipelines.rows.map Pipeline.tableName = ["orders", "customers"]
      ∧ Sample.result.1.scheduler.get? ⟨21⟩ = some ⟨⟨21⟩, ⟨4⟩, "0 * * * *"⟩
      ∧ Sample.result.1.scheduler.get? ⟨22⟩ = none
      ∧ ¬ AllOrNothing ⟨2⟩ ⟨4⟩ ⟨11⟩ Sample.tables Sample.backend Sample.result := by
  refine ⟨rfl, rfl, rfl, rfl, ?_⟩
  intro whole
  have unchanged := (whole.1 (fun _ ok => nomatch ok)).1
  exact List.cons_ne_nil _ _ (congrArg Table.rows unchanged)

end Turbocat.Orchestrator.BulkCreation
