import Turbocat.Connectors.ClickHouseInserts
import Turbocat.System.Delivery

/-! The destination's table at the end of a run, whatever order the loads of concurrent jobs
came in and whichever of them failed: merged, it is the source.
-/

namespace Turbocat.System

open Turbocat.Library Turbocat.Python Turbocat.Connectors Turbocat.Orchestrator Turbocat.Agent

-----------------------------------------------------------------------------------------
-- Loads into one table
-----------------------------------------------------------------------------------------

/-- A load that a job made, with what went wrong in it for other reasons than its batch. -/
structure TableLoad where
  env : JobEnv
  job : JobPayload
  number : Nat
  batch : List Record
  faults : ClickHouse.LoadEnv

/-- A table after loads, in their order. -/
def loadTable (server : ClickHouse.Server) (schema : TableSchema)
    (table : Option ClickHouse.StoredTable) (loads : List TableLoad)
    : Option ClickHouse.StoredTable :=
  loads.foldl
    (fun table load => (ClickHouse.load server schema load.faults table load.batch).1) table

section

variable {server : ClickHouse.Server} {schema : TableSchema}

/-- Loads keep the definition that inserts find, by induction over the loads. -/
theorem tableDefinition_loadTable (table : Option ClickHouse.StoredTable)
    (loads : List TableLoad)
    : ClickHouse.tableDefinition schema (loadTable server schema table loads)
      = ClickHouse.tableDefinition schema table := by
  induction loads generalizing table with
  | nil => rfl
  | cons load rest ih => exact (ih _).trans (ClickHouse.tableDefinition_load table)

/-- The rows of a table after loads are what each of them has inserted. -/
theorem rowsOf_loadTable (table : Option ClickHouse.StoredTable) (loads : List TableLoad)
    : ClickHouse.rowsOf (loadTable server schema table loads)
      = ClickHouse.rowsOf table
        ++ loads.flatMap (fun load =>
            ClickHouse.inserted server schema load.faults
              (ClickHouse.tableDefinition schema table) load.batch) := by
  induction loads generalizing table with
  | nil => exact (List.append_nil _).symm
  | cons load rest ih =>
      have later := ih (ClickHouse.load server schema load.faults table load.batch).1
      rw [ClickHouse.rowsOf_load, ClickHouse.tableDefinition_load, List.append_assoc] at later
      exact later

end

-----------------------------------------------------------------------------------------
-- The loads of a pipeline
-----------------------------------------------------------------------------------------

section

variable (platform : Platform) (agents : Table Agent.agentId) (secrets : SecretStore)
  (events : List Event)

/-- Whether a run starts a job, in an environment. -/
def Started (env : JobEnv) (job : JobPayload) : Prop :=
  ∃ before number after middle,
    events = before ++ .work number env :: after
    ∧ run (step platform) (State.initial agents secrets) before = some middle
    ∧ middle.waiting[number]? = some job

/-- The batches that a job passes to `load`. -/
def batchesOf (env : JobEnv) (job : JobPayload)
    (connector : ConnectorClass × KaptureTickets.Config)
    : List (List Record) :=
  loadCalls connector.1.getSchema
    (connector.1.extract (extractEnv env connector) job.startTime job.endTime env.replies)
    env.load

/-- The loads that the jobs of a pipeline make into one table: each passes a batch of a job
that was started, perhaps of one that crashed later, and has the outcome that the job sees;
none of a job whose sync has returned is missing.
-/
structure LoadsOf (last : State) (pipelineId : UUID) (server : ClickHouse.Server)
    (schema : TableSchema) (loads : List TableLoad)
    : Prop where
  passed
    : ∀ load ∈ loads,
        Started platform agents secrets events load.env load.job
        ∧ load.job.pipelineId = pipelineId
        ∧ ∃ connector,
            buildSource platform.repr load.env load.job = .ok connector
            ∧ (batchesOf load.env load.job connector)[load.number]? = some load.batch
  seen
    : ∀ before load after,
        loads = before ++ load :: after
        → load.env.load load.number load.batch
          = (ClickHouse.load server schema load.faults (loadTable server schema none before)
              load.batch).2
  complete
    : ∀ env job connector run,
        Started platform agents secrets events env job
        → job.pipelineId = pipelineId
        → buildSource platform.repr env job = .ok connector
        → syncJob env job connector = some run
        → (job, run) ∈ last.log.syncs
        → ∀ number batch,
            (batchesOf env job connector)[number]? = some batch
            → ∃ load ∈ loads, load.env = env ∧ load.number = number ∧ load.batch = batch

/-- A row that stands for a record of the source, as a job of the run has transformed it. -/
def RowFor (server : ClickHouse.Server) (cls : ConnectorClass) (record : SourceRecord)
    (row : ClickHouse.Row)
    : Prop :=
  ∃ env job now extracted,
    Started platform agents secrets events env job
    ∧ cls.transform env.host now record.raw = .ok extracted
    ∧ ClickHouse.rowOf server cls.getSchema (ClickHouse.definition cls.getSchema) extracted
      = .ok row

end

section

variable {platform : Platform} {agents : Table Agent.agentId} {secrets : SecretStore}
  {events : List Event} {last : State} {source : Set SourceRecord}

/-- Every logged sync is one of a job that the run started. -/
theorem logged_started
    (ran : run (step platform) (State.initial agents secrets) events = some last)
    {job : JobPayload} {run : SyncRun} (logged : (job, run) ∈ last.log.syncs)
    : ∃ env connector,
        Started platform agents secrets events env job
        ∧ buildSource platform.repr env job = .ok connector
        ∧ syncJob env job connector = some run := by
  have starts
      : Along (step platform) (StartsIn (Started platform agents secrets events))
          (State.initial agents secrets) events := by
    refine along_iff_positions.mpr fun before event after middle whole ran => ?_
    cases event with
    | work number env => exact fun payload found => ⟨before, number, after, middle, whole, ran, found⟩
    | _ => trivial
  obtain ⟨env, connector, ⟨started, _⟩, built, returned⟩ := (run_worked starts ran).syncs _ logged
  exact ⟨env, connector, started, built, returned⟩

/-- The payload of a started job was built, with an end, from a pipeline that is stored. -/
theorem started_built
    (ran : run (step platform) (State.initial agents secrets) events = some last)
    {env : JobEnv} {job : JobPayload} (started : Started platform agents secrets events env job)
    : (∃ endTime, job.endTime = some endTime)
      ∧ ∃ row,
          last.db.pipelines.get? job.pipelineId = some row ∧ row.connector = job.connector := by
  obtain ⟨before, number, after, middle, rfl, reached, found⟩ := started
  obtain ⟨other, first, later⟩ := run_append_iff.mp ran
  cases reached.symm.trans first
  have waits := (run_provenance reached).waiting job (List.mem_of_getElem? found)
  obtain ⟨answer, answered, rfl⟩ := waits.mono (run_grows later)
  have provenance := run_provenance ran
  have built := provenance.answers answer answered
  obtain ⟨row, stored, connector, _⟩ := (provenance.built _ built).pipeline
  exact ⟨((run_gapFree ran).payloads _ built).2, row, stored, connector⟩

/-- A started job of a pipeline whose jobs meet a truthful source meets it. -/
theorem started_truthful {pipelineId : UUID}
    (meets
      : Along (step platform) (StartsIn (Meets platform pipelineId source))
          (State.initial agents secrets) events)
    (ran : run (step platform) (State.initial agents secrets) events = some last)
    {env : JobEnv} {job : JobPayload} (started : Started platform agents secrets events env job)
    (own : job.pipelineId = pipelineId) {connector : ConnectorClass × KaptureTickets.Config}
    (built : buildSource platform.repr env job = .ok connector)
    : ∃ endTime content,
        job.endTime = some endTime ∧ Truthful source env job connector endTime content := by
  obtain ⟨⟨endTime, ends⟩, _⟩ := started_built ran started
  obtain ⟨before, number, after, middle, whole, reached, found⟩ := started
  have met := along_iff_positions.mp meets before _ after middle whole reached job found
  obtain ⟨content, truthful⟩ := met own connector endTime built ends
  exact ⟨endTime, content, ends, truthful⟩

/-- The connector of a started job is the one its pipeline names. -/
theorem started_connector
    (ran : run (step platform) (State.initial agents secrets) events = some last)
    {pipeline : Pipeline} (stored : pipeline ∈ last.db.pipelines.rows) {cls : ConnectorClass}
    (names : lookup platform.repr pipeline.connector = .ok cls) {env : JobEnv}
    {job : JobPayload} (started : Started platform agents secrets events env job)
    (own : job.pipelineId = pipeline.pipelineId)
    {connector : ConnectorClass × KaptureTickets.Config}
    (built : buildSource platform.repr env job = .ok connector)
    : connector.1 = cls := by
  obtain ⟨_, row, found, same⟩ := started_built ran started
  rw [own, Table.get?_of_mem stored] at found
  cases found
  rw [same] at names
  obtain ⟨other, looked, rest⟩ := bind_eq_ok_iff.mp built
  cases names.symm.trans looked
  obtain ⟨config, _, rest⟩ := bind_eq_ok_iff.mp rest
  obtain ⟨_, _, made⟩ := bind_eq_ok_iff.mp rest
  cases made
  rfl

/-- Every row that the loads of a pipeline have inserted stands for a record of the source. -/
theorem LoadsOf.origin {pipeline : Pipeline} {cls : ConnectorClass}
    {server : ClickHouse.Server} {loads : List TableLoad}
    (performed
      : LoadsOf platform agents secrets events last pipeline.pipelineId server cls.getSchema
          loads)
    (meets
      : Along (step platform) (StartsIn (Meets platform pipeline.pipelineId source))
          (State.initial agents secrets) events)
    (ran : run (step platform) (State.initial agents secrets) events = some last)
    (stored : pipeline ∈ last.db.pipelines.rows)
    (names : lookup platform.repr pipeline.connector = .ok cls) {row : ClickHouse.Row}
    (member : row ∈ ClickHouse.rowsOf (loadTable server cls.getSchema none loads))
    : ∃ record ∈ source, RowFor platform agents secrets events server cls record row := by
  rw [rowsOf_loadTable] at member
  obtain ⟨load, among, inserted⟩ := List.mem_flatMap.mp member
  obtain ⟨extracted, inside, made⟩ := ClickHouse.mem_inserted inserted
  obtain ⟨started, own, connector, built, passed⟩ := performed.passed load among
  obtain ⟨endTime, content, ends, truthful⟩ := started_truthful meets ran started own built
  cases started_connector ran stored names started own built
  have yielded := (mem_loadCalls (List.mem_of_getElem? passed) inside).1
  rw [ends] at yielded
  obtain ⟨item, served, index, transformed⟩ :=
    (ConnectorClass.extract_yields truthful.answered).origin extracted yielded
  obtain ⟨record, held, rfl⟩ := List.mem_map.mp served
  exact ⟨record, truthful.shows_source.genuine record (ConnectorClass.mem_served_iff.mp held).1,
    load.env, load.job, _, extracted, started, transformed, made⟩

/-- A batch of a job whose load has returned is in the table. -/
theorem LoadsOf.inserted {pipelineId : UUID} {server : ClickHouse.Server} {schema : TableSchema}
    {loads : List TableLoad}
    (performed : LoadsOf platform agents secrets events last pipelineId server schema loads)
    {env : JobEnv} {number : Nat} {batch : List Record}
    (among : ∃ load ∈ loads, load.env = env ∧ load.number = number ∧ load.batch = batch)
    {loaded : Option Nat} (returned : env.load number batch = .ok loaded) {extracted : Record}
    (member : extracted ∈ batch)
    : ∃ row ∈ ClickHouse.rowsOf (loadTable server schema none loads),
        ClickHouse.rowOf server schema (ClickHouse.definition schema) extracted = .ok row := by
  obtain ⟨load, held, rfl, rfl, rfl⟩ := among
  obtain ⟨before, after, whole⟩ := List.append_of_mem held
  have done := (performed.seen before load after whole).symm.trans returned
  have rows := (ClickHouse.load_ok done).2
  rw [tableDefinition_loadTable] at rows
  obtain ⟨row, inside, made⟩ := mapM_of_mem rows member
  refine ⟨row, ?_, made⟩
  rw [rowsOf_loadTable]
  exact List.mem_append_right _ (List.mem_flatMap.mpr ⟨load, held, inside⟩)

/-- What the key column of a table stores for a record: its `id`. -/
def storedId (server : ClickHouse.Server) (record : SourceRecord)
    : Except PyException ClickHouse.Cell := do
  server.store "String" (.json (← record.raw.getItem "id"))

/-- The key of a row for a record is the record's. -/
theorem RowFor.key {server : ClickHouse.Server} {cls : ConnectorClass}
    (keyed : cls ≠ .kaptureTickets) {record : SourceRecord} {row : ClickHouse.Row}
    (standsFor : RowFor platform agents secrets events server cls record row)
    : ∃ cell, storedId server record = .ok cell ∧ ClickHouse.idOf row = some cell := by
  obtain ⟨env, job, now, extracted, _, transformed, made⟩ := standsFor
  obtain ⟨id, read, held⟩ := ConnectorClass.transform_id keyed transformed
  have listed : ∃ column ∈ cls.getSchema.columns, column.name = "id" := by
    cases cls with
    | kaptureTickets => exact absurd rfl keyed
    | razorpayOrders => exact ⟨_, List.mem_cons_self, rfl⟩
    | razorpayCustomers => exact ⟨_, List.mem_cons_self, rfl⟩
  have typed : (ClickHouse.definition cls.getSchema).columns.lookup "id" = some "String" := by
    cases cls with
    | kaptureTickets => exact absurd rfl keyed
    | razorpayOrders => rfl
    | razorpayCustomers => rfl
  obtain ⟨value, type, cell, looked, declared, stored, found⟩ :=
    ClickHouse.lookup_rowOf made listed
  cases held.symm.trans looked
  cases typed.symm.trans declared
  exact ⟨cell, bind_eq_ok_iff.mpr ⟨id, read, stored⟩, found⟩

/-- Merging a table for orders or customers keeps, of the rows of one id, the one extracted
last.
-/
theorem merged_loadTable {cls : ConnectorClass} (keyed : cls ≠ .kaptureTickets)
    (server : ClickHouse.Server) (loads : List TableLoad)
    : ClickHouse.merged (loadTable server cls.getSchema none loads)
      = survivor ClickHouse.idOf ClickHouse.extractedSecond
          (ClickHouse.rowsOf (loadTable server cls.getSchema none loads)) := by
  have stamped : ∃ column ∈ cls.getSchema.columns, column.name = "_extracted_at" := by
    cases cls with
    | kaptureTickets => exact absurd rfl keyed
    | razorpayOrders => exact ⟨⟨"_extracted_at", "datetime", true⟩, by decide, rfl⟩
    | razorpayCustomers => exact ⟨⟨"_extracted_at", "datetime", true⟩, by decide, rfl⟩
  apply ClickHouse.merged_replaces
  rw [tableDefinition_loadTable]
  exact ClickHouse.definition_replaces stamped

/-- Whether no two records of a source are stored under one id. -/
def Identified (server : ClickHouse.Server) (source : Set SourceRecord) : Prop :=
  ∀ left ∈ source, ∀ right ∈ source, ∀ cell,
    storedId server left = .ok cell → storedId server right = .ok cell → left = right

section

variable {pipeline : Pipeline} {cls : ConnectorClass} {server : ClickHouse.Server}
  {loads : List TableLoad}
  (meets
    : Along (step platform) (StartsIn (Meets platform pipeline.pipelineId source))
        (State.initial agents secrets) events)
  (ran : run (step platform) (State.initial agents secrets) events = some last)
  (stored : pipeline ∈ last.db.pipelines.rows)
  (names : lookup platform.repr pipeline.connector = .ok cls)
  (keyed : cls ≠ .kaptureTickets)
  (performed
    : LoadsOf platform agents secrets events last pipeline.pipelineId server cls.getSchema loads)

include meets ran stored names keyed performed

/-- A row of the merged table is kept under its own id and stands for a record. -/
theorem merged_origin {key : Option ClickHouse.Cell} {row : ClickHouse.Row}
    (kept : ClickHouse.merged (loadTable server cls.getSchema none loads) key = some row)
    : ClickHouse.idOf row = key
      ∧ ∃ record ∈ source, RowFor platform agents secrets events server cls record row := by
  rw [merged_loadTable keyed] at kept
  obtain ⟨member, own⟩ := mem_of_survivor kept
  exact ⟨own, performed.origin meets ran stored names member⟩

/-- A record with a row in the table has exactly one in the merged table. -/
theorem merged_unique (identified : Identified server source) {record : SourceRecord}
    (member : record ∈ source) {row : ClickHouse.Row}
    (inserted : row ∈ ClickHouse.rowsOf (loadTable server cls.getSchema none loads))
    (standsFor : RowFor platform agents secrets events server cls record row)
    : ∃! entry : Option ClickHouse.Cell × ClickHouse.Row,
        ClickHouse.merged (loadTable server cls.getSchema none loads) entry.1 = some entry.2
        ∧ RowFor platform agents secrets events server cls record entry.2 := by
  obtain ⟨cell, ownId, ownKey⟩ := standsFor.key keyed
  obtain ⟨kept, keeps, _⟩ := @le_survivor _ _ _ _ _ ClickHouse.idOf ClickHouse.extractedSecond
    _ _ inserted
  rw [ownKey, ← merged_loadTable keyed] at keeps
  -- The row that is kept under the key stands for a record with the same id, so for this one.
  obtain ⟨keptKey, other, otherMember, again⟩ :=
    merged_origin meets ran stored names keyed performed keeps
  obtain ⟨otherCell, otherId, otherKey⟩ := again.key keyed
  cases otherKey.symm.trans keptKey
  cases identified record member other otherMember cell ownId otherId
  refine ⟨(some cell, kept), ⟨keeps, again⟩, fun entry held => ?_⟩
  obtain ⟨holds, entryFor⟩ := held
  obtain ⟨_, entryId, entryKey⟩ := entryFor.key keyed
  cases ownId.symm.trans entryId
  have under := (merged_origin meets ran stored names keyed performed holds).1
  rw [← under, entryKey, keeps, Option.some.injEq] at holds
  exact Prod.ext (under.symm.trans entryKey) holds.symm

end

/-- In every run whose jobs of a pipeline for orders or customers meet a truthful source with
one record for each id, the table that their loads fill, merged, has no row but those of the
source's records and exactly one for each record created up to the pipeline's cursor that
has all required columns. The loads come in any order and may fail, and the pipeline's
lookback is not negative.
-/
theorem destination_mirrors_source {pipeline : Pipeline} {cls : ConnectorClass}
    {server : ClickHouse.Server} {loads : List TableLoad}
    (meets
      : Along (step platform) (StartsIn (Meets platform pipeline.pipelineId source))
          (State.initial agents secrets) events)
    (ran : run (step platform) (State.initial agents secrets) events = some last)
    (stored : pipeline ∈ last.db.pipelines.rows)
    (nonneg : NonNegativeDays pipeline.lookbackDays) {cursor : Datetime}
    (reads
      : fromisoformat platform (Json.getOrNone pipeline.pipelineState "last_sync_at")
        = .ok cursor)
    (names : lookup platform.repr pipeline.connector = .ok cls)
    (keyed : cls ≠ .kaptureTickets) (identified : Identified server source)
    (performed
      : LoadsOf platform agents secrets events last pipeline.pipelineId server cls.getSchema
          loads)
    : let merged := ClickHouse.merged (loadTable server cls.getSchema none loads)
      (∀ key row,
        merged key = some row
        → ∃ record ∈ source, RowFor platform agents secrets events server cls record row)
      ∧ ∀ record ∈ source, record.created.us ≤ cursor.us →
          ∃ (env : JobEnv) (now : Datetime) (extracted : Record),
            cls.transform env.host now record.raw = .ok extracted
            ∧ (validate cls.getSchema extracted = true →
                ∃! entry : Option ClickHouse.Cell × ClickHouse.Row,
                  merged entry.1 = some entry.2
                  ∧ RowFor platform agents secrets events server cls record entry.2) := by
  intro merged
  refine ⟨fun key row kept =>
    (merged_origin meets ran stored names keyed performed kept).2, fun record member before => ?_⟩
  obtain ⟨job, run, logged, own, success, inside⟩ := synced_window ran stored nonneg reads before
  obtain ⟨env, connector, started, built, returned⟩ := logged_started ran logged
  obtain ⟨endTime, content, ends, truthful⟩ := started_truthful meets ran started own built
  cases started_connector ran stored names started own built
  obtain ⟨extracted, ⟨reading, transformed⟩, loaded⟩ :=
    truthful.loaded_row ends returned success member (inside endTime ends)
  refine ⟨env, _, extracted, transformed, fun accepted => ?_⟩
  obtain ⟨number, batch, found, among, count, done⟩ := loaded accepted
  rw [(sync_batches returned).2 success] at found
  have performs :=
    performed.complete env job connector run started own built returned logged number batch found
  obtain ⟨row, inserted, made⟩ := performed.inserted performs done among
  exact merged_unique meets ran stored names keyed performed identified member inserted
    ⟨env, job, _, extracted, started, transformed, made⟩

end

namespace Sample

/-- A destination on the plain server. -/
def plainLoad : Load :=
  ClickHouse.outcomes .plain RazorpayCustomers.getSchema (fun _ => {}) none

/-- The environment of a job that meets the shop and loads into that destination. -/
def shopEnv : JobEnv := { jobEnv with replies := [.ok customerReply], load := plainLoad }

/-- The first sync of a pipeline for customers, into that destination. -/
def firstLoad : List Event :=
  firstDelivery.take 9 ++ [.work 0 shopEnv, .act 0, .act 0, .act 0, .process 0 (time 12)]

/-- The job of that sync. -/
def firstJob : JobPayload :=
  {
    jobId := ⟨31⟩
    pipelineId := ⟨21⟩
    connector := "razorpay_customers"
    params := []
    credentials := [("api_key", .str "key")]
    startTime := none
    endTime := some (time 10)
    state := []
  }

/-- The one batch it loads. -/
def firstBatch : List Record :=
  recordsOf (RazorpayCustomers.extract Host.utc jobEnv.clock [.ok customerReply]).events

end Sample

/-- The jobs of the sample meet its source. -/
theorem firstLoad_meets
    : Along (step Platform.written)
        (StartsIn (Meets Platform.written ⟨21⟩ {Sample.customer}))
        (State.initial Sample.agents Sample.secrets) Sample.firstLoad := by
  iterate 9 refine Along.cons trivial rfl ?_
  refine Along.cons ?_ rfl ?_
  · intro payload found own connector endTime built ends
    cases found
    cases built
    exact ⟨Sample.shop, shop_truthful _ _ _ endTime⟩
  · iterate 4 refine Along.cons trivial rfl ?_
    trivial

/-- Only one job is started in the sample. -/
theorem firstLoad_started {env : JobEnv} {job : JobPayload}
    (started
      : Started Platform.written Sample.agents Sample.secrets Sample.firstLoad env job)
    : env = Sample.shopEnv := by
  obtain ⟨before, number, after, middle, whole, _, _⟩ := started
  have member : Event.work number env ∈ Sample.firstLoad := by
    rw [whole]
    exact List.mem_append_right _ List.mem_cons_self
  simp [Sample.firstLoad, Sample.firstDelivery, Sample.save, Sample.poll] at member
  exact member.2

/-- The one load of the sample fills the table with the customer of its source. -/
theorem destination_mirrors_source_first
    : ∃ last,
        run (step Platform.written) (State.initial Sample.agents Sample.secrets) Sample.firstLoad
          = some last
        ∧ let merged :=
            ClickHouse.merged
              (loadTable .plain RazorpayCustomers.getSchema none
                [⟨Sample.shopEnv, Sample.firstJob, 0, Sample.firstBatch, {}⟩])
          ∃ (env : JobEnv) (now : Datetime) (extracted : Record),
            RazorpayCustomers.transform env.host now Sample.customer.raw = .ok extracted
            ∧ (validate RazorpayCustomers.getSchema extracted = true →
                ∃! entry : Option ClickHouse.Cell × ClickHouse.Row,
                  merged entry.1 = some entry.2
                  ∧ RowFor Platform.written Sample.agents Sample.secrets Sample.firstLoad .plain
                      .razorpayCustomers Sample.customer entry.2) := by
  refine ⟨_, rfl, ?_⟩
  refine (@destination_mirrors_source Platform.written Sample.agents Sample.secrets
    Sample.firstLoad _ {Sample.customer} _ .razorpayCustomers .plain _ firstLoad_meets rfl
    List.mem_cons_self (by decide) (Sample.time 10) rfl rfl (by decide) ?_ ?_).2
    Sample.customer rfl (by decide)
  · intro left leftMember right rightMember _ _ _
    exact leftMember.trans rightMember.symm
  · refine ⟨?_, ?_, ?_⟩
    · intro load member
      cases List.mem_singleton.mp member
      exact ⟨⟨Sample.firstLoad.take 9, 0, _, _, rfl, rfl, rfl⟩, rfl, (.razorpayCustomers, {}), rfl,
        rfl⟩
    · intro before load after whole
      rcases List.singleton_eq_append_iff.mp whole with ⟨rfl, same⟩ | ⟨_, none_⟩
      · cases same
        rfl
      · cases none_
    · intro env job connector run started own built returned logged number batch found
      cases firstLoad_started started
      cases List.mem_singleton.mp logged
      cases built
      cases number with
      | zero =>
          cases found
          exact ⟨_, List.mem_singleton_self _, rfl, rfl, rfl⟩
      | succ number => cases found

end Turbocat.System
