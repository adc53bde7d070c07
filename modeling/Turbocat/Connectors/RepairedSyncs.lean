import Turbocat.Connectors.AnsweredExtracts
import Turbocat.Connectors.SyncBatches
import Turbocat.Connectors.ClickHouseInserts

/-! Repeated syncs of one source into one table. What failed attempts have stored is
superseded, row by row, by what a later attempt over their windows stores.
-/

namespace Turbocat.Connectors

open Turbocat.Library Turbocat.Python

/-- The window of a sync; a missing bound is no bound. -/
structure Window where
  startTime : Option Datetime
  endTime : Option Datetime

/-- Whether a window reaches as far as another at both ends. -/
structure Window.Contains (outer inner : Window) : Prop where
  start : ∀ start ∈ outer.startTime, ∃ later ∈ inner.startTime, start.us ≤ later.us
  stop : ∀ stop ∈ outer.endTime, ∃ earlier ∈ inner.endTime, earlier.us ≤ stop.us

/-- One sync: its arguments, the clock it reads, the replies to its requests, and the
faults of its loads.
-/
structure Attempt where
  window : Window
  state : Option Dict
  batchSize : Nat
  now : Datetime
  clock : Nat → Datetime
  replies : List Reply
  loads : Nat → ClickHouse.LoadEnv

/-- What all attempts share: the connector on its host, its source, and the server, with
the schema of the table they load into.
-/
structure Setting where
  cls : ConnectorClass
  host : Host
  config : KaptureTickets.Config
  content : SourceContent
  server : ClickHouse.Server
  schema : TableSchema

namespace Setting

/-- What the generator of an attempt does. -/
def extracted (setting : Setting) (attempt : Attempt) : ExtractRun :=
  setting.cls.extract ⟨setting.host, setting.config, attempt.now, attempt.clock⟩
    attempt.window.startTime attempt.window.endTime attempt.replies

/-- The outcomes of an attempt's loads. -/
def outcomes (setting : Setting) (attempt : Attempt)
    (table : Option ClickHouse.StoredTable)
    : Load :=
  ClickHouse.outcomes setting.server setting.schema attempt.loads table

/-- What `sync` returns in an attempt. -/
def sync (setting : Setting) (attempt : Attempt)
    (table : Option ClickHouse.StoredTable)
    : Option SyncRun :=
  Connectors.sync setting.schema (setting.extracted attempt)
    (setting.outcomes attempt table) attempt.window.endTime attempt.state
    attempt.batchSize

/-- The batches an attempt passes to `load`. -/
def calls (setting : Setting) (attempt : Attempt)
    (table : Option ClickHouse.StoredTable)
    : List (List Record) :=
  loadCalls setting.schema (setting.extracted attempt)
    (setting.outcomes attempt table) attempt.batchSize

/-- The table after an attempt. -/
def after (setting : Setting) (table : Option ClickHouse.StoredTable)
    (attempt : Attempt)
    : Option ClickHouse.StoredTable :=
  ClickHouse.loadAll setting.server setting.schema attempt.loads 0 table
    (setting.calls attempt table)

/-- The table after several attempts. -/
def afterAll (setting : Setting) (table : Option ClickHouse.StoredTable)
    (attempts : List Attempt)
    : Option ClickHouse.StoredTable :=
  attempts.foldl setting.after table

/-- Every decoded reply to an attempt is the source's. -/
def Answered (setting : Setting) (attempt : Attempt) : Prop :=
  (setting.extracted attempt).AnsweredBy (setting.cls.serve setting.content) attempt.replies

end Setting

/-- The orders a window lists are listed by every window that contains it. -/
theorem createdBetween_mono {outer inner : Window} (contains : outer.Contains inner)
    {record : SourceRecord}
    (listed
      : createdBetween (RazorpayOrders.params inner.startTime inner.endTime 0) record = true)
    : createdBetween (RazorpayOrders.params outer.startTime outer.endTime 0) record = true := by
  obtain ⟨starts, stops⟩ := contains
  simp only [createdBetween, intParam, RazorpayOrders.params_from, RazorpayOrders.params_to,
    Bool.and_eq_true] at listed ⊢
  obtain ⟨lower, upper⟩ := listed
  constructor
  · cases outerStart : outer.startTime with
    | none => rfl
    | some start =>
        obtain ⟨later, inside, le⟩ := starts start outerStart
        rw [Option.mem_def.mp inside] at lower
        simp only [Option.map_some, Option.all_some, decide_eq_true_eq] at lower ⊢
        exact le_trans (Datetime.intTimestamp_mono le) lower
  · cases outerStop : outer.endTime with
    | none => rfl
    | some stop =>
        obtain ⟨earlier, inside, le⟩ := stops stop outerStop
        rw [Option.mem_def.mp inside] at upper
        simp only [Option.map_some, Option.all_some, decide_eq_true_eq] at upper ⊢
        exact le_trans upper (Datetime.intTimestamp_mono le)

/-- A record that stands for the same item under a later stamp, and is accepted as well. -/
structure Supersedes (schema : TableSchema) (left right : Record) (earlier later : Datetime)
    : Prop where
  accepted : validate schema right = true
  restamped : Restamped earlier later left right

/-- A run over more items, when it returns, supersedes every accepted record of another. -/
theorem Yields.supersedes {schema : TableSchema} {transform : Transform}
    (stamps : transform.Stamps) {earlierClock laterClock : Nat → Datetime}
    {fewer more : List Json} {earlier later : ExtractRun}
    (first : Yields transform earlierClock fewer earlier)
    (second : Yields transform laterClock more later) (subset : ∀ item ∈ fewer, item ∈ more)
    (returned : later.outcome = .returned) {left : Record}
    (yielded : left ∈ recordsOf earlier.events) (accepted : validate schema left = true)
    : ∃ right ∈ recordsOf later.events, ∃ m n,
        Supersedes schema left right (earlierClock m) (laterClock n) := by
  obtain ⟨item, among, m, made⟩ := first.origin left yielded
  obtain ⟨right, inside, n, again⟩ := second.complete returned item (subset item among)
  have restamped := stamps item _ _ _ _ made again
  exact ⟨right, inside, m, n, validate_restamped restamped accepted, restamped⟩

namespace Setting

variable {setting : Setting}

/-- A record without an `id` is accepted by no schema that requires one. -/
theorem rejected_without_id (required : "id" ∈ setting.schema.requiredColumnNames)
    {record : Record} (absent : record.lookup "id" = none)
    : validate setting.schema record ≠ true := by
  intro accepted
  have present := List.all_eq_true.mp accepted "id" required
  rw [absent] at present
  cases present

/-- Every accepted record of an attempt is superseded by one of a later attempt that
returned over a containing window.
-/
theorem attempt_superseded (required : "id" ∈ setting.schema.requiredColumnNames)
    {earlier last : Attempt} (earlierAnswered : setting.Answered earlier)
    (lastAnswered : setting.Answered last) (contains : last.window.Contains earlier.window)
    (returned : (setting.extracted last).outcome = .returned) {left : Record}
    (yielded : left ∈ recordsOf (setting.extracted earlier).events)
    (accepted : validate setting.schema left = true)
    : ∃ right ∈ recordsOf (setting.extracted last).events, ∃ m n,
        Supersedes setting.schema left right (earlier.clock m) (last.clock n) := by
  obtain ⟨cls, host, config, content, server, schema⟩ := setting
  cases cls with
  | razorpayOrders =>
      have first := offsetPages_yields
        (ConnectorClass.orders_servesPages content earlier.window.startTime earlier.window.endTime)
        earlierAnswered
      have second := offsetPages_yields
        (ConnectorClass.orders_servesPages content last.window.startTime last.window.endTime)
        lastAnswered
      refine first.supersedes (RazorpayOrders.transform_stamps host) second ?_ returned yielded
        accepted
      intro item member
      obtain ⟨record, among, same⟩ := List.mem_map.mp member
      obtain ⟨held, listed⟩ := List.mem_filter.mp among
      exact List.mem_map.mpr
        ⟨record, List.mem_filter.mpr ⟨held, createdBetween_mono contains listed⟩, same⟩
  | razorpayCustomers =>
      have first := offsetPages_yields (ConnectorClass.customers_servesPages content) earlierAnswered
      have second := offsetPages_yields (ConnectorClass.customers_servesPages content) lastAnswered
      exact first.supersedes (RazorpayCustomers.transform_stamps host) second
        (fun _ member => member) returned yielded accepted
  | kaptureTickets =>
      obtain ⟨now, item, made⟩ := KaptureTickets.days_origin yielded
      exact absurd accepted
        (rejected_without_id required (KaptureTickets.transform_no_id made))

/-- The rows an attempt inserts into a table. -/
def rows (setting : Setting) (attempt : Attempt) (table : Option ClickHouse.StoredTable)
    : List ClickHouse.Row :=
  ClickHouse.insertedAll setting.server setting.schema attempt.loads
    (ClickHouse.tableDefinition setting.schema table) 0 (setting.calls attempt table)

theorem rowsOf_after (table : Option ClickHouse.StoredTable) (attempt : Attempt)
    : ClickHouse.rowsOf (setting.after table attempt)
      = ClickHouse.rowsOf table ++ setting.rows attempt table :=
  ClickHouse.rowsOf_loadAll 0 table (setting.calls attempt table)

theorem tableDefinition_after (table : Option ClickHouse.StoredTable) (attempt : Attempt)
    : ClickHouse.tableDefinition setting.schema (setting.after table attempt)
      = ClickHouse.tableDefinition setting.schema table :=
  ClickHouse.tableDefinition_loadAll 0 table (setting.calls attempt table)

section

variable {table other : Option ClickHouse.StoredTable}
  (same
    : ClickHouse.tableDefinition setting.schema table
      = ClickHouse.tableDefinition setting.schema other)

include same

/-- A sync returns the same result on two tables of one definition. -/
theorem sync_congr (attempt : Attempt)
    : setting.sync attempt table = setting.sync attempt other := by
  rw [sync, sync, outcomes, outcomes, ClickHouse.outcomes_congr same]

/-- It inserts the same rows into both. -/
theorem rows_congr (attempt : Attempt)
    : setting.rows attempt table = setting.rows attempt other := by
  rw [rows, rows, calls, calls, outcomes, outcomes, ClickHouse.outcomes_congr same, same]

end

theorem tableDefinition_afterAll (table : Option ClickHouse.StoredTable)
    (attempts : List Attempt)
    : ClickHouse.tableDefinition setting.schema (setting.afterAll table attempts)
      = ClickHouse.tableDefinition setting.schema table := by
  induction attempts generalizing table with
  | nil => rfl
  | cons attempt rest ih => exact (ih _).trans (tableDefinition_after table attempt)

/-- Several attempts append the rows of each, by induction over the attempts. -/
theorem rowsOf_afterAll (table : Option ClickHouse.StoredTable) (attempts : List Attempt)
    : ClickHouse.rowsOf (setting.afterAll table attempts)
      = ClickHouse.rowsOf table
        ++ attempts.flatMap (fun attempt => setting.rows attempt table) := by
  induction attempts generalizing table with
  | nil => exact (List.append_nil _).symm
  | cons attempt rest ih =>
      have later
          : rest.flatMap (fun attempt_1 => setting.rows attempt_1 (setting.after table attempt))
            = rest.flatMap (fun attempt => setting.rows attempt table) := by
        refine congrArg (fun rows => rest.flatMap rows) (funext fun attempt => ?_)
        exact rows_congr (tableDefinition_after table _) attempt
      rw [List.flatMap_cons, ← List.append_assoc, ← rowsOf_after, ← later]
      exact ih (setting.after table attempt)

/-- Each row of an attempt is superseded by a row of a later attempt that succeeded over a
containing window.
-/
theorem rows_superseded
    (required
      : "id" ∈ setting.schema.requiredColumnNames
        ∧ "_extracted_at" ∈ setting.schema.requiredColumnNames)
    {earlier last : Attempt} (earlierAnswered : setting.Answered earlier)
    (lastAnswered : setting.Answered last) (contains : last.window.Contains earlier.window)
    (ordered : ∀ m n, (earlier.clock m).us ≤ (last.clock n).us)
    {table : Option ClickHouse.StoredTable} {done : SyncRun}
    (synced : setting.sync last table = some done) (success : done.result.status = .success)
    {row : ClickHouse.Row} (member : row ∈ setting.rows earlier table)
    : ∃ newer ∈ setting.rows last table,
        ClickHouse.idOf newer = ClickHouse.idOf row
        ∧ ClickHouse.extractedSecond row ≤ ClickHouse.extractedSecond newer := by
  obtain ⟨batch, called, left, among, made⟩ := ClickHouse.mem_insertedAll member
  obtain ⟨yielded, accepted⟩ := mem_loadCalls called among
  obtain ⟨returned, _, _⟩ := sync_success synced success
  obtain ⟨right, inside, m, n, supersedes⟩ := attempt_superseded required.1 earlierAnswered
    lastAnswered contains returned yielded accepted
  obtain ⟨stream, loaded⟩ := sync_success_loads synced success
  have taken : right ∈ (setting.calls last table).flatten := by
    have kept := List.mem_filter.mpr ⟨inside, supersedes.accepted⟩
    rw [← stream] at kept
    exact kept
  obtain ⟨newBatch, newCalled, newAmong⟩ := List.mem_flatten.mp taken
  obtain ⟨newer, stored, newMade⟩ := @ClickHouse.insertedAll_complete setting.server
    setting.schema last.loads table 0 (setting.calls last table)
    (fun index batch found => by
      rw [Nat.zero_add]
      exact loaded index batch found)
    newBatch newCalled right newAmong
  have restamped := supersedes.restamped
  have stampColumn := ClickHouse.column_of_required required.2
  refine ⟨newer, stored, ?_, ?_⟩
  · exact ClickHouse.idOf_rowOf required.1 (restamped.fields "id" (by decide)) made newMade
  · rw [ClickHouse.extractedSecond_rowOf stampColumn restamped.stamped made,
      ClickHouse.extractedSecond_rowOf stampColumn restamped.restamped newMade]
    exact ClickHouse.wholeSecond_le (ordered m n)

end Setting

/-- The clock does not go back from one attempt to another. -/
def Attempt.Before (earlier later : Attempt) : Prop :=
  ∀ m n, (earlier.clock m).us ≤ (later.clock n).us

/-- A sync that succeeds leaves the merged table as if the syncs before it, over windows that
its own contains, had never run, however they ended.
-/
theorem failed_syncs_repaired {setting : Setting} {attempts : List Attempt} {last : Attempt}
    {initial : Option ClickHouse.StoredTable} {done : SyncRun}
    (required
      : "id" ∈ setting.schema.requiredColumnNames
        ∧ "_extracted_at" ∈ setting.schema.requiredColumnNames)
    (replaces : ∀ stored ∈ initial, stored.definition.Replaces)
    (answered : ∀ attempt ∈ attempts ++ [last], setting.Answered attempt)
    (ordered : (attempts ++ [last]).Pairwise Attempt.Before)
    (contains : ∀ earlier ∈ attempts, last.window.Contains earlier.window)
    (synced : setting.sync last (setting.afterAll initial attempts) = some done)
    (success : done.result.status = .success)
    : ClickHouse.merged (setting.afterAll initial (attempts ++ [last]))
      = ClickHouse.merged (setting.after initial last) := by
  have kind := ClickHouse.tableDefinition_replaces
    (ClickHouse.column_of_required required.2) replaces
  have together
      : (ClickHouse.tableDefinition setting.schema
          (setting.afterAll initial (attempts ++ [last]))).Replaces := by
    rw [Setting.tableDefinition_afterAll]
    exact kind
  have alone
      : (ClickHouse.tableDefinition setting.schema (setting.after initial last)).Replaces := by
    rw [Setting.tableDefinition_after]
    exact kind
  rw [ClickHouse.merged_replaces together, ClickHouse.merged_replaces alone,
    Setting.rowsOf_afterAll, Setting.rowsOf_after, List.flatMap_append, List.flatMap_singleton,
    ← List.append_assoc]
  apply survivor_superseded
  intro row member
  obtain ⟨earlier, among, stored⟩ := List.mem_flatMap.mp member
  have before := (List.pairwise_append.mp ordered).2.2 earlier among last List.mem_cons_self
  rw [Setting.sync_congr (Setting.tableDefinition_afterAll initial attempts) last] at synced
  exact Setting.rows_superseded required
    (answered earlier (List.mem_append_left _ among))
    (answered last (List.mem_append_right _ List.mem_cons_self)) (contains earlier among) before
    synced success stored

namespace Sample

/-- A customer without contact. -/
def customer (id : String) : SourceRecord :=
  {
    created := default
    whole := rfl
    raw := .dict [("id", .str id), ("contact", .null), ("created_at", .int 0)]
  }

theorem customers_distinct
    : (["c1", "c2"].map (fun id => (customer id).raw)).Nodup := by
  refine List.nodup_cons.mpr ⟨fun among => ?_, List.nodup_singleton _⟩
  have same := List.mem_singleton.mp among
  simp [customer] at same

/-- Two customers, extracted as they are. -/
def customers : Setting :=
  {
    cls := .razorpayCustomers
    host := Host.utc
    config := {}
    content := ⟨["c1", "c2"].map customer, customers_distinct⟩
    server := .plain
    schema := RazorpayCustomers.getSchema
  }

/-- A sync that gets its page and whose second load fails. -/
def failing : Attempt :=
  {
    window := ⟨none, none⟩
    state := none
    batchSize := 1
    now := default
    clock := fun _ => default
    replies := [.ok (collectionPage customers.content.records (RazorpayCustomers.params 0))]
    loads := fun number =>
      if number = 1 then ⟨none, some (⟨.other "ServerException", "timeout"⟩, fun _ => false)⟩
      else {}
  }

/-- The same sync without the failure. -/
def succeeding : Attempt := { failing with batchSize := 1000, loads := fun _ => {} }

/-- Their one request was answered by the source. -/
theorem customers_answered
    : ∀ attempt ∈ [failing, succeeding], customers.Answered attempt := by
  intro attempt member
  have only
      : (requestsOf (customers.extracted attempt).events).zip attempt.replies
        = [(RazorpayCustomers.request 0,
            .ok (collectionPage customers.content.records (RazorpayCustomers.params 0)))] := by
    rcases List.mem_cons.mp member with rfl | last
    · rfl
    · rw [List.mem_singleton.mp last]
      rfl
  intro exchange among data decoded
  rw [only] at among
  rw [List.mem_singleton.mp among] at decoded ⊢
  cases decoded
  rfl

end Sample

/-- A first sync that fails at its second batch, and one that succeeds. -/
theorem failed_syncs_repaired_two
    : (Sample.customers.sync Sample.failing none).map (fun run => run.result.status)
        = some .error
      ∧ ClickHouse.merged (Sample.customers.afterAll none [Sample.failing, Sample.succeeding])
        = ClickHouse.merged (Sample.customers.after none Sample.succeeding) := by
  refine ⟨rfl, ?_⟩
  have anyway : Sample.succeeding.window.Contains Sample.failing.window :=
    ⟨fun _ absent => (nomatch absent), fun _ absent => (nomatch absent)⟩
  refine @failed_syncs_repaired Sample.customers [Sample.failing] Sample.succeeding none _
    (by decide) (fun _ absent => by cases absent) Sample.customers_answered ?_ ?_ rfl rfl
  · exact List.pairwise_pair.mpr fun _ _ => le_refl _
  · intro earlier member
    rw [List.mem_singleton.mp member]
    exact anyway

end Turbocat.Connectors
