import Turbocat.Connectors.Sync
import Turbocat.Library.Replacing

/-! `ClickHouseDestination`: the table a schema is created as, the rows a batch becomes and
the table after merging. What the driver and the server make of a value is theirs; they
store a datetime as whole seconds.
-/

namespace Turbocat.Connectors.ClickHouse

open Turbocat.Library Turbocat.Python

/-- `_map_type`. -/
def mapType (type : String) : String :=
  match type with
  | "string" => "String"
  | "integer" => "Int64"
  | "float" => "Float64"
  | "boolean" => "UInt8"
  | "datetime" => "DateTime"
  | "json" => "String"
  | _ => "String"

/-- The type of a column; those not required are nullable. -/
def columnType (column : ColumnSchema) : String :=
  if column.required then mapType column.type
  else "Nullable(" ++ mapType column.type ++ ")"

/-- What a table is created with: its columns, the version column of its
`ReplacingMergeTree` and the column it is ordered by.
-/
structure TableDefinition where
  columns : List (String × String)
  version : Option String
  orderBy : String
  deriving DecidableEq, Repr

/-- The definition `_ensure_table_exists` creates a table with. -/
def definition (schema : TableSchema) : TableDefinition :=
  {
    columns := schema.columns.map (fun column => (column.name, columnType column))
    version :=
      (schema.columns.find? (fun column => column.name = "_extracted_at")).map
        (fun column => column.name)
    orderBy := "id"
  }

/-- The statement that creates a table with a definition. -/
def TableDefinition.createSql (tableName : String) (definition : TableDefinition) : String :=
  let columnDefs := definition.columns.map (fun column => "`" ++ column.1 ++ "` " ++ column.2)
  let engine := "ReplacingMergeTree(" ++ definition.version.getD "" ++ ")"
  "CREATE TABLE IF NOT EXISTS " ++ tableName ++ " (" ++ ", ".intercalate columnDefs
    ++ ") ENGINE = " ++ engine ++ " ORDER BY (" ++ definition.orderBy ++ ")"

/-- The statement that inserts a batch. -/
def insertSql (schema : TableSchema) : String :=
  "INSERT INTO " ++ schema.tableName ++ " ("
    ++ ", ".intercalate (schema.columns.map (fun column => column.name)) ++ ") VALUES"

/-- A stored value. -/
inductive Cell where
  | null
  | text (text : String)
  | integer (value : Int)
  | float (value : PyFloat)
  | dateTime (seconds : Int)
  deriving DecidableEq, Repr

/-- The whole second a datetime lies in. -/
def wholeSecond (time : Datetime) : Int := time.us / second

theorem wholeSecond_le {earlier later : Datetime} (le : earlier.us ≤ later.us)
    : wholeSecond earlier ≤ wholeSecond later :=
  Int.ediv_le_ediv (by decide) le

/-- The driver and the server: what a column of a type stores for a value, or the exception
the insert raises. A datetime is stored as whole seconds or not at all.
-/
structure Server where
  store : String → Value → Except PyException Cell
  noSuchColumn : String → PyException
  wholeSeconds
    : ∀ type time cell,
        store type (.datetime (.aware time)) = .ok cell
        → cell = .dateTime (wholeSecond time)

/-- A server that stores every value as it is. -/
def Server.plain : Server where
  store _ value :=
    match value with
    | .json .null => .ok .null
    | .json (.str text) => .ok (.text text)
    | .json (.int value) => .ok (.integer value)
    | .json (.float value) => .ok (.float value)
    | .datetime (.naive wall) => .ok (.dateTime (wall / second))
    | .datetime (.aware time) => .ok (.dateTime (wholeSecond time))
    | .json _ => .error ⟨.other "TypeMismatchError", "Type mismatch in VALUES section"⟩
  noSuchColumn name := ⟨.other "ServerException", "No such column " ++ name⟩
  wholeSeconds := by
    intro type time cell stored
    cases stored
    rfl

/-- The inserted cells of a row, with the names of their columns. -/
abbrev Row := List (String × Cell)

structure StoredTable where
  definition : TableDefinition
  rows : List Row

/-- The rows of a table, none before it is created. -/
def rowsOf (table : Option StoredTable) : List Row := (table.map StoredTable.rows).getD []

/-- `CREATE TABLE IF NOT EXISTS`. -/
def ensureTableExists (schema : TableSchema) (table : Option StoredTable) : StoredTable :=
  table.getD ⟨definition schema, []⟩

/-- The definition inserts into a table find: its own, or the schema's. -/
def tableDefinition (schema : TableSchema) (table : Option StoredTable) : TableDefinition :=
  (ensureTableExists schema table).definition

/-- The table with more rows. -/
def StoredTable.appended (table : StoredTable) (rows : List Row) : StoredTable :=
  { table with rows := table.rows ++ rows }

/-- `tuple(record[col_name] for col_name in column_names)`. -/
def tupleOf (schema : TableSchema) (record : Record) : Except PyException (List Value) :=
  schema.columns.mapM (fun column =>
    match record.lookup column.name with
    | none => .error (.missingKey column.name)
    | some value => .ok value)

/-- A value as the column of that name stores it. -/
def Server.storeCell (server : Server) (definition : TableDefinition) (name : String)
    (value : Value)
    : Except PyException (String × Cell) :=
  match definition.columns.lookup name with
  | none => .error (server.noSuchColumn name)
  | some type => (server.store type value).map (fun cell => (name, cell))

/-- A tuple as the columns of a table store it. -/
def Server.storeRow (server : Server) (schema : TableSchema) (definition : TableDefinition)
    (values : List Value)
    : Except PyException Row :=
  (schema.columns.zip values).mapM (fun entry =>
    server.storeCell definition entry.1.name entry.2)

/-- Where a load fails for a reason outside its records: creating the table, done or not, or
inserting the batch, of which any rows may have been stored.
-/
structure LoadEnv where
  createFault : Option (PyException × Bool) := none
  insertFault : Option (PyException × (Nat → Bool)) := none

/-- The rows of the tuples at certain positions of a batch. -/
def Server.rowsAt (server : Server) (schema : TableSchema) (definition : TableDefinition)
    (stored : Nat → Bool) (tuples : List (List Value))
    : List Row :=
  (tuples.zipIdx.filter (fun entry => stored entry.2)).filterMap
    (fun entry => (server.storeRow schema definition entry.1).toOption)

/-- `load`: the table afterwards, and the `records_loaded` of the result or what was
raised.
-/
def load (server : Server) (schema : TableSchema) (env : LoadEnv)
    (table : Option StoredTable) (records : List Record)
    : Option StoredTable × Except PyException (Option Nat) :=
  if records.isEmpty then (table, .ok (some 0))
  else
    let ensured := ensureTableExists schema table
    match env.createFault with
    | some (exception, created) => (if created then some ensured else table, .error exception)
    | none =>
        match records.mapM (tupleOf schema) with
        | .error exception => (some ensured, .error exception)
        | .ok tuples =>
            match env.insertFault with
            | some (exception, stored) =>
                (some (ensured.appended
                    (server.rowsAt schema ensured.definition stored tuples)),
                  .error exception)
            | none =>
                match tuples.mapM (server.storeRow schema ensured.definition) with
                | .error exception => (some ensured, .error exception)
                | .ok rows => (some (ensured.appended rows), .ok (some records.length))

/-- The row a record is stored as. -/
def rowOf (server : Server) (schema : TableSchema) (definition : TableDefinition)
    (record : Record)
    : Except PyException Row := do
  server.storeRow schema definition (← tupleOf schema record)

/-- What a load inserts into a table with a definition. -/
def inserted (server : Server) (schema : TableSchema) (env : LoadEnv)
    (definition : TableDefinition) (records : List Record)
    : List Row :=
  rowsOf (load server schema env (some ⟨definition, []⟩) records).1

section

variable {server : Server} {schema : TableSchema} {env : LoadEnv} {records : List Record}
  {definition : TableDefinition}

/-- Creating the table inserts nothing. -/
theorem rowsOf_ensure (table : Option StoredTable)
    : (ensureTableExists schema table).rows = rowsOf table := by
  cases table <;> rfl

/-- A load keeps the definition that inserts find. -/
theorem tableDefinition_load (table : Option StoredTable)
    : tableDefinition schema (load server schema env table records).1
      = tableDefinition schema table := by
  simp only [load]
  split
  · rfl
  · split
    · split <;> rfl
    · split
      · rfl
      · split
        · rfl
        · split <;> rfl

/-- Whether a load succeeds depends on the definition of its table only. -/
theorem load_outcome {table other : Option StoredTable}
    (same : tableDefinition schema table = tableDefinition schema other)
    : (load server schema env table records).2
      = (load server schema env other records).2 := by
  have definitions
      : (ensureTableExists schema table).definition
        = (ensureTableExists schema other).definition :=
    same
  simp only [load]
  rw [definitions]
  split
  · rfl
  · split
    · rfl
    · split
      · rfl
      · split
        · rfl
        · split <;> rfl

/-- A load appends rows that depend on the definition of its table only. -/
theorem rowsOf_load (table : Option StoredTable)
    : rowsOf (load server schema env table records).1
      = rowsOf table
        ++ inserted server schema env (tableDefinition schema table) records := by
  have ensured : rowsOf (some (ensureTableExists schema table)) = rowsOf table :=
    rowsOf_ensure table
  have added (rows : List Row)
      : rowsOf (some ((ensureTableExists schema table).appended rows)) = rowsOf table ++ rows :=
    congrArg (fun before => before ++ rows) (rowsOf_ensure table)
  have own
      : ensureTableExists schema (some ⟨tableDefinition schema table, []⟩)
        = ⟨(ensureTableExists schema table).definition, []⟩ :=
    rfl
  unfold inserted
  simp only [load, own]
  split
  · exact (List.append_nil _).symm
  · split
    · split
      · exact ensured.trans (List.append_nil _).symm
      · exact (List.append_nil _).symm
    · split
      · exact ensured.trans (List.append_nil _).symm
      · split
        · exact added _
        · split
          · exact ensured.trans (List.append_nil _).symm
          · exact added _

/-- The rows of a tuple's batch positions are rows of its tuples. -/
theorem mem_rowsAt {stored : Nat → Bool} {tuples : List (List Value)} {row : Row}
    (member : row ∈ server.rowsAt schema definition stored tuples)
    : ∃ values ∈ tuples, server.storeRow schema definition values = .ok row := by
  obtain ⟨entry, kept, found⟩ := List.mem_filterMap.mp member
  refine ⟨entry.1, List.fst_mem_of_mem_zipIdx (List.mem_filter.mp kept).1, ?_⟩
  cases made : server.storeRow schema definition entry.1 with
  | error exception =>
      rw [made] at found
      cases found
  | ok other =>
      rw [made] at found
      cases found
      rfl

/-- Every inserted row is the row of a record of the batch. -/
theorem mem_inserted {row : Row} (member : row ∈ inserted server schema env definition records)
    : ∃ record ∈ records, rowOf server schema definition record = .ok row := by
  have origin {tuples : List (List Value)}
      (made : records.mapM (tupleOf schema) = .ok tuples) {values : List Value}
      (among : values ∈ tuples) (done : server.storeRow schema definition values = .ok row)
      : ∃ record ∈ records, rowOf server schema definition record = .ok row := by
    obtain ⟨record, from_, tuple⟩ := mem_of_mapM made among
    exact ⟨record, from_, bind_eq_ok_iff.mpr ⟨values, tuple, done⟩⟩
  have own : ensureTableExists schema (some ⟨definition, []⟩) = ⟨definition, []⟩ := rfl
  unfold inserted at member
  simp only [load, own] at member
  split at member
  · cases member
  · split at member
    · split at member <;> cases member
    · split at member
      · cases member
      · next tuples made =>
          split at member
          · obtain ⟨values, among, done⟩ := mem_rowsAt member
            exact origin made among done
          · split at member
            · cases member
            · next rows stored =>
                obtain ⟨values, among, done⟩ := mem_of_mapM stored member
                exact origin made among done

/-- A load that returns has inserted the rows of its records, in order, and counts them. -/
theorem load_ok {table : Option StoredTable} {loaded : Option Nat}
    (returned : (load server schema env table records).2 = .ok loaded)
    : loaded = some records.length
      ∧ records.mapM (rowOf server schema (tableDefinition schema table))
        = .ok (inserted server schema env (tableDefinition schema table) records) := by
  have same
      : tableDefinition schema table
        = tableDefinition schema (some ⟨tableDefinition schema table, []⟩) :=
    rfl
  rw [load_outcome same] at returned
  generalize tableDefinition schema table = definition at *
  have own : ensureTableExists schema (some ⟨definition, []⟩) = ⟨definition, []⟩ := rfl
  unfold inserted
  simp only [load, own] at returned ⊢
  split at returned
  · next empty =>
      cases returned
      rw [List.isEmpty_iff.mp empty]
      exact ⟨rfl, rfl⟩
  · next nonempty =>
      rw [if_neg nonempty]
      split at returned
      · cases returned
      · split at returned
        · cases returned
        · next tuples made =>
            split at returned
            · cases returned
            · split at returned
              · cases returned
              · next rows stored =>
                  cases returned
                  exact ⟨rfl, mapM_bind_iff.mpr ⟨tuples, made, stored⟩⟩

/-- A load without a fault inserts the rows of its records, when each has one. -/
theorem inserted_of_rows {rows : List Row}
    (stored : records.mapM (rowOf server schema definition) = .ok rows)
    : inserted server schema {} definition records = rows := by
  obtain ⟨tuples, made, each⟩ := mapM_bind_iff.mp stored
  have own : ensureTableExists schema (some ⟨definition, []⟩) = ⟨definition, []⟩ := rfl
  simp only [inserted, load, own, made, each]
  split
  · next empty =>
      rw [List.isEmpty_iff.mp empty] at stored
      cases stored
      rfl
  · rfl

/-- A stored row has, under each of its columns, what the table stores for the record's
value, by induction over the columns.
-/
theorem lookup_cells {record : Record} {name : String} {columns : List ColumnSchema}
    {values : List Value} {row : Row}
    (read
      : List.Forall₂ (fun column value => record.lookup column.name = some value)
          columns values)
    (stored
      : List.Forall₂
          (fun entry cell => server.storeCell definition entry.1.name entry.2 = .ok cell)
          (columns.zip values) row)
    (listed : ∃ column ∈ columns, column.name = name)
    : ∃ value type cell,
        record.lookup name = some value
        ∧ definition.columns.lookup name = some type
        ∧ server.store type value = .ok cell
        ∧ row.lookup name = some cell := by
  induction read generalizing row with
  | nil =>
      obtain ⟨column, member, _⟩ := listed
      cases member
  | @cons first value columns values valueRead later ih =>
      cases stored with
      | @cons _ entry _ row stored rest =>
          unfold Server.storeCell at stored
          split at stored
          · cases stored
          · next type typed =>
              cases made : server.store type value with
              | error exception =>
                  rw [made] at stored
                  cases stored
              | ok cell =>
                  rw [made] at stored
                  cases stored
                  by_cases same : first.name = name
                  · subst same
                    exact ⟨value, type, cell, valueRead, typed, made, List.lookup_cons_self⟩
                  · obtain ⟨column, member, named⟩ := listed
                    rcases List.mem_cons.mp member with rfl | among
                    · exact absurd named same
                    · obtain ⟨value, type, cell, valueRead, typed, made, found⟩ :=
                        ih rest ⟨column, among, named⟩
                      refine ⟨value, type, cell, valueRead, typed, made, ?_⟩
                      have different : (name == first.name) = false := by
                        simpa using fun equal => same equal.symm
                      rw [List.lookup_cons, different]
                      exact found

/-- The cell of a stored row under one of the schema's columns. -/
theorem lookup_rowOf {record : Record} {row : Row}
    (stored : rowOf server schema definition record = .ok row) {name : String}
    (listed : ∃ column ∈ schema.columns, column.name = name)
    : ∃ value type cell,
        record.lookup name = some value
        ∧ definition.columns.lookup name = some type
        ∧ server.store type value = .ok cell
        ∧ row.lookup name = some cell := by
  obtain ⟨values, read, cells⟩ := bind_eq_ok_iff.mp stored
  refine lookup_cells ?_ (mapM_eq_ok_iff.mp cells) listed
  refine (mapM_eq_ok_iff.mp read).imp fun column value done => ?_
  split at done
  · cases done
  · next value listed =>
      cases done
      exact listed

end

-----------------------------------------------------------------------------------------
-- Merging
-----------------------------------------------------------------------------------------

/-- The seconds a stored version stands for. -/
def Cell.seconds : Cell → Int
  | .dateTime seconds => seconds
  | _ => 0

/-- The key of a row: its value in the column the table is ordered by. -/
def TableDefinition.key (definition : TableDefinition) (row : Row) : Option Cell :=
  row.lookup definition.orderBy

/-- The version of a row; without a version column all rows have the same. -/
def TableDefinition.versionOf (definition : TableDefinition) (row : Row) : Int :=
  match definition.version with
  | none => 0
  | some name => ((row.lookup name).map Cell.seconds).getD 0

/-- The table after merging: the row kept under each key. -/
def merged (table : Option StoredTable) (key : Option Cell) : Option Row :=
  match table with
  | none => none
  | some table => survivor table.definition.key table.definition.versionOf table.rows key

/-- The rows of one `id` replace each other by their `_extracted_at`. -/
structure TableDefinition.Replaces (definition : TableDefinition) : Prop where
  version : definition.version = some "_extracted_at"
  orderBy : definition.orderBy = "id"

/-- The `id` of a row. -/
def idOf (row : Row) : Option Cell := row.lookup "id"

/-- The `_extracted_at` of a row, in seconds. -/
def extractedSecond (row : Row) : Int := ((row.lookup "_extracted_at").map Cell.seconds).getD 0

/-- A schema with an `_extracted_at` column makes it the version. -/
theorem definition_replaces {schema : TableSchema}
    (listed : ∃ column ∈ schema.columns, column.name = "_extracted_at")
    : (definition schema).Replaces := by
  refine ⟨?_, rfl⟩
  obtain ⟨column, member, name⟩ := listed
  have found : ∃ column,
      schema.columns.find? (fun column => column.name = "_extracted_at") = some column :=
    List.find?_isSome.mpr ⟨column, member, by simpa using name⟩ |> Option.isSome_iff_exists.mp
  obtain ⟨first, isFirst⟩ := found
  have named := List.find?_some isFirst
  simp only [decide_eq_true_eq] at named
  rw [definition, isFirst, Option.map_some, named]

/-- So does every table of that kind that is there already. -/
theorem tableDefinition_replaces {schema : TableSchema} {table : Option StoredTable}
    (listed : ∃ column ∈ schema.columns, column.name = "_extracted_at")
    (replaces : ∀ stored ∈ table, stored.definition.Replaces)
    : (tableDefinition schema table).Replaces := by
  cases table with
  | none => exact definition_replaces listed
  | some stored => exact replaces stored rfl

/-- Merging a table of that kind. -/
theorem merged_replaces {schema : TableSchema} {table : Option StoredTable}
    (replaces : (tableDefinition schema table).Replaces)
    : merged table = survivor idOf extractedSecond (rowsOf table) := by
  cases table with
  | none => rfl
  | some stored =>
      obtain ⟨version, orderBy⟩ := replaces
      have key : stored.definition.key = idOf := by
        funext row
        rw [TableDefinition.key, show stored.definition.orderBy = "id" from orderBy, idOf]
      have versionOf : stored.definition.versionOf = extractedSecond := by
        funext row
        rw [TableDefinition.versionOf,
          show stored.definition.version = some "_extracted_at" from version, extractedSecond]
      funext k
      rw [merged, key, versionOf]
      rfl

end Turbocat.Connectors.ClickHouse
