import Turbocat.Connectors.AnsweredExtracts
import Turbocat.Connectors.ClickHouse

/-! Where the destination agrees with the schemas and the records it is given. The table it
creates is ordered by `id` whatever the schema declares, and its rows are read by subscript
whatever `validate` let pass.
-/

namespace Turbocat.Connectors

open Turbocat.Python

namespace ClickHouse

/-- A type that `Nullable` is wrapped around. -/
def Nullable (type : String) : Prop := ∃ inner, type = "Nullable(" ++ inner ++ ")"

/-- Whether a definition names only columns it declares, and its sort key as one that is not
nullable.
-/
structure TableDefinition.WellFormed (definition : TableDefinition) : Prop where
  orderBy : ∃ type, (definition.orderBy, type) ∈ definition.columns
  version : ∀ name ∈ definition.version, ∃ type, (name, type) ∈ definition.columns
  notNullable
    : ∀ type, (definition.orderBy, type) ∈ definition.columns → ¬ Nullable type

/-- No mapped type is nullable: each starts with a letter of its own. -/
theorem mapType_not_nullable (type : String) : ¬ Nullable (mapType type) := by
  intro nullable
  obtain ⟨inner, same⟩ := nullable
  have first := congrArg (fun text : String => text.toList.head?) same
  simp only [String.toList_append] at first
  unfold mapType at first
  split at first <;> simp at first

/-- A column's type is nullable exactly when the column is not required. -/
theorem columnType_nullable_iff {column : ColumnSchema}
    : Nullable (columnType column) ↔ column.required = false := by
  unfold columnType
  cases column.required with
  | true => simpa using mapType_not_nullable column.type
  | false => exact iff_of_true ⟨mapType column.type, rfl⟩ rfl

theorem mem_definition_columns {schema : TableSchema} {name type : String}
    : (name, type) ∈ (definition schema).columns
      ↔ ∃ column ∈ schema.columns, column.name = name ∧ columnType column = type := by
  simp only [definition, List.mem_map, Prod.mk.injEq]

/-- The version column is always declared. -/
theorem definition_version_declared {schema : TableSchema} {name : String}
    (version : name ∈ (definition schema).version)
    : ∃ type, (name, type) ∈ (definition schema).columns := by
  obtain ⟨column, found, rfl⟩ := Option.map_eq_some_iff.mp version
  exact ⟨_, mem_definition_columns.mpr ⟨column, List.mem_of_find?_eq_some found, rfl, rfl⟩⟩

/-- The table of a schema is well formed exactly when the schema has a column `id` and
requires it: the sort key is not taken from the schema.
-/
theorem definition_wellFormed_iff (schema : TableSchema)
    : (definition schema).WellFormed
      ↔ (∃ column ∈ schema.columns, column.name = "id")
        ∧ ∀ column ∈ schema.columns, column.name = "id" → column.required = true := by
  constructor
  · intro wellFormed
    obtain ⟨type, declared⟩ := wellFormed.orderBy
    obtain ⟨column, member, named, _⟩ := mem_definition_columns.mp declared
    refine ⟨⟨column, member, named⟩, fun other listed key => ?_⟩
    have among := mem_definition_columns.mpr ⟨other, listed, key, rfl⟩
    simpa using mt columnType_nullable_iff.mpr (wellFormed.notNullable _ among)
  · intro condition
    obtain ⟨⟨column, member, named⟩, required⟩ := condition
    constructor
    · exact ⟨_, mem_definition_columns.mpr ⟨column, member, named, rfl⟩⟩
    · exact fun name version => definition_version_declared version
    · intro type among nullable
      obtain ⟨other, listed, key, rfl⟩ := mem_definition_columns.mp among
      rw [columnType_nullable_iff, required other listed key] at nullable
      cases nullable

/-- Tickets have no `id`, so their table is ordered by a column it does not have. -/
theorem kapture_definition_malformed : ¬ (definition KaptureTickets.getSchema).WellFormed := by
  rw [definition_wellFormed_iff]
  decide

/-- What the server says to a statement that creates a table of a definition. -/
abbrev Create := TableDefinition → Option PyException

/-- The server rejects a sort key that is not a declared column. -/
def Create.ChecksKey (create : Create) : Prop :=
  ∀ definition, (∀ type, (definition.orderBy, type) ∉ definition.columns) → create definition ≠ none

/-- On such a server, no load into a table still to be created succeeds for a schema without
`id`.
-/
theorem load_without_key {create : Create} (checks : create.ChecksKey) {schema : TableSchema}
    (absent : ∀ column ∈ schema.columns, column.name ≠ "id") (server : Server)
    {records : List Record} (some_ : records ≠ [])
    : ∃ exception,
        load server schema
            { createFault := (create (definition schema)).map (fun raised => (raised, false)) }
            none records
          = (none, .error exception) := by
  have undeclared : ∀ type, ((definition schema).orderBy, type) ∉ (definition schema).columns := by
    intro type among
    obtain ⟨column, member, named, _⟩ := mem_definition_columns.mp among
    exact absent column member named
  obtain ⟨exception, raised⟩ := Option.ne_none_iff_exists'.mp (checks _ undeclared)
  refine ⟨exception, ?_⟩
  rw [load, if_neg (by simpa using some_), raised]
  rfl

/-- So a sync of tickets fails at its first load. -/
theorem tickets_never_stored {create : Create} (checks : create.ChecksKey) (server : Server)
    {records : List Record} (some_ : records ≠ [])
    : ∃ exception,
        load server KaptureTickets.getSchema
            { createFault := (create (definition KaptureTickets.getSchema)).map
                (fun raised => (raised, false)) }
            none records
          = (none, .error exception) :=
  load_without_key checks (by decide) server some_

-----------------------------------------------------------------------------------------
-- Rows
-----------------------------------------------------------------------------------------

/-- The row of a record that a table of the schema has room for: its value under each column,
null where it has none.
-/
def rowTuple (schema : TableSchema) (record : Record) : List Value :=
  schema.columns.map (fun column => (record.lookup column.name).getD (.json .null))

/-- Whether a record has every optional column of a schema among its keys. -/
def HasOptional (schema : TableSchema) (record : Record) : Prop :=
  ∀ column ∈ schema.columns,
    column.required = false → (record.lookup column.name).isSome = true

/-- A validated record has its required columns. -/
theorem required_of_validate {schema : TableSchema} {record : Record}
    (valid : validate schema record = true) {column : ColumnSchema}
    (member : column ∈ schema.columns) (required : column.required = true)
    : (record.lookup column.name).isSome = true := by
  have listed : column.name ∈ schema.requiredColumnNames :=
    List.mem_map_of_mem (List.mem_filter.mpr ⟨member, required⟩)
  have passes := List.all_eq_true.mp valid column.name listed
  cases found : record.lookup column.name with
  | none => simp [found] at passes
  | some value => rfl

/-- The tuple of a validated record is built exactly when no optional column is absent. -/
theorem tupleOf_eq_iff {schema : TableSchema} {record : Record}
    (valid : validate schema record = true)
    : tupleOf schema record = .ok (rowTuple schema record) ↔ HasOptional schema record := by
  rw [tupleOf, mapM_eq_ok_iff, rowTuple, List.forall₂_map_right_iff, List.forall₂_same]
  constructor
  · intro built column member _
    have read := built column member
    cases found : record.lookup column.name with
    | none => simp [found] at read
    | some value => rfl
  · intro has column member
    have present : (record.lookup column.name).isSome = true := by
      cases required : column.required with
      | true => exact required_of_validate valid member required
      | false => exact has column member required
    obtain ⟨value, found⟩ := Option.isSome_iff_exists.mp present
    simp [found]

/-- Every batch of validated records becomes its rows exactly when each record has the
optional columns too: the row builder reads them by subscript, while `validate` lets a record
without them pass.
-/
theorem rows_of_validated_iff {schema : TableSchema} {records : List Record}
    (valid : ∀ record ∈ records, validate schema record = true)
    : records.mapM (tupleOf schema) = .ok (records.map (rowTuple schema))
      ↔ ∀ record ∈ records, HasOptional schema record := by
  rw [mapM_eq_ok_iff, List.forall₂_map_right_iff, List.forall₂_same]
  constructor
  · intro built record member
    exact (tupleOf_eq_iff (valid record member)).mp (built record member)
  · intro has record member
    exact (tupleOf_eq_iff (valid record member)).mpr (has record member)

/-- A schema with an optional column. -/
def namedRows : TableSchema := ⟨"rows", [⟨"id", "string", true⟩, ⟨"name", "string", false⟩]⟩

/-- With the optional column present, even as null, the rows are built. -/
theorem rows_of_validated_null
    : let records : List Record := [[("id", .json (.str "1")), ("name", .json .null)]]
      records.mapM (tupleOf namedRows) = .ok (records.map (rowTuple namedRows)) := by
  intro records
  refine (rows_of_validated_iff ?_).mpr ?_
  · exact List.forall_mem_singleton.mpr rfl
  · exact List.forall_mem_singleton.mpr fun column member _ => by
      rcases List.mem_cons.mp member with rfl | last
      · rfl
      · rw [List.mem_singleton.mp last]
        rfl

/-- A validated record without it is refused, and its batch with it. -/
theorem optional_absent_refused
    : let records : List Record := [[("id", .json (.str "1"))]]
      (∀ record ∈ records, validate namedRows record = true)
      ∧ records.mapM (tupleOf namedRows) ≠ .ok (records.map (rowTuple namedRows))
      ∧ (load Server.plain namedRows {} none records).2 = .error (.missingKey "name") := by
  refine ⟨List.forall_mem_singleton.mpr rfl, ?_, rfl⟩
  intro built
  cases built

/-- One record without an optional column is a `KeyError` for its whole batch, of which
nothing is inserted.
-/
theorem load_without_optional {schema : TableSchema} {records : List Record}
    (lacks : ∃ record ∈ records, ¬ HasOptional schema record) (server : Server)
    {env : LoadEnv} (created : env.createFault = none) (table : Option StoredTable)
    : ∃ name,
        load server schema env table records
        = (some (ensureTableExists schema table), .error (.missingKey name)) := by
  obtain ⟨lacking, member, absent⟩ := lacks
  have some_ : ¬ records.isEmpty = true := by
    simpa using List.ne_nil_of_mem member
  cases built : records.mapM (tupleOf schema) with
  | ok tuples =>
      obtain ⟨values, _, read⟩ := mapM_of_mem built member
      have all : HasOptional schema lacking := by
        intro column listed _
        obtain ⟨value, _, found⟩ := mapM_of_mem read listed
        cases present : lacking.lookup column.name with
        | none => simp [present] at found
        | some _ => rfl
      exact absurd all absent
  | error raised =>
      obtain ⟨record, _, failed⟩ := mem_of_mapM_error built
      obtain ⟨column, _, missing⟩ := mem_of_mapM_error failed
      refine ⟨column.name, ?_⟩
      have same : raised = .missingKey column.name := by
        cases present : record.lookup column.name with
        | none =>
            rw [present] at missing
            exact (Except.error.inj missing).symm
        | some _ => simp [present] at missing
      simp only [load, if_neg some_, created, built, same]

end ClickHouse

-----------------------------------------------------------------------------------------
-- The registered connectors
-----------------------------------------------------------------------------------------

/-- A record whose columns are those of its schema has them all. -/
theorem hasOptional_of_names {schema : TableSchema} {record : Record}
    (names : record.map Prod.fst = schema.columns.map ColumnSchema.name)
    : ClickHouse.HasOptional schema record := by
  intro column member _
  have listed : column.name ∈ record.map Prod.fst := by
    rw [names]
    exact List.mem_map_of_mem member
  obtain ⟨entry, among, same⟩ := List.mem_map.mp listed
  exact List.lookup_isSome_iff.mpr ⟨entry, among, by simp [same]⟩

/-- Every record a registered connector makes has every column of its schema, so no sync the
orchestrator starts reaches that error.
-/
theorem ConnectorClass.transform_hasOptional {cls : ConnectorClass} {host : Host}
    {now : Datetime} {item : Json} {record : Record}
    (made : cls.transform host now item = .ok record)
    : ClickHouse.HasOptional cls.getSchema record := by
  apply hasOptional_of_names
  cases cls with
  | razorpayOrders =>
      iterate 12 obtain ⟨_, _, made⟩ := bind_eq_ok_iff.mp made
      cases made
      rfl
  | razorpayCustomers =>
      iterate 8 obtain ⟨_, _, made⟩ := bind_eq_ok_iff.mp made
      cases made
      rfl
  | kaptureTickets =>
      iterate 4 obtain ⟨_, _, made⟩ := bind_eq_ok_iff.mp made
      rw [KaptureTickets.dictDisplay_names made]
      rfl

end Turbocat.Connectors
