import Turbocat.Connectors.ClickHouse

/-! Loads one after another: what they insert, and the key and version of the rows that
records are stored as.
-/

namespace Turbocat.Connectors.ClickHouse

open Turbocat.Library Turbocat.Python

/-- The loads of a sync, one after another, each under its number. -/
def loadAll (server : Server) (schema : TableSchema) (loads : Nat → LoadEnv)
    : Nat → Option StoredTable → List (List Record) → Option StoredTable
  | _, table, [] => table
  | number, table, batch :: rest =>
      loadAll server schema loads (number + 1) (load server schema (loads number) table batch).1
        rest

/-- What these loads insert into a table with a definition. -/
def insertedAll (server : Server) (schema : TableSchema) (loads : Nat → LoadEnv)
    (definition : TableDefinition)
    : Nat → List (List Record) → List Row
  | _, [] => []
  | number, batch :: rest =>
      inserted server schema (loads number) definition batch
      ++ insertedAll server schema loads definition (number + 1) rest

/-- The outcomes of the loads of a sync into a table. -/
def outcomes (server : Server) (schema : TableSchema) (loads : Nat → LoadEnv)
    (table : Option StoredTable)
    : Load := fun number batch =>
  (load server schema (loads number) table batch).2

section

variable {server : Server} {schema : TableSchema} {loads : Nat → LoadEnv}
  {definition : TableDefinition}

theorem tableDefinition_loadAll (number : Nat) (table : Option StoredTable)
    (batches : List (List Record))
    : tableDefinition schema (loadAll server schema loads number table batches)
      = tableDefinition schema table := by
  induction batches generalizing number table with
  | nil => rfl
  | cons batch rest ih => rw [loadAll, ih, tableDefinition_load]

theorem rowsOf_loadAll (number : Nat) (table : Option StoredTable)
    (batches : List (List Record))
    : rowsOf (loadAll server schema loads number table batches)
      = rowsOf table
        ++ insertedAll server schema loads (tableDefinition schema table) number batches := by
  induction batches generalizing number table with
  | nil => exact (List.append_nil _).symm
  | cons batch rest ih =>
      rw [loadAll, ih, rowsOf_load, tableDefinition_load, insertedAll, List.append_assoc]

/-- A load returns on the table it finds what it returns on the first one. -/
theorem outcomes_loadAll (number start : Nat) (table : Option StoredTable)
    (earlier : List (List Record)) (batch : List Record)
    : (load server schema (loads number) (loadAll server schema loads start table earlier)
          batch).2
      = outcomes server schema loads table number batch :=
  load_outcome (tableDefinition_loadAll start table earlier)

theorem outcomes_congr {table other : Option StoredTable}
    (same : tableDefinition schema table = tableDefinition schema other)
    : outcomes server schema loads table = outcomes server schema loads other := by
  funext number batch
  exact load_outcome same

/-- Every inserted row is the row of a record of one of the batches. -/
theorem mem_insertedAll {number : Nat} {batches : List (List Record)} {row : Row}
    (member : row ∈ insertedAll server schema loads definition number batches)
    : ∃ batch ∈ batches, ∃ record ∈ batch,
        rowOf server schema definition record = .ok row := by
  induction batches generalizing number with
  | nil => cases member
  | cons batch rest ih =>
      rcases List.mem_append.mp member with first | later
      · obtain ⟨record, among, made⟩ := mem_inserted first
        exact ⟨batch, List.mem_cons_self, record, among, made⟩
      · obtain ⟨other, inside, record, among, made⟩ := ih later
        exact ⟨other, List.mem_cons_of_mem _ inside, record, among, made⟩

/-- When every load returns, every record of the batches has a row. -/
theorem insertedAll_complete {table : Option StoredTable} {number : Nat}
    {batches : List (List Record)}
    (returned
      : ∀ index batch,
          batches[index]? = some batch
          → ∃ loaded, outcomes server schema loads table (number + index) batch = .ok loaded)
    {batch : List Record} (among : batch ∈ batches) {record : Record}
    (member : record ∈ batch)
    : ∃ row ∈ insertedAll server schema loads (tableDefinition schema table) number batches,
        rowOf server schema (tableDefinition schema table) record = .ok row := by
  induction batches generalizing number with
  | nil => cases among
  | cons first rest ih =>
      rcases List.mem_cons.mp among with rfl | later
      · obtain ⟨loaded, done⟩ := returned 0 batch rfl
        obtain ⟨row, inside, made⟩ := mapM_of_mem (load_ok done).2 member
        exact ⟨row, List.mem_append_left _ inside, made⟩
      · obtain ⟨row, inside, made⟩ := @ih (number + 1) (fun index other found => by
          rw [Nat.add_right_comm]
          exact returned (index + 1) other found) later
        exact ⟨row, List.mem_append_right _ inside, made⟩

/-- A required name is the name of a column. -/
theorem column_of_required {name : String} (required : name ∈ schema.requiredColumnNames)
    : ∃ column ∈ schema.columns, column.name = name := by
  obtain ⟨column, kept, named⟩ := List.mem_map.mp required
  exact ⟨column, (List.mem_filter.mp kept).1, named⟩

/-- The version of a row is the whole second of its record's stamp. -/
theorem extractedSecond_rowOf {record : Record} {now : Datetime} {row : Row}
    (listed : ∃ column ∈ schema.columns, column.name = "_extracted_at")
    (stamped : record.lookup "_extracted_at" = some (.datetime (.aware now)))
    (made : rowOf server schema definition record = .ok row)
    : extractedSecond row = wholeSecond now := by
  obtain ⟨value, type, cell, read, _, stored, found⟩ :=
    lookup_rowOf made listed
  rw [stamped] at read
  cases read
  rw [server.wholeSeconds type now cell stored] at found
  rw [extractedSecond, found]
  rfl

/-- The key of a row depends on the record's `id` only. -/
theorem idOf_rowOf {left right : Record} {leftRow rightRow : Row}
    (required : "id" ∈ schema.requiredColumnNames)
    (same : right.lookup "id" = left.lookup "id")
    (leftMade : rowOf server schema definition left = .ok leftRow)
    (rightMade : rowOf server schema definition right = .ok rightRow)
    : idOf rightRow = idOf leftRow := by
  obtain ⟨value, type, cell, read, typed, stored, found⟩ :=
    lookup_rowOf leftMade (column_of_required required)
  obtain ⟨other, otherType, otherCell, otherRead, otherTyped, otherStored, otherFound⟩ :=
    lookup_rowOf rightMade (column_of_required required)
  rw [same, read] at otherRead
  cases otherRead
  rw [typed] at otherTyped
  cases otherTyped
  rw [stored] at otherStored
  cases otherStored
  rw [idOf, idOf, found, otherFound]

end

end Turbocat.Connectors.ClickHouse
