import Mathlib.Data.List.Nodup

/-! Tables with a primary key: rows in insertion order, no two of them under one key.
Updates rewrite rows in place and may not change their keys.
-/

namespace Turbocat.Library

/-- Rows in insertion order whose keys are pairwise different. -/
structure Table {ρ κ : Type*} (key : ρ → κ) where
  rows : List ρ
  unique : (rows.map key).Nodup

namespace Table

variable {ρ κ : Type*} {key : ρ → κ}

/-- The table without rows. -/
def empty : Table key := ⟨[], List.nodup_nil⟩

/-- Rewrite every row, each under its old key. -/
def update (table : Table key) (f : ρ → ρ) (keeps : ∀ row, key (f row) = key row)
    : Table key :=
  ⟨table.rows.map f, by simpa [Function.comp_def, keeps] using table.unique⟩

@[simp]
theorem update_rows (table : Table key) (f : ρ → ρ) (keeps : ∀ row, key (f row) = key row)
    : (table.update f keeps).rows = table.rows.map f :=
  rfl

/-- Two stored rows under one key are the same row. -/
theorem eq_of_key {table : Table key} {left right : ρ} (first : left ∈ table.rows)
    (second : right ∈ table.rows) (same : key left = key right)
    : left = right :=
  List.inj_on_of_nodup_map table.unique first second same

variable [DecidableEq κ]

/-- The row stored under a key. -/
def get? (table : Table key) (k : κ) : Option ρ :=
  table.rows.find? (fun row => decide (key row = k))

/-- Append a row; a stored key is a primary-key violation. -/
def insert (table : Table key) (row : ρ) : Option (Table key) :=
  if present : key row ∈ table.rows.map key then none
  else
    some ⟨table.rows ++ [row], by
      simp only [List.map_append, List.map_cons, List.map_nil]
      exact List.nodup_append.mpr ⟨table.unique, List.nodup_singleton _,
        fun k member other single same => present (by
          rw [List.mem_singleton.mp single] at same
          exact same ▸ member)⟩⟩

/-- Rewrite the row under one key. -/
def modify (table : Table key) (k : κ) (f : ρ → ρ) (keeps : ∀ row, key (f row) = key row)
    : Table key :=
  table.update (fun row => if key row = k then f row else row)
    (fun row => by by_cases same : key row = k <;> simp [same, keeps])

@[simp]
theorem get?_empty (k : κ) : (empty : Table key).get? k = none :=
  rfl

/-- A row found under a key has that key. -/
theorem key_of_get? {table : Table key} {k : κ} {row : ρ} (found : table.get? k = some row)
    : key row = k := by
  simpa using List.find?_some found

/-- A row found under a key is stored. -/
theorem mem_of_get? {table : Table key} {k : κ} {row : ρ} (found : table.get? k = some row)
    : row ∈ table.rows :=
  List.mem_of_find?_eq_some found

/-- A stored row is found under its key. -/
theorem get?_of_mem {table : Table key} {row : ρ} (member : row ∈ table.rows)
    : table.get? (key row) = some row := by
  cases found : table.get? (key row) with
  | none =>
      have absent := List.find?_eq_none.mp found row member
      simp at absent
  | some other =>
      have same := eq_of_key (mem_of_get? found) member (key_of_get? found)
      rw [same]

/-- Lookup and membership agree. -/
theorem get?_eq_some_iff {table : Table key} {k : κ} {row : ρ}
    : table.get? k = some row ↔ row ∈ table.rows ∧ key row = k := by
  constructor
  · exact fun found => ⟨mem_of_get? found, key_of_get? found⟩
  · intro stored
    obtain ⟨member, rfl⟩ := stored
    exact get?_of_mem member

/-- A key without a row is no row's key. -/
theorem get?_eq_none_iff {table : Table key} {k : κ}
    : table.get? k = none ↔ k ∉ table.rows.map key := by
  simp [get?]

/-- An update rewrites exactly the row found under each key. -/
@[simp]
theorem get?_update (table : Table key) (f : ρ → ρ) (keeps : ∀ row, key (f row) = key row)
    (k : κ)
    : (table.update f keeps).get? k = (table.get? k).map f := by
  have same : (fun row => decide (key row = k)) ∘ f = fun row => decide (key row = k) :=
    funext fun row => by rw [Function.comp_apply, keeps]
  unfold get?
  rw [update_rows, List.find?_map, same]

/-- Modifying one row changes the lookup of its key only. -/
theorem get?_modify (table : Table key) (k : κ) (f : ρ → ρ)
    (keeps : ∀ row, key (f row) = key row) (k' : κ)
    : (table.modify k f keeps).get? k'
      = if k' = k then (table.get? k).map f else table.get? k' := by
  rw [modify, get?_update]
  cases found : table.get? k' with
  | none =>
      by_cases same : k' = k
      · simp [same ▸ found]
      · simp [same]
  | some row =>
      have rowKey := key_of_get? found
      by_cases same : k' = k
      · subst same
        simp [found, rowKey]
      · simp [rowKey, same]

/-- Modifications of one row are the same exactly when they agree on it. -/
theorem modify_eq_iff {table : Table key} {k : κ} {f g : ρ → ρ}
    {keeps : ∀ row, key (f row) = key row} {keeps' : ∀ row, key (g row) = key row}
    : table.modify k f keeps = table.modify k g keeps'
      ↔ ∀ row, table.get? k = some row → f row = g row := by
  constructor
  · intro same row found
    have after := congrArg (fun next => next.get? k) same
    simpa only [get?_modify, if_true, found, Option.map_some, Option.some.injEq] using after
  · intro agree
    have rows : (table.modify k f keeps).rows = (table.modify k g keeps').rows := by
      refine List.map_congr_left fun row member => ?_
      split
      · next same => exact agree row (same ▸ get?_of_mem member)
      · rfl
    generalize table.modify k f keeps = left at rows
    generalize table.modify k g keeps' = right at rows
    cases left
    cases right
    cases rows
    rfl

/-- The rows after one row was modified. -/
theorem mem_modify (table : Table key) (k : κ) (f : ρ → ρ)
    (keeps : ∀ row, key (f row) = key row) {row : ρ}
    : row ∈ (table.modify k f keeps).rows
      ↔ ∃ old ∈ table.rows, row = if key old = k then f old else old := by
  simp only [modify, update_rows, List.mem_map, eq_comm]

/-- An accepted insert had a fresh key and appends the row. -/
theorem insert_eq_some_iff {table next : Table key} {row : ρ}
    : table.insert row = some next
      ↔ table.get? (key row) = none ∧ next.rows = table.rows ++ [row] := by
  unfold insert
  split
  · next present =>
      simp only [reduceCtorEq, false_iff, not_and]
      intro absent
      rw [get?_eq_none_iff] at absent
      exact absurd present absent
  · next absent =>
      simp only [Option.some.injEq, get?_eq_none_iff, absent, not_false_eq_true, true_and]
      constructor
      · intro same
        subst same
        rfl
      · intro rows
        cases next
        simp_all

/-- A row under a fresh key can be inserted. -/
theorem insert_isSome {table : Table key} {row : ρ} (fresh : table.get? (key row) = none)
    : ∃ next, table.insert row = some next := by
  rw [get?_eq_none_iff] at fresh
  exact ⟨_, by rw [insert, dif_neg fresh]⟩

/-- An insert adds the lookup of the new key and keeps the others. -/
theorem get?_insert {table next : Table key} {row : ρ}
    (inserted : table.insert row = some next) (k : κ)
    : next.get? k = if key row = k then some row else table.get? k := by
  rw [insert_eq_some_iff] at inserted
  obtain ⟨fresh, rows⟩ := inserted
  unfold get? at fresh ⊢
  rw [rows, List.find?_append]
  by_cases same : key row = k
  · subst same
    simp [fresh]
  · simp [same]

/-- A row found before an insert is found after it. -/
theorem get?_insert_of_some {table next : Table key} {row stored : ρ} {k : κ}
    (inserted : table.insert row = some next) (found : table.get? k = some stored)
    : next.get? k = some stored := by
  rw [get?_insert inserted, if_neg, found]
  intro same
  subst same
  rw [insert_eq_some_iff] at inserted
  rw [inserted.1] at found
  cases found

/-- Remove the row stored under a key. -/
def erase (table : Table key) (k : κ) : Table key :=
  ⟨table.rows.filter (fun row => decide (key row ≠ k)),
    table.unique.sublist (List.filter_sublist.map key)⟩

/-- Store a row, in place of one with its key. -/
def put (table : Table key) (row : ρ) : Table key :=
  ⟨(table.erase (key row)).rows ++ [row], by
    simp only [List.map_append, List.map_cons, List.map_nil]
    refine List.nodup_append.mpr ⟨(table.erase (key row)).unique, List.nodup_singleton _, ?_⟩
    intro k member other single same
    rw [List.mem_singleton.mp single] at same
    obtain ⟨old, kept, rfl⟩ := List.mem_map.mp member
    simp [erase, same] at kept⟩

/-- Only the erased key loses its row. -/
theorem get?_erase (table : Table key) (k k' : κ)
    : (table.erase k).get? k' = if k' = k then none else table.get? k' := by
  unfold get? erase
  rw [List.find?_filter]
  split
  · next same =>
      simp only [List.find?_eq_none, same, decide_eq_true_eq, ne_eq]
      exact fun row _ both => both.1 both.2
  · next different =>
      refine congrArg (fun p => List.find? p table.rows) (funext fun row => ?_)
      by_cases same : key row = k' <;> simp_all

/-- Only the key of the stored row changes its row. -/
theorem get?_put (table : Table key) (row : ρ) (k : κ)
    : (table.put row).get? k = if k = key row then some row else table.get? k := by
  have rest := get?_erase table (key row) k
  simp only [get?] at rest
  simp only [get?, put, List.find?_append, rest]
  by_cases same : k = key row
  · subst same
    simp
  · have other : ¬ key row = k := fun equal => same equal.symm
    simp [same, other]

/-- Every row is still stored, perhaps rewritten, with its `fixed` part as it was. -/
def Keeps {φ : Type*} (fixed : ρ → φ) (table next : Table key) : Prop :=
  ∀ k row, table.get? k = some row → ∃ kept, next.get? k = some kept ∧ fixed kept = fixed row

section Keeps

variable {φ : Type*} {fixed : ρ → φ}

theorem Keeps.refl (table : Table key) : Keeps fixed table table :=
  fun _ row found => ⟨row, found, rfl⟩

theorem Keeps.trans {first second third : Table key} (earlier : Keeps fixed first second)
    (later : Keeps fixed second third)
    : Keeps fixed first third := by
  intro k row found
  obtain ⟨middle, foundMiddle, same⟩ := earlier k row found
  obtain ⟨last, foundLast, sameLast⟩ := later k middle foundMiddle
  exact ⟨last, foundLast, sameLast.trans same⟩

/-- A rewrite that leaves the fixed part of every row alone keeps it. -/
theorem Keeps.update (table : Table key) (f : ρ → ρ) (keeps : ∀ row, key (f row) = key row)
    (fixes : ∀ row, fixed (f row) = fixed row)
    : Keeps fixed table (table.update f keeps) :=
  fun k row found => ⟨f row, by rw [get?_update, found, Option.map_some], fixes row⟩

theorem Keeps.modify (table : Table key) (k : κ) (f : ρ → ρ)
    (keeps : ∀ row, key (f row) = key row) (fixes : ∀ row, fixed (f row) = fixed row)
    : Keeps fixed table (table.modify k f keeps) :=
  Keeps.update table _ _ (fun row => by
    split
    · exact fixes row
    · rfl)

/-- Rows that were appended disturb no row that was there. -/
theorem Keeps.append {table next : Table key} {rows : List ρ}
    (appended : next.rows = table.rows ++ rows)
    : Keeps fixed table next := by
  intro k row found
  refine ⟨row, ?_, rfl⟩
  rw [get?_eq_some_iff] at found
  obtain ⟨member, rfl⟩ := found
  exact get?_of_mem (appended ▸ List.mem_append_left _ member)

end Keeps

end Table

end Turbocat.Library
