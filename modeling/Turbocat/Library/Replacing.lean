import Turbocat.Library.Interleavings
import Mathlib.Order.Lattice

/-! Replacing rows by key: of the rows under one key the one with the greatest version is
kept and, among equal versions, the last inserted one.
-/

namespace Turbocat.Library

variable {ρ κ ν : Type*} [DecidableEq κ] [LinearOrder ν] {key : ρ → κ} {version : ρ → ν}

/-- Of two rows, an earlier and a later one, the newer; the later of equal versions. -/
def newer (version : ρ → ν) : Option ρ → Option ρ → Option ρ
  | none, later => later
  | some earlier, none => some earlier
  | some earlier, some later =>
      if version earlier ≤ version later then some later else some earlier

@[simp]
theorem newer_none_left (later : Option ρ) : newer version none later = later :=
  rfl

@[simp]
theorem newer_none_right (earlier : Option ρ) : newer version earlier none = earlier := by
  cases earlier <;> rfl

theorem newer_of_le {earlier later : ρ} (le : version earlier ≤ version later)
    : newer version (some earlier) (some later) = some later :=
  if_pos le

theorem newer_of_lt {earlier later : ρ} (lt : version later < version earlier)
    : newer version (some earlier) (some later) = some earlier :=
  if_neg (not_le_of_gt lt)

/-- The newer of two rows is one of them. -/
theorem newer_choice (earlier later : Option ρ)
    : newer version earlier later = earlier ∨ newer version earlier later = later := by
  cases earlier with
  | none => exact Or.inr rfl
  | some left =>
      cases later with
      | none => exact Or.inl rfl
      | some right =>
          by_cases le : version left ≤ version right
          · exact Or.inr (newer_of_le le)
          · exact Or.inl (newer_of_lt (lt_of_not_ge le))

/-- It does not matter in which order neighbours are compared. -/
theorem newer_assoc (first second third : Option ρ)
    : newer version (newer version first second) third
      = newer version first (newer version second third) := by
  cases first with
  | none => rfl
  | some a =>
      cases second with
      | none => rfl
      | some b =>
          cases third with
          | none => simp
          | some c =>
              by_cases ab : version a ≤ version b
              · by_cases bc : version b ≤ version c
                · rw [newer_of_le ab, newer_of_le bc, newer_of_le (le_trans ab bc)]
                · rw [newer_of_le ab, newer_of_lt (lt_of_not_ge bc), newer_of_le ab]
              · have ba := lt_of_not_ge ab
                by_cases bc : version b ≤ version c
                · rw [newer_of_lt ba, newer_of_le bc]
                · have cb := lt_of_not_ge bc
                  rw [newer_of_lt ba, newer_of_lt cb, newer_of_lt ba, newer_of_lt (lt_trans cb ba)]

/-- The row kept under a key. -/
def survivor (key : ρ → κ) (version : ρ → ν) : List ρ → κ → Option ρ
  | [], _ => none
  | row :: rest, k =>
      if key row = k then newer version (some row) (survivor key version rest k)
      else survivor key version rest k

/-- Merging two parts of a table merges what each of them keeps. -/
theorem survivor_append (front back : List ρ) (k : κ)
    : survivor key version (front ++ back) k
      = newer version (survivor key version front k) (survivor key version back k) := by
  induction front with
  | nil => rfl
  | cons row rest ih =>
      simp only [List.cons_append, survivor, ih]
      split
      · rw [newer_assoc]
      · rfl

/-- The row kept under a key is a row of the table with that key. -/
theorem mem_of_survivor {rows : List ρ} {k : κ} {row : ρ}
    (kept : survivor key version rows k = some row)
    : row ∈ rows ∧ key row = k := by
  induction rows with
  | nil => cases kept
  | cons first rest ih =>
      unfold survivor at kept
      split at kept
      · next same =>
          rcases @newer_choice _ _ _ version (some first) (survivor key version rest k)
            with choice | choice
          · rw [choice] at kept
            cases kept
            exact ⟨List.mem_cons_self, same⟩
          · rw [choice] at kept
            obtain ⟨member, key⟩ := ih kept
            exact ⟨List.mem_cons_of_mem _ member, key⟩
      · obtain ⟨member, key⟩ := ih kept
        exact ⟨List.mem_cons_of_mem _ member, key⟩

/-- A key with a row keeps one whose version is at least that row's. -/
theorem le_survivor {rows : List ρ} {row : ρ} (member : row ∈ rows)
    : ∃ kept,
        survivor key version rows (key row) = some kept ∧ version row ≤ version kept := by
  induction rows with
  | nil => cases member
  | cons first rest ih =>
      unfold survivor
      rcases List.mem_cons.mp member with rfl | later
      · rw [if_pos rfl]
        cases survivor key version rest (key row) with
        | none => exact ⟨row, rfl, le_refl _⟩
        | some other =>
            by_cases le : version row ≤ version other
            · exact ⟨other, newer_of_le le, le⟩
            · exact ⟨row, newer_of_lt (lt_of_not_ge le), le_refl _⟩
      · obtain ⟨kept, found, le⟩ := ih later
        rw [found]
        split
        · by_cases order : version first ≤ version kept
          · exact ⟨kept, newer_of_le order, le⟩
          · have greater := lt_of_not_ge order
            exact ⟨first, newer_of_lt greater, le_trans le (le_of_lt greater)⟩
        · exact ⟨kept, rfl, le⟩

/-- Rows behind which a row of their key with at least their version follows leave no
trace.
-/
theorem survivor_superseded {front middle back : List ρ}
    (superseded
      : ∀ row ∈ middle, ∃ later ∈ back, key later = key row ∧ version row ≤ version later)
    : survivor key version (front ++ middle ++ back) = survivor key version (front ++ back) := by
  funext k
  rw [survivor_append, survivor_append, survivor_append, newer_assoc]
  cases found : survivor key version middle k with
  | none => rfl
  | some row =>
      obtain ⟨member, rfl⟩ := mem_of_survivor found
      obtain ⟨later, among, same, le⟩ := superseded row member
      obtain ⟨kept, keeps, above⟩ := @le_survivor _ _ _ _ _ key version _ _ among
      rw [same] at keeps
      rw [keeps, newer_of_le (le_trans le above)]

/-- Of the rows with the greatest version the last inserted one is kept, by induction over
the rows.
-/
theorem survivor_eq_lastOf {rows : List ρ} {k : κ} {greatest : ν}
    (bound : ∀ row ∈ rows, key row = k → version row ≤ greatest)
    (reached : ∃ row ∈ rows, key row = k ∧ version row = greatest)
    : survivor key version rows k
      = lastOf (fun row => decide (key row = k ∧ version row = greatest)) rows := by
  induction rows with
  | nil =>
      obtain ⟨row, member, _⟩ := reached
      cases member
  | cons first rest ih =>
      have restBound : ∀ row ∈ rest, key row = k → version row ≤ greatest :=
        fun row member => bound row (List.mem_cons_of_mem _ member)
      rw [← List.singleton_append, lastOf_append]
      by_cases later : ∃ row ∈ rest, key row = k ∧ version row = greatest
      · have kept := ih restBound later
        obtain ⟨row, member, same, top⟩ := later
        obtain ⟨last, found⟩ := @lastOf_of_mem _
          (fun row => decide (key row = k ∧ version row = greatest)) _ _ member
          (decide_eq_true ⟨same, top⟩)
        rw [found] at kept ⊢
        have atTop := (mem_of_lastOf found).2
        simp only [decide_eq_true_eq] at atTop
        rw [List.singleton_append, survivor, kept]
        split
        · next own =>
            exact newer_of_le (atTop.2 ▸ bound first List.mem_cons_self own)
        · rfl
      · have nothing
            : lastOf (fun row => decide (key row = k ∧ version row = greatest)) rest = none :=
          lastOf_eq_none_iff.mpr fun row member =>
            decide_eq_false fun top => later ⟨row, member, top⟩
        have own : key first = k ∧ version first = greatest := by
          obtain ⟨row, member, top⟩ := reached
          rcases List.mem_cons.mp member with rfl | among
          · exact top
          · exact absurd ⟨row, among, top⟩ later
        rw [nothing, List.singleton_append, survivor, if_pos own.1]
        have first_ : lastOf (fun row => decide (key row = k ∧ version row = greatest)) [first]
            = some first := by
          simp [lastOf, own]
        rw [first_]
        cases found : survivor key version rest k with
        | none => rfl
        | some row =>
            obtain ⟨member, same⟩ := mem_of_survivor found
            have le := restBound row member same
            refine newer_of_lt ?_
            rw [own.2]
            exact lt_of_le_of_ne le fun top => later ⟨row, member, same, top⟩

/-- The merge only reads keys and versions. -/
theorem survivor_map {σ : Type*} (f : σ → ρ) (rows : List σ) (k : κ)
    : survivor key version (rows.map f) k
      = (survivor (key ∘ f) (version ∘ f) rows k).map f := by
  induction rows with
  | nil => rfl
  | cons row rest ih =>
      simp only [List.map_cons, survivor, Function.comp_apply, ih]
      split
      · cases survivor (key ∘ f) (version ∘ f) rest k with
        | none => rfl
        | some later =>
            by_cases le : version (f row) ≤ version (f later)
            · rw [newer_of_le (show (version ∘ f) row ≤ (version ∘ f) later from le)]
              exact newer_of_le le
            · have lt := lt_of_not_ge le
              rw [newer_of_lt (show (version ∘ f) later < (version ∘ f) row from lt)]
              exact newer_of_lt lt
      · rfl

end Turbocat.Library
