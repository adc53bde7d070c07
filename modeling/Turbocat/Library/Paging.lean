import Mathlib.Data.List.Basic
import Mathlib.Data.List.Infix

/-! Reading a list page by page at growing offsets, until a page is short: what has been read
of a list that stays as it is, and of one that grows by insertions between the pages.
-/

namespace Turbocat.Library

variable {α : Type*}

/-- The page of a list with a number, `size` items long unless the list ends in it. -/
def page (size number : Nat) (items : List α) : List α := (items.drop (size * number)).take size

theorem page_append_drop (size number : Nat) (items : List α)
    : page size number items ++ items.drop (size * (number + 1))
      = items.drop (size * number) := by
  rw [page, Nat.mul_succ, ← List.drop_drop, List.take_append_drop]

theorem length_page (size number : Nat) (items : List α)
    : (page size number items).length = min size (items.length - size * number) := by
  rw [page, List.length_take, List.length_drop]

/-- Nothing follows a short page. -/
theorem page_of_short {size number : Nat} {items : List α}
    (short : (page size number items).length < size)
    : page size number items = items.drop (size * number) := by
  rw [length_page] at short
  rw [page, List.take_of_length_le]
  rw [List.length_drop]
  omega

/-- The first pages of a list are its first items, by induction on their number. -/
theorem flatMap_page (size count : Nat) (items : List α)
    : (List.range count).flatMap (fun number => page size number items)
      = items.take (size * count) := by
  induction count with
  | zero => simp
  | succ count ih =>
      rw [List.range_succ, List.flatMap_append, ih, List.flatMap_singleton, Nat.mul_succ,
        List.take_add]
      rfl

/-- Pages up to a short one are the whole list. -/
theorem flatMap_page_of_short {size count : Nat} {items : List α}
    (short : (page size count items).length < size)
    : (List.range (count + 1)).flatMap (fun number => page size number items) = items := by
  rw [flatMap_page, List.take_of_length_le]
  rw [length_page] at short
  rw [Nat.mul_succ]
  omega

/-- The number of the first short page. -/
theorem first_short_page {size count : Nat} {items : List α}
    (full : ∀ number < count, size ≤ (page size number items).length)
    (short : (page size count items).length < size)
    : count = items.length / size := by
  have positive : 0 < size := Nat.zero_lt_of_lt short
  rw [length_page] at short
  symm
  apply Nat.div_eq_of_lt_le
  · rw [Nat.mul_comm]
    cases count with
    | zero => simp
    | succ previous =>
        have last := full previous (Nat.lt_succ_self previous)
        rw [length_page] at last
        rw [Nat.mul_succ]
        omega
  · rw [Nat.mul_comm, Nat.mul_succ]
    omega

/-- Versions of a list of which each is the one before with items inserted anywhere. -/
def Grows (versions : Nat → List α) : Prop :=
  ∀ number, (versions number).Sublist (versions (number + 1))

/-- Insertions move an item that has not been read to the right or not at all: after any
number of pages, each read from the version of its time, every first item has been read or
still lies ahead. By induction on the number of pages.
-/
theorem Grows.sublist_pages {versions : Nat → List α} (grows : Grows versions)
    (size count : Nat)
    : (versions 0).Sublist
        ((List.range count).flatMap (fun number => page size number (versions number))
          ++ (versions count).drop (size * count)) := by
  induction count with
  | zero => simp
  | succ count ih =>
      have ahead : ((versions count).drop (size * (count + 1))).Sublist
          ((versions (count + 1)).drop (size * (count + 1))) :=
        (grows count).drop _
      rw [List.range_succ, List.flatMap_append, List.flatMap_singleton, List.append_assoc]
      refine ih.trans (List.Sublist.append_left ?_ _)
      rw [← page_append_drop size count]
      exact List.Sublist.append_left ahead _

/-- Pages of a growing list up to a short one miss none of its first items. -/
theorem Grows.sublist_of_short {versions : Nat → List α} (grows : Grows versions)
    {size count : Nat} (short : (page size count (versions count)).length < size)
    : (versions 0).Sublist
        ((List.range (count + 1)).flatMap (fun number => page size number (versions number))) := by
  have read := grows.sublist_pages size count
  rw [← page_of_short short] at read
  rw [List.range_succ, List.flatMap_append, List.flatMap_singleton]
  exact read

end Turbocat.Library
