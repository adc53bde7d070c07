import Turbocat.Library.Numerals

/-! UUIDs and the canonical text `str` writes for them: 32 hexadecimal digits in groups of
8, 4, 4, 4 and 12, always 36 characters and different for different UUIDs.
-/

namespace Turbocat.Python

open Turbocat.Library

instance neZeroUuids : NeZero (2 ^ 128) := ⟨by decide⟩

/-- A 128-bit UUID. -/
structure UUID where
  int : Fin (2 ^ 128)
  deriving DecidableEq, Repr

instance : Inhabited UUID := ⟨⟨0⟩⟩

/-- The groups of a UUID's digits, with a dash between each two. -/
def dashed (digits : List Char) : List Char :=
  let afterTimeLow := digits.drop 8
  let afterTimeMid := afterTimeLow.drop 4
  let afterTimeHigh := afterTimeMid.drop 4
  digits.take 8
    ++ '-' :: (afterTimeLow.take 4
      ++ '-' :: (afterTimeMid.take 4
        ++ '-' :: (afterTimeHigh.take 4 ++ '-' :: afterTimeHigh.drop 4)))

/-- Without the dashes the groups are the digits again. -/
theorem filter_dashed {digits : List Char} (plain : ∀ digit ∈ digits, digit ≠ '-')
    : (dashed digits).filter (fun character => decide (character ≠ '-')) = digits := by
  have kept {group : List Char} (part : group ⊆ digits)
      : group.filter (fun character => decide (character ≠ '-')) = group := by
    apply List.filter_eq_self.mpr
    exact fun character member => decide_eq_true (plain character (part member))
  have dropped (group : List Char) (n : Nat) : group.drop n ⊆ group := List.drop_subset n group
  have taken (group : List Char) (n : Nat) : group.take n ⊆ group := List.take_subset n group
  have second := dropped digits 8
  have third := List.Subset.trans (dropped (digits.drop 8) 4) second
  have fourth := List.Subset.trans (dropped ((digits.drop 8).drop 4) 4) third
  have last := List.Subset.trans (dropped (((digits.drop 8).drop 4).drop 4) 4) fourth
  unfold dashed
  simp only [List.filter_append, List.filter_cons, ne_eq, not_true_eq_false, decide_false,
    Bool.false_eq_true, if_false]
  simp only [← ne_eq]
  rw [kept (taken digits 8), kept (List.Subset.trans (taken _ 4) second),
    kept (List.Subset.trans (taken _ 4) third), kept (List.Subset.trans (taken _ 4) fourth),
    kept last, List.take_append_drop, List.take_append_drop, List.take_append_drop,
    List.take_append_drop]

namespace UUID

/-- The characters of `str(uuid)`. -/
def chars (id : UUID) : List Char := dashed (numeral 16 32 id.int)

/-- `str(uuid)`. -/
def str (id : UUID) : String := String.ofList id.chars

theorem chars_length (id : UUID) : id.chars.length = 36 := by
  simp [chars, dashed, numeral_length]

/-- Different UUIDs have different texts: no digit is a dash, so the digits can be read
back.
-/
theorem chars_inj {left right : UUID} (same : left.chars = right.chars) : left = right := by
  have noDash : ∀ digit < 16, Nat.digitChar digit ≠ '-' := by decide
  have plain (id : UUID) : ∀ digit ∈ numeral 16 32 id.int, digit ≠ '-' := by
    intro character member
    obtain ⟨digit, small, rfl⟩ := mem_numeral (by omega) member
    exact noDash digit small
  have digits : numeral 16 32 left.int = numeral 16 32 right.int := by
    rw [← filter_dashed (plain left), ← filter_dashed (plain right)]
    exact congrArg (List.filter _) same
  have bound : (2 : Nat) ^ 128 = 16 ^ 32 := by decide
  have numbers := numeral_inj (by omega) (by omega) (left.int.isLt.trans_eq bound)
    (right.int.isLt.trans_eq bound) digits
  cases left
  cases right
  simp only [UUID.mk.injEq]
  exact Fin.ext numbers

end UUID

example : (UUID.mk 0xc0ffee).str = "00000000-0000-0000-0000-000000c0ffee" := by decide

end Turbocat.Python
