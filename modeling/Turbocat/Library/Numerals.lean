import Mathlib.Algebra.Order.Ring.Nat
import Mathlib.Data.List.Basic

/-! Fixed-width numerals: the last digits of a number in a base up to sixteen, padded with
zeros on the left. Numbers that fit the width are determined by their numerals and read
back from them.
-/

namespace Turbocat.Library

/-- The last `width` digits of a number in `base`, most significant first. -/
def numeral (base : Nat) : Nat → Nat → List Char
  | 0, _ => []
  | width + 1, n => numeral base width (n / base) ++ [Nat.digitChar (n % base)]

theorem numeral_length (base width n : Nat) : (numeral base width n).length = width := by
  induction width generalizing n with
  | zero => rfl
  | succ width ih => simp [numeral, ih]

/-- Every character of a numeral is a digit character. -/
theorem mem_numeral {base width n : Nat} (positive : 0 < base) {character : Char}
    (member : character ∈ numeral base width n)
    : ∃ digit < base, character = Nat.digitChar digit := by
  induction width generalizing n with
  | zero => cases member
  | succ width ih =>
      rcases List.mem_append.mp member with earlier | last
      · exact ih earlier
      · exact ⟨n % base, Nat.mod_lt n positive, List.mem_singleton.mp last⟩

/-- Different digits below sixteen have different characters, by enumeration. -/
theorem digitChar_inj
    : ∀ left < 16, ∀ right < 16, Nat.digitChar left = Nat.digitChar right → left = right := by
  decide

/-- Numbers that fit the width and have the same numeral are equal, by induction on the
width.
-/
theorem numeral_inj {base width m n : Nat} (positive : 0 < base) (small : base ≤ 16)
    (hm : m < base ^ width) (hn : n < base ^ width)
    (same : numeral base width m = numeral base width n)
    : m = n := by
  induction width generalizing m n with
  | zero => simp only [Nat.pow_zero] at hm hn; omega
  | succ width ih =>
      obtain ⟨high, low⟩ := List.append_inj' same rfl
      rw [Nat.pow_succ] at hm hn
      have highEq := ih (Nat.div_lt_of_lt_mul (by rwa [Nat.mul_comm]))
        (Nat.div_lt_of_lt_mul (by rwa [Nat.mul_comm])) high
      have lowEq := digitChar_inj _ ((Nat.mod_lt m positive).trans_le small) _
        ((Nat.mod_lt n positive).trans_le small) (List.cons.inj low).1
      rw [← Nat.div_add_mod m base, ← Nat.div_add_mod n base, highEq, lowEq]

/-- The digit a character stands for, in a base up to sixteen. -/
def digitValue (base : Nat) (character : Char) : Option Nat :=
  (List.range base).find? (fun digit => decide (Nat.digitChar digit = character))

/-- Every digit is the value of its character, by enumeration. -/
theorem digitValue_digitChar
    : ∀ base < 17, ∀ digit < base, digitValue base (Nat.digitChar digit) = some digit := by
  decide

/-- Read `width` digits from the front of a text. -/
def readNumeral (base : Nat) : Nat → List Char → Option (Nat × List Char)
  | 0, text => some (0, text)
  | width + 1, text =>
      match readNumeral base width text with
      | some (high, character :: rest) =>
          (digitValue base character).map (fun digit => (high * base + digit, rest))
      | _ => none

/-- A numeral reads back as its number, whatever follows it. Witness: induction on the
width.
-/
@[simp]
theorem readNumeral_numeral {base : Nat} (width n : Nat) (positive : 0 < base) (small : base ≤ 16)
    (fits : n < base ^ width) (rest : List Char)
    : readNumeral base width (numeral base width n ++ rest) = some (n, rest) := by
  induction width generalizing n rest with
  | zero =>
      simp only [Nat.pow_zero] at fits
      obtain rfl : n = 0 := by omega
      rfl
  | succ width ih =>
      rw [Nat.pow_succ] at fits
      have high := ih (n / base) (Nat.div_lt_of_lt_mul (by rwa [Nat.mul_comm]))
        (Nat.digitChar (n % base) :: rest)
      have low := digitValue_digitChar base (by omega) (n % base) (Nat.mod_lt n positive)
      simp only [readNumeral, numeral, List.append_assoc, List.singleton_append, high, low,
        Option.map_some, Nat.div_add_mod']

end Turbocat.Library
