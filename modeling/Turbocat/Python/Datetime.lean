import Turbocat.Python.Values
import Mathlib.Data.Nat.Log
import Mathlib.Tactic.Linarith

/-! Aware UTC datetimes and timedeltas in whole microseconds, with the ranges and the
`OverflowError`s of the `datetime` module.
-/

namespace Turbocat.Python

/-- Microseconds in a second. -/
def second : Int := 1000000

/-- Microseconds in a day. -/
def day : Int := 86400 * second

/-- The day number of 1 January of year 1, counted from the UNIX epoch. -/
def minDay : Int := -719162

/-- The day number of 31 December 9999. -/
def maxDay : Int := 2932896

/-- `OverflowError("date value out of range")`. -/
def dateOutOfRange : PyException := ⟨.overflowError, "date value out of range"⟩

/-- An aware datetime in UTC: microseconds since the UNIX epoch, years 1 to 9999. -/
@[ext]
structure Datetime where
  us : Int
  lower : minDay * day ≤ us
  upper : us < (maxDay + 1) * day
  deriving DecidableEq, Repr

namespace Datetime

instance : Inhabited Datetime := ⟨⟨0, by decide, by decide⟩⟩

/-- The datetime at `us` microseconds, when its year is in range. -/
def ofUs (us : Int) : Except PyException Datetime :=
  if range : minDay * day ≤ us ∧ us < (maxDay + 1) * day then .ok ⟨us, range.1, range.2⟩
  else .error dateOutOfRange

theorem ofUs_ok_iff {us : Int} {t : Datetime} : ofUs us = .ok t ↔ t.us = us := by
  unfold ofUs
  split
  · next range => simp [Datetime.ext_iff, eq_comm]
  · next range =>
      simp only [reduceCtorEq, false_iff]
      intro same
      subst same
      exact range ⟨t.lower, t.upper⟩

/-- The calendar date, as a day number from the UNIX epoch. -/
def date (t : Datetime) : Int := t.us / day

theorem date_lower (t : Datetime) : minDay ≤ t.date := by
  have bound := t.lower
  unfold date
  simp only [day, second, minDay] at *
  omega

theorem date_upper (t : Datetime) : t.date ≤ maxDay := by
  have bound := t.upper
  unfold date
  simp only [day, second, maxDay] at *
  omega

/-- `t.timestamp()` is the double nearest to `us / 1000000`. Its leading bit is found on
`|us| * 2 ^ 20 / 1000000`, which is at least one unless `us` is zero; the mantissa is the
timestamp in units of the last of 53 bits.
-/
def timestampScale (t : Datetime) : Nat :=
  2 ^ (72 - Nat.log2 (t.us.natAbs * 2 ^ 20 / 1000000))

/-- The rounded timestamp, in units of `1 / timestampScale`. -/
def timestampMantissa (t : Datetime) : Int :=
  roundHalfEven (t.us * t.timestampScale) 1000000

/-- `int(t.timestamp())`: the double, truncated towards zero. -/
def intTimestamp (t : Datetime) : Int := t.timestampMantissa.tdiv t.timestampScale

theorem timestampScale_pos (t : Datetime) : 0 < t.timestampScale := by
  unfold timestampScale
  positivity

/-- A whole second at or before the instant is at or before the truncated timestamp: the
double next to it cannot be below the whole second, and truncation moves up or to the
floor.
-/
theorem le_intTimestamp {t : Datetime} {c : Int} (before : c * second ≤ t.us)
    : c ≤ t.intTimestamp := by
  have positive := t.timestampScale_pos
  have mantissa : c * t.timestampScale ≤ t.timestampMantissa := by
    apply le_roundHalfEven (by omega)
    have scaled := Int.mul_le_mul_of_nonneg_right before
      (by omega : (0 : Int) ≤ t.timestampScale)
    rw [Int.mul_right_comm] at scaled
    exact scaled
  have floor : c ≤ t.timestampMantissa / t.timestampScale :=
    (Int.le_ediv_iff_mul_le (by omega)).mpr mantissa
  have truncated : t.timestampMantissa / t.timestampScale ≤ t.intTimestamp := by
    unfold intTimestamp
    rw [Int.tdiv_eq_ediv]
    split <;> simp_all [Int.sign_eq_one_of_pos]
  exact floor.trans truncated

/-- A whole second below the truncated timestamp is before the instant: the truncated
timestamp is at most the ceiling.
-/
theorem lt_of_lt_intTimestamp {t : Datetime} {c : Int} (below : c < t.intTimestamp)
    : c * second < t.us := by
  by_contra late
  have positive := t.timestampScale_pos
  have mantissa : t.timestampMantissa ≤ c * t.timestampScale := by
    apply roundHalfEven_le (by omega)
    have scaled := Int.mul_le_mul_of_nonneg_right (Int.not_lt.mp late)
      (by omega : (0 : Int) ≤ t.timestampScale)
    rw [Int.mul_right_comm c second] at scaled
    exact scaled
  have truncated : t.intTimestamp ≤ c := by
    have least := Int.tdiv_le_tdiv (by omega : (0 : Int) < t.timestampScale) mantissa
    rwa [Int.mul_tdiv_cancel _ (by omega)] at least
  omega

/-- The leading bit of a timestamp, counted from `2 ^ -20`. -/
def leadingBit (t : Datetime) : Nat := Nat.log2 (t.us.natAbs * 2 ^ 20 / 1000000)

theorem leadingBit_le (t : Datetime) : t.leadingBit ≤ 72 := by
  have lower := t.lower
  have upper := t.upper
  simp only [day, second, minDay, maxDay] at lower upper
  have bound : t.us.natAbs * 2 ^ 20 / 1000000 < 2 ^ 72 := by omega
  unfold leadingBit
  by_cases zero : t.us.natAbs * 2 ^ 20 / 1000000 = 0
  · rw [zero]
    decide
  · exact ((Nat.log2_lt zero).mpr bound).le

theorem timestampScale_eq (t : Datetime) : t.timestampScale = 2 ^ (72 - t.leadingBit) := rfl

/-- The mantissa of a leading bit has at least 53 bits. -/
theorem scaled_ge {t : Datetime} (positive : t.leadingBit ≠ 0)
    : 2 ^ 52 * 1000000 ≤ t.us.natAbs * t.timestampScale := by
  have nonzero : t.us.natAbs * 2 ^ 20 / 1000000 ≠ 0 := by
    intro zero
    exact positive (by rw [leadingBit, zero]; rfl)
  have low : 2 ^ t.leadingBit * 1000000 ≤ t.us.natAbs * 2 ^ 20 :=
    (Nat.le_div_iff_mul_le (by decide)).mp (Nat.log2_self_le nonzero)
  have scaled := Nat.mul_le_mul_right (2 ^ (72 - t.leadingBit)) low
  rw [Nat.mul_right_comm, ← pow_add, Nat.add_sub_cancel' t.leadingBit_le,
    Nat.mul_right_comm] at scaled
  rw [timestampScale_eq]
  refine Nat.le_of_mul_le_mul_right ?_ (by decide : 0 < 2 ^ 20)
  calc 2 ^ 52 * 1000000 * 2 ^ 20
      = 2 ^ 72 * 1000000 := by norm_num
    _ ≤ t.us.natAbs * 2 ^ (72 - t.leadingBit) * 2 ^ 20 := scaled

/-- The mantissa of a lower leading bit stays below the next power of two. -/
theorem scaled_le {t : Datetime} {bit : Nat} (below : t.leadingBit < bit)
    : t.us.natAbs * t.timestampScale ≤ 2 ^ 52 * 2 ^ (bit - t.leadingBit) * 1000000 := by
  have high : t.us.natAbs * 2 ^ 20 < 2 ^ (t.leadingBit + 1) * 1000000 :=
    (Nat.div_lt_iff_lt_mul (by decide)).mp Nat.lt_log2_self
  have next : t.us.natAbs * 2 ^ 20 ≤ 2 ^ bit * 1000000 :=
    high.le.trans (Nat.mul_le_mul_right _ (Nat.pow_le_pow_right (by decide) below))
  have scaled := Nat.mul_le_mul_right (2 ^ (72 - t.leadingBit)) next
  have exponents : bit + (72 - t.leadingBit) = 20 + (52 + (bit - t.leadingBit)) := by
    have bound := t.leadingBit_le
    omega
  rw [Nat.mul_right_comm, Nat.mul_right_comm (2 ^ bit), ← pow_add, exponents, pow_add, pow_add]
    at scaled
  rw [timestampScale_eq]
  generalize t.us.natAbs * 2 ^ (72 - t.leadingBit) = mantissa at scaled ⊢
  generalize 2 ^ (bit - t.leadingBit) = factor at scaled ⊢
  omega

/-- Truncated timestamps are ordered when a multiple of a common grid lies between their
mantissas.
-/
theorem intTimestamp_le_of_between {t u : Datetime} {n : Int} {grid left right : Nat}
    (leftScale : t.timestampScale = grid * left) (rightScale : u.timestampScale = grid * right)
    (below : t.timestampMantissa ≤ n * left) (above : n * right ≤ u.timestampMantissa)
    : t.intTimestamp ≤ u.intTimestamp := by
  have leftPositive := t.timestampScale_pos
  have rightPositive := u.timestampScale_pos
  have leftFactor : 0 < left := Nat.pos_of_mul_pos_left (leftScale ▸ leftPositive)
  have rightFactor : 0 < right := Nat.pos_of_mul_pos_left (rightScale ▸ rightPositive)
  calc t.intTimestamp
      ≤ (n * left).tdiv t.timestampScale := Int.tdiv_le_tdiv (by omega) below
    _ = (n * right).tdiv u.timestampScale := by
        rw [leftScale, rightScale, Nat.cast_mul, Nat.cast_mul,
          Int.mul_tdiv_mul_of_pos_left _ _ (by omega),
          Int.mul_tdiv_mul_of_pos_left _ _ (by omega)]
    _ ≤ u.intTimestamp := Int.tdiv_le_tdiv (by omega) above

theorem leadingBit_mono {t u : Datetime} (le : t.us.natAbs ≤ u.us.natAbs)
    : t.leadingBit ≤ u.leadingBit := by
  unfold leadingBit
  rw [Nat.log2_eq_log_two, Nat.log2_eq_log_two]
  exact Nat.log_mono_right (Nat.div_le_div_right (Nat.mul_le_mul_right _ le))

/-- A grid is as many times finer as its leading bits are lower. -/
theorem timestampScale_of_le {t u : Datetime} (le : t.leadingBit ≤ u.leadingBit)
    : t.timestampScale = u.timestampScale * 2 ^ (u.leadingBit - t.leadingBit) := by
  have bound := u.leadingBit_le
  rw [timestampScale_eq, timestampScale_eq, ← pow_add]
  congr 1
  omega

/-- Truncated timestamps keep the order of their instants. On one grid rounding does; from
one grid to the next a power of two lies between.
-/
theorem intTimestamp_mono {t u : Datetime} (le : t.us ≤ u.us)
    : t.intTimestamp ≤ u.intTimestamp := by
  by_cases sameBit : t.leadingBit = u.leadingBit
  · have sameScale : t.timestampScale = u.timestampScale := by
      rw [timestampScale_eq, timestampScale_eq, sameBit]
    have mantissas : t.timestampMantissa ≤ u.timestampMantissa := by
      unfold timestampMantissa
      rw [sameScale]
      exact roundHalfEven_mono (by decide)
        (Int.mul_le_mul_of_nonneg_right le (Int.natCast_nonneg _))
    unfold intTimestamp
    rw [sameScale]
    exact Int.tdiv_le_tdiv (by have := u.timestampScale_pos; omega) mantissas
  · by_cases before : u.us < 0
    · have lower := leadingBit_mono (show u.us.natAbs ≤ t.us.natAbs by omega)
      have above := Int.ofNat_le.mpr (scaled_ge (show t.leadingBit ≠ 0 by omega))
      have below := Int.ofNat_le.mpr (scaled_le (show u.leadingBit < t.leadingBit by omega))
      have leftSize : t.us = -(t.us.natAbs : Int) := by omega
      have rightSize : u.us = -(u.us.natAbs : Int) := by omega
      push_cast at above below
      refine @intTimestamp_le_of_between t u (-2 ^ 52) t.timestampScale 1
        (2 ^ (t.leadingBit - u.leadingBit)) (Nat.mul_one _).symm (timestampScale_of_le lower)
        (roundHalfEven_le (by decide) ?_) (le_roundHalfEven (by decide) ?_)
      · rw [leftSize]
        push_cast
        linarith
      · rw [rightSize]
        push_cast
        linarith
    · by_cases after : 0 < t.us
      · have lower := leadingBit_mono (show t.us.natAbs ≤ u.us.natAbs by omega)
        have above := Int.ofNat_le.mpr (scaled_ge (show u.leadingBit ≠ 0 by omega))
        have below := Int.ofNat_le.mpr (scaled_le (show t.leadingBit < u.leadingBit by omega))
        have leftSize : t.us = (t.us.natAbs : Int) := by omega
        have rightSize : u.us = (u.us.natAbs : Int) := by omega
        push_cast at above below
        refine @intTimestamp_le_of_between t u (2 ^ 52) u.timestampScale
          (2 ^ (u.leadingBit - t.leadingBit)) 1 (timestampScale_of_le lower)
          (Nat.mul_one _).symm (roundHalfEven_le (by decide) ?_)
          (le_roundHalfEven (by decide) ?_)
        · rw [leftSize]
          push_cast
          linarith
        · rw [rightSize]
          push_cast
          linarith
      · have left : t.us * t.timestampScale ≤ 0 :=
          Int.mul_nonpos_of_nonpos_of_nonneg (by omega) (Int.natCast_nonneg _)
        have right : 0 ≤ u.us * u.timestampScale :=
          Int.mul_nonneg (by omega) (Int.natCast_nonneg _)
        refine @intTimestamp_le_of_between t u 0 1 t.timestampScale u.timestampScale
          (Nat.one_mul _).symm (Nat.one_mul _).symm (roundHalfEven_le (by decide) ?_)
          (le_roundHalfEven (by decide) ?_)
        · simpa using left
        · simpa using right

end Datetime

/-- A timedelta in microseconds; its magnitude is below a thousand million days. -/
structure Timedelta where
  us : Int
  deriving DecidableEq, Repr

/-- A timedelta of `us` microseconds, or the `OverflowError` of a day count past the
limit.
-/
def Timedelta.ofUs (us : Int) : Except PyException Timedelta :=
  if -999999999 * day ≤ us ∧ us < 1000000000 * day then .ok ⟨us⟩
  else
    .error ⟨.overflowError,
      "days=" ++ toString (us / day) ++ "; must have magnitude <= 999999999"⟩

/-- `timedelta(days=days)` for a value of unknown type. A fraction of a microsecond is
rounded half to even, and a bool counts as an int.
-/
def timedelta (days : Json) : Except PyException Timedelta :=
  match days with
  | .int count => Timedelta.ofUs (count * day)
  | .bool flag => Timedelta.ofUs (if flag then day else 0)
  | .float (.finite count) =>
      Timedelta.ofUs (roundHalfEven (count * day).num (count * day).den)
  | .float (.infinity _) =>
      .error ⟨.overflowError, "cannot convert float infinity to integer"⟩
  | .float .nan => .error ⟨.valueError, "cannot convert float NaN to integer"⟩
  | other =>
      .error ⟨.typeError,
        "unsupported type for timedelta days component: " ++ other.typeName⟩

/-- `t - delta`. -/
def Datetime.sub (t : Datetime) (delta : Timedelta) : Except PyException Datetime :=
  Datetime.ofUs (t.us - delta.us)

theorem Timedelta.ofUs_ok {us : Int} {delta : Timedelta} (made : Timedelta.ofUs us = .ok delta)
    : delta.us = us := by
  unfold Timedelta.ofUs at made
  split at made
  · cases made
    rfl
  · cases made

/-- A day count the code may subtract without moving forward in time. -/
def NonNegativeDays : Json → Prop
  | .int count => 0 ≤ count
  | .float (.finite count) => 0 ≤ count
  | .float (.infinity negative) => negative = false
  | .bool _ => True
  | _ => False

instance : DecidablePred NonNegativeDays
  | .int count => inferInstanceAs (Decidable (0 ≤ count))
  | .float (.finite count) => inferInstanceAs (Decidable (0 ≤ count))
  | .float (.infinity negative) => inferInstanceAs (Decidable (negative = false))
  | .bool _ => isTrue trivial
  | .float .nan => isFalse id
  | .null => isFalse id
  | .str _ => isFalse id
  | .list _ => isFalse id
  | .dict _ => isFalse id

/-- A non-negative day count gives a non-negative timedelta, by cases of the value. -/
theorem timedelta_nonneg {days : Json} {delta : Timedelta} (nonneg : NonNegativeDays days)
    (made : timedelta days = .ok delta)
    : 0 ≤ delta.us := by
  have dayPositive : 0 < day := by decide
  cases days with
  | int count =>
      rw [Timedelta.ofUs_ok made]
      exact Int.mul_nonneg nonneg dayPositive.le
  | bool flag =>
      rw [Timedelta.ofUs_ok made]
      split <;> omega
  | float value =>
      cases value with
      | finite count =>
          rw [Timedelta.ofUs_ok made]
          have scaled : 0 ≤ count * day := mul_nonneg nonneg (by exact_mod_cast dayPositive.le)
          refine le_roundHalfEven (count * (day : Rat)).den_pos ?_
          simpa using Rat.num_nonneg.mpr scaled
      | infinity negative => cases made
      | nan => cases made
  | null | str _ | list _ | dict _ => cases made

/-- Subtracting a non-negative timedelta gives an instant that is not later. -/
theorem Datetime.sub_le {t earlier : Datetime} {delta : Timedelta} (nonneg : 0 ≤ delta.us)
    (subtracted : t.sub delta = .ok earlier)
    : earlier.us ≤ t.us := by
  have same := Datetime.ofUs_ok_iff.mp subtracted
  omega

end Turbocat.Python
