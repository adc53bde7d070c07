import Turbocat.Library.Numerals
import Turbocat.Python.Datetime

/-! Calendar dates as day numbers, and the `MM/DD/YYYY` texts `strftime` writes for them.
Years are counted from March, so that a leap day ends its year, its century and its
400-year cycle.
-/

namespace Turbocat.Python

open Turbocat.Library

/-- The year, month and day of month of a calendar date. -/
@[ext]
structure CivilDate where
  year : Int
  month : Int
  dayOfMonth : Int
  deriving DecidableEq, Repr

/-- A year counted from 1 March, and the day in that year. -/
structure MarchDate where
  year : Int
  dayOfYear : Int

/-- The position of a day number in its 400-year cycle, century, four years and year.
1 March of year 0 is 719468 days before the epoch; 400 years have 146097 days.
-/
def marchDate (date : Int) : MarchDate :=
  let cycle := (date + 719468) / 146097
  let inCycle := (date + 719468) % 146097
  let century := min (inCycle / 36524) 3
  let inCentury := inCycle - 36524 * century
  let quad := inCentury / 1461
  let inQuad := inCentury - 1461 * quad
  let quadYear := min (inQuad / 365) 3
  ⟨400 * cycle + 100 * century + 4 * quad + quadYear, inQuad - 365 * quadYear⟩

/-- The day number of 1 March of a year. -/
def marchFirst (year : Int) : Int :=
  365 * year + year / 4 - year / 100 + year / 400 - 719468

/-- The parts of a day number determine it, and the day of the year is at most 365.
Witness: each quotient stays below the number of its parts in the next larger period.
-/
theorem marchDate_parts {date cycle inCycle century inCentury quad inQuad quadYear : Int}
    (cycleEq : cycle = (date + 719468) / 146097)
    (inCycleEq : inCycle = (date + 719468) % 146097)
    (centuryEq : century = min (inCycle / 36524) 3)
    (inCenturyEq : inCentury = inCycle - 36524 * century)
    (quadEq : quad = inCentury / 1461)
    (inQuadEq : inQuad = inCentury - 1461 * quad)
    (quadYearEq : quadYear = min (inQuad / 365) 3)
    : 0 ≤ inQuad - 365 * quadYear
      ∧ inQuad - 365 * quadYear ≤ 365
      ∧ marchFirst (400 * cycle + 100 * century + 4 * quad + quadYear)
          + (inQuad - 365 * quadYear)
        = date := by
  have dateEq : date + 719468 = 146097 * cycle + inCycle := by omega
  have centuryBound : 0 ≤ century ∧ century ≤ 3 := by omega
  have inCenturyBound : 0 ≤ inCentury ∧ inCentury ≤ 36524 := by omega
  have quadBound : 0 ≤ quad ∧ quad ≤ 24 := by omega
  have inQuadBound : 0 ≤ inQuad ∧ inQuad ≤ 1460 := by omega
  have quadYearBound : 0 ≤ quadYear ∧ quadYear ≤ 3 := by omega
  refine ⟨by omega, by omega, ?_⟩
  unfold marchFirst
  clear quadYearEq quadEq centuryEq cycleEq inCycleEq
  omega

theorem marchDate_spec (date : Int)
    : 0 ≤ (marchDate date).dayOfYear
      ∧ (marchDate date).dayOfYear ≤ 365
      ∧ marchFirst (marchDate date).year + (marchDate date).dayOfYear = date :=
  marchDate_parts rfl rfl rfl rfl rfl rfl rfl

/-- The months before a day of the March year. -/
def marchMonth (dayOfYear : Int) : Int := (5 * dayOfYear + 2) / 153

/-- The day of the month, from 1, of a day of the March year. -/
def marchDayOfMonth (dayOfYear : Int) : Int :=
  dayOfYear - (153 * marchMonth dayOfYear + 2) / 5 + 1

/-- The calendar date of a day number. -/
def civilDate (date : Int) : CivilDate :=
  let march := marchDate date
  if marchMonth march.dayOfYear < 10 then
    ⟨march.year, marchMonth march.dayOfYear + 3, marchDayOfMonth march.dayOfYear⟩
  else ⟨march.year + 1, marchMonth march.dayOfYear - 9, marchDayOfMonth march.dayOfYear⟩

/-- The day number of a calendar date. -/
def dayNumber (civil : CivilDate) : Int :=
  if civil.month ≤ 2 then
    marchFirst (civil.year - 1) + (153 * (civil.month + 9) + 2) / 5 + civil.dayOfMonth - 1
  else marchFirst civil.year + (153 * (civil.month - 3) + 2) / 5 + civil.dayOfMonth - 1

/-- The month lies in 1 to 12 and the day of the month in 1 to 31. -/
theorem civilDate_bounds (date : Int)
    : (1 ≤ (civilDate date).month ∧ (civilDate date).month ≤ 12)
      ∧ 1 ≤ (civilDate date).dayOfMonth
      ∧ (civilDate date).dayOfMonth ≤ 31 := by
  obtain ⟨lower, upper, _⟩ := marchDate_spec date
  simp only [civilDate, marchDayOfMonth]
  split <;> simp only [marchMonth] at * <;> omega

/-- The day number of a date's calendar date is that date. -/
theorem dayNumber_civilDate (date : Int) : dayNumber (civilDate date) = date := by
  obtain ⟨lower, upper, whole⟩ := marchDate_spec date
  have monthBound
      : 0 ≤ marchMonth (marchDate date).dayOfYear
        ∧ marchMonth (marchDate date).dayOfYear ≤ 11 := by
    unfold marchMonth
    omega
  simp only [civilDate]
  split
  · next early =>
      rw [dayNumber, if_neg (by simp only; omega)]
      simp only [marchDayOfMonth, Int.add_sub_cancel]
      omega
  · next late =>
      rw [dayNumber, if_pos (by simp only; omega)]
      simp only [marchDayOfMonth, Int.add_sub_cancel, Int.sub_add_cancel]
      omega

/-- A date in the supported range has a year of at most four digits. -/
theorem civilDate_year_bounds {date : Int} (lower : minDay ≤ date) (upper : date ≤ maxDay)
    : 1 ≤ (civilDate date).year ∧ (civilDate date).year ≤ 9999 := by
  obtain ⟨first, last, whole⟩ := marchDate_spec date
  simp only [civilDate]
  split <;> simp only [marchFirst, marchMonth, minDay, maxDay] at * <;> omega

/-- `date.strftime("%m/%d/%Y")`. -/
def strftimeMonthDayYear (date : Int) : String :=
  let civil := civilDate date
  String.ofList (numeral 10 2 civil.month.toNat
    ++ '/' :: numeral 10 2 civil.dayOfMonth.toNat
    ++ '/' :: numeral 10 4 civil.year.toNat)

/-- Different dates in the supported range have different texts. -/
theorem strftimeMonthDayYear_inj {left right : Int}
    (leftRange : minDay ≤ left ∧ left ≤ maxDay) (rightRange : minDay ≤ right ∧ right ≤ maxDay)
    (same : strftimeMonthDayYear left = strftimeMonthDayYear right)
    : left = right := by
  have leftBounds := civilDate_bounds left
  have rightBounds := civilDate_bounds right
  have leftYear := civilDate_year_bounds leftRange.1 leftRange.2
  have rightYear := civilDate_year_bounds rightRange.1 rightRange.2
  have texts := String.ofList_injective same
  obtain ⟨monthAndDay, year⟩ := List.append_inj texts (by simp [numeral_length])
  obtain ⟨month, day⟩ := List.append_inj monthAndDay (by simp [numeral_length])
  have monthEq := numeral_inj (by omega) (by omega) (by omega) (by omega) month
  have dayEq := numeral_inj (by omega) (by omega) (by omega) (by omega) (List.cons.inj day).2
  have yearEq := numeral_inj (by omega) (by omega) (by omega) (by omega) (List.cons.inj year).2
  have civilEq : civilDate left = civilDate right := by
    cases leftCivil : civilDate left
    cases rightCivil : civilDate right
    rw [leftCivil] at monthEq dayEq yearEq leftBounds leftYear
    rw [rightCivil] at monthEq dayEq yearEq rightBounds rightYear
    simp only at monthEq dayEq yearEq leftBounds leftYear rightBounds rightYear
    simp only [CivilDate.mk.injEq]
    omega
  rw [← dayNumber_civilDate left, civilEq, dayNumber_civilDate]

example : strftimeMonthDayYear 19782 = "02/29/2024" := by decide

end Turbocat.Python
