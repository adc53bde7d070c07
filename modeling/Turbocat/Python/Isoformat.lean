import Turbocat.Python.Calendar

/-! The ISO texts of aware UTC datetimes: what `datetime.isoformat` writes, and readers
that read every written text back.
-/

namespace Turbocat.Python

open Turbocat.Library

/-- Microseconds since midnight. -/
def Datetime.timeOfDay (t : Datetime) : Nat := (t.us % day).toNat

/-- The date part of an ISO text. -/
def isoDate (date : Int) : List Char :=
  let civil := civilDate date
  numeral 10 4 civil.year.toNat
  ++ '-' :: (numeral 10 2 civil.month.toNat ++ '-' :: numeral 10 2 civil.dayOfMonth.toNat)

/-- The time part of an ISO text; a whole second has no fraction. -/
def isoTime (timeOfDay : Nat) : List Char :=
  let seconds := timeOfDay / 1000000
  let fraction := timeOfDay % 1000000
  numeral 10 2 (seconds / 3600)
  ++ ':' :: (numeral 10 2 (seconds / 60 % 60)
    ++ ':' :: (numeral 10 2 (seconds % 60)
      ++ (if fraction = 0 then [] else '.' :: numeral 10 6 fraction)))

/-- `t.isoformat()`. -/
def Datetime.isoformat (t : Datetime) : String :=
  String.ofList (isoDate t.date ++ 'T' :: (isoTime t.timeOfDay ++ "+00:00".toList))

/-- The rest of a text after an expected character. -/
def expect (expected : Char) : List Char → Option (List Char)
  | [] => none
  | character :: rest => if character = expected then some rest else none

@[simp]
theorem expect_cons (expected : Char) (rest : List Char)
    : expect expected (expected :: rest) = some rest := by
  simp [expect]

/-- Read the date part of an ISO text as a day number. -/
def readIsoDate (text : List Char) : Option (Int × List Char) := do
  let (year, text) ← readNumeral 10 4 text
  let text ← expect '-' text
  let (month, text) ← readNumeral 10 2 text
  let text ← expect '-' text
  let (dayOfMonth, text) ← readNumeral 10 2 text
  return (dayNumber ⟨year, month, dayOfMonth⟩, text)

/-- Read the fraction of a second, which may be absent. -/
def readFraction : List Char → Option (Nat × List Char)
  | '.' :: text => readNumeral 10 6 text
  | text => some (0, text)

/-- Read the time part of an ISO text as microseconds since midnight. -/
def readIsoTime (text : List Char) : Option (Nat × List Char) := do
  let (hours, text) ← readNumeral 10 2 text
  let text ← expect ':' text
  let (minutes, text) ← readNumeral 10 2 text
  let text ← expect ':' text
  let (seconds, text) ← readNumeral 10 2 text
  let (fraction, text) ← readFraction text
  return (((hours * 60 + minutes) * 60 + seconds) * 1000000 + fraction, text)

/-- Read a text that `isoformat` writes. -/
def readIsoformat (text : String) : Option Datetime := do
  let (date, text) ← readIsoDate text.toList
  let text ← expect 'T' text
  let (timeOfDay, text) ← readIsoTime text
  if text = "+00:00".toList then (Datetime.ofUs (date * day + timeOfDay)).toOption
  else none

theorem readIsoDate_isoDate {date : Int} (lower : minDay ≤ date) (upper : date ≤ maxDay)
    (rest : List Char)
    : readIsoDate (isoDate date ++ rest) = some (date, rest) := by
  obtain ⟨month, dayOfMonth⟩ := civilDate_bounds date
  obtain ⟨firstYear, lastYear⟩ := civilDate_year_bounds lower upper
  have civil
      : CivilDate.mk (civilDate date).year.toNat (civilDate date).month.toNat
          (civilDate date).dayOfMonth.toNat
        = civilDate date := by
    ext <;> simp only <;> omega
  have readYear := readNumeral_numeral 4 (civilDate date).year.toNat
    (by omega : 0 < 10) (by omega) (by omega)
  have readMonth := readNumeral_numeral 2 (civilDate date).month.toNat
    (by omega : 0 < 10) (by omega) (by omega)
  have readDay := readNumeral_numeral 2 (civilDate date).dayOfMonth.toNat
    (by omega : 0 < 10) (by omega) (by omega)
  simp only [readIsoDate, isoDate, List.append_assoc, List.cons_append, readYear, readMonth,
    readDay, expect_cons, Option.bind_eq_bind, Option.bind_some, Option.pure_def, civil,
    dayNumber_civilDate]

theorem readFraction_written {fraction : Nat} (small : fraction < 1000000) (rest : List Char)
    : readFraction
        ((if fraction = 0 then [] else '.' :: numeral 10 6 fraction) ++ '+' :: rest)
      = some (fraction, '+' :: rest) := by
  split
  · next whole =>
      subst whole
      rfl
  · exact readNumeral_numeral 6 fraction (by omega) (by omega) (by omega) _

theorem readIsoTime_isoTime {timeOfDay : Nat} (small : timeOfDay < 86400 * 1000000)
    (rest : List Char)
    : readIsoTime (isoTime timeOfDay ++ '+' :: rest) = some (timeOfDay, '+' :: rest) := by
  have readHours := readNumeral_numeral 2 (timeOfDay / 1000000 / 3600)
    (by omega : 0 < 10) (by omega) (by omega)
  have readMinutes := readNumeral_numeral 2 (timeOfDay / 1000000 / 60 % 60)
    (by omega : 0 < 10) (by omega) (by omega)
  have readSeconds := readNumeral_numeral 2 (timeOfDay / 1000000 % 60)
    (by omega : 0 < 10) (by omega) (by omega)
  have fraction := readFraction_written
    (Nat.mod_lt timeOfDay (by omega : 0 < 1000000)) rest
  simp only [readIsoTime, isoTime, List.append_assoc, List.cons_append, readHours,
    readMinutes, readSeconds, fraction, expect_cons, Option.bind_eq_bind, Option.bind_some,
    Option.pure_def, Option.some.injEq, Prod.mk.injEq, and_true]
  omega

/-- `isoformat` texts read back as the datetime they were written for. -/
theorem readIsoformat_isoformat (t : Datetime) : readIsoformat t.isoformat = some t := by
  have small : t.timeOfDay < 86400 * 1000000 := by
    simp only [Datetime.timeOfDay, day, second]
    omega
  have whole : t.date * day + t.timeOfDay = t.us := by
    simp only [Datetime.date, Datetime.timeOfDay, day, second]
    omega
  have readTime := readIsoTime_isoTime small ['0', '0', ':', '0', '0']
  have made : Datetime.ofUs t.us = .ok t := Datetime.ofUs_ok_iff.mpr rfl
  have utc : "+00:00".toList = ['+', '0', '0', ':', '0', '0'] := rfl
  simp only [readIsoformat, Datetime.isoformat, String.toList_ofList, utc,
    readIsoDate_isoDate t.date_lower t.date_upper, Option.bind_eq_bind, Option.bind_some,
    expect_cons, readTime, if_true, whole, made]
  rfl

/-- `datetime.fromisoformat`, which reads many more formats. What the code relies on is that
it reads every text `isoformat` writes back as the datetime it was written for.
-/
structure IsoReader where
  fromisoformat : String → Option Datetime
  reads : ∀ t, fromisoformat t.isoformat = some t

/-- The reader of exactly the texts `isoformat` writes. -/
def IsoReader.written : IsoReader := ⟨readIsoformat, readIsoformat_isoformat⟩

end Turbocat.Python
