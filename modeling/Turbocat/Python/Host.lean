import Turbocat.Python.Calendar

/-! The parts of the interpreter and its host that read texts or the local time zone, and
the conversions built on them.
-/

namespace Turbocat.Python

/-- What the model takes from the host as it is: readers and writers of texts, and the
offset of local time from UTC, in seconds, at each UNIX second.
-/
structure Host where
  repr : String → String
  strip : String → String
  floatOfStr : String → Option PyFloat
  intOfStr : String → Option Int
  -- `datetime.strptime(text, "%d/%m/%Y %H:%M:%S")`, as wall-clock microseconds.
  strptime : String → Option Int
  utcoffset : Int → Int

/-- A host in UTC, for texts that need no escape, hold no fraction and name no date. -/
def Host.utc : Host :=
  {
    repr := fun text => "'" ++ text ++ "'"
    strip := fun text => text.trimAscii.toString
    floatOfStr := fun text => text.toInt?.map (fun number => toDouble number)
    intOfStr := fun text => text.toInt?
    strptime := fun _ => none
    utcoffset := fun _ => 0
  }

/-- A datetime in a record: naive wall-clock microseconds, or an aware instant. -/
inductive PyDatetime where
  | naive (wall : Int)
  | aware (instant : Datetime)
  deriving DecidableEq, Repr

/-- `float(value)`. -/
def pyFloat (host : Host) (value : Json) : Except PyException PyFloat :=
  match value with
  | .int number =>
      match toDouble number with
      | .finite rounded => .ok (.finite rounded)
      | _ => .error ⟨.overflowError, "int too large to convert to float"⟩
  | .bool flag => .ok (.finite (if flag then 1 else 0))
  | .float number => .ok number
  | .str text =>
      match host.floatOfStr text with
      | some number => .ok number
      | none =>
          .error ⟨.valueError, "could not convert string to float: " ++ host.repr text⟩
  | other =>
      .error ⟨.typeError,
        "float() argument must be a string or a real number, not '" ++ other.typeName ++ "'"⟩

/-- `value / 100` of a float. -/
def PyFloat.divHundred : PyFloat → PyFloat
  | .finite value => toDouble (value / 100)
  | other => other

/-- The naive local datetime of a UNIX timestamp in microseconds. -/
def localDatetime (host : Host) (us : Int) : Except PyException PyDatetime :=
  let wall := us + host.utcoffset (us / second) * second
  if 2 ^ 63 ≤ (us / second).natAbs then
    .error ⟨.overflowError, "timestamp out of range for platform time_t"⟩
  else if minDay * day ≤ wall ∧ wall < (maxDay + 1) * day then .ok (.naive wall)
  else
    .error ⟨.valueError,
      "year " ++ toString (civilDate (wall / day)).year ++ " is out of range"⟩

/-- `datetime.fromtimestamp(value)`, without a time zone argument. -/
def fromtimestamp (host : Host) (value : Json) : Except PyException PyDatetime :=
  match value with
  | .int seconds => localDatetime host (seconds * second)
  | .bool flag => localDatetime host (if flag then second else 0)
  | .float (.finite seconds) =>
      let us := seconds * second
      localDatetime host (roundHalfEven us.num us.den)
  | .float (.infinity _) =>
      .error ⟨.overflowError, "cannot convert float infinity to integer"⟩
  | .float .nan => .error ⟨.valueError, "Invalid value NaN (not a number)"⟩
  | other =>
      .error ⟨.typeError, "'" ++ other.typeName ++ "' object cannot be interpreted as an integer"⟩

end Turbocat.Python
