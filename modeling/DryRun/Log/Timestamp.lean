import DryRun.Json.Basic

/-!
# Timestamps

A moment is a number of seconds since the beginning of 1970 in universal time. It is written with
milliseconds, cut off after the third place, or with microseconds, rounded. A moment whose seconds do not
fit in 64 bits, or whose year does not fit in 32, cannot be written; with microseconds the year has to have
at most four digits.
-/

namespace DryRun.Log

/-- A date of the calendar. -/
structure Date where
  year : Int
  month : Nat
  day : Nat
deriving DecidableEq, Repr

/-- The date of a number of days after the first of January 1970. Years are counted from March, in cycles
of 400 years. -/
def Date.ofDays (days : Int) : Date :=
  let shifted := days + 719468
  let era := shifted.fdiv 146097
  let dayOfEra := (shifted - era * 146097).toNat
  let yearOfEra := (dayOfEra - dayOfEra / 1460 + dayOfEra / 36524 - dayOfEra / 146096) / 365
  let dayOfYear := dayOfEra - (365 * yearOfEra + yearOfEra / 4 - yearOfEra / 100)
  let shiftedMonth := (5 * dayOfYear + 2) / 153
  let day := dayOfYear - (153 * shiftedMonth + 2) / 5 + 1
  let month := if shiftedMonth < 10 then shiftedMonth + 3 else shiftedMonth - 9
  let year := (yearOfEra : Int) + era * 400 + (if month ≤ 2 then 1 else 0)
  ⟨year, month, day⟩

/-- The date that a number of seconds falls on. -/
def Date.ofSeconds (seconds : Int) : Date := Date.ofDays (seconds.fdiv 86400)

/-- The month and day of a date, and the time of day of a number of seconds on it, with `separator`
between them. -/
def dayTime (separator : Char) (seconds : Int) : Text :=
  let date := Date.ofSeconds seconds
  let rest := (seconds - seconds.fdiv 86400 * 86400).toNat
  ['-'] ++ Text.padded 2 date.month ++ ['-'] ++ Text.padded 2 date.day ++ [separator] ++
    Text.padded 2 (rest / 3600) ++ [':'] ++ Text.padded 2 (rest / 60 % 60) ++ [':'] ++
    Text.padded 2 (rest % 60)

/-- Why a moment cannot be written. -/
inductive TimeError where
  /-- The year has too many digits or is not positive. -/
  | year (n : Int)
  /-- The year does not fit in 32 bits. -/
  | calendar
  /-- The seconds do not fit in 64 bits. -/
  | seconds
deriving DecidableEq, Repr

def TimeError.message : TimeError → Text
  | .year n => "year ".toList ++ Text.ofInt n ++ " is out of range".toList
  | .calendar => "[Errno 75] Value too large for defined data type".toList
  | .seconds => "timestamp out of range for platform time_t".toList

/-- The year of a number of seconds, in 32 bits, if the calendar reaches it. -/
def yearOf (seconds : Int) : Except TimeError Int :=
  if seconds < -9223372036854775808 || 9223372036854775808 ≤ seconds then .error .seconds
  else
    let year := (Date.ofSeconds seconds).year
    if year - 1900 < -2147483648 || 2147483648 ≤ year - 1900 then .error .calendar
    else .ok (year.bmod 4294967296)

/-- A moment: whether it lies before 1970, the whole seconds, and the rest of a second as a quotient. -/
structure Moment where
  before : Bool
  whole : Nat
  num : Nat
  den : Nat
deriving DecidableEq, Repr

/-- The moment that a number of seconds stands for. -/
def Moment.ofReal : Real64 → Moment
  | .finite negative m e =>
    let (whole, num, den) := Real64.split m e
    ⟨negative, whole, num, den⟩
  | _ => ⟨false, 0, 0, 1⟩

/-- The moment that a JSON number stands for. -/
def Moment.ofJson : Json → Moment
  | .int n => ⟨n < 0, n.natAbs, 0, 1⟩
  | .real x => Moment.ofReal x
  | _ => ⟨false, 0, 0, 1⟩

namespace Moment

/-- The rest of a second times `scale`, as a binary number. -/
def scaled (t : Moment) (scale : Nat) : Nat × Nat × Nat :=
  match Real64.ofRatio false (t.num * scale) t.den with
  | .finite _ m e => Real64.split m e
  | _ => (0, 0, 1)

/-- The thousandths of a second, cut off. -/
def milliseconds (t : Moment) : Nat := (t.scaled 1000).1

/-- The millionths of a second, rounded, a half going to the even one. -/
def microseconds (t : Moment) : Nat :=
  let (whole, num, den) := t.scaled 1000000
  Real64.roundQuotient (whole * den + num) den

/-- The last whole second at or before the moment. -/
def floor (t : Moment) : Int :=
  if t.before then if t.num == 0 then -(t.whole : Int) else -(t.whole : Int) - 1 else t.whole

/-- The moment with milliseconds after a comma. -/
def plain (t : Moment) : Except TimeError Text :=
  match yearOf t.floor with
  | .error e => .error e
  | .ok year =>
    let ms := t.milliseconds
    if year < -2147481748 then .error .calendar
    else .ok (Text.ofInt year ++ dayTime ' ' t.floor ++ [','] ++
      (if t.before && ms != 0 then '-' :: Text.padded 2 ms else Text.padded 3 ms))

/-- Whole seconds and the microseconds after them. -/
def rounded (t : Moment) : Int × Nat :=
  let us := t.microseconds
  if t.before then
    if us == 0 then (-(t.whole : Int), 0)
    else if us == 1000000 then (-(t.whole : Int) - 1, 0)
    else (-(t.whole : Int) - 1, 1000000 - us)
  else if us == 1000000 then ((t.whole : Int) + 1, 0)
  else (t.whole, us)

/-- The moment with microseconds, unless they are zero, and the offset of universal time. -/
def iso (t : Moment) : Except TimeError Text :=
  let (seconds, us) := t.rounded
  match yearOf seconds with
  | .error e => .error e
  | .ok year =>
    if year < 1 || 9999 < year then .error (.year year)
    else .ok (Text.padded 4 year.toNat ++ dayTime 'T' seconds ++
      (if us == 0 then [] else '.' :: Text.padded 6 us) ++ "+00:00".toList)

end Moment

end DryRun.Log
