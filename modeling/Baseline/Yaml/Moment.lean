import Baseline.Yaml.Tag

/-!
# Dates and times

A date of the Gregorian calendar, perhaps with a time and the offset of its time zone.
-/

namespace Baseline.Yaml

/-- A date, perhaps with a time of day in microseconds and the offset of its zone in minutes. -/
structure Moment where
  year : Nat
  month : Nat
  day : Nat
  clock : Option (Nat × Nat × Nat × Nat)
  offset : Option Int
  deriving DecidableEq, Repr

/-- Why the parts of a date and time are refused. -/
inductive CalendarError where
  | year (year : Nat)
  | month
  | day
  | hour
  | minute
  | second
  | offset (minutes : Int)
  deriving DecidableEq, Repr

/-- A span of minutes as it is shown, in days and seconds. -/
def showSpan (minutes : Int) : String :=
  let days := minutes / 1440
  let seconds := minutes % 1440 * 60
  let parts := (if days == 0 then [] else [s!"days={days}"]) ++
    (if seconds == 0 then [] else [s!"seconds={seconds}"])
  "datetime.timedelta(" ++ (if parts.isEmpty then "0" else ", ".intercalate parts) ++ ")"

/-- The wording of a refusal. -/
def CalendarError.message : CalendarError → String
  | .year n => s!"year {n} is out of range"
  | .month => "month must be in 1..12"
  | .day => "day is out of range for month"
  | .hour => "hour must be in 0..23"
  | .minute => "minute must be in 0..59"
  | .second => "second must be in 0..59"
  | .offset span =>
    "offset must be a timedelta strictly between -timedelta(hours=24) and timedelta(hours=24), " ++
      "not " ++ showSpan span ++ "."

namespace Moment

/-- Whether a year has a leap day. -/
def isLeap (year : Nat) : Bool := year % 4 == 0 && (year % 100 != 0 || year % 400 == 0)

/-- The number of days of a month. -/
def daysOf (year month : Nat) : Nat :=
  if month == 2 then (if isLeap year then 29 else 28)
  else if [4, 6, 9, 11].contains month then 30 else 31

/-- The days before a date, counted from the start of the calendar. -/
def dayNumber (year month day : Nat) : Nat :=
  let past := year - 1
  let months := (List.range (month - 1)).map fun m => daysOf year (m + 1)
  past * 365 + past / 4 - past / 100 + past / 400 + months.foldl (· + ·) 0 + day

/-- Checks the year, the month and the day. -/
def checkDate (year month day : Nat) : Except CalendarError Unit :=
  if year == 0 then .error (.year year)
  else if month == 0 || 12 < month then .error .month
  else if day == 0 || daysOf year month < day then .error .day
  else .ok ()

/-- Checks the hour, the minute and the second. -/
def checkClock (hour minute second : Nat) : Except CalendarError Unit :=
  if 23 < hour then .error .hour
  else if 59 < minute then .error .minute
  else if 59 < second then .error .second
  else .ok ()

/-- The number that digits spell. -/
def number (digits : List Char) : Nat :=
  digits.foldl (fun n c => n * 10 + (c.toNat - 0x30)) 0

/-- The microseconds that the digits of a fraction spell; digits after the sixth do not count. -/
def microseconds (digits : List Char) : Nat :=
  number ((digits ++ List.replicate 6 '0').take 6)

/-- The offset of a zone in minutes. -/
def offsetOf (parts : Tag.TimestampParts) : Except CalendarError (Option Int) :=
  match parts.offset with
  | none => .ok (if parts.zone.isEmpty then none else some 0)
  | some (west, hours, minutes) =>
    let span : Int := number hours * 60 + number minutes
    let span := if west then -span else span
    if 1440 ≤ span.natAbs then .error (.offset span) else .ok (some span)

/-- The moment with these parts. -/
def ofParts (parts : Tag.TimestampParts) : Except CalendarError Moment := do
  let year := number parts.year
  let month := number parts.month
  let day := number parts.day
  match parts.time with
  | none =>
    checkDate year month day
    return ⟨year, month, day, none, none⟩
  | some (hour, minute, second) =>
    let offset ← offsetOf parts
    checkDate year month day
    checkClock (number hour) (number minute) (number second)
    return ⟨year, month, day,
      some (number hour, number minute, number second, microseconds parts.fraction), offset⟩

/-- The place of a moment on the scale of its zone, or of the common one if it has an offset. -/
def instant (m : Moment) : Int :=
  let (hour, minute, second, micro) := m.clock.getD (0, 0, 0, 0)
  let minutes : Int := (dayNumber m.year m.month m.day * 24 + hour) * 60 + minute - m.offset.getD 0
  (minutes * 60 + second) * 1000000 + micro

/-- Whether two moments are the same: of one kind, and at one place of their scale. -/
def same (a b : Moment) : Bool :=
  a.clock.isSome == b.clock.isSome && a.offset.isSome == b.offset.isSome && a.instant == b.instant

/-- A moment as it is shown; a time of day leaves out its zeros at the end. -/
def display (m : Moment) : String :=
  let date := s!"{m.year}, {m.month}, {m.day}"
  match m.clock with
  | none => "datetime.date(" ++ date ++ ")"
  | some (hour, minute, second, micro) =>
    let fine := if micro != 0 then s!", {second}, {micro}" else if second != 0 then s!", {second}"
      else ""
    let zone := match m.offset with
      | none => ""
      | some 0 => ", tzinfo=datetime.timezone.utc"
      | some minutes => ", tzinfo=datetime.timezone(" ++ showSpan minutes ++ ")"
    "datetime.datetime(" ++ date ++ s!", {hour}, {minute}" ++ fine ++ zone ++ ")"

end Moment

end Baseline.Yaml
