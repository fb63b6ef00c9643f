/-
SchemaDoc.Calendar — dates and points in time of the proleptic Gregorian calendar.

Schemas written in YAML may hold dates. A timestamp may carry its distance
from UTC; two such timestamps are the same when they name the same instant,
and one without a distance is never the same as one with it.

§1 days, §2 dates, §3 timestamps, §4 texts.
-/
import SchemaDoc.Number.Decimal

namespace SchemaDoc

/-! ## §1 Days -/

namespace Calendar

/-- A leap year. -/
def isLeap (year : Nat) : Bool := year % 4 == 0 && (year % 100 != 0 || year % 400 == 0)

/-- The number of days of a month counted from 1. -/
def daysInMonth (year month : Nat) : Nat :=
  if month = 2 then (if isLeap year then 29 else 28)
  else if month = 4 || month = 6 || month = 9 || month = 11 then 30
  else 31

/-- The days of the months before the given one. -/
def daysBeforeMonth (year : Nat) : Nat → Nat
  | 0 => 0
  | 1 => 0
  | month + 1 => daysBeforeMonth year month + daysInMonth year month

/-- The days of the years before the given one, counted from year 1. -/
def daysBeforeYear (year : Nat) : Nat :=
  let y := year - 1
  y * 365 + y / 4 - y / 100 + y / 400

end Calendar

/-- A part of a date or time that is out of its range. -/
inductive DateError where
  | year (given : Nat)
  | month
  | day
  | hour
  | minute
  | second
  /-- A distance from UTC of a day or more, in seconds. -/
  | offset (seconds : Int)
  deriving DecidableEq

/-! ## §2 Dates -/

structure Date where
  year : Nat
  month : Nat
  day : Nat
  deriving DecidableEq

namespace Date

/-- A date from its parts, the first part out of range being the error. -/
def check (year month day : Nat) : Except DateError Date :=
  if year < 1 || 9999 < year then .error (.year year)
  else if month < 1 || 12 < month then .error .month
  else if day < 1 || Calendar.daysInMonth year month < day then .error .day
  else .ok ⟨year, month, day⟩

/-- The count of days up to this date. -/
def ordinal (d : Date) : Nat :=
  Calendar.daysBeforeYear d.year + Calendar.daysBeforeMonth d.year d.month + d.day

end Date

/-! ## §3 Timestamps -/

structure Timestamp where
  date : Date
  hour : Nat
  minute : Nat
  second : Nat
  microsecond : Nat
  /-- Seconds east of UTC, if known. -/
  offset : Option Int
  deriving DecidableEq

namespace Timestamp

/-- A time of day on a date; the distance from UTC must be less than a day. -/
def check (year month day hour minute second microsecond : Nat) (offset : Option Int) :
    Except DateError Timestamp := do
  match offset with
  | some seconds => if 86400 ≤ seconds.natAbs then throw (.offset seconds)
  | none => pure ()
  let date ← Date.check year month day
  if 23 < hour then throw .hour
  if 59 < minute then throw .minute
  if 59 < second then throw .second
  return ⟨date, hour, minute, second, microsecond, offset⟩

/-- Microseconds since the start of the calendar, at the place where the time is told. -/
def clock (t : Timestamp) : Int :=
  (((t.date.ordinal * 24 + t.hour) * 60 + t.minute) * 60 + t.second) * 1000000 + t.microsecond

/-- The instant of a timestamp, or the time of day where no distance from UTC is known. -/
def instant (t : Timestamp) : Int := t.clock - t.offset.getD 0 * 1000000

/-- The same instant, or the same time of day where no distance from UTC is known. -/
def same (s t : Timestamp) : Bool :=
  match s.offset, t.offset with
  | none, none => s.clock == t.clock
  | some a, some b => s.clock - a * 1000000 == t.clock - b * 1000000
  | _, _ => false

end Timestamp

/-! ## §4 Texts -/

/-- A length of time in whole days and the seconds beyond them, as a call that builds it. -/
def durationLiteral (seconds : Int) : String :=
  let days := seconds / 86400
  let rest := seconds % 86400
  let parts := (if days = 0 then [] else ["days=" ++ Decimal.integerText days])
    ++ (if rest = 0 then [] else ["seconds=" ++ Decimal.integerText rest])
  "datetime.timedelta(" ++ (if parts.isEmpty then "0" else ", ".intercalate parts) ++ ")"

def DateError.message : DateError → String
  | .year given => "year " ++ toString given ++ " is out of range"
  | .month => "month must be in 1..12"
  | .day => "day is out of range for month"
  | .hour => "hour must be in 0..23"
  | .minute => "minute must be in 0..59"
  | .second => "second must be in 0..59"
  | .offset seconds =>
    "offset must be a timedelta strictly between -timedelta(hours=24) and timedelta(hours=24), not "
      ++ durationLiteral seconds ++ "."

namespace Date

/-- Year, month and day in four, two and two digits. -/
def text (d : Date) : String :=
  String.ofList (Decimal.padded 4 d.year ++ ['-'] ++ Decimal.padded 2 d.month ++ ['-']
    ++ Decimal.padded 2 d.day)

/-- A date as a call that builds it. -/
def literal (d : Date) : String :=
  "datetime.date(" ++ toString d.year ++ ", " ++ toString d.month ++ ", " ++ toString d.day ++ ")"

end Date

namespace Timestamp

/-- Date and time with a separator between; microseconds only if there are any, and the distance
from UTC in hours and minutes. -/
def textWith (separator : String) (t : Timestamp) : String :=
  let two := fun n => String.ofList (Decimal.padded 2 n)
  let micro := if t.microsecond = 0 then ""
    else "." ++ String.ofList (Decimal.padded 6 t.microsecond)
  let offset := match t.offset with
    | none => ""
    | some seconds =>
      let minutes := seconds.natAbs / 60
      (if seconds < 0 then "-" else "+") ++ two (minutes / 60) ++ ":" ++ two (minutes % 60)
  t.date.text ++ separator ++ two t.hour ++ ":" ++ two t.minute ++ ":" ++ two t.second ++ micro
    ++ offset

/-- Date and time with a blank between. -/
def text (t : Timestamp) : String := t.textWith " "

/-- The digits of date and time down to the second, with a hyphen between. -/
def stamp (t : Timestamp) : String :=
  let two := Decimal.padded 2
  String.ofList (Decimal.padded 4 t.date.year ++ two t.date.month ++ two t.date.day ++ ['-']
    ++ two t.hour ++ two t.minute ++ two t.second)

/-- A timestamp as a call that builds it: seconds and microseconds are left out when they and all
that follows are zero. -/
def literal (t : Timestamp) : String :=
  let small := if t.microsecond ≠ 0 then [t.second, t.microsecond]
    else if t.second ≠ 0 then [t.second] else []
  let numbers := [t.date.year, t.date.month, t.date.day, t.hour, t.minute] ++ small
  let zone := match t.offset with
    | none => []
    | some seconds =>
      if seconds = 0 then ["tzinfo=datetime.timezone.utc"]
      else ["tzinfo=datetime.timezone(" ++ durationLiteral seconds ++ ")"]
  "datetime.datetime(" ++ ", ".intercalate (numbers.map toString ++ zone) ++ ")"

end Timestamp

end SchemaDoc
