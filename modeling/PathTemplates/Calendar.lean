import PathTemplates.Text.Search

/-! # Dates and times

Days of the Gregorian calendar, times of a day in microseconds, and moments of universal time counted
from the start of 1970. -/

namespace PathTemplates

/-- A day. -/
structure Date where
  /-- The year. -/
  year : Nat
  /-- The month, from one. -/
  month : Nat
  /-- The day of the month, from one. -/
  day : Nat
  deriving DecidableEq

/-- A day and a time of it, with the distance from universal time in seconds if that is known. -/
structure Moment where
  /-- The day. -/
  date : Date
  /-- The hour. -/
  hour : Nat
  /-- The minute. -/
  minute : Nat
  /-- The second. -/
  second : Nat
  /-- The microsecond. -/
  micro : Nat
  /-- Seconds ahead of universal time. -/
  ahead : Option Int
  deriving DecidableEq

/-- A number in decimal with zeros in front, up to a width. -/
def padNat (width n : Nat) : String :=
  let ds := Nat.toDigits 10 n
  String.ofList (List.replicate (width - ds.length) '0' ++ ds)

namespace Date

/-- Whether a year has a leap day. -/
def isLeap (year : Nat) : Bool := year % 4 == 0 && (year % 100 != 0 || year % 400 == 0)

/-- The length of a month. -/
def daysInMonth (year month : Nat) : Nat :=
  match month with
  | 2 => if isLeap year then 29 else 28
  | 4 | 6 | 9 | 11 => 30
  | _ => 31

/-- The year, month and day of the month that lie a number of days after the start of 1970, counted in
the era of 400 years that starts on the first of March. -/
def partsOfDayNumber (days : Int) : Int × Nat × Nat :=
  let z := days + 719468
  let era := z.fdiv 146097
  let dayOfEra := (z.fmod 146097).toNat
  let yearOfEra := (dayOfEra - dayOfEra / 1460 + dayOfEra / 36524 - dayOfEra / 146096) / 365
  let dayOfYear := dayOfEra - (365 * yearOfEra + yearOfEra / 4 - yearOfEra / 100)
  let shifted := (5 * dayOfYear + 2) / 153
  let day := dayOfYear - (153 * shifted + 2) / 5 + 1
  let month := if shifted < 10 then shifted + 3 else shifted - 9
  let year := (yearOfEra : Int) + era * 400 + (if month ≤ 2 then 1 else 0)
  (year, month, day)

/-- How many days after the start of 1970 a day lies. -/
def dayNumber (d : Date) : Int :=
  let year : Int := if d.month ≤ 2 then (d.year : Int) - 1 else d.year
  let era := year.fdiv 400
  let yearOfEra := year.fmod 400
  let shifted : Int := if d.month > 2 then (d.month : Int) - 3 else (d.month : Int) + 9
  let dayOfYear := (153 * shifted + 2) / 5 + d.day - 1
  era * 146097 + yearOfEra * 365 + yearOfEra / 4 - yearOfEra / 100 + dayOfYear - 719468

/-- The date as year, month and day with hyphens between them. -/
def iso (d : Date) : String := padNat 4 d.year ++ "-" ++ padNat 2 d.month ++ "-" ++ padNat 2 d.day

end Date

/-- A span of time as whole days and the seconds of the last day. -/
def spanText (seconds : Int) : String :=
  let days := seconds.fdiv 86400
  let rest := seconds.fmod 86400
  let parts := (if days == 0 then [] else ["days=" ++ toString days]) ++
    (if rest == 0 then [] else ["seconds=" ++ toString rest])
  "datetime.timedelta(" ++ joinWith ", " parts ++ ")"

/-- Why numbers make no day or no time of a day. -/
inductive DateError
  /-- There is no such year. -/
  | year (n : Int)
  /-- There is no such month. -/
  | month
  /-- The month has no such day. -/
  | day
  /-- There is no such hour. -/
  | hour
  /-- There is no such minute. -/
  | minute
  /-- There is no such second. -/
  | second
  /-- A day or more ahead of universal time, or behind it. -/
  | ahead (seconds : Int)
  deriving DecidableEq

namespace DateError

/-- The wording of an error. -/
def message : DateError → String
  | year n => "year " ++ toString n ++ " is out of range"
  | month => "month must be in 1..12"
  | day => "day is out of range for month"
  | hour => "hour must be in 0..23"
  | minute => "minute must be in 0..59"
  | second => "second must be in 0..59"
  | ahead seconds =>
    "offset must be a timedelta strictly between -timedelta(hours=24) and timedelta(hours=24), not " ++
      spanText seconds ++ "."

end DateError

/-- The last year. -/
def Date.maxYear : Nat := 9999

/-- The day that lies a number of days after the start of 1970, if its year has a date. -/
def Date.ofDayNumber (days : Int) : Except DateError Date :=
  let (year, month, day) := Date.partsOfDayNumber days
  if 1 ≤ year && year ≤ Date.maxYear then .ok ⟨year.toNat, month, day⟩ else .error (.year year)

/-- The day of a year, a month and a day of the month. -/
def Date.ofParts (year month day : Nat) : Except DateError Date :=
  if year == 0 then .error (.year year)
  else if month == 0 || month > 12 then .error .month
  else if day == 0 || day > Date.daysInMonth year month then .error .day
  else .ok ⟨year, month, day⟩

/-- A distance from universal time as hours and minutes, and seconds if there are any. -/
def aheadText (seconds : Int) : String :=
  let n := seconds.natAbs
  let tail := if n % 60 == 0 then "" else ":" ++ padNat 2 (n % 60)
  (if seconds < 0 then "-" else "+") ++ padNat 2 (n / 3600) ++ ":" ++ padNat 2 (n / 60 % 60) ++ tail

namespace Moment

/-- The moment of a day at a time of it. The distance from universal time is looked at first. -/
def ofParts (year month day hour minute second micro : Nat) (ahead : Option Int) :
    Except DateError Moment := do
  match ahead with
  | some seconds => if seconds.natAbs ≥ 86400 then throw (.ahead seconds)
  | none => pure ()
  let date ← Date.ofParts year month day
  if hour > 23 then throw .hour
  if minute > 59 then throw .minute
  if second > 59 then throw .second
  return ⟨date, hour, minute, second, micro, ahead⟩

/-- The moment that lies a number of seconds after the start of 1970, in universal time. -/
def ofSeconds (seconds : Int) : Except DateError Moment := do
  let date ← Date.ofDayNumber (seconds.fdiv 86400)
  let rest := (seconds.fmod 86400).toNat
  return ⟨date, rest / 3600, rest / 60 % 60, rest % 60, 0, some 0⟩

/-- How many microseconds after the start of 1970 a moment lies, in universal time if its distance
from it is known. -/
def micros (m : Moment) : Int :=
  let seconds := m.date.dayNumber * 86400 + (m.hour * 3600 + m.minute * 60 + m.second : Nat) -
    m.ahead.getD 0
  seconds * 1000000 + m.micro

/-- The day and the time with a separator between them; the fraction is shown if it is not zero. -/
def iso (separator : String) (m : Moment) : String :=
  m.date.iso ++ separator ++ padNat 2 m.hour ++ ":" ++ padNat 2 m.minute ++ ":" ++
    padNat 2 m.second ++ (if m.micro == 0 then "" else "." ++ padNat 6 m.micro) ++
    (match m.ahead with
      | some seconds => aheadText seconds
      | none => "")

end Moment

end PathTemplates
