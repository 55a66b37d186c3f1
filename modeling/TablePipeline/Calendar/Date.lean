/-!
Days of the calendar from year 1 to year 9999, times of a day to the microsecond, and lengths of
time. Days are numbered from 1, the first of January of year 1; a week starts on Monday, day 0.
-/
namespace TablePipeline

namespace Calendar

def isLeap (year : Nat) : Bool := year % 4 == 0 && (year % 100 != 0 || year % 400 == 0)

def daysInYear (year : Nat) : Nat := if isLeap year then 366 else 365

def daysInMonth (year month : Nat) : Nat :=
  if month == 2 then if isLeap year then 29 else 28
  else if month == 4 || month == 6 || month == 9 || month == 11 then 30
  else 31

/-- The number of days before the first of January of a year. -/
def daysBeforeYear (year : Nat) : Nat :=
  let y := year - 1
  y * 365 + y / 4 - y / 100 + y / 400

/-- The number of days of a year before the first of a month. -/
def daysBeforeMonth (year month : Nat) : Nat :=
  (List.range (month - 1)).foldl (fun days m => days + daysInMonth year (m + 1)) 0

def maxYear : Nat := 9999

def isDay (year month day : Nat) : Bool :=
  1 ≤ year && year ≤ maxYear && 1 ≤ month && month ≤ 12 &&
    1 ≤ day && day ≤ daysInMonth year month

end Calendar

open Calendar

/-- A day of the calendar. -/
structure Date where
  year : Nat
  month : Nat
  day : Nat
  valid : isDay year month day = true := by decide
  deriving DecidableEq

namespace Date

def ofParts? (year month day : Nat) : Option Date :=
  if h : isDay year month day = true then some ⟨year, month, day, h⟩ else none

/-- The day's place in its year, from 1. -/
def dayOfYear (d : Date) : Nat := daysBeforeMonth d.year d.month + d.day

/-- The number of the day. -/
def ordinal (d : Date) : Nat := daysBeforeYear d.year + d.dayOfYear

/-- Monday is 0 and Sunday 6. -/
def weekday (d : Date) : Nat := (d.ordinal + 6) % 7

/-- The month and day of the `n`-th day of a year, `n` counted from 0. -/
def monthDay (year n : Nat) : Nat × Nat :=
  let month := ((List.range 12).filter fun m => daysBeforeMonth year (m + 1) ≤ n).length
  (month, n - daysBeforeMonth year month + 1)

/-- The day of a number, if the calendar has it. -/
def ofOrdinal? (n : Nat) : Option Date :=
  if n == 0 then none
  else
    let i := n - 1
    let (n400, i) := (i / 146097, i % 146097)
    let (n100, i) := (min (i / 36524) 3, i - min (i / 36524) 3 * 36524)
    let (n4, i) := (i / 1461, i % 1461)
    let (n1, i) := (min (i / 365) 3, i - min (i / 365) 3 * 365)
    let year := n400 * 400 + n100 * 100 + n4 * 4 + n1 + 1
    let (month, day) := monthDay year i
    ofParts? year month day

/-- The ordinal of the Monday of the first week of a year: the week that holds the fourth of
January. -/
def firstMonday (year : Nat) : Int :=
  let fourth : Int := daysBeforeYear year + 4
  fourth - (fourth + 6) % 7

/-- The year and number of the week that a day belongs to. -/
def isoWeek (d : Date) : Nat × Nat :=
  let n : Int := d.ordinal
  if n < firstMonday d.year then
    (d.year - 1, ((n - firstMonday (d.year - 1)) / 7).toNat + 1)
  else if firstMonday (d.year + 1) ≤ n then (d.year + 1, 1)
  else (d.year, ((n - firstMonday d.year) / 7).toNat + 1)

/-- The week of the year when weeks start on Sunday and days before the first one are in week 0. -/
def sundayWeek (d : Date) : Nat := (d.dayOfYear + 6 - (d.weekday + 1) % 7) / 7

/-- The week of the year when weeks start on Monday and days before the first one are in week 0. -/
def mondayWeek (d : Date) : Nat := (d.dayOfYear + 6 - d.weekday) / 7

end Date

/-- A time of day on a day. -/
structure DateTime where
  date : Date
  hour : Nat := 0
  minute : Nat := 0
  second : Nat := 0
  microsecond : Nat := 0
  deriving DecidableEq

namespace DateTime

/-- Microseconds since the start of the calendar. -/
def instant (t : DateTime) : Nat :=
  (((t.date.ordinal * 24 + t.hour) * 60 + t.minute) * 60 + t.second) * 1000000 + t.microsecond

end DateTime

/-- A length of time in microseconds. -/
structure Duration where
  microseconds : Int
  deriving DecidableEq

namespace Duration

def perSecond : Int := 1000000
def perDay : Int := 86400 * perSecond

def ofParts (days seconds microseconds : Int) : Duration :=
  ⟨days * perDay + seconds * perSecond + microseconds⟩

/-- Whole days, then seconds and microseconds that are not negative. -/
def days (d : Duration) : Int := d.microseconds.fdiv perDay
def seconds (d : Duration) : Int := (d.microseconds.fmod perDay).fdiv perSecond
def micros (d : Duration) : Int := d.microseconds.fmod perSecond

end Duration

namespace Calendar

/-- A natural number filled with zeros to at least `width` digits. -/
def padded (width n : Nat) : String :=
  let digits := Nat.toDigits 10 n
  String.ofList (List.replicate (width - digits.length) '0' ++ digits)

end Calendar

namespace Date

/-- Year, month and day with dashes between. -/
def iso (d : Date) : String := padded 4 d.year ++ "-" ++ padded 2 d.month ++ "-" ++ padded 2 d.day

end Date

namespace DateTime

/-- Day and time with `mark` between; microseconds only when there are any. -/
def iso (mark : String) (t : DateTime) : String :=
  let fraction := if t.microsecond == 0 then "" else "." ++ padded 6 t.microsecond
  t.date.iso ++ mark ++ padded 2 t.hour ++ ":" ++ padded 2 t.minute ++ ":" ++ padded 2 t.second ++
    fraction

end DateTime

namespace Duration

/-- Days, if any, then hours, minutes, seconds and microseconds. -/
def text (d : Duration) : String :=
  let s := d.seconds.toNat
  let plural := if d.days.natAbs == 1 then "" else "s"
  let front := if d.days == 0 then "" else s!"{d.days} day{plural}, "
  let fraction := if d.micros == 0 then "" else "." ++ padded 6 d.micros.toNat
  front ++ toString (s / 3600) ++ ":" ++ padded 2 (s / 60 % 60) ++ ":" ++ padded 2 (s % 60) ++
    fraction

end Duration

end TablePipeline
