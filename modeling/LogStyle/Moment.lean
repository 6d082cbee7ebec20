import LogStyle.Text.Basic

/-! # Dates and times of day

The local time a line is written at, and its parts: names in English, places in the week and in the year,
and weeks numbered in three ways.
-/

namespace LogStyle

/-- A day of the Gregorian calendar. -/
structure Date where
  year : Nat
  month : Nat
  day : Nat
  deriving Repr, DecidableEq

namespace Date

/-- Whether a year has a 29th of February. -/
def isLeap (year : Nat) : Bool :=
  year % 4 = 0 && (year % 100 ≠ 0 || year % 400 = 0)

/-- The days of the twelve months of a year. -/
def monthLengths (year : Nat) : List Nat :=
  [31, if isLeap year then 29 else 28, 31, 30, 31, 30, 31, 31, 30, 31, 30, 31]

/-- The number of days in a month, months counted from one. -/
def daysInMonth (year month : Nat) : Nat :=
  ((monthLengths year)[month - 1]?).getD 0

/-- The place of a day in its year, counted from one. -/
def dayOfYear (d : Date) : Nat :=
  ((monthLengths d.year).take (d.month - 1)).foldl (· + ·) d.day

/-- The days up to a day since the calendar began, the first day of year one counting one. -/
def dayNumber (d : Date) : Nat :=
  let past := d.year - 1
  past * 365 + past / 4 - past / 100 + past / 400 + d.dayOfYear

/-- The day of the week, Sunday being zero. -/
def weekday (d : Date) : Nat :=
  d.dayNumber % 7

/-- The day of the week from one to seven, Monday being one. -/
def weekdayFromMonday (d : Date) : Nat :=
  if d.weekday = 0 then 7 else d.weekday

/-- The number of days in a year. -/
def daysInYear (year : Nat) : Nat :=
  if isLeap year then 366 else 365

/-- The week of the year, a new one starting on each Sunday; the days before the first one are week zero. -/
def weekFromSunday (d : Date) : Nat :=
  (d.dayOfYear + 6 - d.weekday) / 7

/-- The week of the year, a new one starting on each Monday; the days before the first one are week zero. -/
def weekFromMonday (d : Date) : Nat :=
  (d.dayOfYear + 7 - d.weekdayFromMonday) / 7

/-- The year that a day's week belongs to, and the number of the week in it. Weeks start on Mondays and
    belong to the year of their Thursday. -/
def weekYear (d : Date) : Nat × Nat :=
  let thursday : Int := (d.dayOfYear : Int) + 4 - d.weekdayFromMonday
  let (year, day) : Nat × Int :=
    if thursday < 1 then (d.year - 1, thursday + daysInYear (d.year - 1))
    else if (daysInYear d.year : Int) < thursday then (d.year + 1, thursday - daysInYear d.year)
    else (d.year, thursday)
  (year, ((day - 1) / 7).toNat + 1)

end Date

/-- A day and a time of that day. -/
structure Moment where
  date : Date
  hour : Nat := 0
  minute : Nat := 0
  second : Nat := 0
  microsecond : Nat := 0
  deriving Repr, DecidableEq

namespace Moment

/-- The English names of the days of the week, from Sunday. -/
def weekdayNames : List Text :=
  ["Sunday", "Monday", "Tuesday", "Wednesday", "Thursday", "Friday", "Saturday"]

/-- The English names of the months. -/
def monthNames : List Text :=
  ["January", "February", "March", "April", "May", "June", "July", "August", "September", "October",
    "November", "December"]

/-- The name of the day of the week. -/
def weekdayName (m : Moment) : Text :=
  (weekdayNames[m.date.weekday]?).getD "?"

/-- The name of the month. -/
def monthName (m : Moment) : Text :=
  (monthNames[m.date.month - 1]?).getD "?"

/-- The hour on a clock with twelve hours. -/
def clockHour (m : Moment) : Nat :=
  if m.hour % 12 = 0 then 12 else m.hour % 12

/-- A number filled up with zeros on the left. -/
def zeros (width n : Nat) : Text :=
  Text.zeroPad width (Text.ofNat n)

/-- A number filled up with spaces on the left. -/
def blanks (n : Nat) : Text :=
  Text.padLeft 2 (Text.ofNat n)

/-- The microseconds since the calendar began. -/
def microseconds (m : Moment) : Int :=
  let seconds : Nat := 86400 * m.date.dayNumber + 3600 * m.hour + 60 * m.minute + m.second
  (1000000 * seconds + m.microsecond : Nat)

/-- The microseconds of universal time, given the offset from it in seconds. -/
def instant (m : Moment) (offset : Int) : Int :=
  m.microseconds - 1000000 * offset

/-- The seconds since the beginning of 1970. -/
def secondsSince1970 (m : Moment) : Int :=
  let days : Int := (m.date.dayNumber : Int) - (⟨1970, 1, 1⟩ : Date).dayNumber
  86400 * days + 3600 * m.hour + 60 * m.minute + m.second

/-- The day as month, day and two digits of the year. -/
def shortDay (m : Moment) : Text :=
  zeros 2 m.date.month ++ "/" ++ zeros 2 m.date.day ++ "/" ++ zeros 2 (m.date.year % 100)

/-- The hour and the minute. -/
def hourMinute (m : Moment) : Text :=
  zeros 2 m.hour ++ ":" ++ zeros 2 m.minute

/-- The time of day to the second. -/
def clock (m : Moment) : Text :=
  m.hourMinute ++ ":" ++ zeros 2 m.second

/-- The half of the day. -/
def half (m : Moment) : Text :=
  if m.hour < 12 then "AM" else "PM"

/-- The day as year, month and day. -/
def longDay (m : Moment) : Text :=
  Text.ofNat m.date.year ++ "-" ++ zeros 2 m.date.month ++ "-" ++ zeros 2 m.date.day

/-- The time of day to the second on a clock with twelve hours. -/
def halfDayClock (m : Moment) : Text :=
  zeros 2 m.clockHour ++ ":" ++ zeros 2 m.minute ++ ":" ++ zeros 2 m.second ++ " " ++ m.half

/-- The day and the time of day with their names. -/
def dayAndClock (m : Moment) : Text :=
  m.weekdayName.take 3 ++ " " ++ m.monthName.take 3 ++ " " ++ blanks m.date.day ++ " " ++ m.clock ++ " "
    ++ Text.ofNat m.date.year

end Moment

end LogStyle
