/-!
# Calendar

Dates of the Gregorian calendar from year 1 to year 9999, and moments: a date, a time of day and,
where it is known, the distance from universal time. Building one from numbers that name no day, no
time or no offset fails with the reason.
-/

namespace StepFlow.Calendar

/-- Why numbers name no date or moment. -/
inductive Fault where
  /-- The year lies outside 1 to 9999. -/
  | year (n : Nat)
  /-- The month lies outside 1 to 12. -/
  | month
  /-- The month has no such day. -/
  | day
  /-- The hour lies outside 0 to 23. -/
  | hour
  /-- The minute lies outside 0 to 59. -/
  | minute
  /-- The second lies outside 0 to 59. -/
  | second
  /-- The distance from universal time, in microseconds, is a day or more. -/
  | offset (microseconds : Int)

/-- A day of the calendar. -/
structure Date where
  /-- The year, from 1. -/
  year : Nat
  /-- The month, from 1. -/
  month : Nat
  /-- The day of the month, from 1. -/
  day : Nat
deriving DecidableEq, Inhabited

/-- A day and a time of day. -/
structure Moment where
  /-- The day. -/
  date : Date
  /-- The hour of the day. -/
  hour : Nat
  /-- The minute of the hour. -/
  minute : Nat
  /-- The second of the minute. -/
  second : Nat
  /-- The microsecond of the second. -/
  microsecond : Nat
  /-- How far the clock is ahead of universal time, in microseconds, if that is known. -/
  offset : Option Int
deriving DecidableEq, Inhabited

/-- Whether a year has a 29th of February. -/
def isLeap (year : Nat) : Bool :=
  year % 4 == 0 && (year % 100 != 0 || year % 400 == 0)

/-- The number of days of a month. -/
def daysIn (year month : Nat) : Nat :=
  if month = 2 then (if isLeap year then 29 else 28)
  else if month = 4 ∨ month = 6 ∨ month = 9 ∨ month = 11 then 30
  else 31

/-- The date of the given year, month and day. -/
def Date.make (year month day : Nat) : Except Fault Date :=
  if year < 1 ∨ 9999 < year then .error (.year year)
  else if month < 1 ∨ 12 < month then .error .month
  else if day < 1 ∨ daysIn year month < day then .error .day
  else .ok ⟨year, month, day⟩

/-- The moment on a date with the given time of day. -/
def Moment.make (date : Date) (hour minute second microsecond : Nat) (offset : Option Int) :
    Except Fault Moment :=
  if 23 < hour then .error .hour
  else if 59 < minute then .error .minute
  else if 59 < second then .error .second
  else .ok ⟨date, hour, minute, second, microsecond, offset⟩

/-- The number of microseconds in a second. -/
def perSecond : Nat := 1000000

/-- The number of seconds in a day. -/
def daySeconds : Nat := 86400

/-- A distance from universal time of less than a day. -/
def checkOffset (microseconds : Int) : Except Fault Int :=
  if microseconds.natAbs < daySeconds * perSecond then .ok microseconds
  else .error (.offset microseconds)

/-- The number of days before a date since the start of year 1. -/
def Date.number (d : Date) : Nat :=
  let y := d.year - 1
  let months := (List.range (d.month - 1)).map fun m => daysIn d.year (m + 1)
  y * 365 + y / 4 - y / 100 + y / 400 + months.foldl (· + ·) 0 + d.day

/-- The number of microseconds from the start of year 1 to a moment, by its own clock. -/
def Moment.clock (m : Moment) : Int :=
  (((m.date.number * 24 + m.hour) * 60 + m.minute) * 60 + m.second) * perSecond +
    m.microsecond

end StepFlow.Calendar
