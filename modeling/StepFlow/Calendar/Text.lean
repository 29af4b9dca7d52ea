import StepFlow.Calendar.Basic
import StepFlow.Text.Digit
/-!
# Calendar texts

The written forms of dates and moments: the international one, `2024-01-31` and
`2024-01-31T10:00:00+01:00`, which can be read back, and the one that shows inside lists and
records, which spells out the parts.
-/

namespace StepFlow.Calendar

open Text

/-- A number in decimal, filled up with zeros to the given width. -/
def padded (width n : Nat) : List Char :=
  let digits := decimal n
  List.replicate (width - digits.length) '0' ++ digits

/-- The international form of a date. -/
def Date.iso (d : Date) : List Char :=
  padded 4 d.year ++ '-' :: padded 2 d.month ++ '-' :: padded 2 d.day

/-- A sign, and a number of minutes as hours and minutes. -/
def isoMinutes (negative : Bool) (minutes : Nat) : List Char :=
  (if negative then '-' else '+') :: padded 2 (minutes / 60) ++ ':' :: padded 2 (minutes % 60)

/-- The international form of a distance from universal time, with seconds and microseconds only
where needed. -/
def isoOffset (microseconds : Int) : List Char :=
  let fine := microseconds.natAbs % perSecond
  let n := microseconds.natAbs / perSecond
  isoMinutes (microseconds < 0) (n / 60) ++
    (if n % 60 = 0 ∧ fine = 0 then [] else ':' :: padded 2 (n % 60)) ++
    (if fine = 0 then [] else '.' :: padded 6 fine)

/-- The time of day, with microseconds only where needed. -/
def Moment.isoTime (m : Moment) : List Char :=
  padded 2 m.hour ++ ':' :: padded 2 m.minute ++ ':' :: padded 2 m.second ++
    (if m.microsecond = 0 then [] else '.' :: padded 6 m.microsecond)

/-- The international form of a moment, with the given character between day and time. -/
def Moment.iso (separator : Char) (m : Moment) : List Char :=
  m.date.iso ++ separator :: m.isoTime ++ (m.offset.map isoOffset).getD []

/-- The form of a distance from universal time in an exported tree. It is taken to the nearest
second, a half away from zero, and shows in whole minutes, and as `Z` if it is none. -/
def exportedOffset (microseconds : Int) : List Char :=
  let seconds := (2 * microseconds.natAbs + perSecond) / (2 * perSecond)
  if seconds = 0 then ['Z'] else isoMinutes (microseconds < 0) (seconds / 60)

/-- The form of a moment in an exported tree. -/
def Moment.exported (m : Moment) : List Char :=
  m.date.iso ++ 'T' :: m.isoTime ++ (m.offset.map exportedOffset).getD []

/-- The parts of a date, separated by commas. -/
def Date.parts (d : Date) : List Char :=
  decimal d.year ++ ", ".toList ++ decimal d.month ++ ", ".toList ++ decimal d.day

/-- The form of a date inside a list or a record. -/
def Date.shown (d : Date) : List Char :=
  "datetime.date(".toList ++ d.parts ++ [')']

/-- The form of a length of time: whole days, and the seconds and microseconds that remain, each
only where needed. -/
def shownSpan (microseconds : Int) : List Char :=
  let seconds := microseconds / perSecond
  let parts := [("days=", seconds / daySeconds), ("seconds=", seconds % daySeconds),
    ("microseconds=", microseconds % perSecond)]
  let shown := (parts.filter (·.2 ≠ 0)).map fun (name, n) => name.toList ++ integer n
  "datetime.timedelta(".toList ++ (if shown.isEmpty then ['0'] else [',', ' '].intercalate shown) ++
    [')']

/-- The form of a distance from universal time inside a list or a record. -/
def shownZone (microseconds : Int) : List Char :=
  if microseconds = 0 then "datetime.timezone.utc".toList
  else "datetime.timezone(".toList ++ shownSpan microseconds ++ [')']

/-- The form of a moment inside a list or a record: seconds and microseconds show only where
needed. -/
def Moment.shown (m : Moment) : List Char :=
  let fine :=
    if m.microsecond ≠ 0 then [m.second, m.microsecond]
    else if m.second ≠ 0 then [m.second]
    else []
  let times := (m.hour :: m.minute :: fine).flatMap fun n => ", ".toList ++ decimal n
  let zone := (m.offset.map fun s => ", tzinfo=".toList ++ shownZone s).getD []
  "datetime.datetime(".toList ++ m.date.parts ++ times ++ zone ++ [')']

/-- The wording of a fault. -/
def Fault.message : Fault → String
  | .year n => "year " ++ String.ofList (decimal n) ++ " is out of range"
  | .month => "month must be in 1..12"
  | .day => "day is out of range for month"
  | .hour => "hour must be in 0..23"
  | .minute => "minute must be in 0..59"
  | .second => "second must be in 0..59"
  | .offset microseconds =>
    "offset must be a timedelta strictly between -timedelta(hours=24) and timedelta(hours=24), not "
      ++ String.ofList (shownSpan microseconds) ++ "."

/-! ## Reading the international form -/

/-- A number of exactly the given width, and what follows it. -/
def readNumber? (width : Nat) (cs : List Char) : Option (Nat × List Char) :=
  let digits := cs.take width
  if digits.length = width ∧ digits.all isAsciiDigit then
    some (readDecimal digits, cs.drop width)
  else none

/-- A mark and then a number of the given width. -/
def readMarked? (mark : Char) (width : Nat) : List Char → Option (Nat × List Char)
  | c :: cs => if c = mark then readNumber? width cs else none
  | [] => none

/-- The date that a text starts with. -/
def readDate? (cs : List Char) : Option (Date × List Char) := do
  let (year, cs) ← readNumber? 4 cs
  let (month, cs) ← readMarked? '-' 2 cs
  let (day, cs) ← readMarked? '-' 2 cs
  match Date.make year month day with
  | .ok date => some (date, cs)
  | .error _ => none

/-- The distance from universal time that a text consists of; the empty text gives none. -/
def readOffset? : List Char → Option (Option Int)
  | [] => some none
  | ['Z'] => some (some 0)
  | sign :: cs => do
    let (hours, cs) ← readNumber? 2 cs
    let (minutes, cs) ← readMarked? ':' 2 cs
    let (seconds, cs) ← if cs.isEmpty then some (0, []) else readMarked? ':' 2 cs
    let (fine, cs) := (readMarked? '.' 6 cs).getD (0, cs)
    let n : Int := (hours * 3600 + minutes * 60 + seconds) * perSecond + fine
    if !cs.isEmpty then none
    else if sign = '+' then some (some n)
    else if sign = '-' then some (some (-n))
    else none

/-- The moment that the international form writes. -/
def Moment.ofIso? (cs : List Char) : Option Moment := do
  let (date, cs) ← readDate? cs
  let (hour, cs) ← readNumber? 2 (cs.drop 1)
  let (minute, cs) ← readMarked? ':' 2 cs
  let (second, cs) ← readMarked? ':' 2 cs
  let (micro, cs) := (readMarked? '.' 6 cs).getD (0, cs)
  let offset ← readOffset? cs
  match Moment.make date hour minute second micro offset with
  | .ok moment => some moment
  | .error _ => none

/-- The date that the international form writes. -/
def Date.ofIso? (cs : List Char) : Option Date :=
  match readDate? cs with
  | some (date, []) => some date
  | _ => none

end StepFlow.Calendar
