import StepFlow.Calendar.Basic
import StepFlow.Text.Digit
/-!
# Moments in YAML

The written form of dates and moments: a year of four digits, a month and a day, then perhaps a
time of day and a distance from universal time. A date alone is recognised by its look only if
month and day have two digits each.
-/

namespace StepFlow.Yaml

open Text

/-- A time of day as it is written. -/
structure WrittenTime where
  /-- The hour. -/
  hour : Nat
  /-- The minute. -/
  minute : Nat
  /-- The second. -/
  second : Nat
  /-- The digits after the point. -/
  fraction : List Char
  /-- The distance from universal time in seconds, if it is given. -/
  offset : Option Int

/-- A date or a moment as it is written. -/
structure WrittenMoment where
  /-- The digits of the year. -/
  year : List Char
  /-- The digits of the month. -/
  month : List Char
  /-- The digits of the day. -/
  day : List Char
  /-- The time of day, if there is one. -/
  time : Option WrittenTime

namespace WrittenMoment

/-- The digits that a text starts with, if there are as many as asked for; more than `most` are
left where they are. -/
def readDigits? (least most : Nat) (cs : List Char) : Option (List Char × List Char) :=
  let digits := (cs.take most).takeWhile isAsciiDigit
  if least ≤ digits.length then some (digits, cs.drop digits.length) else none

/-- A mark and then digits. -/
def readMarked? (mark : Char) (least most : Nat) : List Char → Option (List Char × List Char)
  | c :: cs => if c = mark then readDigits? least most cs else none
  | [] => none

/-- Whether a character is a space or a tab. -/
def isSpace (c : Char) : Bool :=
  c == ' ' || c == '\t'

/-- The mark between a date and a time, which is a letter or blanks, left out. -/
def dropTimeMark? : List Char → Option (List Char)
  | c :: cs =>
    if c = 'T' ∨ c = 't' then some cs
    else if isSpace c then some (cs.dropWhile isSpace)
    else none
  | [] => none

/-- The point and the digits after it, if there is a point. -/
def readFraction : List Char → List Char × List Char
  | '.' :: cs => cs.span isAsciiDigit
  | cs => ([], cs)

/-- The distance from universal time, which must end the text. -/
def readOffset? (cs : List Char) : Option (Option Int) :=
  if cs.isEmpty then some none
  else
    match cs.dropWhile isSpace with
    | ['Z'] => some (some 0)
    | sign :: rest => do
      let (hours, rest) ← readDigits? 1 2 rest
      let (minutes, rest) ←
        match rest with
        | ':' :: tail => readDigits? 2 2 tail
        | _ => some ([], rest)
      let seconds : Int := readDecimal hours * 3600 + readDecimal minutes * 60
      if !rest.isEmpty then none
      else if sign = '+' then some (some seconds)
      else if sign = '-' then some (some (-seconds))
      else none
    | [] => none

/-- A time of day, which must end the text. -/
def readTime? (cs : List Char) : Option WrittenTime := do
  let (hour, cs) ← readDigits? 1 2 cs
  let (minute, cs) ← readMarked? ':' 2 2 cs
  let (second, cs) ← readMarked? ':' 2 2 cs
  let (fraction, cs) := readFraction cs
  let offset ← readOffset? cs
  return ⟨readDecimal hour, readDecimal minute, readDecimal second, fraction, offset⟩

/-- The date or moment that a text is the written form of. -/
def read? (cs : List Char) : Option WrittenMoment := do
  let (year, cs) ← readDigits? 4 4 cs
  let (month, cs) ← readMarked? '-' 1 2 cs
  let (day, cs) ← readMarked? '-' 1 2 cs
  if cs.isEmpty then return ⟨year, month, day, none⟩
  else
    let time ← readTime? (← dropTimeMark? cs)
    return ⟨year, month, day, some time⟩

end WrittenMoment

/-- Whether a word looks like a date or a moment. -/
def looksLikeMoment (cs : List Char) : Bool :=
  match WrittenMoment.read? cs with
  | some w => w.time.isSome || (w.month.length == 2 && w.day.length == 2)
  | none => false

end StepFlow.Yaml
