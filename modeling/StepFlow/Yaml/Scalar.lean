import StepFlow.Text.Base64
import StepFlow.Text.Case
import StepFlow.Value.Basic
import StepFlow.Yaml.Moment
import StepFlow.Yaml.Number
import StepFlow.Yaml.Tag
/-!
# Scalars of documents

The scalar that a text stands for under its tag. A tag that is not the one the text looks like can
make the text a fault; which fault that is depends on the tag.
-/

namespace StepFlow.Yaml

open Text

/-- The truth value of a word. -/
def readTruth (codes : List Code) : Except Fault Bool :=
  match Code.chars? codes with
  | none => .error .noTruth
  | some cs =>
    let word := lowered (String.ofList cs)
    if ["yes", "true", "on"].contains word then .ok true
    else if ["no", "false", "off"].contains word then .ok false
    else .error .noTruth

/-- The number of microseconds that the digits after the point of a second write. Digits after the
sixth are dropped. -/
def microseconds (fraction : List Char) : Nat :=
  let digits := fraction.take 6
  readDecimal (digits ++ List.replicate (6 - digits.length) '0')

/-- The date or moment of a text. -/
def readMoment (codes : List Code) : Except Fault Scalar := do
  match (Code.chars? codes).bind fun cs => WrittenMoment.read? (Tag.dropLineFeed cs) with
  | none => throw .notMoment
  | some w =>
    let offset ←
      match w.time.bind WrittenTime.offset with
      | some seconds =>
        (Calendar.checkOffset (seconds * Calendar.perSecond)).mapError .calendar |>.map some
      | none => pure none
    let date ←
      (Calendar.Date.make (readDecimal w.year) (readDecimal w.month) (readDecimal w.day)).mapError
        .calendar
    match w.time with
    | none => return .date date
    | some t =>
      let moment ←
        (Calendar.Moment.make date t.hour t.minute t.second (microseconds t.fraction)
          offset).mapError .calendar
      return .moment moment

/-- The bytes of a text in base 64. -/
def readBytes (codes : List Code) : Except Fault (List UInt8) :=
  match Code.chars? codes with
  | none => .error .malformed
  | some cs =>
    if cs.all fun c => c.toNat < 128 then
      match Base64.decode? cs with
      | some bs => .ok bs
      | none => .error .malformed
    else .error .malformed

/-- The mark of what is not a number and is written with the word for it. -/
def wordMark : Nat := 0

/-- The double that a text writes. What is not a number has the mark that all words for it share,
or one that goes with the number of the part. -/
def readDouble (number : Nat) (codes : List Code) : Except Fault Scalar := do
  match ← readReal codes with
  | .notNumber => return .nan wordMark
  | .double .nan => return .nan (number + 1)
  | .double x => return .real x

/-- The text of codes. -/
def textOf (codes : List Code) : Scalar :=
  match Code.chars? codes with
  | some cs => .text (String.ofList cs)
  | none => .torn codes

/-- The scalar of the text of a part for something of the given kind. -/
def readScalar (number : Nat) (tag : Tag) (codes : List Code) : Except Fault Scalar :=
  match tag with
  | .null => .ok .null
  | .bool => (readTruth codes).map .bool
  | .int => (readInt codes).map .int
  | .real => readDouble number codes
  | .bytes => (readBytes codes).map .bytes
  | .moment => readMoment codes
  | .text => .ok (textOf codes)
  | _ => .error .malformed

end StepFlow.Yaml
