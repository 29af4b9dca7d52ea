import StepFlow.Double.Reading
import StepFlow.Text.Find
import StepFlow.Text.Digit
import StepFlow.Yaml.Fault
/-!
# Numbers in YAML

The numbers that texts write: in base 2, 8, 10, 16 or 60, with underscores anywhere. A text that is
marked as a number need not look like one, so every text has a number or a fault.
-/

namespace StepFlow.Yaml

open Text

/-- A text without its underscores. -/
def dropUnderscores (cs : List Code) : List Code :=
  cs.filter (· != .char '_')

/-- A sign, as whether it is negative, and the text after it; an empty text is at fault. -/
def takeSign : List Code → Except Fault (Bool × List Code)
  | [] => .error .emptyNumber
  | c :: cs =>
    .ok (if c = .char '-' then (true, cs) else if c = .char '+' then (false, cs) else (false, c :: cs))

/-- The places of a number in base 60. -/
def places (cs : List Code) : List (List Code) :=
  splitOn (.char ':') cs

/-! ## Integers -/

/-- The letter that may follow a zero before the digits of a base. -/
def baseLetter? : Nat → Option Char
  | 2 => some 'b'
  | 8 => some 'o'
  | 16 => some 'x'
  | _ => none

/-- Digits without the zero and the letter that announce their base. -/
def dropBase (base : Nat) : List Char → List Char
  | '0' :: c :: cs => if baseLetter? base = some c.toLower then cs else '0' :: c :: cs
  | cs => cs

/-- The value of a digit in a base. -/
def digitIn? (base : Nat) (c : Char) : Option Nat :=
  let lower := c.toLower
  let value? :=
    if isAsciiDigit c then some (c.toNat - '0'.toNat)
    else if 'a' ≤ lower ∧ lower ≤ 'z' then some (lower.toNat - 'a'.toNat + 10)
    else none
  value?.filter (· < base)

/-- The ASCII form of a code of a number; half of a character belongs in no number. -/
def asciiForm : Code → Char
  | .char c => Double.asciiForm c
  | .half _ => '?'

/-- The integer that a text writes in a base: blanks around it, a sign and digits of any script. -/
def readInteger (base : Nat) (cs : List Code) : Except Fault Int :=
  let ascii := cs.map asciiForm
  let bare := dropEndWhile Double.isAsciiBlank (ascii.dropWhile Double.isAsciiBlank)
  let (negative, rest) := Double.readSign bare
  let digits := dropBase base rest
  let run := digits.takeWhile fun c => (digitIn? base c).isSome
  if base = 10 ∧ digitLimit < run.length then .error (.overlong run.length)
  else if run.isEmpty ∨ run.length < digits.length then .error (.notInteger base cs)
  else
    .ok (Double.signed negative (ofDigits base (run.map fun c => (digitIn? base c).getD 0)))

/-- The value of digits in base 60. -/
def ofSixtieths (digits : List Int) : Int :=
  digits.foldl (fun n d => n * 60 + d) 0

/-- The magnitude of an integer without its sign. -/
def readMagnitude (cs : List Code) : Except Fault Int :=
  match cs with
  | [.char '0'] => .ok 0
  | .char '0' :: .char 'b' :: digits => readInteger 2 digits
  | .char '0' :: .char 'x' :: digits => readInteger 16 digits
  | .char '0' :: _ => readInteger 8 cs
  | [] => .error .emptyNumber
  | _ =>
    if cs.contains (.char ':') then ((places cs).mapM (readInteger 10)).map ofSixtieths
    else readInteger 10 cs

/-- The integer that a text writes. -/
def readInt (cs : List Code) : Except Fault Int := do
  let (negative, rest) ← takeSign (dropUnderscores cs)
  let n ← readMagnitude rest
  return if negative then -n else n

/-! ## Doubles -/

/-- The double that a text writes in base 10. -/
def readPart (cs : List Code) : Except Fault Double :=
  match (Code.chars? cs).bind Double.read? with
  | some x => .ok x
  | none => .error (.notNumber cs)

/-- The sum of doubles, the last of them counting once, the one before it sixty times, and so on.
Every step is rounded. -/
def weighSixtieths : (places : List Double) → (weight : Nat) → (sum : Double) → Except Fault Double
  | [], _, sum => .ok sum
  | x :: rest, weight, sum =>
    match Double.ofInt? weight with
    | some w => weighSixtieths rest (weight * 60) (sum.add (x.mul w))
    | none => .error .tooManyPlaces

/-- What a text says about a double. -/
inductive WrittenReal where
  /-- The double. -/
  | double (x : Double)
  /-- The word for what is not a number. -/
  | notNumber

/-- The double that a text writes, in lower case and without its sign. -/
def readUnsigned (cs : List Code) : Except Fault WrittenReal :=
  if cs = Code.ofChars ".inf".toList then .ok (.double (.infinite false))
  else if cs = Code.ofChars ".nan".toList then .ok .notNumber
  else if cs.contains (.char ':') then do
    let parts ← (places cs).mapM readPart
    return .double (← weighSixtieths parts.reverse 1 (.finite false 0))
  else (readPart cs).map .double

/-- The double that a text writes. -/
def readReal (cs : List Code) : Except Fault WrittenReal := do
  let (negative, rest) ← takeSign (Code.lower (dropUnderscores cs))
  match ← readUnsigned rest with
  | .double x => return .double (if negative then x.neg else x)
  | .notNumber => return .notNumber

end StepFlow.Yaml
