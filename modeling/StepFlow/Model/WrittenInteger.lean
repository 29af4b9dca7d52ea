import StepFlow.Double.Basic
import StepFlow.Model.Issue
import StepFlow.Text.Blank
import StepFlow.Text.Digit
/-!
# Written integers

The integers that texts write in typed records. A text is read as it stands or, if that fails, once
more without what makes no difference: blanks around it, a plus sign, zeros in front, a fraction of
zeros, and underscores. An integer of too many characters is told from other texts only if it stands
there plainly.
-/

namespace StepFlow.Model.WrittenInteger

open Text

/-- A sign, as whether it is negative, and the text after it. -/
def takeMinus : List Char → Bool × List Char
  | '-' :: cs => (true, cs)
  | cs => (false, cs)

/-- The integer that a text writes plainly: perhaps a minus sign, and digits of which the first of
several is no zero. Sign and digits together are too long beyond the limit, whatever follows. -/
def readPlain (cs : List Char) : Except Mismatch Int :=
  let (negative, body) := takeMinus cs
  let digits := body.takeWhile isAsciiDigit
  let rest := body.drop digits.length
  if digits.isEmpty ∨ (digits.head? = some '0' ∧ 1 < digits.length) then .error .integerText
  else if digitLimit < cs.length - rest.length then .error .integerSize
  else if rest.isEmpty then .ok (Double.signed negative (readDecimal digits))
  else .error .integerText

/-! ## What makes no difference -/

/-- The blanks around an integer that are skipped: all but the separators of ASCII. -/
def isOuterBlank (c : Char) : Bool :=
  isBlank c && !(28 ≤ c.toNat && c.toNat ≤ 31)

/-- Whether the digits of an integer without zeros in front may start here; a minus sign may come
before them. -/
def startsDigits (c : Char) : Bool :=
  ('1' ≤ c && c ≤ '9') || c == '-'

/-- What follows zeros in front, of which `last` is the last, and the underscores among them. The
last one is kept if nothing or a fraction follows. -/
def afterZeros? (last : Char) : List Char → Option (List Char)
  | [] => some [last]
  | c :: cs =>
    if c = '0' ∨ c = '_' then afterZeros? c cs
    else if startsDigits c then some (c :: cs)
    else if c = '.' then some (last :: c :: cs)
    else none

/-- An integer without the zeros in front. -/
def dropZeros? : List Char → Option (List Char)
  | [] => none
  | c :: cs => if c = '0' then afterZeros? c cs else if startsDigits c then some (c :: cs) else none

/-- An integer without a plus sign and without the zeros after its sign. A minus sign after a plus
sign is refused. -/
def dropSignedZeros? : List Char → Option (List Char)
  | '+' :: '-' :: _ => none
  | '+' :: cs => dropZeros? cs
  | '-' :: cs => (dropZeros? cs).map ('-' :: ·)
  | cs => dropZeros? cs

/-- An integer without its fraction, if that is at least one zero and nothing else. -/
def dropFraction (cs : List Char) : List Char :=
  match cs.span (· != '.') with
  | (whole, _ :: fraction) =>
    if !fraction.isEmpty && fraction.all (· == '0') then whole else cs
  | _ => cs

/-- Whether two underscores stand side by side. -/
def hasDoubled : List Char → Bool
  | '_' :: '_' :: _ => true
  | _ :: cs => hasDoubled cs
  | [] => false

/-- An integer without its underscores, if each of them stands alone and between other
characters. -/
def dropUnderscores (cs : List Char) : List Char :=
  if cs.head? = some '_' ∨ cs.getLast? = some '_' ∨ hasDoubled cs then cs
  else cs.filter (· != '_')

/-- A text without what makes no difference. -/
def bare? (cs : List Char) : Option (List Char) :=
  let trimmed := dropEndWhile isOuterBlank (cs.dropWhile isOuterBlank)
  (dropSignedZeros? trimmed).map (dropUnderscores ∘ dropFraction)

/-- The integer that a text writes. -/
def read (cs : List Char) : Except Mismatch Int :=
  match readPlain cs with
  | .ok n => .ok n
  | .error .integerSize => .error .integerSize
  | .error _ =>
    match (bare? cs).map readPlain with
    | some (.ok n) => .ok n
    | _ => .error .integerText

end StepFlow.Model.WrittenInteger
