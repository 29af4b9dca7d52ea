import StepFlow.Double.Basic
import StepFlow.Text.Blank
import StepFlow.Text.Digit
/-!
# Reading doubles

The decimal notation of doubles: an optional sign, then `inf`, `infinity` or `nan` in any case, or
digits with an optional point and an optional exponent. Single underscores may stand between
digits, blanks around the whole, and the digits may be those of any script. The value is rounded
once, from the exact decimal.
-/

namespace StepFlow.Double

open Text

/-- The blanks of ASCII that may surround a number. -/
def isAsciiBlank (c : Char) : Bool :=
  (9 ≤ c.toNat && c.toNat ≤ 13) || c == ' '

/-- The ASCII form of a character of a number: blanks of other scripts become spaces, digits ASCII
digits, and what belongs in no number a question mark. -/
def asciiForm (c : Char) : Char :=
  if c.toNat < 127 then c
  else if isBlank c then ' '
  else
    match digitValue? c with
    | some d => digitChar d
    | none => '?'

/-- The text without its underscores, if each of them stands between two digits. The first
argument says whether the character before is a digit. -/
def dropUnderscores? : (afterDigit : Bool) → List Char → Option (List Char)
  | _, [] => some []
  | true, '_' :: d :: rest =>
    if isAsciiDigit d then (dropUnderscores? true rest).map (d :: ·) else none
  | _, c :: rest =>
    if c = '_' then none else (dropUnderscores? (isAsciiDigit c) rest).map (c :: ·)

/-- A decimal `digits · 10 ^ exponent`. -/
structure Scientific where
  /-- The digits, the weightiest first. -/
  digits : List Char
  /-- The power of ten of the last digit. -/
  exponent : Int

/-- An optional sign, as whether it is negative, and what follows it. -/
def readSign : List Char → Bool × List Char
  | '-' :: rest => (true, rest)
  | '+' :: rest => (false, rest)
  | cs => (false, cs)

/-- The exponent that a text ends with: nothing, or the letter `e`, a sign and digits. -/
def readExponent? : List Char → Option Int
  | [] => some 0
  | e :: rest =>
    let (negative, digits) := readSign rest
    if (e = 'e' ∨ e = 'E') ∧ digits ≠ [] ∧ digits.all isAsciiDigit then
      some (signed negative (readDecimal digits))
    else none

/-- A decimal without a sign. -/
def readScientific? (cs : List Char) : Option Scientific :=
  let (whole, rest) := cs.span isAsciiDigit
  let (fraction, rest) :=
    match rest with
    | '.' :: tail => tail.span isAsciiDigit
    | _ => ([], rest)
  if whole.isEmpty ∧ fraction.isEmpty then none
  else (readExponent? rest).map fun e => ⟨whole ++ fraction, e - fraction.length⟩

/-- The double nearest to a decimal. Decimals far out of range are infinite or zero without the
powers of ten being computed. -/
def ofScientific (negative : Bool) (s : Scientific) : Double :=
  let digits := s.digits.dropWhile (· == '0')
  let n := readDecimal digits
  let top : Int := digits.length + s.exponent
  if n = 0 ∨ top < -330 then .finite negative 0
  else if 400 < top then .infinite negative
  else if 0 ≤ s.exponent then ofQuotient negative (n * Nat.pow 10 s.exponent.toNat * one) 1
  else ofQuotient negative (n * one) (Nat.pow 10 (-s.exponent).toNat)

/-- The double that a text without surrounding blanks and underscores writes. -/
def readPlain? (cs : List Char) : Option Double :=
  let (negative, rest) := readSign cs
  let word := rest.map Char.toLower
  if word = "inf".toList ∨ word = "infinity".toList then some (.infinite negative)
  else if word = "nan".toList then some .nan
  else (readScientific? rest).map (ofScientific negative)

/-- The double that a text writes. -/
def read? (cs : List Char) : Option Double :=
  let ascii := cs.map asciiForm
  let bare := dropEndWhile isAsciiBlank (ascii.dropWhile isAsciiBlank)
  (dropUnderscores? false bare).bind readPlain?

end StepFlow.Double
