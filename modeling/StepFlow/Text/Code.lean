import StepFlow.Text.Case
import StepFlow.Text.Quoted
/-!
# Codes

Texts that are spelt code by code. Most codes are characters; the others are halves, two of which
stand for one character in UTF-16. A half is kept as it is written, also next to its other half,
until the text is put together by `joined`.
-/

namespace StepFlow.Text

/-- A character, or half of one. -/
inductive Code where
  /-- A character. -/
  | char (c : Char)
  /-- Half of a character, by its number in UTF-16. -/
  | half (n : Nat)
deriving DecidableEq, Inhabited

namespace Code

/-- Whether a number is that of a first half. -/
def isFirst (n : Nat) : Bool :=
  0xD800 ≤ n && n ≤ 0xDBFF

/-- Whether a number is that of a second half. -/
def isSecond (n : Nat) : Bool :=
  0xDC00 ≤ n && n ≤ 0xDFFF

/-- The code of the given number. -/
def ofNat (n : Nat) : Code :=
  if isFirst n || isSecond n then .half n else .char (Char.ofNat n)

/-- The codes of a text. -/
def ofChars (cs : List Char) : List Code :=
  cs.map .char

/-- The character that a code is. -/
def char? : Code → Option Char
  | .char c => some c
  | .half _ => none

/-- The text of codes among which there are no halves. -/
def chars? (codes : List Code) : Option (List Char) :=
  codes.mapM char?

/-- The text of codes, in which two halves in order are put together. A half without its other half
reads as the replacement character. -/
def joined : List Code → List Char
  | [] => []
  | .char c :: rest => c :: joined rest
  | [.half _] => ['\ufffd']
  | .half _ :: .char c :: rest => '\ufffd' :: c :: joined rest
  | .half m :: .half n :: rest =>
    if isFirst m && isSecond n then
      Char.ofNat (0x10000 + (m - 0xD800) * 0x400 + (n - 0xDC00)) :: joined rest
    else '\ufffd' :: joined (.half n :: rest)

/-- The lower-case form of codes that follow a run of characters, which is given backwards. -/
def lowerAfter (run : List Char) : List Code → List Code
  | [] => ofChars (Text.lower run.reverse)
  | .char c :: rest => lowerAfter (c :: run) rest
  | .half n :: rest => ofChars (Text.lower run.reverse) ++ .half n :: lowerAfter [] rest

/-- The lower-case form of codes. A half is no letter, so it parts the words around it. -/
def lower (codes : List Code) : List Code :=
  lowerAfter [] codes

/-- Codes in quotes, in which halves show by their numbers. -/
def quoted (codes : List Code) : List Char :=
  let quote := quoteFor (codes.filterMap char?)
  let shown : Code → List Char
    | .char c => quotedChar quote c
    | .half n => codeEscape n
  quote :: codes.flatMap shown ++ [quote]

end Code
end StepFlow.Text
