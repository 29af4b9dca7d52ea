import StepFlow.Text.Digit
import StepFlow.Text.UnprintableRanges
import StepFlow.Text.Word
/-!
# Quoted text

The quoted form in which a text shows inside the text of a list or a record: single quotes unless
only single quotes occur in it, and an escape for each character that does not print.
-/

namespace StepFlow.Text

/-- Whether quoted text shows a character as itself. -/
def isPrintable (c : Char) : Bool :=
  if c.toNat < 128 then 32 ≤ c.toNat && c.toNat < 127
  else !inRanges unprintableRanges c.toNat

/-- The quote that encloses a text: the double one exactly if the text has single quotes and no
double ones. -/
def quoteFor (cs : List Char) : Char :=
  if cs.contains '\'' && !cs.contains '"' then '"' else '\''

/-- A character by its code, in the shortest of the three escapes that holds it. -/
def codeEscape (n : Nat) : List Char :=
  if n < 0x100 then '\\' :: 'x' :: hexadecimal 2 n
  else if n < 0x10000 then '\\' :: 'u' :: hexadecimal 4 n
  else '\\' :: 'U' :: hexadecimal 8 n

/-- A character inside quotes of the given kind. -/
def quotedChar (quote c : Char) : List Char :=
  if c = quote ∨ c = '\\' then ['\\', c]
  else if c = '\n' then ['\\', 'n']
  else if c = '\r' then ['\\', 'r']
  else if c = '\t' then ['\\', 't']
  else if isPrintable c then [c]
  else codeEscape c.toNat

/-- A text in quotes. -/
def quoted (cs : List Char) : List Char :=
  let quote := quoteFor cs
  quote :: cs.flatMap (quotedChar quote) ++ [quote]

/-- A string of bytes in quotes: ASCII prints as itself and every other byte by its code. -/
def quotedBytes (bytes : List UInt8) : List Char :=
  let cs := bytes.map fun b => Char.ofNat b.toNat
  let quote := quoteFor cs
  let shown (c : Char) := if c.toNat < 128 then quotedChar quote c else codeEscape c.toNat
  'b' :: quote :: cs.flatMap shown ++ [quote]

end StepFlow.Text
