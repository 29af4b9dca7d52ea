/-!
# Characters of YAML

The classes of characters that YAML's rules speak of. Four kinds of line break, blanks between
words, and the characters that a document may hold at all.
-/

namespace StepFlow.Yaml

/-- Stands for the character after the last one; no document holds it. -/
def endMark : Char := '\x00'

/-- The mark that some documents begin with and that takes up no column. -/
def byteOrderMark : Char := '\ufeff'

/-- The line breaks of Unicode that stay what they are when they are read. -/
def isSeparator (c : Char) : Bool :=
  c == '\u2028' || c == '\u2029'

/-- The characters that break lines. -/
def isBreak (c : Char) : Bool :=
  c == '\n' || c == '\r' || c == '\x85' || isSeparator c

/-- The characters that a line ends at. -/
def endsLine (c : Char) : Bool :=
  isBreak c || c == endMark

/-- The characters that a word ends at, tabs aside. -/
def endsWord (c : Char) : Bool :=
  endsLine c || c == ' '

/-- Spaces and tabs. -/
def isBlank (c : Char) : Bool :=
  c == ' ' || c == '\t'

/-- The characters that a word ends at. -/
def isGap (c : Char) : Bool :=
  endsWord c || c == '\t'

/-- The characters that names of anchors, tag handles and directives are made of. -/
def isNameChar (c : Char) : Bool :=
  c.isAlphanum || c == '-' || c == '_'

/-- The characters that brackets, commas and the like stand for in a collection on one line. -/
def isFlowIndicator (c : Char) : Bool :=
  c == ',' || c == '[' || c == ']' || c == '{' || c == '}'

/-- The value of a hexadecimal digit. -/
def hexValue? (c : Char) : Option Nat :=
  if '0' ≤ c ∧ c ≤ '9' then some (c.toNat - '0'.toNat)
  else if 'a' ≤ c ∧ c ≤ 'f' then some (c.toNat - 'a'.toNat + 10)
  else if 'A' ≤ c ∧ c ≤ 'F' then some (c.toNat - 'A'.toNat + 10)
  else none

/-- Whether a document may hold a character: no control characters but tab, line feed, carriage
return and next line, and neither of the last two characters of the basic plane. -/
def isReadable (c : Char) : Bool :=
  let n := c.toNat
  c == '\t' || c == '\n' || c == '\r' || (0x20 ≤ n && n ≤ 0x7E) || n == 0x85 ||
    (0xA0 ≤ n && n ≤ 0xFFFD) || 0x10000 ≤ n

end StepFlow.Yaml
