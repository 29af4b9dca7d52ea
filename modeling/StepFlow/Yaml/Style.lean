import StepFlow.Yaml.Character
import StepFlow.Yaml.Tag
/-!
# Styles of texts in YAML

How a text may stand in a document: plain, if it then reads back as that very text, in single
quotes, if nothing in it needs an escape, and in double quotes otherwise.
-/

namespace StepFlow.Yaml

open Text

/-- How a text stands in a document. -/
inductive Style where
  /-- Without quotes. -/
  | plain
  /-- In single quotes, the quotes inside doubled. -/
  | single
  /-- In double quotes, with escapes. -/
  | double
deriving DecidableEq

namespace Style

/-- The line breaks that single quotes can hold. -/
def isFoldable (c : Char) : Bool :=
  isBreak c && c != '\r'

/-- Whether a character stands for itself only if it is escaped. -/
def isSpecial (c : Char) : Bool :=
  let n := c.toNat
  !(c == '\n' || (0x20 ≤ n && n ≤ 0x7E) ||
    ((n == 0x85 || (0xA0 ≤ n && n ≤ 0xFFFD) || (0x10000 ≤ n && n < 0x10FFFF)) &&
      c != byteOrderMark))

/-- The characters that no plain text begins with. -/
def isLeadingIndicator (c : Char) : Bool :=
  "#,[]\x7b\x7d&*!|>'\"%@`".toList.contains c

/-- Whether a gap or the end follows. -/
def gapFollows : List Char → Bool
  | [] => true
  | c :: _ => isGap c

/-- Whether a text holds a mark of structure: a colon before a gap, or a number sign after one.
The first argument says whether a gap stands before the text. -/
def hasIndicator : (afterGap : Bool) → List Char → Bool
  | _, [] => false
  | afterGap, c :: cs =>
    (c == ':' && gapFollows cs) || (c == '#' && afterGap) || hasIndicator (isGap c) cs

/-- Whether a text begins like structure: with an indicator, with a dash or question mark before a
gap, or with a mark between documents. -/
def startsLikeStructure (cs : List Char) : Bool :=
  startsWith ['-', '-', '-'] cs || startsWith ['.', '.', '.'] cs ||
    match cs with
    | c :: rest => isLeadingIndicator c || ((c == '-' || c == '?') && gapFollows rest)
    | [] => false

/-- Whether somewhere a character that satisfies `p` stands right before one that satisfies `q`. -/
def hasNeighbours (p q : Char → Bool) : List Char → Bool
  | c :: d :: rest => (p c && q d) || hasNeighbours p q (d :: rest)
  | _ => false

/-- Whether a space stands beside a line break. -/
def hasSpacedBreak (cs : List Char) : Bool :=
  hasNeighbours (· == ' ') isFoldable cs || hasNeighbours isFoldable (· == ' ') cs

/-- Whether single quotes can hold a text. -/
def fitsSingle (cs : List Char) : Bool :=
  !cs.any isSpecial && !hasSpacedBreak cs

/-- Whether a text without quotes reads back as that text. -/
def fitsPlain (cs : List Char) : Bool :=
  Tag.ofPlain cs == .text && !cs.any isSpecial && !cs.any isFoldable &&
    cs.head? != some ' ' && cs.getLast? != some ' ' &&
    !startsLikeStructure cs && !hasIndicator false cs

/-- The style of a text: the lightest that holds it. -/
def ofText (cs : List Char) : Style :=
  if fitsPlain cs then plain else if fitsSingle cs then single else double

end Style
end StepFlow.Yaml
