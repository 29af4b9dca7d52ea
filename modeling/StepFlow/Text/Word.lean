import StepFlow.Text.WordRanges
/-!
# Words

Word characters: letters, numbers and digits of every script, and the underscore. Diagram ids and
the field of a condition are runs of them.
-/

namespace StepFlow.Text

/-- Whether a code point lies in one of the ranges. -/
def inRanges (ranges : Array (Nat × Nat)) (n : Nat) : Bool :=
  ranges.any fun r => r.1 ≤ n && n ≤ r.2

/-- The ASCII word characters: letters, digits and the underscore. -/
def isAsciiWord (c : Char) : Bool :=
  c.isAlphanum || c == '_'

/-- The word characters: letters, numbers and digits of every script, and the underscore. -/
def isWord (c : Char) : Bool :=
  if c.toNat < 128 then isAsciiWord c else inRanges wordRanges c.toNat

/-- The longest word a text starts with, and what follows it. -/
def spanWord (cs : List Char) : List Char × List Char :=
  cs.span isWord

end StepFlow.Text
