/-!
# Lines

How a text falls into lines. Every break that Unicode names ends a line, a carriage return with
the line feed after it counts once, and a break at the very end opens no further line.
-/

namespace StepFlow.Text

/-- The characters that end a line: line feed to carriage return, the file, group and record
separators, next line, and the line and paragraph separators. -/
def isBreak (c : Char) : Bool :=
  let n := c.toNat
  (10 ≤ n && n ≤ 13) || (28 ≤ n && n ≤ 30) || n == 0x85 || n == 0x2028 || n == 0x2029

/-- Puts a character in front of the first line, opening one if there is none. -/
def consLine (c : Char) : List (List Char) → List (List Char)
  | [] => [[c]]
  | line :: rest => (c :: line) :: rest

/-- The lines of a text, without their breaks. -/
def lines : List Char → List (List Char)
  | [] => []
  | '\r' :: '\n' :: rest => [] :: lines rest
  | c :: rest => if isBreak c then [] :: lines rest else consLine c (lines rest)

/-- The number of line feeds in a text. -/
def lineFeeds (cs : List Char) : Nat :=
  cs.count '\n'

end StepFlow.Text
