/-!
# Blanks

Which characters count as blank, and how a text loses them: at both ends (`trim`) or everywhere
(`fields`). The set is that of Unicode's white space together with the four separators that ASCII
keeps below the space.
-/

namespace StepFlow.Text

/-- White space: tab to carriage return, the ASCII separators, the space, next line, the no-break
space and the Unicode spaces and separators. -/
def isBlank (c : Char) : Bool :=
  let n := c.toNat
  (9 ≤ n && n ≤ 13) || (28 ≤ n && n ≤ 32) || n == 0x85 || n == 0xA0 || n == 0x1680 ||
    (0x2000 ≤ n && n ≤ 0x200A) || n == 0x2028 || n == 0x2029 || n == 0x202F || n == 0x205F ||
    n == 0x3000

/-- The text from its first character that is not blank. -/
def trimStart (cs : List Char) : List Char :=
  cs.dropWhile isBlank

/-- The text up to the last character that fails `p`. -/
def dropEndWhile (p : Char → Bool) (cs : List Char) : List Char :=
  (cs.reverse.dropWhile p).reverse

/-- The text without the blanks around it. -/
def trim (cs : List Char) : List Char :=
  dropEndWhile isBlank (trimStart cs)

/-- The maximal runs of characters that fail `p`, in order. -/
def splitRuns (p : Char → Bool) : List Char → List (List Char)
  | [] => []
  | c :: rest =>
    if p c then splitRuns p rest
    else
      match rest with
      | [] => [[c]]
      | d :: _ =>
        if p d then [c] :: splitRuns p rest
        else
          match splitRuns p rest with
          | [] => [[c]]
          | run :: runs => (c :: run) :: runs

/-- The maximal runs of characters that are not blank, in order. -/
def fields (cs : List Char) : List (List Char) :=
  splitRuns isBlank cs

/-- The text of a string without the blanks around it. -/
def trimmed (s : String) : String :=
  String.ofList (trim s.toList)

end StepFlow.Text
