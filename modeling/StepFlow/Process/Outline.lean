import StepFlow.Text.Blank
import StepFlow.Text.Digit
import StepFlow.Text.Find
import StepFlow.Text.Lines
import StepFlow.Value.Display
/-!
# Outlines

A process in prose: numbered headings, each with the lines that belong to it.

    1. Sign in: Connects over the web.
       - Exchange the code
       More about the step.
    2. Store the record

A heading opens a step. Below it a line with a bullet becomes a sub-step, and any other line is
added to the step's description. Lines before the first heading and blank lines are dropped.
-/

namespace StepFlow.Outline

open Text

/-- A step of an outline. -/
structure Step where
  /-- The number as written, which need not be the step's position. -/
  number : Nat
  /-- The heading up to its first colon. -/
  title : String
  /-- What follows the colon, and the running lines, joined by spaces. -/
  description : String := ""
  /-- The lines with a bullet. -/
  subSteps : List String := []
deriving DecidableEq, Inhabited

/-- A heading's number was written with more digits than are read. -/
structure Overlong where
  /-- How many digits there are. -/
  digits : Nat

/-- The parts of a heading. -/
structure Heading where
  /-- The digits of the number. -/
  digits : List Char
  /-- The text up to the first colon. -/
  title : List Char
  /-- The text after the first colon. -/
  text : List Char
deriving DecidableEq

/-- A line of an outline that is not blank, without the blanks around it. -/
inductive Line where
  /-- A numbered heading. -/
  | heading (h : Heading)
  /-- A line with a bullet, which is left out. -/
  | bullet (text : List Char)
  /-- Any other line. -/
  | running (text : List Char)
deriving DecidableEq

/-- The text before the first colon, and the text after it without its leading blanks. -/
def splitColon (cs : List Char) : List Char × List Char :=
  let title := cs.takeWhile (· != ':')
  (title, trimStart ((cs.dropWhile (· != ':')).drop 1))

/-- The heading that a line is: digits, a full stop, a title that has at least one character, and
possibly a colon with more text. A blank after the full stop can stand for the title. -/
def readHeading? (cs : List Char) : Option Heading :=
  let digits := cs.takeWhile isDigit
  match cs.dropWhile isDigit with
  | '.' :: rest =>
    let body := trimStart rest
    let (title, text) := splitColon body
    if digits.isEmpty then none
    else if title.isEmpty ∧ body.length = rest.length then none
    else if body.isEmpty then none
    else some ⟨digits, trim title, trim text⟩
  | _ => none

/-- The marks that open a sub-step. -/
def bullets : List (List Char) := [['-', ' '], ['•', ' ']]

/-- What a line is; a blank one is nothing. -/
def Line.read? (raw : List Char) : Option Line :=
  let cs := trim raw
  if cs.isEmpty then none
  else
    match readHeading? cs with
    | some h => some (.heading h)
    | none =>
      match bullets.findSome? fun mark => after? mark cs with
      | some text => some (.bullet (trim text))
      | none => some (.running cs)

/-- The step that a heading opens. -/
def Heading.open (h : Heading) : Except Overlong Step :=
  if h.digits.length ≤ digitLimit then
    .ok { number := readDecimal h.digits, title := String.ofList h.title,
          description := String.ofList h.text }
  else .error ⟨h.digits.length⟩

/-- A step with one more sub-step. -/
def Step.addBullet (s : Step) (text : List Char) : Step :=
  { s with subSteps := s.subSteps ++ [String.ofList text] }

/-- A step with a running line added to its description. -/
def Step.addRunning (s : Step) (text : List Char) : Step :=
  let line := String.ofList text
  { s with description := if s.description.isEmpty then line else s.description ++ " " ++ line }

/-- The steps, the last one first, after one more line. -/
def addLine (steps : List Step) : Line → Except Overlong (List Step)
  | .heading h => h.open.map (· :: steps)
  | .bullet text =>
    match steps with
    | [] => .ok []
    | s :: earlier => .ok (s.addBullet text :: earlier)
  | .running text =>
    match steps with
    | [] => .ok []
    | s :: earlier => .ok (s.addRunning text :: earlier)

/-- The steps of an outline in order. -/
def read (text : String) : Except Overlong (List Step) :=
  (((lines text.toList).filterMap Line.read?).foldlM addLine []).map List.reverse

end StepFlow.Outline
