import StepFlow.Definition.Basic
import StepFlow.Text.Find
import StepFlow.Text.Word
/-!
# Drawing definitions

A definition as the text of a flowchart: one line for each step, in the brackets of its kind, and
one line for each connection, with its label if it has one.
-/

namespace StepFlow.Definition

open Text

/-- The brackets in which a step of a kind is drawn. -/
def bracketsOf : StepKind → List Char × List Char
  | .trigger => (['(', '('], [')', ')'])
  | .condition => (['{'], ['}'])
  | .storage => (['[', '('], [')', ']'])
  | .notification => (['[', '['], [']', ']'])
  | _ => (['['], [']'])

/-- An id as it is drawn: every character that belongs to no word becomes an underscore. -/
def drawnId (id : String) : List Char :=
  id.toList.map fun c => if isWord c then c else '_'

/-- A label as it is drawn: in double quotes, its own double quotes becoming single. -/
def drawnLabel (label : String) : List Char :=
  '"' :: replaceChar '"' '\'' label.toList ++ ['"']

/-- The indentation of the lines below the first. -/
def indentation : List Char := [' ', ' ', ' ', ' ']

/-- The line of a step. -/
def drawnStep (s : Step) : List Char :=
  let (opening, closing) := bracketsOf s.kind
  indentation ++ drawnId s.id ++ opening ++ drawnLabel s.name ++ closing

/-- The line of a connection. -/
def drawnConnection (c : Connection) : List Char :=
  let label := c.label.getD ""
  let arrow := if label.isEmpty then " --> ".toList else " -->|".toList ++ label.toList ++ ['|', ' ']
  indentation ++ drawnId c.source ++ arrow ++ drawnId c.target

/-- The lines of a drawing. -/
def drawnLines (direction : String) (d : Definition) : List (List Char) :=
  ("flowchart ".toList ++ direction.toList) :: d.steps.map drawnStep ++
    d.connections.map drawnConnection

/-- The text of a flowchart that shows a definition in the given direction. -/
def draw (direction : String) (d : Definition) : String :=
  String.ofList ((drawnLines direction d).flatMap fun line => line ++ ['\n'])

end StepFlow.Definition
