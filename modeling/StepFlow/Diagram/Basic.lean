import StepFlow.Entries
import StepFlow.Text.Blank
/-!
# Diagrams

Flowcharts as far as they are read: labelled nodes of a few shapes, arrows between nodes, and named
sections that group nodes.
-/

namespace StepFlow

/-- The outline of a node. -/
inductive Shape where
  /-- A circle. -/
  | start
  /-- A doubled box. -/
  | finish
  /-- A box. -/
  | process
  /-- A rhombus. -/
  | decision
  /-- A cylinder. -/
  | data
deriving DecidableEq, Inhabited

/-- The written name of a shape. -/
def Shape.name : Shape → String
  | .start => "start"
  | .finish => "end"
  | .process => "process"
  | .decision => "decision"
  | .data => "data"

/-- A node and the section it was defined in. -/
structure Node where
  /-- The id by which arrows refer to the node. -/
  id : String
  /-- The text in the node. -/
  label : String
  /-- The outline of the node. -/
  shape : Shape
  /-- The label of the section. -/
  inSection? : Option String
deriving DecidableEq

/-- An arrow from one node to another. -/
structure Edge where
  /-- The id of the node it leaves. -/
  source : String
  /-- The id of the node it enters. -/
  target : String
  /-- The text on the arrow. -/
  label : Option String := none
deriving DecidableEq

/-- A flowchart. -/
structure Diagram where
  /-- The nodes in the order of their first definitions. -/
  nodes : List Node := []
  /-- The arrows in order. -/
  edges : List Edge := []
  /-- The labels of the sections by their ids. -/
  sections : Entries String String := []

namespace Diagram

open Text

/-- Whether a text starts and ends with the same quote, single or double. -/
def isQuoted : List Char → Bool
  | c :: d :: rest => (c == '"' || c == '\'') && (d :: rest).getLast? == some c
  | _ => false

/-- A label as it is meant: without the blanks around it, a pair of quotes, and the blanks inside
these. -/
def cleanLabel (raw : List Char) : List Char :=
  let label := trim raw
  if isQuoted label then trim (label.drop 1).dropLast else label

end Diagram
end StepFlow
