import StepFlow.Diagram.Statement
import StepFlow.Text.Lines
/-!
# Reading diagrams

A flowchart is the effect of its lines in order. The first definition of a node that gives it a
label of its own counts, and it places the node in the section that is open at that line. No text is
an invalid diagram: a line of no known form has no effect.
-/

namespace StepFlow.Diagram

open Text

/-- The diagram so far and the label of the open section. -/
structure Progress where
  /-- The diagram so far. -/
  diagram : Diagram := {}
  /-- The label of the open section. -/
  current? : Option String := none

namespace Progress

/-- Adds a node, unless its id is taken or its label is empty or just the id. -/
def define (p : Progress) (id : List Char) (body : Body) : Progress :=
  let label := cleanLabel body.label
  if p.diagram.nodes.any (·.id == String.ofList id) ∨ label.isEmpty ∨ label = id then p
  else
    let node : Node := ⟨String.ofList id, String.ofList label, body.shape, p.current?⟩
    { p with diagram := { p.diagram with nodes := p.diagram.nodes ++ [node] } }

/-- Adds the node that an end of an arrow defines. -/
def defineEnd (p : Progress) (e : Endpoint) : Progress :=
  match e.body? with
  | some body => p.define e.id body
  | none => p

/-- The label on an arrow, if it is not empty. -/
def arrowLabel (raw : Option (List Char)) : Option String := do
  let label := cleanLabel (← raw)
  if label.isEmpty then none else some (String.ofList label)

/-- Adds an arrow. -/
def connect (p : Progress) (edge : Edge) : Progress :=
  { p with diagram := { p.diagram with edges := p.diagram.edges ++ [edge] } }

/-- Opens a section; without a label it is called by its id. -/
def enter (p : Progress) (id : List Char) (raw : Option (List Char)) : Progress :=
  let label := cleanLabel (raw.getD [])
  let shown := String.ofList (if label.isEmpty then id else label)
  { p with
    current? := some shown
    diagram := { p.diagram with sections := p.diagram.sections.put (String.ofList id) shown } }

/-- The effect of a statement. -/
def apply (p : Progress) : Statement → Progress
  | .opening id label? => p.enter id label?
  | .closing => { p with current? := none }
  | .edge source label? target =>
    ((p.defineEnd source).defineEnd target).connect
      ⟨String.ofList source.id, String.ofList target.id, arrowLabel label?⟩
  | .node id body => p.define id body

end Progress

/-- The diagram that a text draws. -/
def read (text : String) : Diagram :=
  (((lines text.toList).filterMap Statement.read?).foldl Progress.apply {}).diagram

end StepFlow.Diagram
