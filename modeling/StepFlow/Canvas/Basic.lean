import StepFlow.Condition.Reading
/-!
# Canvas workflows

A workflow as it is drawn: typed nodes with data of their own, and edges between them. The first
trigger starts it, and its condition nodes decide.
-/

namespace StepFlow

/-- A node of a canvas. -/
structure CanvasNode where
  /-- The id. -/
  id : String
  /-- What the node is. -/
  kind : String
  /-- The properties of the node. -/
  data : Record := []
  /-- The fields of the node that are not known. -/
  extra : Record := []

/-- An edge of a canvas. -/
structure CanvasEdge where
  /-- The id, if the edge has one. -/
  id : Option String := none
  /-- The id of the node it leaves. -/
  source : String
  /-- The id of the node it enters. -/
  target : String
  /-- The fields of the edge that are not known. -/
  extra : Record := []

/-- A canvas. -/
structure Canvas where
  /-- The name of the workflow. -/
  name : String := ""
  /-- The nodes. -/
  nodes : List CanvasNode := []
  /-- The edges. -/
  edges : List CanvasEdge := []

/-- What a node is called: its label, or its kind with a capital. -/
def CanvasNode.label (n : CanvasNode) : Except Obstacle String :=
  let label := Value.field n.data "label"
  if label.isGiven then label.display
  else .ok (String.ofList (Text.capitalize n.kind.toList))

namespace Canvas

/-- The node that starts the workflow. -/
def trigger? (c : Canvas) : Option CanvasNode :=
  c.nodes.find? (·.kind == "trigger")

/-- The nodes that decide. -/
def conditions (c : Canvas) : List CanvasNode :=
  c.nodes.filter (·.kind == "condition")

/-- Whether each condition of the canvas holds of each of the payloads. The conditions are read even
if there are no payloads. -/
def verdicts (c : Canvas) (payloads : List Record) : Except Obstacle (List (List Bool)) := do
  let conditions ← c.conditions.mapM fun n => Condition.read n.data
  payloads.mapM fun data => conditions.mapM fun condition => condition.holds data

end Canvas
end StepFlow
