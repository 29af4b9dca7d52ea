import StepFlow.Canvas.Basic
import StepFlow.Model.Reading
/-!
# Reading canvas workflows

Canvas workflows read from dynamic values. Nodes and edges keep the fields that are not known, as
long as their keys are texts.
-/

namespace StepFlow.Model

open Result

/-- The entries of a record whose keys are none of the known names; the keys must be texts. -/
def readExtra (r : Record) (known : List String) : Result Record :=
  let unknown := r.filter fun (k, _) =>
    match k with
    | .text s => !known.contains s
    | _ => true
  Result.all (unknown.map fun (k, v) =>
    match k with
    | .text s => .ok (.text s, v)
    | k => (mismatch .key : Result _).within (placeOf k))

/-- A record of the given model that keeps fields that are not known. Names with halves of characters
in them are refused before anything else is looked at. -/
def readOpenRecord (model : String) : Reader Record := fun v => do
  let r ← readRecord model v
  if r.any fun (k, _) => k.isTorn then mismatch .textBytes else return r

/-- A table of dynamic values, as a record. -/
def readData : Reader Record := fun v =>
  (readTable readAny v).map fun t => t.map fun (k, v) => (.text k, v)

/-- A node of a canvas. -/
def readCanvasNode : Reader CanvasNode := fun v => do
  let r ← readOpenRecord "CanvasNode" v
  .ok CanvasNode.mk
    |> (ap · (required r "id" readText))
    |> (ap · (required r "type" readText))
    |> (ap · (optional r "data" readData []))
    |> (ap · (readExtra r ["id", "type", "data"]))

/-- An edge of a canvas. -/
def readCanvasEdge : Reader CanvasEdge := fun v => do
  let r ← readOpenRecord "CanvasEdge" v
  .ok CanvasEdge.mk
    |> (ap · (optional r "id" (readOptional readText) none))
    |> (ap · (required r "source" readText))
    |> (ap · (required r "target" readText))
    |> (ap · (readExtra r ["id", "source", "target"]))

/-- The name under which a canvas is reported. -/
def canvasModel : String := "CanvasWorkflow"

/-- A canvas. -/
def readCanvas : Reader Canvas := fun v => do
  let r ← readRecord canvasModel v
  .ok Canvas.mk
    |> (ap · (optional r "name" readText ""))
    |> (ap · (optional r "nodes" (readList readCanvasNode) []))
    |> (ap · (optional r "edges" (readList readCanvasEdge) []))

end StepFlow.Model
