import StepFlow.Document.Basic
import StepFlow.Model.Canvas
/-!
# Canvases in documents

A canvas may be the whole of a document or stand in one of its fields, in which case the document's
name is the canvas's unless that has its own.
-/

namespace StepFlow.Canvas

/-- The field of a document that may hold the canvas. -/
def wrapper : String := "canvas_data"

/-- The canvas of a document, as a record. -/
def unwrap (document : Record) : Except Failure Record :=
  match document.get? (.text wrapper) with
  | none => .ok document
  | some content =>
    let name := (document.get? (.text "name")).getD (.text "")
    match (content.orElse (.record [])).opened with
    | .record entries => .ok (Entries.putAll [(.text "name", name)] entries)
    | _ => .error .wrongKind

/-- The canvas in a document. -/
def load (text : String) : Except Failure Canvas := do
  let canvas ← unwrap (← Document.readMapping "Canvas workflow" text)
  Document.require canvas "nodes"
  (Model.report Model.canvasModel Model.readCanvas (.record canvas)).mapError
    (.invalidDocument "Canvas workflow")

end StepFlow.Canvas
