import StepFlow.Definition.Drawing
import StepFlow.Definition.Order
import StepFlow.Model.Definition
import StepFlow.Process.Compile
/-!
# Sessions

A session works on one definition. Each action changes it or asks something about it, and an action
that fails leaves it as it was.
-/

namespace StepFlow.Session

/-- The direction of a drawing, unless told otherwise. -/
def defaultDirection : String := "TD"

/-- What can be done in a session. -/
inductive Action where
  /-- Takes over a compiled definition, if the compilation succeeded. -/
  | compile (compiled : Except Failure Definition)
  /-- Compiles a description together with the drawing of the definition and more lines. -/
  | recompile (description more : String)
  /-- Adds a step, read from a value. -/
  | addStep (step : Value)
  /-- Removes all steps of an id. -/
  | removeStep (id : String)
  /-- Changes what the steps of an id depend on. -/
  | setDependencies (id : String) (dependencies : List String)
  /-- Adds a connection, read from a value. -/
  | connect (connection : Value)
  /-- Reverses the steps. -/
  | reverse
  /-- Checks the definition. -/
  | validate
  /-- Asks for the order of execution. -/
  | order
  /-- Asks for the drawing. -/
  | draw
  /-- Asks for the diagram that the drawing shows. -/
  | redraw

/-- What an action answers. -/
inductive Reply where
  /-- Step ids. -/
  | ids (ids : List String)
  /-- Connections. -/
  | connections (connections : List Connection)
  /-- A number of steps or connections. -/
  | count (n : Nat)
  /-- Each step's id, with what it depends on. -/
  | dependencies (entries : List (String × List String))
  /-- The definition is sound. -/
  | valid
  /-- A drawing. -/
  | drawing (text : String)
  /-- A diagram. -/
  | diagram (d : Diagram)

/-- Reads a part of a definition from a value. -/
def readPart {α : Type} (model : String) (read : Model.Reader α) (v : Value) : Except Failure α :=
  (Model.report model read v).mapError .invalid

/-- The definition after an action, and what the action answers. -/
def perform (d : Definition) : Action → Except Failure (Definition × Reply)
  | .compile compiled => do
    let next ← compiled
    return (next, .ids next.ids)
  | .recompile description more => do
    let next ← Compile.compile {} description (d.draw defaultDirection ++ more)
    return (next, .connections next.connections)
  | .addStep v => do
    let step ← readPart "WorkflowStepDefinition" Model.readStep v
    let next := { d with steps := d.steps ++ [step] }
    return (next, .count next.steps.length)
  | .removeStep id =>
    let next := { d with steps := d.steps.filter (·.id != id) }
    .ok (next, .count next.steps.length)
  | .setDependencies id dependencies =>
    let change (s : Step) : Step := if s.id = id then { s with dependencies } else s
    let next := { d with steps := d.steps.map change }
    .ok (next, .dependencies (next.steps.map fun s => (s.id, s.dependencies)))
  | .connect v => do
    let connection ← readPart "WorkflowConnection" Model.readConnection v
    let next := { d with connections := d.connections ++ [connection] }
    return (next, .count next.connections.length)
  | .reverse =>
    let next := { d with steps := d.steps.reverse }
    .ok (next, .ids next.ids)
  | .validate => do
    d.check.mapError .unsound
    return (d, .valid)
  | .order => do return (d, .ids (← d.ordered))
  | .draw => .ok (d, .drawing (d.draw defaultDirection))
  | .redraw => .ok (d, .diagram (Diagram.read (d.draw defaultDirection)))

/-- What each of the actions answers, one after another. -/
def run (d : Definition) : List Action → List (Except Failure Reply)
  | [] => []
  | a :: rest =>
    match perform d a with
    | .ok (next, reply) => .ok reply :: run next rest
    | .error f => .error f :: run d rest

end StepFlow.Session
