import StepFlow.Definition.Check
import StepFlow.Diagram.Reading
import StepFlow.Failure
import StepFlow.Process.Assembly
/-!
# Compiling processes

A process in prose and a diagram of it become one sound definition. Texts of too many lines are
refused before they are read.
-/

namespace StepFlow.Compile

open Text

/-- The number of lines up to which texts are read, unless told otherwise. -/
def defaultLineLimit : Int := 5000

/-- What the caller decides about a compilation. -/
structure Options extends Assembly.Options where
  /-- The number of lines up to which texts are read, if there is one. -/
  lineLimit : Option Int := some defaultLineLimit

/-- Refuses a text that is not empty and has more lines than the limit, counted by line feeds. -/
def checkSize (name text : String) (limit : Option Int) : Except Failure Unit :=
  match limit with
  | none => .ok ()
  | some n =>
    let count := lineFeeds text.toList + 1
    if text.isEmpty ∨ (count : Int) ≤ n then .ok () else .error (.oversized name count n)

/-- The classified steps of an outline, with their schemas. -/
def readSteps (description : String) : Except Failure (List Classified) :=
  match Outline.read description with
  | .ok steps => .ok ((Classify.steps steps).map Schema.complete)
  | .error e => .error (.overlong e.digits)

/-- The definition of steps and arrows, if it is sound. -/
def build (opts : Assembly.Options) (steps : List Classified) (edges : List Edge) :
    Except Failure Definition :=
  let definition := Assembly.assemble opts steps edges
  match definition.check with
  | .ok () => .ok definition
  | .error flaw => .error (.unsound flaw)

/-- The definition of a process, given in prose and as a diagram. -/
def compile (opts : Options) (description diagram : String) : Except Failure Definition := do
  checkSize "description" description opts.lineLimit
  checkSize "mermaid_code" diagram opts.lineLimit
  let steps ← readSteps description
  build opts.toOptions steps (Diagram.read diagram).edges

end StepFlow.Compile
