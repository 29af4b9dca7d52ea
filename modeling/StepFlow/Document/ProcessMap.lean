import StepFlow.Document.Basic
import StepFlow.Process.Compile
import StepFlow.Value.Display
/-!
# Process maps

A process in prose, the diagram of it, and the ids that it is known by, in one document. What stands
in the place of a text is taken as it is: an absent one counts as empty, and another value fails
where its text is first needed.
-/

namespace StepFlow.ProcessMap

/-- The number of lines that a value counts as having, if it is no text: the items of a list that
are line feeds are counted. -/
def lineCount : Value → Except Failure Nat
  | .list items => .ok ((items.filter fun v => v.isText "\n").length + 1)
  | .scalar (.bytes _) => .error .wrongKind
  | _ => .error .notText

/-- Refuses a body that has more lines than the limit. -/
def checkSize (name : String) (body : Value) (limit : Option Int) : Except Failure Unit :=
  match body, limit with
  | .text s, limit => Compile.checkSize name s limit
  | _, none => .ok ()
  | body, some n => do
    let count ← lineCount body
    if (count : Int) ≤ n then return () else throw (.oversized name count n)

/-- Whether bytes are blanks of ASCII. -/
def isBlankByte (b : UInt8) : Bool :=
  b == 32 || (9 ≤ b && b ≤ 13)

/-- The steps of a description. Bytes that are all blank have none. -/
def steps : Value → Except Failure (List Classified)
  | .text s => Compile.readSteps s
  | .scalar (.bytes bs) => if bs.all isBlankByte then .ok [] else .error .wrongKind
  | _ => .error .notText

/-- The arrows of a diagram. -/
def edges : Value → Except Failure (List Edge)
  | .text s => .ok (Diagram.read s).edges
  | .scalar (.bytes _) => .error .wrongKind
  | _ => .error .notText

/-- The definition of a process, given by values in the place of its description and its diagram. -/
def compile (opts : Compile.Options) (description diagram : Value) : Except Failure Definition := do
  checkSize "description" description opts.lineLimit
  checkSize "mermaid_code" diagram opts.lineLimit
  let steps ← steps description
  let edges ← edges diagram
  Compile.build opts.toOptions steps edges

/-- For texts this is the compilation of the texts. -/
theorem compile_text (opts : Compile.Options) (description diagram : String) :
    compile opts (.text description) (.text diagram) =
      Compile.compile opts description diagram := rfl

/-- The text of a field, the empty text if it is missing. -/
def idField (r : Record) (name : String) : Except Failure String :=
  match r.get? (.text name) with
  | none => .ok ""
  | some v => v.display.mapError .obstacle

/-- The definition of the process map in a document. The ids that the options give are replaced by
the document's. -/
def load (opts : Compile.Options) (text : String) : Except Failure Definition := do
  let map ← Document.readMapping "Process map" text
  Document.require map "description"
  Document.require map "mermaid"
  let processMapId ← idField map "process_map_id"
  let orgId ← idField map "org_id"
  compile { opts with processMapId, orgId } ((Value.field map "description").orElse (.text ""))
    ((Value.field map "mermaid").orElse (.text ""))

end StepFlow.ProcessMap
