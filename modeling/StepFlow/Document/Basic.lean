import StepFlow.Failure
import StepFlow.Yaml.Content
/-!
# Documents

Texts in YAML whose content is a mapping: what process maps and canvases are handed over in. An
empty document counts as a mapping without entries.
-/

namespace StepFlow.Document

/-- The mapping that a document holds. The name says what the document is for. -/
def readMapping (name text : String) : Except Failure Record := do
  let content ← (Yaml.read text).mapError .unreadable
  if content.isGiven then
    match content.opened with
    | .record entries => return entries
    | _ => throw (.notMapping name)
  else return []

/-- Refuses a mapping that lacks a field. -/
def require (r : Record) (name : String) : Except Failure Unit :=
  if r.has (.text name) then .ok () else .error (.missingField name)

end StepFlow.Document
