import StepFlow.Definition.Check
import StepFlow.Model.Issue
import StepFlow.Process.Outline
import StepFlow.Value.Basic
import StepFlow.Yaml.Fault
/-!
# Failures

Everything that can stop a process from being compiled or a workflow from being read, and the
wording of the failures that are put into words.
-/

namespace StepFlow

/-- Why a request fails. -/
inductive Failure where
  /-- A text has more lines than allowed. -/
  | oversized (name : String) (count : Nat) (limit : Int)
  /-- A heading's number has more digits than are read. -/
  | overlong (digits : Nat)
  /-- A definition is not sound. -/
  | unsound (flaw : Flaw)
  /-- An operation on dynamic values fails. -/
  | obstacle (o : Obstacle)
  /-- Something else stands where a text is needed. -/
  | notText
  /-- A value is of a kind that the operation cannot work with. -/
  | wrongKind
  /-- A document is not a mapping. -/
  | notMapping (document : String)
  /-- A document lacks a field. -/
  | missingField (name : String)
  /-- A record does not fit its model. -/
  | invalid (report : Model.Report)
  /-- A document holds a record that does not fit its model. -/
  | invalidDocument (document : String) (report : Model.Report)
  /-- A definition holds values that are nested too deeply to be exported. -/
  | tooDeep
  /-- Steps depend on each other in a chain that is too long to be followed. -/
  | chainTooLong
  /-- A document cannot be read. -/
  | unreadable (fault : Yaml.Fault)

namespace Failure

/-- The failure's wording, if it has one. -/
def message? : Failure → Option String
  | oversized name count limit =>
    some (name ++ " has " ++ toString count ++ " lines, limit is " ++ toString limit)
  | overlong digits => (Yaml.Fault.overlong digits).message?
  | unsound flaw => some flaw.message
  | obstacle .tooLong =>
    some ("Exceeds the limit (4300 digits) for integer string conversion; " ++
      "use sys.set_int_max_str_digits() to increase the limit")
  | notMapping document => some (document ++ " YAML must be a mapping")
  | missingField name => some ("Missing required top-level field: " ++ name)
  | invalid report => some report.headline
  | invalidDocument document report =>
    some (document ++ " validation error: " ++ report.headline)
  | tooDeep => some "Maximum serialization depth exceeded"
  | unreadable fault => fault.message?
  | _ => none

end Failure
end StepFlow
