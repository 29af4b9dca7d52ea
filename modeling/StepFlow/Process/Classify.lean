import StepFlow.Process.Kind
import StepFlow.Process.Outline
import StepFlow.Schema.Basic
import StepFlow.Text.Case
/-!
# Classification

Which kind a step is of and which service it works with, told from the words of its title and
description. The rules of a table are tried from the top, and the first that finds one of its
keywords decides. A step without keywords is classified by where it stands.
-/

namespace StepFlow

/-- A step together with what is known about it. -/
structure Classified where
  /-- The step of the outline. -/
  step : Outline.Step
  /-- What the step does. -/
  kind : StepKind
  /-- The service the step works with. -/
  integration : Option String := none
  /-- The shape of the step's input. -/
  input : Option Schema := none
  /-- The shape of the step's output. -/
  output : Option Schema := none

namespace Classify

open Text

/-- The keywords of each kind. -/
def kindRules : List (StepKind × List String) := [
  (.trigger, ["oauth", "webhook", "trigger", "connects", "listens for", "receives"]),
  (.action, ["create", "update", "assign", "generate", "process"]),
  (.condition, ["check", "validate", "decision", "if ", "whether", "branch"]),
  (.transform, ["transform", "parse", "format", "extract", "convert", "normalize"]),
  (.externalCall, ["api", "sync", "fetch", "call ", "request"]),
  (.storage, ["store", "save", "table", "database", "persist", "insert", "upsert"]),
  (.notification, ["notify", "notification", "email", "alert", "send", "post to"])]

/-- The keywords of each service. -/
def integrationRules : List (String × List String) := [
  ("hubspot", ["hubspot", "crm contact", "crm deal"]),
  ("fathom", ["fathom", "meeting recording", "recording", "transcript"]),
  ("google", ["google", "gmail", "calendar", "workspace"]),
  ("slack", ["slack", "channel message"]),
  ("justcall", ["justcall", "telephony", "phone call"]),
  ("savvycal", ["savvycal", "booking link", "scheduling link"])]

/-- Whether one of the keywords occurs in a text. -/
def mentions (text : List Char) (keywords : List String) : Bool :=
  keywords.any fun k => occursIn k.toList text

/-- The result of the first rule with a keyword in the text. -/
def firstRule? {α : Type} (rules : List (α × List String)) (text : List Char) : Option α :=
  (rules.find? fun r => mentions text r.2).map (·.1)

/-- The text in which keywords are looked for. -/
def searched (title description : String) : List Char :=
  lower (title.toList ++ ' ' :: description.toList)

/-- The kind of a step without keywords: the first one triggers, the last one notifies. -/
def kindAt (index total : Int) : StepKind :=
  if index = 0 then .trigger
  else if index = total - 1 then .notification
  else .action

/-- The kind of the step at a position among a number of steps. -/
def kind (title description : String) (index total : Int) : StepKind :=
  (firstRule? kindRules (searched title description)).getD (kindAt index total)

/-- The service that a step works with. -/
def integration? (title description : String) : Option String :=
  firstRule? integrationRules (searched title description)

/-- The steps from a position on, classified; `total` is the number of all steps. -/
def stepsFrom (total : Int) : (index : Nat) → List Outline.Step → List Classified
  | _, [] => []
  | index, s :: rest =>
    { step := s, kind := kind s.title s.description index total,
      integration := integration? s.title s.description } :: stepsFrom total (index + 1) rest

/-- All steps of an outline, classified. -/
def steps (outline : List Outline.Step) : List Classified :=
  stepsFrom outline.length 0 outline

end Classify
end StepFlow
