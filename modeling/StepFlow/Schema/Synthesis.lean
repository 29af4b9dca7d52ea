import StepFlow.Process.Classify
import StepFlow.Schema.Basic
import StepFlow.Text.Case
import StepFlow.Text.Find
/-!
# Schemas of steps

The input schema of a step lists what its service needs and what its description mentions. The
output schema depends on the kind of the step alone, and the sample output of a step has exactly
the properties of that schema.
-/

namespace StepFlow.Schema

open Text

/-- The text properties that each service needs. -/
def integrationFields : List (String × List (String × String)) := [
  ("hubspot", [
    ("contact_id", "HubSpot contact ID"),
    ("deal_id", "HubSpot deal ID"),
    ("access_token", "HubSpot OAuth access token")]),
  ("fathom", [
    ("meeting_id", "Fathom meeting ID"),
    ("recording_url", "URL of the meeting recording"),
    ("transcript", "Meeting transcript text")]),
  ("google", [
    ("user_id", "Google user ID"),
    ("calendar_id", "Google calendar ID"),
    ("access_token", "Google OAuth access token")]),
  ("slack", [
    ("channel_id", "Slack channel ID"),
    ("message", "Message text to post")]),
  ("justcall", [
    ("call_id", "JustCall call ID"),
    ("phone_number", "Phone number in E.164 format")]),
  ("savvycal", [
    ("booking_id", "SavvyCal booking ID"),
    ("scheduling_link", "SavvyCal scheduling link")])]

/-- The words of a description that stand for a property: the word, the name and what it is. -/
def mentionedFields : List (String × String × String) := [
  ("id", "id", "Record identifier"),
  ("email", "email", "Email address")]

/-- The properties of the output of each kind of step: name, type and what it is. -/
def outputFields : StepKind → List (String × String × String)
  | .trigger => [
    ("event_id", "string", "Unique event identifier"),
    ("event_type", "string", "Type of event received"),
    ("payload", "object", "Raw event payload")]
  | .storage => [
    ("record_id", "string", "ID of the stored record"),
    ("created", "boolean", "Whether a new record was created"),
    ("updated", "boolean", "Whether an existing record was updated")]
  | .transform => [
    ("transformed_data", "object", "Transformed data"),
    ("extracted_items", "array", "Items extracted from the input")]
  | .externalCall => [
    ("status_code", "number", "HTTP status code"),
    ("response", "object", "Response body"),
    ("success", "boolean", "Whether the call succeeded")]
  | _ => [
    ("success", "boolean", "Whether the step succeeded"),
    ("data", "object", "Step result data")]

/-- The properties that a service needs. -/
def integrationProperties (integration : Option String) : Entries String (Entries String Value) :=
  ((integration.bind fun i => integrationFields.lookup i).getD []).map fun (name, what) =>
    (name, property "string" what)

/-- Adds the properties that a lower-case description mentions and that are not there yet. -/
def addMentioned (description : List Char) (properties : Entries String (Entries String Value)) :
    Entries String (Entries String Value) :=
  mentionedFields.foldl (fun ps (word, name, what) =>
    if occursIn word.toList description && !ps.has name then ps.put name (property "string" what)
    else ps) properties

/-- The input schema of a step. -/
def input (title description : String) (integration : Option String) : Schema where
  properties := addMentioned (lower description.toList) (integrationProperties integration)
  description := trimmed ("Input data for " ++ title)

/-- The output schema of a step. -/
def output (title : String) (kind : StepKind) : Schema where
  properties := (outputFields kind).map fun (name, type, what) => (name, property type what)
  description := trimmed ("Output data for " ++ title)

/-- A classified step with its two schemas. -/
def complete (c : Classified) : Classified :=
  { c with
    input := some (input c.step.title c.step.description c.integration)
    output := some (output c.step.title c.kind) }

/-- The name of the event that a step stands for. -/
def eventName (stepName : String) : String :=
  let words := fields (lower (if stepName.isEmpty then "event" else stepName).toList)
  String.ofList (joinWith ['_'] words)

/-- A record with text keys. -/
def record (entries : List (String × Value)) : Value :=
  .record (entries.map fun (k, v) => (.text k, v))

/-- A sample of a step's output, in which the given record stands for the step's input. -/
def sampleEntries (stepId stepName : String) (kind : StepKind) (data : Record) :
    Entries String Value :=
  match kind with
  | .trigger => [
    ("event_id", .text ("evt_" ++ stepId)),
    ("event_type", .text (eventName stepName)),
    ("payload", .record data)]
  | .storage => [
    ("record_id", .text ("rec_" ++ stepId)),
    ("created", .bool true),
    ("updated", .bool false)]
  | .transform => [
    ("transformed_data", .record data),
    ("extracted_items", .list [])]
  | .externalCall => [
    ("status_code", .int 200),
    ("response", record [("success", .bool true)]),
    ("success", .bool true)]
  | _ => [
    ("success", .bool true),
    ("data", .record data)]

/-- A sample of a step's output as a value. -/
def sample (stepId stepName : String) (kind : StepKind) (data : Record) : Value :=
  record (sampleEntries stepId stepName kind data)

end StepFlow.Schema
