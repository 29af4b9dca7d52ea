import StepFlow.Value.Basic
/-!
# Payloads

The data with which a workflow is started in a test: who runs the test and when, followed by sample
data for the type of the trigger. A type that is not known gets the data of a deal and is named in
the payload.
-/

namespace StepFlow.Payload

/-- What identifies a test run. -/
structure Stamp where
  /-- The id of the run. -/
  runId : String
  /-- When it was made. -/
  time : String

/-- The sample data of the known triggers. -/
def samples : List (String × List (String × Value)) := [
  ("deal_created", [
    ("deal_id", .text "test_deal_123"),
    ("deal_name", .text "Standard Deal - Test Co"),
    ("value", .int 25000),
    ("stage", .text "SQL"),
    ("company", .text "Test Company"),
    ("contact_name", .text "John Doe"),
    ("contact_email", .text "john@example.com"),
    ("owner", .text "current_user")]),
  ("stage_changed", [
    ("deal_id", .text "test_deal_456"),
    ("deal_name", .text "Pipeline Test Deal"),
    ("old_stage", .text "SQL"),
    ("new_stage", .text "Opportunity"),
    ("value", .int 50000)]),
  ("activity_created", [
    ("activity_type", .text "proposal_sent"),
    ("description", .text "Sent proposal to client"),
    ("deal_id", .text "test_deal_123"),
    ("deal_name", .text "Test Deal - Acme Corp"),
    ("company", .text "Acme Corp"),
    ("contact_name", .text "Jane Smith")]),
  ("activity_monitor", [
    ("deal_id", .text "test_deal_789"),
    ("deal_name", .text "Activity Monitor Test"),
    ("days_inactive", .int 3),
    ("last_activity", .text "2024-01-01"),
    ("activity_count", .int 2)]),
  ("task_overdue", [
    ("task_id", .text "test_task_001"),
    ("task_title", .text "Follow up with client"),
    ("days_overdue", .int 1),
    ("assigned_to", .text "current_user"),
    ("deal_name", .text "Overdue Task Deal")]),
  ("webhook_received", [
    ("webhook_data", .record [
      (.text "source", .text "external_system"),
      (.text "event", .text "data_updated"),
      (.text "payload", .record [
        (.text "id", .int 123),
        (.text "status", .text "active")])])])]

/-- The sample data of any other trigger. -/
def otherSample : List (String × Value) := [
  ("deal_id", .text "test_deal_001"),
  ("deal_name", .text "Basic Test Deal"),
  ("value", .int 10000),
  ("stage", .text "SQL")]

/-- Entries with text keys as entries of a record. -/
def keyed (entries : List (String × Value)) : Record :=
  entries.map fun (k, v) => (.text k, v)

/-- The sample data of a trigger type, if it is known. -/
def sample? : Scalar → Option (List (String × Value))
  | .text s => samples.lookup s
  | _ => none

/-- A stamp as entries. -/
def Stamp.entries (s : Stamp) : Record :=
  keyed [("test_run_id", .text s.runId), ("timestamp", .text s.time)]

/-- The payload that a trigger of the given type starts with. -/
def ofTrigger (stamp : Stamp) (type : Value) : Except Obstacle Record := do
  let key ← type.asKey
  match sample? key with
  | some sample => return stamp.entries.putAll (keyed sample)
  | none => return (stamp.entries.putAll (keyed otherSample)).put (.text "trigger_type") type

/-- The given text, or a fresh one if it is absent or empty. -/
def orFresh (given : Option String) (fresh : String) : String :=
  match given with
  | some s => if s.isEmpty then fresh else s
  | none => fresh

end StepFlow.Payload
