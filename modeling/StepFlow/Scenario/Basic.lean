import StepFlow.Canvas.Basic
import StepFlow.Condition.Samples
import StepFlow.Scenario.Payload
/-!
# Scenarios

Test runs of a canvas workflow. Each condition gets a payload that should pass it and one that
should fail it; two or more conditions also get one payload for all of them, in which a later
condition overwrites an earlier one with the same key. Three edge cases follow, whatever the
conditions are.
-/

namespace StepFlow

/-- How a run is expected to end. -/
inductive Outcome where
  /-- The conditions hold. -/
  | pass
  /-- Some condition does not hold. -/
  | fail
  /-- Some do and some do not. -/
  | partly
deriving DecidableEq

/-- The written name of an outcome. -/
def Outcome.name : Outcome → String
  | pass => "pass"
  | fail => "fail"
  | partly => "partial"

/-- What a scenario is for. -/
inductive Category where
  /-- To pass. -/
  | pass
  /-- To fail. -/
  | fail
  /-- To try unusual data. -/
  | edge
deriving DecidableEq

/-- The written name of a category. -/
def Category.name : Category → String
  | pass => "pass"
  | fail => "fail"
  | edge => "edge"

/-- A test run of a workflow. -/
structure Scenario where
  /-- The id, which no two scenarios of a workflow share. -/
  id : String
  /-- The title. -/
  name : String
  /-- What the run is about. -/
  description : String
  /-- The payload. -/
  data : Record
  /-- How the run is expected to end. -/
  outcome : Outcome
  /-- What the run is for. -/
  category : Category

namespace Scenario

/-! ## Conditions -/

/-- A condition node, read: what it asks for, its two sample values and its texts. -/
structure Probe where
  /-- The key that the condition's field has in payloads. -/
  key : Scalar
  /-- The value that should satisfy the condition. -/
  pass : Value
  /-- The value that should not. -/
  fail : Value
  /-- What the node is called. -/
  label : String
  /-- The condition in words. -/
  text : String

/-- The key of a condition's field in payloads; an unknown field has a key of its own. -/
def payloadKey (field : Scalar) : Scalar :=
  match field with
  | .text s => .text (if s = Condition.unknownField then "unknown_field" else s)
  | k => k

/-- Reads a condition node. -/
def Probe.ofNode (n : CanvasNode) : Except Obstacle Probe := do
  let condition ← Condition.read n.data
  let (pass, fail) ← condition.samples
  let field ← condition.field.asKey
  let label ← n.label
  let text ← condition.display
  return { key := payloadKey field, pass, fail, label, text }

/-- The id of a scenario of one condition, by the condition's position from one. -/
def conditionId (what : String) (position : Nat) : String :=
  what ++ "_condition_" ++ String.ofList (Text.decimal position)

/-- The scenario that should pass a condition. -/
def passing (base : Record) (label : String) (position : Nat) (p : Probe) : Scenario where
  id := conditionId "pass" position
  name := label ++ " - Pass " ++ p.label
  description := "Data that should pass " ++ p.text
  data := base.put p.key p.pass
  outcome := .pass
  category := .pass

/-- The scenario that should fail a condition. -/
def failing (base : Record) (label : String) (position : Nat) (p : Probe) : Scenario where
  id := conditionId "fail" position
  name := label ++ " - Fail " ++ p.label
  description := "Data that should fail " ++ p.text
  data := base.put p.key p.fail
  outcome := .fail
  category := .fail

/-- The scenarios of conditions, the first of which has the given position. -/
def ofProbes (base : Record) (label : String) : (position : Nat) → List Probe → List Scenario
  | _, [] => []
  | position, p :: rest =>
    passing base label position p :: failing base label position p ::
      ofProbes base label (position + 1) rest

/-- The scenario that should pass all conditions. -/
def passingAll (base : Record) (label : String) (probes : List Probe) : Scenario where
  id := "pass_all_conditions"
  name := label ++ " - Pass All Conditions"
  description :=
    "Data that should pass all " ++ String.ofList (Text.decimal probes.length) ++ " conditions"
  data := base.putAll (probes.map fun p => (p.key, p.pass))
  outcome := .pass
  category := .pass

/-- The scenario of a workflow without conditions. -/
def basicFlow (base : Record) (label : String) : Scenario where
  id := "basic_flow"
  name := label ++ " - Basic Flow"
  description := "Typical " ++ Text.lowered label ++ " data"
  data := base
  outcome := .pass
  category := .pass

/-! ## Edge cases -/

/-- The keys that a payload should not lack. -/
def requiredKeys : List String := ["deal_id", "deal_name"]

/-- Values of wrong types. -/
def invalidValues : List (String × Value) := [
  ("value", .text "not_a_number"),
  ("deal_value", .text "not_a_number"),
  ("deal_name", .int 12345),
  ("stage", .int 42),
  ("contact_email", .text "not-an-email@")]

/-- Values at the limits. -/
def boundaryValues : List (String × Value) := [
  ("value", .int 0),
  ("deal_value", .int (-1)),
  ("activity_count", .int 999999999),
  ("deal_name", .text ""),
  ("priority", .text "ultra_critical")]

/-- Whether a key is one of the required ones. -/
def isRequired : Scalar → Bool
  | .text s => requiredKeys.contains s
  | _ => false

/-- The three edge cases. -/
def edgeCases (base : Record) (label : String) : List Scenario := [
  { id := "missing_required_fields"
    name := label ++ " - Missing Required Fields"
    description := "Payload without " ++ String.intercalate ", " requiredKeys
    data := base.without isRequired
    outcome := .fail
    category := .edge },
  { id := "invalid_data"
    name := label ++ " - Invalid Data"
    description := "Wrong-typed values and a malformed email address"
    data := base.putAll (Payload.keyed invalidValues)
    outcome := .fail
    category := .edge },
  { id := "boundary_values"
    name := label ++ " - Boundary Values"
    description := "Zero, negative, very large and empty values plus an out-of-range priority"
    data := base.putAll (Payload.keyed boundaryValues)
    outcome := .partly
    category := .edge }]

/-! ## All scenarios -/

/-- The scenarios of a workflow with the given payload, label and conditions. -/
def all (base : Record) (label : String) (probes : List Probe) : List Scenario :=
  ofProbes base label 1 probes ++
    (if 2 ≤ probes.length then [passingAll base label probes] else []) ++
    (if probes.isEmpty then [basicFlow base label] else []) ++
    edgeCases base label

/-- The type of a trigger. -/
def triggerType (n : CanvasNode) : Value :=
  ((Value.field n.data "triggerType").orElse (Value.field n.data "type")).orElse (.text "default")

/-- The scenarios of a canvas workflow; without a trigger there are none. -/
def generate (stamp : Payload.Stamp) (c : Canvas) : Except Obstacle (List Scenario) := do
  match c.trigger? with
  | none => return []
  | some trigger =>
    let label ← trigger.label
    let base ← Payload.ofTrigger stamp (triggerType trigger)
    let probes ← c.conditions.mapM Probe.ofNode
    return all base label probes

end Scenario
end StepFlow
