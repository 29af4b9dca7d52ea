import StepFlow.Definition.Basic
import StepFlow.Model.Reading
/-!
# Reading definitions

Workflow definitions, their parts and schemas, read from dynamic values. Unknown fields are ignored
and missing ones take their defaults, except for the few that a part cannot do without.
-/

namespace StepFlow.Model

open Result

/-- A schema. -/
def readSchema : Reader Schema := fun v => do
  let r ← readRecord "JsonSchemaLike" v
  .ok Schema.mk
    |> (ap · (optional r "type" readText "object"))
    |> (ap · (optional r "properties" (readTable (readTable readAny)) []))
    |> (ap · (optional r "required" (readList readText) []))
    |> (ap · (optional r "description" readText ""))

/-- How a step is tested. -/
def readStepTest : Reader StepTest := fun v => do
  let r ← readRecord "StepTestConfig" v
  .ok StepTest.mk
    |> (ap · (optional r "mockable" readTruth true))
    |> (ap · (optional r "timeout_ms" readInteger defaultTimeout))
    |> (ap · (optional r "retry_count" readInteger defaultRetries))
    |> (ap · (optional r "requires_real_api" readTruth false))
    |> (ap · (optional r "operations" (readList readText) ["read"]))

/-- The kind of a step, by its name. -/
def readKind : Reader StepKind :=
  readChoice (StepKind.all.map StepKind.name) StepKind.ofName?

/-- A step. -/
def readStep : Reader Step := fun v => do
  let r ← readRecord "WorkflowStepDefinition" v
  .ok Step.mk
    |> (ap · (required r "id" readText))
    |> (ap · (required r "name" readText))
    |> (ap · (required r "order" readInteger))
    |> (ap · (required r "step_type" readKind))
    |> (ap · (optional r "integration" (readOptional readText) none))
    |> (ap · (optional r "description" readText ""))
    |> (ap · (optional r "sub_steps" (readList readText) []))
    |> (ap · (optional r "input_schema" readSchema {}))
    |> (ap · (optional r "output_schema" readSchema {}))
    |> (ap · (optional r "dependencies" (readList readText) []))
    |> (ap · (optional r "test_config" readStepTest {}))

/-- A connection. -/
def readConnection : Reader Connection := fun v => do
  let r ← readRecord "WorkflowConnection" v
  .ok Connection.mk
    |> (ap · (required r "from_step_id" readText))
    |> (ap · (required r "to_step_id" readText))
    |> (ap · (optional r "condition" readText defaultCondition))
    |> (ap · (optional r "label" (readOptional readText) none))

/-- How a workflow is tested. -/
def readPlan : Reader RunPlan := fun v => do
  let r ← readRecord "WorkflowTestConfig" v
  .ok RunPlan.mk
    |> (ap · (optional r "default_run_mode" readText defaultRunMode))
    |> (ap · (optional r "timeout_ms" readInteger 0))
    |> (ap · (optional r "retry_count" readInteger defaultRetries))
    |> (ap · (optional r "continue_on_failure" readTruth false))

/-- A workflow definition. -/
def readDefinition : Reader Definition := fun v => do
  let r ← readRecord "WorkflowDefinition" v
  .ok Definition.mk
    |> (ap · (optional r "process_map_id" readText ""))
    |> (ap · (optional r "org_id" readText ""))
    |> (ap · (optional r "steps" (readList readStep) []))
    |> (ap · (optional r "connections" (readList readConnection) []))
    |> (ap · (optional r "test_config" readPlan {}))
    |> (ap · (optional r "mock_config" (readTable readAny) []))
    |> (ap · (optional r "version" readInteger 1))
    |> (ap · (optional r "is_active" readTruth true))

end StepFlow.Model
