import StepFlow.Process.Kind
import StepFlow.Schema.Basic
/-!
# Workflow definitions

A compiled process: its steps with the steps they depend on, the connections between steps, and how
a test of the whole is run.
-/

namespace StepFlow

/-- The time in milliseconds that a test gives each step, unless told otherwise. -/
def defaultTimeout : Int := 30000

/-- How often a test repeats a failing step, unless told otherwise. -/
def defaultRetries : Int := 3

/-- The mode in which a test starts, unless told otherwise. -/
def defaultRunMode : String := "mock"

/-- The condition of a connection that nothing else is said of. -/
def defaultCondition : String := "success"

/-- How a single step is tested. -/
structure StepTest where
  /-- Whether a canned response may stand for the step. -/
  mockable : Bool := true
  /-- The time for the step in milliseconds. -/
  timeout : Int := defaultTimeout
  /-- How often the step is repeated if it fails. -/
  retries : Int := defaultRetries
  /-- Whether the step must reach the real service. -/
  realService : Bool := false
  /-- What the step does to data. -/
  operations : List String := ["read"]
deriving Inhabited

/-- A step of a workflow. -/
structure Step where
  /-- The id of the step. -/
  id : String
  /-- The title of the step. -/
  name : String
  /-- The position of the step. -/
  order : Int
  /-- What the step does. -/
  kind : StepKind
  /-- The service the step works with. -/
  integration : Option String := none
  /-- The step in words. -/
  description : String := ""
  /-- The parts of the step. -/
  subSteps : List String := []
  /-- The shape of the input. -/
  input : Schema := {}
  /-- The shape of the output. -/
  output : Schema := {}
  /-- The ids of the steps that come before. -/
  dependencies : List String := []
  /-- How the step is tested. -/
  test : StepTest := {}
deriving Inhabited

/-- A connection from one step to another. -/
structure Connection where
  /-- The id of the step it leaves. -/
  source : String
  /-- The id of the step it enters. -/
  target : String
  /-- When the connection is followed. -/
  condition : String := defaultCondition
  /-- What a diagram writes on it. -/
  label : Option String := none
deriving DecidableEq, Inhabited

/-- How a workflow is tested. -/
structure RunPlan where
  /-- The mode in which the test starts. -/
  mode : String := defaultRunMode
  /-- The time for the whole in milliseconds. -/
  timeout : Int := 0
  /-- How often a failing step is repeated. -/
  retries : Int := defaultRetries
  /-- Whether the test goes on after a step has failed for good. -/
  continueOnFailure : Bool := false

/-- A workflow. -/
structure Definition where
  /-- The process that the workflow was compiled from. -/
  processMapId : String := ""
  /-- The organisation that the process belongs to. -/
  orgId : String := ""
  /-- The steps. -/
  steps : List Step := []
  /-- The connections. -/
  connections : List Connection := []
  /-- How the workflow is tested. -/
  plan : RunPlan := {}
  /-- The canned responses, by service. -/
  mocks : Entries String Value := []
  /-- The version of the format. -/
  version : Int := 1
  /-- Whether the workflow is in use. -/
  isActive : Bool := true

namespace Definition

/-- The ids of the steps in order. -/
def ids (d : Definition) : List String :=
  d.steps.map (·.id)

end Definition
end StepFlow
