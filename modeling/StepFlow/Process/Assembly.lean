import StepFlow.Definition.Basic
import StepFlow.Diagram.Basic
import StepFlow.Process.Classify
import StepFlow.Schema.Synthesis
import StepFlow.Text.Case
import StepFlow.Text.Find
/-!
# Assembling definitions

From classified steps and the arrows of a diagram to a definition. The steps form a chain in the
order of the outline, and each is connected to the next. A labelled arrow whose ends stand for two
different steps adds a connection, unless its source already has one under that condition; it never
removes or changes one.
-/

namespace StepFlow.Assembly

open Text

/-! ## Step ids -/

/-- The greatest number of characters of a title in a step id. -/
def slugLimit : Int := 30

/-- The characters of a slug: lower-case ASCII letters and digits. -/
def isSlugChar (c : Char) : Bool :=
  ('a' ≤ c && c ≤ 'z') || ('0' ≤ c && c ≤ '9')

/-- The start of a list: as many elements as the limit says, or all but as many as a negative limit
says. -/
def takeUpTo {α : Type} (limit : Int) (xs : List α) : List α :=
  if 0 ≤ limit then xs.take limit.toNat else xs.take (xs.length - limit.natAbs)

/-- A title as part of an id: its runs of slug characters in lower case, joined by underscores and
cut at the limit. -/
def slug (title : String) (limit : Int) : List Char :=
  takeUpTo limit (joinWith ['_'] (splitRuns (!isSlugChar ·) (lower title.toList)))

/-- The id of the step at a position. -/
def stepId (position : Int) (title : String) (limit : Int := slugLimit) : String :=
  String.ofList ("step_".toList ++ integer position ++ '_' :: slug title limit)

/-- The first step id in which a node's id occurs, in lower case. -/
def resolve? (nodeId : String) (stepIds : List String) : Option String :=
  let needle := lower nodeId.toList
  if needle.isEmpty then none else stepIds.find? fun id => occursIn needle id.toList

/-! ## What a step does -/

/-- The words that tell of reading. -/
def readWords : List String :=
  ["fetch", "get", "read", "retrieve", "list", "query", "search", "load", "look up"]

/-- The words that tell of writing. -/
def writeWords : List String :=
  ["create", "update", "save", "store", "write", "insert", "upsert", "send", "post", "sync"]

/-- The words that tell of deleting. -/
def deleteWords : List String :=
  ["delete", "remove", "archive", "purge"]

/-- The words that call for the real service. -/
def serviceWords : List String :=
  ["fetch", "get"]

/-- The operations that a description tells of; without any, the step reads. -/
def operations (description : String) : List String :=
  let text := lower description.toList
  let found :=
    (if Classify.mentions text readWords then ["read"] else []) ++
    (if Classify.mentions text writeWords then ["write"] else []) ++
    (if Classify.mentions text deleteWords then ["delete"] else [])
  if found.isEmpty then ["read"] else found

/-- Whether a step must reach the real service: calls that read from it do. -/
def needsService (kind : StepKind) (description : String) : Bool :=
  kind == .externalCall && Classify.mentions (lower description.toList) serviceWords

/-! ## Steps and connections -/

/-- What the caller decides about a definition. -/
structure Options where
  /-- The process. -/
  processMapId : String := ""
  /-- The organisation. -/
  orgId : String := ""
  /-- The time for each step in milliseconds. -/
  stepTimeout : Int := defaultTimeout
  /-- How often a failing step is repeated. -/
  retries : Int := defaultRetries
  /-- The mode in which a test starts. -/
  mode : String := defaultRunMode

/-- The step at a position, which depends on the step before it. -/
def buildStep (opts : Options) (position : Nat) (previous : Option String) (c : Classified) : Step where
  id := stepId position c.step.title
  name := c.step.title
  order := position
  kind := c.kind
  integration := c.integration
  description := c.step.description
  subSteps := c.step.subSteps
  input := c.input.getD { description := "Input data for " ++ c.step.title }
  output := c.output.getD { description := "Output data for " ++ c.step.title }
  dependencies := previous.toList
  test := {
    mockable := c.kind != .storage
    timeout := opts.stepTimeout
    retries := opts.retries
    realService := needsService c.kind c.step.description
    operations := operations c.step.description }

/-- The steps from a position on. -/
def buildSteps (opts : Options) :
    (position : Nat) → (previous : Option String) → List Classified → List Step
  | _, _, [] => []
  | position, previous, c :: rest =>
    let step := buildStep opts position previous c
    step :: buildSteps opts (position + 1) (some step.id) rest

/-- The connections from each step to the next. -/
def chain (condition : String) : List String → List Connection
  | a :: b :: rest => { source := a, target := b, condition } :: chain condition (b :: rest)
  | _ => []

/-- The connection that an arrow stands for: its label is not empty, and its ends stand for two
different steps. -/
def connection? (stepIds : List String) (edge : Edge) : Option Connection := do
  let label ← edge.label
  let source ← resolve? edge.source stepIds
  let target ← resolve? edge.target stepIds
  if label.isEmpty ∨ source = target then none
  else some { source, target, condition := label, label := some label }

/-- Whether a connection leaves the same step under the same condition as another. -/
def clashes (c d : Connection) : Bool :=
  c.source == d.source && c.condition == d.condition

/-- The connections with one more, unless that clashes with one of them. -/
def addConnection (connections : List Connection) (c : Connection) : List Connection :=
  if connections.any (clashes c) then connections else connections ++ [c]

/-- The chain of steps, and then the connections that arrows stand for. -/
def connections (stepIds : List String) (edges : List Edge)
    (condition : String := defaultCondition) : List Connection :=
  (edges.filterMap (connection? stepIds)).foldl addConnection (chain condition stepIds)

/-! ## Canned responses -/

/-- The number of steps by service, in the order in which the services first appear. -/
def tally (steps : List Classified) : Entries String Nat :=
  (steps.filterMap (·.integration)).foldl (fun t i =>
    if i.isEmpty then t else t.put i ((t.get? i).getD 0 + 1)) []

/-- The first entry with the greatest number. -/
def leader? : Entries String Nat → Option (String × Nat)
  | [] => none
  | e :: rest =>
    match leader? rest with
    | none => some e
    | some best => if e.2 < best.2 then some best else some e

/-- The service of the most steps, the earlier one if two have the same number. -/
def primaryIntegration (steps : List Classified) : Option String :=
  (leader? (tally steps)).map (·.1)

/-- The canned responses of the steps that work with the primary service. -/
def mocks (steps : List Classified) (built : List Step) : Entries String Value :=
  match primaryIntegration steps with
  | none => []
  | some service =>
    let responses := built.foldl (fun (t : Record) s =>
      if s.integration = some service then t.put (.text s.id) (Schema.sample s.id s.name s.kind [])
      else t) []
    [(service, Schema.record [("enabled", .bool true), ("responses", .record responses)])]

/-! ## The definition -/

/-- The definition of classified steps and the arrows of a diagram. -/
def assemble (opts : Options) (steps : List Classified) (edges : List Edge) : Definition :=
  let built := buildSteps opts 1 none steps
  { processMapId := opts.processMapId
    orgId := opts.orgId
    steps := built
    connections := connections (built.map (·.id)) edges
    plan := {
      mode := opts.mode
      timeout := opts.stepTimeout * built.length
      retries := opts.retries
      continueOnFailure := false }
    mocks := mocks steps built }

end StepFlow.Assembly
