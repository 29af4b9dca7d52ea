import StepFlow.Calendar.Text
import StepFlow.Definition.Basic
import StepFlow.Double.Shortest
import StepFlow.Failure
import StepFlow.Text.Utf8
/-!
# Trees

What definitions are exported as: trees of plain data, in which every key is a text. Dates, moments
and bytes become texts, pairs and sets become lists, doubles that are not finite become absent, and
keys that are no texts are written out. Dynamic values of more than 255 levels are not exported.
-/

namespace StepFlow

/-- Plain data. -/
inductive Tree where
  /-- The absent value. -/
  | null
  /-- A truth value. -/
  | bool (b : Bool)
  /-- An integer. -/
  | int (n : Int)
  /-- A double. -/
  | real (x : Double)
  /-- A text. -/
  | text (s : String)
  /-- A list. -/
  | list (items : List Tree)
  /-- A record, its entries in order. -/
  | record (entries : List (String × Tree))
deriving Inhabited

namespace Scalar

/-- A scalar as plain data. -/
def tree : Scalar → Tree
  | .null => .null
  | .bool b => .bool b
  | .int n => .int n
  | .real x => if x.isFinite then .real x else .null
  | .nan _ => .null
  | .text s => .text s
  | .torn codes => .text (String.ofList (Text.Code.joined codes))
  | .bytes bs => .text ((Text.utf8? bs).getD "")
  | .date d => .text (String.ofList d.iso)
  | .moment m => .text (String.ofList m.exported)

/-- A scalar as the key of a tree. -/
def treeKey : Scalar → String
  | .null => "None"
  | .bool b => if b then "true" else "false"
  | .int n => String.ofList (Text.integer n)
  | .real x => if x.isFinite then String.ofList x.text else "None"
  | .nan _ => "None"
  | .text s => s
  | .torn codes => String.ofList (Text.Code.joined codes)
  | .bytes bs => (Text.utf8? bs).getD ""
  | .date d => String.ofList d.iso
  | .moment m => String.ofList m.exported

end Scalar

namespace Value

mutual

/-- A value as plain data. -/
def tree : Value → Tree
  | .scalar s => s.tree
  | .list items => .list (treeItems items)
  | .pair a b => .list [a.tree, b.tree]
  | .set members => .list (members.map Scalar.tree)
  | .record entries => .record (Entries.ofList (treeEntries entries))
  | .loop _ _ => .null

/-- The items of a list as plain data. -/
def treeItems : List Value → List Tree
  | [] => []
  | v :: rest => v.tree :: treeItems rest

/-- The entries of a record as plain data. -/
def treeEntries : List (Scalar × Value) → List (String × Tree)
  | [] => []
  | (k, v) :: rest => (k.treeKey, v.tree) :: treeEntries rest

end

end Value

namespace Tree

/-- A list of texts. -/
def texts (ss : List String) : Tree :=
  .list (ss.map .text)

/-- A text that may be absent. -/
def textOrNull : Option String → Tree
  | some s => .text s
  | none => .null

/-- A table of dynamic values. -/
def table (entries : Entries String Value) : Tree :=
  .record (entries.map fun (k, v) => (k, v.tree))

end Tree

/-- A schema as a tree. -/
def Schema.tree (s : Schema) : Tree := .record [
  ("type", .text s.type),
  ("properties", .record (s.properties.map fun (k, p) => (k, Tree.table p))),
  ("required", Tree.texts s.required),
  ("description", .text s.description)]

/-- The test of a step as a tree. -/
def StepTest.tree (t : StepTest) : Tree := .record [
  ("mockable", .bool t.mockable),
  ("timeout_ms", .int t.timeout),
  ("retry_count", .int t.retries),
  ("requires_real_api", .bool t.realService),
  ("operations", Tree.texts t.operations)]

/-- A step as a tree. -/
def Step.tree (s : Step) : Tree := .record [
  ("id", .text s.id),
  ("name", .text s.name),
  ("order", .int s.order),
  ("step_type", .text s.kind.name),
  ("integration", Tree.textOrNull s.integration),
  ("description", .text s.description),
  ("sub_steps", Tree.texts s.subSteps),
  ("input_schema", s.input.tree),
  ("output_schema", s.output.tree),
  ("dependencies", Tree.texts s.dependencies),
  ("test_config", s.test.tree)]

/-- A connection as a tree. -/
def Connection.tree (c : Connection) : Tree := .record [
  ("from_step_id", .text c.source),
  ("to_step_id", .text c.target),
  ("condition", .text c.condition),
  ("label", Tree.textOrNull c.label)]

/-- The test of a workflow as a tree. -/
def RunPlan.tree (p : RunPlan) : Tree := .record [
  ("default_run_mode", .text p.mode),
  ("timeout_ms", .int p.timeout),
  ("retry_count", .int p.retries),
  ("continue_on_failure", .bool p.continueOnFailure)]

/-- The greatest number of levels that are exported. -/
def heightLimit : Nat := 255

/-- The number of levels that the dynamic values of a schema have, with one for the schema. -/
def Schema.height (s : Schema) : Nat :=
  (s.properties.map fun (_, p) => (p.map fun (_, v) => v.height).foldl max 0).foldl max 0 + 1

/-- Whether a definition holds dynamic values that are nested too deeply. -/
def Definition.isTooDeep (d : Definition) : Bool :=
  (d.mocks.any fun (_, v) => heightLimit < v.height) ||
    d.steps.any fun s => heightLimit < s.input.height || heightLimit < s.output.height

/-- A definition as a tree. -/
def Definition.tree (d : Definition) : Tree := .record [
  ("process_map_id", .text d.processMapId),
  ("org_id", .text d.orgId),
  ("steps", .list (d.steps.map Step.tree)),
  ("connections", .list (d.connections.map Connection.tree)),
  ("test_config", d.plan.tree),
  ("mock_config", Tree.table d.mocks),
  ("version", .int d.version),
  ("is_active", .bool d.isActive)]

/-- The tree that a definition is exported as, unless it is nested too deeply. -/
def Definition.exported (d : Definition) : Except Failure Tree :=
  if d.isTooDeep then .error .tooDeep else .ok d.tree

end StepFlow
