import StepFlow.Condition.Basic
import StepFlow.Text.Blank
import StepFlow.Text.Case
import StepFlow.Text.Find
import StepFlow.Text.Word
/-!
# Reading conditions

The condition of a canvas node, from its data. A text such as `deal_value > 10000` under `condition`
goes first. Otherwise the condition is put together from the type of the condition, the field, the
operator and the value that the data gives; a type that is not known names the field itself.
-/

namespace StepFlow.Condition

open Text

/-- The field of a condition that names none. -/
def unknownField : String := "unknown"

/-! ## Conditions as text -/

/-- The characters of operators. -/
def isOperatorChar (c : Char) : Bool :=
  c == '>' || c == '<' || c == '=' || c == '!'

/-- A text without blanks around it and without quotes. -/
def stripQuotes (cs : List Char) : List Char :=
  (trim cs).filter fun c => c != '"' && c != '\''

/-- The field, the operator and the value that a text without blanks around it starts with: a word,
operator characters and the rest of the line. A text that ends with its operator has the last
character of that as the value. -/
def readParts? (cs : List Char) : Option (List Char × List Char × List Char) :=
  let (field, rest) := spanWord cs
  let rest := trimStart rest
  let operator := rest.takeWhile isOperatorChar
  let after := rest.dropWhile isOperatorChar
  if field.isEmpty ∨ operator.isEmpty then none
  else if after.isEmpty then
    match operator.reverse with
    | last :: o :: before => some (field, (o :: before).reverse, [last])
    | _ => none
  else some (field, operator, (trimStart after).takeWhile (· != '\n'))

/-- The condition that a text writes. -/
def ofText? (s : String) : Option Condition :=
  (readParts? (trim s.toList)).map fun (field, operator, value) =>
    { field := .text (String.ofList field)
      operator := .text (String.ofList operator)
      value := .text (String.ofList (stripQuotes value)) }

/-! ## Conditions as properties -/

/-- The field and the operator of each known type of condition. -/
def knownTypes : List (String × String × String) := [
  ("value_check", "value", ">"),
  ("value_greater_than", "value", ">"),
  ("stage_check", "stage", "=="),
  ("activity_type", "activity_type", "==")]

/-- The keys under which the value of a condition is looked for. -/
def valueKeys : List String := ["value", "threshold", "expectedValue", "targetValue"]

/-- The type of the condition. -/
def typeOf (data : Record) : Value :=
  (Value.field data "conditionType").orElse (Value.field data "type")

/-- The first value that is neither absent nor empty. -/
def givenValue (data : Record) : Value :=
  ((valueKeys.map (Value.field data)).find? (!·.isBlank)).getD .null

/-- The label of a node mentions an activity. -/
def mentionsActivity (data : Record) : Except Obstacle Bool := do
  let label ← ((data.get? (.text "label")).getD (.text "")).display
  return occursIn "activity".toList (lower label.toList)

/-- What the type of a condition says. -/
structure Typing where
  /-- The field. -/
  field : Value
  /-- The operator, unless the data gives one. -/
  operator : String
  /-- Whether the type itself names the field. -/
  isNamed : Bool

/-- What a type says. A value that cannot be a key is no type. -/
def typing (type : Value) : Except Obstacle Typing := do
  match ← type.asKey with
  | .text name =>
    match knownTypes.lookup name with
    | some (field, operator) => return ⟨.text field, operator, false⟩
    | none => return if name.isEmpty then ⟨.null, "==", false⟩ else ⟨.text name, "==", true⟩
  | _ => return ⟨.null, "==", false⟩

/-- A value as the text it is compared by; an absent value stays absent. -/
def asText : Value → Except Obstacle Value
  | .null => .ok .null
  | v => v.display.map .text

/-- The field that the data of a node and the type of its condition name. -/
def fieldOf (data : Record) (typed : Value) : Except Obstacle Value := do
  let field := (Value.field data "field").orElse typed
  if field.isGiven then return field
  else if ← mentionsActivity data then return .text "activity_type"
  else return field

/-- The operator that holds where the data gives none. A field that is named by the type and
compared with a number must be greater. -/
def defaultOperator (t : Typing) (value : Value) : Except Obstacle String := do
  if t.isNamed then
    match ← value.toNumber with
    | some _ => return ">"
    | none => return t.operator
  else return t.operator

/-- The condition that the properties of a node make up. -/
def ofProperties (data : Record) : Except Obstacle Condition := do
  let t ← typing (typeOf data)
  let field ← fieldOf data t.field
  let given := givenValue data
  let value : Value :=
    match given with
    | .null => if field.isText "activity_type" then .text "proposal_sent" else .null
    | v => v
  let operator ← defaultOperator t value
  let value ← asText value
  if field.isGiven then
    return { field, operator := (Value.field data "operator").orElse (.text operator), value }
  else return { field := .text unknownField, value }

/-- The condition of a node with the given data. -/
def read (data : Record) : Except Obstacle Condition :=
  match Value.field data "condition" with
  | .text s =>
    match ofText? s with
    | some c => .ok c
    | none => ofProperties data
  | _ => ofProperties data

end StepFlow.Condition
