import StepFlow.Schema.Basic
import StepFlow.Value.Display
/-!
# Checking data against a schema

Each required name gives one finding, an error if it is absent, and each property of a known type
that the data has gives another, a warning if the type differs. An integer also passes as a number.
-/

namespace StepFlow.Schema

/-- What one check found. -/
structure Finding where
  /-- The check: its kind and the property. -/
  rule : String
  /-- Whether the data passed. -/
  passed : Bool
  /-- The finding in words. -/
  message : String
  /-- How much it matters. -/
  severity : String

/-- The name of a value's type. -/
def typeName : Value → String
  | .null => "null"
  | .bool _ => "boolean"
  | .int _ => "integer"
  | .real _ => "number"
  | .scalar (.nan _) => "number"
  | .text _ => "string"
  | .scalar (.torn _) => "string"
  | .scalar (.bytes _) => "bytes"
  | .scalar (.date _) => "date"
  | .scalar (.moment _) => "datetime"
  | .list _ => "array"
  | .pair _ _ => "array"
  | .set _ => "set"
  | .record _ => "object"
  | .loop _ isList => if isList then "array" else "object"

/-- Whether a type name satisfies the expected one. -/
def typeFits (actual : String) (expected : Value) : Bool :=
  expected.isText actual || (expected.isText "number" && actual == "integer")

/-- The finding on a required name, which is present or missing. -/
def presence (name : String) (present : Bool) : Finding where
  rule := "required:" ++ name
  passed := present
  message := "Required field \"" ++ name ++ "\" is " ++ (if present then "present" else "missing")
  severity := if present then "info" else "error"

/-- The finding on a required name in the data. -/
def checkRequired (data : Record) (name : String) : Finding :=
  match Value.field data name with
  | .null => presence name false
  | _ => presence name true

/-- The finding on a property that the data has. -/
def checkType (name : String) (expected value : Value) : Except Obstacle Finding := do
  let actual := typeName value
  let passed := typeFits actual expected
  let message ←
    if passed then pure ("Field \"" ++ name ++ "\" has correct type")
    else do
      let wanted ← expected.display
      pure ("Field \"" ++ name ++ "\" expected " ++ wanted ++ ", got " ++ actual)
  return { rule := "type:" ++ name, passed, message, severity := if passed then "info" else "warning" }

/-- The findings on one property: none if the data does not have it or its type is not known. -/
def checkProperty (data : Record) (name : String) (property : Entries String Value) :
    Except Obstacle (List Finding) :=
  let expected := (property.get? "type").getD .null
  match data.get? (.text name) with
  | none => .ok []
  | some value => if expected.isGiven then do return [← checkType name expected value] else .ok []

/-- All findings on a record. -/
def check (schema : Schema) (data : Record) : Except Obstacle (List Finding) := do
  let types ← schema.properties.mapM fun (name, property) => checkProperty data name property
  return schema.required.map (checkRequired data) ++ types.flatten

end StepFlow.Schema
