import StepFlow.Entries
import StepFlow.Value.Basic
/-!
# Schemas

The shape of a step's input or output: named properties, each described by a table of its own, and
the names that must be present.
-/

namespace StepFlow

/-- The shape of a record. -/
structure Schema where
  /-- The type of the whole. -/
  type : String := "object"
  /-- What is said of each property. -/
  properties : Entries String (Entries String Value) := []
  /-- The names that must be present. -/
  required : List String := []
  /-- What the record is. -/
  description : String := ""
deriving Inhabited

/-- A property of the given type. -/
def Schema.property (type description : String) : Entries String Value :=
  [("type", .text type), ("description", .text description)]

end StepFlow
