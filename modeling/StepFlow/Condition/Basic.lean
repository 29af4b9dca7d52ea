import StepFlow.Value.Display
import StepFlow.Value.Number
/-!
# Conditions

A condition compares a field of a payload with a value. Its operator is one of eight spellings of
six comparisons; other operators can be written, but never hold.
-/

namespace StepFlow

/-- A field, an operator and a value. -/
structure Condition where
  /-- The key of the field, usually a text. -/
  field : Value
  /-- The operator as written. -/
  operator : Value := .text "=="
  /-- The value that the field is compared with, if there is one. -/
  value : Value := .null

/-- A comparison of two ordered things. -/
inductive Comparison where
  /-- The first is greater. -/
  | gt
  /-- The first is greater, or they are equal. -/
  | ge
  /-- The first is less. -/
  | lt
  /-- The first is less, or they are equal. -/
  | le
  /-- They are equal. -/
  | eq
  /-- They are not equal. -/
  | ne
deriving DecidableEq

namespace Comparison

/-- The comparisons and their spellings. -/
def spellings : List (String × Comparison) := [
  (">", .gt), (">=", .ge), ("<", .lt), ("<=", .le),
  ("==", .eq), ("===", .eq), ("!=", .ne), ("!==", .ne)]

/-- The comparison that an operator spells. -/
def ofOperator? : Value → Option Comparison
  | .text s => spellings.lookup s
  | _ => none

/-- Whether the comparison holds of things in the given order. Things without an order are not
equal, and nothing else is said of them. -/
def holds : Comparison → Option Ordering → Bool
  | .gt, o => o == some .gt
  | .ge, o => o == some .gt || o == some .eq
  | .lt, o => o == some .lt
  | .le, o => o == some .lt || o == some .eq
  | .eq, o => o == some .eq
  | .ne, o => o != some .eq

end Comparison

/-- The order of two texts by the code points of their characters. -/
def orderTexts : List Char → List Char → Ordering
  | [], [] => .eq
  | [], _ :: _ => .lt
  | _ :: _, [] => .gt
  | a :: as, b :: bs =>
    match compare a.toNat b.toNat with
    | .eq => orderTexts as bs
    | o => o

namespace Condition

/-- The condition in words: its three parts with spaces between them. -/
def display (c : Condition) : Except Obstacle String := do
  let field ← c.field.display
  let operator ← c.operator.display
  let value ← c.value.display
  return field ++ " " ++ operator ++ " " ++ value

/-- The order of two values: by number if both are numbers, otherwise by text. -/
def order? (actual expected : Value) : Except Obstacle (Option Ordering) := do
  match ← actual.toNumber, ← expected.toNumber with
  | some a, some b => return a.order? b
  | _, _ =>
    let a ← actual.display
    let b ← expected.display
    return some (orderTexts a.toList b.toList)

/-- Whether a payload satisfies a condition: it has the field, and the comparison holds of the value
there and the condition's value. -/
def holds (c : Condition) (data : Record) : Except Obstacle Bool := do
  let key ← c.field.asKey
  match data.get? key, Comparison.ofOperator? c.operator with
  | some actual, some comparison => return comparison.holds (← order? actual c.value)
  | _, _ => return false

end Condition
end StepFlow
