import StepFlow.Condition.Basic
/-!
# Sample values

For each condition a value that should satisfy it and one that should not. Around a number they lie
at a distance that the comparison decides. Elsewhere one is the declared value and the other a text
kept for that purpose, and a negated comparison exchanges the two.
-/

namespace StepFlow.Condition

/-- The distances from a threshold to a value that satisfies the comparison and to one that does
not. -/
def offsets : Option Comparison → Int × Int
  | some .gt => (1000, -1000)
  | some .ge => (0, -1)
  | some .lt => (-1000, 1000)
  | some .le => (0, 1)
  | some .eq => (0, 1)
  | some .ne => (1, 0)
  | none => (0, -1000)

/-- A number that should satisfy a comparison with the threshold. -/
def passNumber (threshold : Number) (operator : Value) : Number :=
  threshold.add (offsets (Comparison.ofOperator? operator)).1

/-- A number that should not satisfy a comparison with the threshold. -/
def failNumber (threshold : Number) (operator : Value) : Number :=
  threshold.add (offsets (Comparison.ofOperator? operator)).2

/-- The fields whose values are names even where they look like numbers, each with the text that
stands for a wrong one. -/
def categories : List (String × String) := [
  ("activity_type", "call"),
  ("stage", "Different Stage"),
  ("priority", "lowest")]

/-- The text that stands for a wrong value of any other field. -/
def wrongText : String := "different_value"

/-- The text that stands for the value of a condition without one. -/
def declaredText : String := "test_value"

/-- The text that stands for a wrong name, if the field holds names. -/
def category? : Scalar → Option String
  | .text s => categories.lookup s
  | _ => none

/-- A value that should satisfy a condition and one that should not. -/
def samples (c : Condition) : Except Obstacle (Value × Value) := do
  let threshold? ← c.value.toNumber
  let category := category? (← c.field.asKey)
  match category, threshold? with
  | none, some threshold =>
    return ((passNumber threshold c.operator).toValue, (failNumber threshold c.operator).toValue)
  | _, _ =>
    let declared := if c.value.isBlank then .text declaredText else c.value
    let wrong := .text (category.getD wrongText)
    if Comparison.ofOperator? c.operator = some .ne then return (wrong, declared)
    else return (declared, wrong)

end StepFlow.Condition
