import StepFlow.Failure
/-!
# The order of execution

The steps in an order in which each comes after the steps it depends on: the steps are visited in
the order of the definition, and a visit places what a step depends on before the step itself. Where
steps depend on each other in a circle, the circle is cut at the step that is visited first.
-/

namespace StepFlow.Definition

/-- The ids visited so far, and of these the ones placed, the last one first. -/
structure Visits where
  /-- The ids visited. -/
  visited : List String := []
  /-- The ids placed, the last one first. -/
  placed : List String := []

/-- The last step of the given id. -/
def lastStep? (steps : List Step) (id : String) : Option Step :=
  steps.findRev? (·.id == id)

/-- Visits an id: places its dependencies and then itself. Every visit inside another is of an id
that was not visited before, so `fuel` need not exceed the number of steps. -/
def visit (steps : List Step) : (fuel : Nat) → Visits → String → Visits
  | 0, v, _ => v
  | fuel + 1, v, id =>
    if v.visited.contains id then v
    else
      match lastStep? steps id with
      | none => v
      | some s =>
        let inner := s.dependencies.foldl (visit steps fuel) { v with visited := id :: v.visited }
        { inner with placed := id :: inner.placed }

/-- The ids of the steps in an order of execution. -/
def executionOrder (d : Definition) : List String :=
  (d.ids.foldl (visit d.steps d.steps.length) {}).placed.reverse

/-! ## Nested visits -/

/-- The ids visited so far, and how many visits were made inside each other at most. -/
structure Descent where
  /-- The ids visited. -/
  visited : List String := []
  /-- The greatest number of visits inside each other, which count also if there is nothing to
  visit. -/
  deepest : Nat := 0

/-- Follows a visit of an id that is made at the given level. -/
def descend (steps : List Step) : (fuel level : Nat) → Descent → String → Descent
  | 0, level, v, _ => { v with deepest := max v.deepest level }
  | fuel + 1, level, v, id =>
    let v := { v with deepest := max v.deepest level }
    if v.visited.contains id then v
    else
      match lastStep? steps id with
      | none => v
      | some s =>
        s.dependencies.foldl (descend steps fuel (level + 1)) { v with visited := id :: v.visited }

/-- How many visits are made inside each other at most when the steps are put into order. -/
def visitDepth (d : Definition) : Nat :=
  (d.ids.foldl (descend d.steps d.steps.length 1) {}).deepest

/-- How many visits may be made inside each other. Calls nest at most a thousand deep, and seven
calls stand around the first visit. -/
def visitLimit : Nat := 1000 - 7

/-- The ids of the steps in an order of execution, unless it takes too many visits inside each
other to find one. -/
def ordered (d : Definition) : Except Failure (List String) :=
  if d.visitDepth ≤ visitLimit then .ok d.executionOrder else .error .chainTooLong

end StepFlow.Definition
