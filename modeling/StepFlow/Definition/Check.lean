import StepFlow.Definition.Basic
/-!
# Sound definitions

A definition is sound if its step ids are distinct, its connections join steps, and its steps depend
on steps without going round in a circle. The four conditions are checked in this order, and the
first offender is named.

The last check settles steps one after another. It counts the dependencies of each step that are
still to be settled, as often as they are listed: steps without any are settled first, and each
other step after its count has come down to zero. Steps on a circle, and steps that depend on one,
are never settled.
-/

namespace StepFlow

/-- What is wrong with a definition. -/
inductive Flaw where
  /-- Two steps have the id. -/
  | duplicateStep (id : String)
  /-- A connection joins something that is no step. -/
  | unknownEndpoint (source target : String)
  /-- A step depends on something that is no step. -/
  | unknownDependency (step dependency : String)
  /-- Steps depend on each other in a circle. -/
  | cycle
deriving DecidableEq

/-- The wording of a flaw. -/
def Flaw.message : Flaw → String
  | .duplicateStep id => "Duplicate step id: " ++ id
  | .unknownEndpoint source target =>
    "Connection references unknown step: " ++ source ++ " -> " ++ target
  | .unknownDependency step dependency =>
    "Step " ++ step ++ " depends on unknown step: " ++ dependency
  | .cycle => "Cycle detected in step dependencies."

namespace Definition

/-- The first element that has stood in the list or in `seen` before. -/
def firstRepeated? (seen : List String) : List String → Option String
  | [] => none
  | id :: rest => if seen.contains id then some id else firstRepeated? (id :: seen) rest

/-- The first connection with an end that is none of the ids. -/
def firstLoose? (ids : List String) (connections : List Connection) : Option Connection :=
  connections.find? fun c => !ids.contains c.source || !ids.contains c.target

/-- The first step that depends on none of the ids, with what it depends on. -/
def firstUnknown? (ids : List String) (steps : List Step) : Option (String × String) :=
  steps.findSome? fun s =>
    (s.dependencies.find? fun d => !ids.contains d).map fun d => (s.id, d)

/-- How many dependencies each step lists. -/
def listedCounts (steps : List Step) : Entries String Int :=
  steps.map fun s => (s.id, s.dependencies.length)

/-- The ids of the steps that list `id`, as often as they list it. -/
def dependents (steps : List Step) (id : String) : List String :=
  steps.flatMap fun s => (s.dependencies.filter (· == id)).map fun _ => s.id

/-- Counts one dependency of a step off; with the last one, the step joins those that wait. -/
def countOff (state : Entries String Int × List String) (id : String) :
    Entries String Int × List String :=
  let left := (state.1.get? id).getD 0 - 1
  (state.1.put id left, if left = 0 then state.2 ++ [id] else state.2)

/-- Settles the waiting steps in turn, for at most `fuel` steps, and counts each off for the steps
that list it; gives all steps settled, the last one first. -/
def drain (steps : List Step) :
    (fuel : Nat) → (counts : Entries String Int) → (settled waiting : List String) → List String
  | 0, _, settled, _ => settled
  | _, _, settled, [] => settled
  | fuel + 1, counts, settled, id :: waiting =>
    let (counts, waiting) := (dependents steps id).foldl countOff (counts, waiting)
    drain steps fuel counts (id :: settled) waiting

/-- The ids of the steps that can be settled; no step is settled twice, so there are at most as many
as steps. -/
def drained (steps : List Step) : List String :=
  let counts := listedCounts steps
  drain steps steps.length counts [] ((counts.filter fun e => e.2 = 0).map (·.1))

/-- Fails with the first flaw of a definition. -/
def check (d : Definition) : Except Flaw Unit :=
  match firstRepeated? [] d.ids with
  | some id => .error (.duplicateStep id)
  | none =>
    match firstLoose? d.ids d.connections with
    | some c => .error (.unknownEndpoint c.source c.target)
    | none =>
      match firstUnknown? d.ids d.steps with
      | some (step, dependency) => .error (.unknownDependency step dependency)
      | none =>
        if (drained d.steps).length = d.steps.length then .ok () else .error .cycle

end Definition
end StepFlow
