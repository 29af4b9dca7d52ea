/-!
# Step kinds

What a step of a process does. The kinds stand in the order in which their keywords are tried.
-/

namespace StepFlow

/-- What a step does. -/
inductive StepKind where
  /-- Starts the process. -/
  | trigger
  /-- Changes something. -/
  | action
  /-- Decides between ways to go on. -/
  | condition
  /-- Gives data another form. -/
  | transform
  /-- Asks another service. -/
  | externalCall
  /-- Keeps data. -/
  | storage
  /-- Tells someone. -/
  | notification
deriving DecidableEq, Inhabited

namespace StepKind

/-- All kinds. -/
def all : List StepKind :=
  [trigger, action, condition, transform, externalCall, storage, notification]

/-- The written name of a kind. -/
def name : StepKind → String
  | trigger => "trigger"
  | action => "action"
  | condition => "condition"
  | transform => "transform"
  | externalCall => "external_call"
  | storage => "storage"
  | notification => "notification"

/-- The kind of the given name. -/
def ofName? (s : String) : Option StepKind :=
  all.find? fun k => k.name == s

end StepKind
end StepFlow
