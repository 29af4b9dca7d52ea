import StepFlow.Text.Code
/-!
# Tokens of YAML

What a document's characters fall into before its parts are put together.
-/

namespace StepFlow.Yaml

/-- A tag as it is written: a handle that a document declares, if one is used, and what follows
it. -/
structure WrittenTag where
  /-- The handle. -/
  handle : Option String
  /-- What follows the handle. -/
  suffix : String

/-- A line that tells how a document is to be read. -/
inductive Directive where
  /-- The version of the notation. -/
  | version (major : Nat)
  /-- What the tags with a handle begin with. -/
  | handle (name start : String)
  /-- Any other. -/
  | other

/-- A token of a document. -/
inductive Token where
  /-- The end of the text. -/
  | textEnd
  /-- A directive. -/
  | directive (d : Directive)
  /-- The mark before a document. -/
  | documentStart
  /-- The mark after a document. -/
  | documentEnd
  /-- A list begins, by its indentation. -/
  | blockList
  /-- A record begins, by its indentation. -/
  | blockRecord
  /-- A list or record ends, by its indentation. -/
  | blockEnd
  /-- A list begins with its bracket. -/
  | flowList
  /-- A list ends with its bracket. -/
  | flowListEnd
  /-- A record begins with its bracket. -/
  | flowRecord
  /-- A record ends with its bracket. -/
  | flowRecordEnd
  /-- The dash before an item. -/
  | dash
  /-- The comma between items or entries. -/
  | comma
  /-- A key follows. -/
  | key
  /-- The value of a key follows. -/
  | value
  /-- A part that stands elsewhere too, by its name. -/
  | alias (name : String)
  /-- The name of the part that follows. -/
  | anchor (name : String)
  /-- The tag of the part that follows. -/
  | tag (t : WrittenTag)
  /-- A text, and whether it stands without quotes. -/
  | scalar (text : List Text.Code) (plain : Bool)

end StepFlow.Yaml
