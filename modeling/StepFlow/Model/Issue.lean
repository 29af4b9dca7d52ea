/-!
# Issues

What is found wrong as dynamic values are read as typed records: where it lies and what was
expected there. A report collects the issues of one record.
-/

namespace StepFlow.Model

/-- One step on the way to a part of a value. -/
inductive Place where
  /-- The field or the key of the given name. -/
  | name (s : String)
  /-- The item at an index, or the entry at an integer key. -/
  | index (n : Int)
deriving DecidableEq

/-- What was expected of a part of a value, or how it fell short. -/
inductive Mismatch where
  /-- A text was expected. -/
  | text
  /-- The bytes are no text. -/
  | textBytes
  /-- A list was expected. -/
  | list
  /-- A table was expected. -/
  | table
  /-- A required field is not there. -/
  | missing
  /-- A record of the given model was expected. -/
  | record (model : String)
  /-- One of the given names was expected. -/
  | choice (names : List String)
  /-- An integer was expected. -/
  | integer
  /-- The text writes no integer. -/
  | integerText
  /-- The text writes an integer that is too long. -/
  | integerSize
  /-- The number is not whole. -/
  | fraction
  /-- The number is not finite. -/
  | finite
  /-- A truth value was expected. -/
  | truth
  /-- The text or the number stands for no truth value. -/
  | truthText
  /-- A key is no text. -/
  | key
deriving DecidableEq

/-- Names in quotes, the last two joined by a word. -/
def alternatives : List String → String
  | [] => ""
  | [a] => "'" ++ a ++ "'"
  | [a, b] => "'" ++ a ++ "' or '" ++ b ++ "'"
  | a :: rest => "'" ++ a ++ "', " ++ alternatives rest

namespace Mismatch

/-- The short name of a mismatch. -/
def code : Mismatch → String
  | text => "string_type"
  | textBytes => "string_unicode"
  | list => "list_type"
  | table => "dict_type"
  | missing => "missing"
  | record _ => "model_type"
  | choice _ => "enum"
  | integer => "int_type"
  | integerText => "int_parsing"
  | integerSize => "int_parsing_size"
  | fraction => "int_from_float"
  | finite => "finite_number"
  | truth => "bool_type"
  | truthText => "bool_parsing"
  | key => "invalid_key"

/-- The wording of a mismatch. -/
def message : Mismatch → String
  | text => "Input should be a valid string"
  | textBytes =>
    "Input should be a valid string, unable to parse raw data as a unicode string"
  | list => "Input should be a valid list"
  | table => "Input should be a valid dictionary"
  | missing => "Field required"
  | record model => "Input should be a valid dictionary or instance of " ++ model
  | choice names => "Input should be " ++ alternatives names
  | integer => "Input should be a valid integer"
  | integerText => "Input should be a valid integer, unable to parse string as an integer"
  | integerSize => "Unable to parse input string as an integer, exceeded maximum size"
  | fraction => "Input should be a valid integer, got a number with a fractional part"
  | finite => "Input should be a finite number"
  | truth => "Input should be a valid boolean"
  | truthText => "Input should be a valid boolean, unable to interpret input"
  | key => "Keys should be strings"

end Mismatch

/-- A mismatch and the way to where it lies. -/
structure Issue where
  /-- The way from the record to the part. -/
  path : List Place
  /-- What is wrong there. -/
  mismatch : Mismatch

/-- The issues of one record. -/
structure Report where
  /-- The model of the record. -/
  model : String
  /-- The issues in order. -/
  issues : List Issue

/-- The first line of a report. -/
def Report.headline (r : Report) : String :=
  let n := r.issues.length
  toString n ++ (if n = 1 then " validation error for " else " validation errors for ") ++ r.model

end StepFlow.Model
