import StepFlow.Export.Tree
import StepFlow.Value.Display
/-!
# Trees in JSON

The JSON text of a tree, in ASCII: every other character is written as an escape of one or two
UTF-16 units. With an indentation each part stands on a line of its own, without one the whole is a
single line.
-/

namespace StepFlow.Json

open Text

/-- The escape of a UTF-16 unit. -/
def unitEscape (n : Nat) : List Char :=
  '\\' :: 'u' :: hexadecimal 4 n

/-- The form of a character inside a string. -/
def escaped (c : Char) : List Char :=
  match c with
  | '"' => ['\\', '"']
  | '\\' => ['\\', '\\']
  | '\n' => ['\\', 'n']
  | '\r' => ['\\', 'r']
  | '\t' => ['\\', 't']
  | '\x0c' => ['\\', 'f']
  | '\x08' => ['\\', 'b']
  | c =>
    let n := c.toNat
    if 32 ≤ n ∧ n < 127 then [c]
    else if n < 0x10000 then unitEscape n
    else
      unitEscape (0xD800 + (n - 0x10000) / 0x400) ++ unitEscape (0xDC00 + (n - 0x10000) % 0x400)

/-- A string. -/
def string (s : String) : List Char :=
  '"' :: s.toList.flatMap escaped ++ ['"']

/-- A number. -/
def double : Double → List Char
  | .nan => "NaN".toList
  | .infinite negative => (if negative then "-Infinity" else "Infinity").toList
  | x => x.text

/-- The break before a part at the given depth: a new line and the indentation. -/
def lineBreak (indent : Nat) (depth : Nat) : List Char :=
  '\n' :: List.replicate (indent * depth) ' '

/-- Parts between brackets; without an indentation they follow each other on one line. -/
def bracketed (indent? : Option Nat) (depth : Nat) (opening closing : Char)
    (parts : List (List Char)) : List Char :=
  if parts.isEmpty then [opening, closing]
  else
    match indent? with
    | none => opening :: joinWith [',', ' '] parts ++ [closing]
    | some indent =>
      let inner := lineBreak indent (depth + 1)
      opening :: inner ++ joinWith (',' :: inner) parts ++ lineBreak indent depth ++ [closing]

mutual

/-- The text of a tree at the given depth. -/
def render (indent? : Option Nat) (depth : Nat) : Tree → List Char
  | .null => "null".toList
  | .bool b => (if b then "true" else "false").toList
  | .int n => integer n
  | .real x => double x
  | .text s => string s
  | .list items => bracketed indent? depth '[' ']' (renderItems indent? (depth + 1) items)
  | .record entries => bracketed indent? depth '{' '}' (renderEntries indent? (depth + 1) entries)

/-- The texts of the items of a list. -/
def renderItems (indent? : Option Nat) (depth : Nat) : List Tree → List (List Char)
  | [] => []
  | t :: rest => render indent? depth t :: renderItems indent? depth rest

/-- The texts of the entries of a record. -/
def renderEntries (indent? : Option Nat) (depth : Nat) : List (String × Tree) → List (List Char)
  | [] => []
  | (k, t) :: rest =>
    (string k ++ ':' :: ' ' :: render indent? depth t) :: renderEntries indent? depth rest

end

end StepFlow.Json

namespace StepFlow

/-- The JSON text of a tree. -/
def Tree.toJson (indent? : Option Nat) (t : Tree) : String :=
  String.ofList (Json.render indent? 0 t)

end StepFlow
