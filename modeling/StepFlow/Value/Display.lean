import StepFlow.Calendar.Text
import StepFlow.Double.Shortest
import StepFlow.Text.Quoted
import StepFlow.Value.Basic
/-!
# Displayed values

The text of a value: a text is its own, every other value shows in the form it has inside a list.
There texts are quoted, and lists, pairs, sets and records show their parts in brackets. A loop shows
the brackets of what it leads to. An integer of more than 4300 digits is not written.
-/

namespace StepFlow

open Text

/-- The text of an integer, if it is not too long. -/
def showInt (n : Int) : Except Obstacle (List Char) :=
  if n.natAbs < Nat.pow 10 digitLimit then .ok (integer n) else .error .tooLong

/-- The form of a scalar inside a list. -/
def Scalar.shown : Scalar → Except Obstacle (List Char)
  | .null => .ok "None".toList
  | .bool b => .ok (if b then "True" else "False").toList
  | .int n => showInt n
  | .real x => .ok x.text
  | .nan _ => .ok (Double.text .nan)
  | .text s => .ok (quoted s.toList)
  | .torn codes => .ok (Code.quoted codes)
  | .bytes bs => .ok (quotedBytes bs)
  | .date d => .ok d.shown
  | .moment m => .ok m.shown

/-- Texts with a separator between neighbours. -/
def joinWith (separator : List Char) : List (List Char) → List Char
  | [] => []
  | [cs] => cs
  | cs :: rest => cs ++ separator ++ joinWith separator rest

/-- Texts with commas between them. -/
def commas (texts : List (List Char)) : List Char :=
  joinWith [',', ' '] texts

namespace Value

mutual

/-- The form of a value inside a list. -/
def shown : Value → Except Obstacle (List Char)
  | .scalar s => s.shown
  | .list items => do return '[' :: commas (← shownItems items) ++ [']']
  | .pair a b => do return '(' :: commas [← a.shown, ← b.shown] ++ [')']
  | .set [] => .ok "set()".toList
  | .set members => do return '{' :: commas (← members.mapM Scalar.shown) ++ ['}']
  | .record entries => do return '{' :: commas (← shownEntries entries) ++ ['}']
  | .loop _ isList => .ok (if isList then "[...]" else "\x7b...\x7d").toList

/-- The forms of the items of a list. -/
def shownItems : List Value → Except Obstacle (List (List Char))
  | [] => .ok []
  | v :: rest => do
    let first ← v.shown
    return first :: (← shownItems rest)

/-- The forms of the entries of a record. -/
def shownEntries : List (Scalar × Value) → Except Obstacle (List (List Char))
  | [] => .ok []
  | (k, v) :: rest => do
    let key ← k.shown
    let value ← v.shown
    return (key ++ ':' :: ' ' :: value) :: (← shownEntries rest)

end

/-- The text of a value. -/
def display : Value → Except Obstacle String
  | text s => .ok s
  | .scalar (.torn codes) => .ok (String.ofList (Code.joined codes))
  | .scalar (.date d) => .ok (String.ofList d.iso)
  | .scalar (.moment m) => .ok (String.ofList (m.iso ' '))
  | v => v.shown.map String.ofList

end Value
end StepFlow
