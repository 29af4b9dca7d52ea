import StepFlow.Export.Tree
import StepFlow.Yaml.Sheet
/-!
# Trees in YAML

The YAML text of a tree, in block style: every entry and every item stands on a line of its own,
and only empty lists and records are written in brackets. The items of a list stand under the key
that they belong to.
-/

namespace StepFlow.Yaml

/-- The text of a double: it always has a point. -/
def realText : Double → List Char
  | .nan => ".nan".toList
  | .infinite negative => (if negative then "-.inf" else ".inf").toList
  | x =>
    let cs := x.text
    if cs.contains '.' then cs
    else cs.flatMap fun c => if c = 'e' then ['.', '0', 'e'] else [c]

/-- The length from which a key is written on a line of its own. -/
def longKey : Nat := 123

/-- Whether a key can stand on the line of its value: it is neither empty nor long and has no line
breaks. -/
def isSimpleKey (key : List Char) : Bool :=
  !key.isEmpty && key.length < longKey && !key.any Style.isFoldable

/-- The indentation inside a part that stands at the given one; nothing stands around the root. -/
def inner : Option Nat → Nat
  | none => 0
  | some n => n + Sheet.step

/-- The indentation of the further lines of a text that stands at the given one. -/
def hanging : Option Nat → Nat
  | none => Sheet.step
  | some n => n + Sheet.step

namespace Sheet

/-- Writes a key and its colon. A key that is not simple is announced by a question mark and
followed by the colon on a new line. -/
def key (indent : Nat) (name : List Char) (s : Sheet) : Sheet :=
  let s := s.indentTo indent
  if isSimpleKey name then (s.text false (indent + step) name).mark [':'] false
  else (((s.markItem '?').text true (indent + step) name).indentTo indent).markItem ':'

mutual

/-- Writes a tree inside a part that stands at the given indentation. The items of a list that is
the value of a key on the same line are not indented further. -/
def tree (outer : Option Nat) (isEntry : Bool) : Tree → Sheet → Sheet
  | .null, s => s.plain true (hanging outer) "null".toList
  | .bool b, s => s.plain true (hanging outer) (if b then "true" else "false").toList
  | .int n, s => s.plain true (hanging outer) (Text.integer n)
  | .real x, s => s.plain true (hanging outer) (realText x)
  | .text t, s => s.text true (hanging outer) t.toList
  | .list [], s => (s.mark ['['] true).mark [']'] false
  | .list items, s =>
    treeItems (if isEntry && !s.fresh then outer.getD 0 else inner outer) items s
  | .record [], s => (s.mark ['\x7b'] true).mark ['\x7d'] false
  | .record entries, s => treeEntries (inner outer) entries s

/-- Writes the items of a list at the given indentation. -/
def treeItems (indent : Nat) : List Tree → Sheet → Sheet
  | [], s => s
  | t :: rest, s => treeItems indent rest (tree (some indent) false t ((s.indentTo indent).markItem '-'))

/-- Writes the entries of a record at the given indentation. -/
def treeEntries (indent : Nat) : List (String × Tree) → Sheet → Sheet
  | [], s => s
  | (k, t) :: rest, s => treeEntries indent rest (tree (some indent) true t (s.key indent k.toList))

end

end Sheet

/-- The text of a document that holds a tree. -/
def render (t : Tree) : List Char :=
  ((Sheet.tree none false t {}).indentTo 0).written.reverse

end StepFlow.Yaml

namespace StepFlow

/-- The YAML text of a tree. -/
def Tree.toYaml (t : Tree) : String :=
  String.ofList (Yaml.render t)

end StepFlow
