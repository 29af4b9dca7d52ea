import StepFlow.Diagram.Basic
import StepFlow.Text.Find
import StepFlow.Text.Word
/-!
# Statements of a diagram

What one line of a flowchart says. An arrow is recognised before a node, and each end of an arrow
may define its node in passing. The label of a node runs up to a closing bracket of its shape; where
the first such bracket leaves no arrow behind it, a later one is tried.

The order of preference is: `-->` before `==>` before `-.->`, an arrow with a label before one
without, brackets in the order of `brackets`, and the nearest closing bracket first.
-/

namespace StepFlow.Diagram

open Text

/-- A pair of brackets and the shape it draws. -/
structure Bracket where
  /-- What stands before the label. -/
  opening : List Char
  /-- What stands after the label. -/
  closing : List Char
  /-- The shape of the node. -/
  shape : Shape

/-- All brackets; double ones come before the single ones they start with. -/
def brackets : List Bracket := [
  ⟨['(', '('], [')', ')'], .start⟩,
  ⟨['[', '['], [']', ']'], .finish⟩,
  ⟨['{'], ['}'], .decision⟩,
  ⟨['[', '('], [')', ']'], .data⟩,
  ⟨['['], [']'], .process⟩,
  ⟨['>'], [']'], .process⟩]

/-- The arrows. -/
def arrows : List (List Char) := [
  ['-', '-', '>'],
  ['=', '=', '>'],
  ['-', '.', '-', '>']]

/-- A label in brackets, with the shape that the brackets draw. -/
structure Body where
  /-- The shape of the brackets. -/
  shape : Shape
  /-- The text between them. -/
  label : List Char
deriving DecidableEq

/-- A node's id, with its body where the statement has one. -/
structure Endpoint where
  /-- The id. -/
  id : List Char
  /-- The body. -/
  body? : Option Body
deriving DecidableEq

/-- What a line says. -/
inductive Statement where
  /-- A section begins; its label may be missing. -/
  | opening (id : List Char) (label? : Option (List Char))
  /-- The section ends. -/
  | closing
  /-- An arrow leads from one node to another; its label may be missing. -/
  | edge (source : Endpoint) (label? : Option (List Char)) (target : Endpoint)
  /-- A node is defined. -/
  | node (id : List Char) (body : Body)
deriving DecidableEq

/-! ## Nodes -/

/-- The bodies in one kind of brackets that a text can be read to start with, the shortest first,
each with what follows it. -/
def Bracket.bodies (b : Bracket) (cs : List Char) : List (Body × List Char) :=
  match after? b.opening cs with
  | none => []
  | some inner => (splits b.closing inner).map fun (label, rest) => (⟨b.shape, label⟩, rest)

/-- The bodies that a text can be read to start with, in the order of preference. -/
def bodies (cs : List Char) : List (Body × List Char) :=
  brackets.flatMap (·.bodies cs)

/-- The id that a text starts with, and what follows it without leading blanks. -/
def readId? (cs : List Char) : Option (List Char × List Char) :=
  let (id, rest) := spanWord cs
  if id.isEmpty then none else some (id, trimStart rest)

/-- The definition of a node that a line starts with. -/
def readNode? (line : List Char) : Option Statement := do
  let (id, rest) ← readId? line
  let (body, _) ← (bodies rest).head?
  some (.node id body)

/-! ## Arrows -/

/-- The ways in which a line can be read to start with an arrow's source, in the order of
preference, each with what follows it without leading blanks. -/
def sources (line : List Char) : List (Endpoint × List Char) :=
  match readId? line with
  | none => []
  | some (id, rest) =>
    ((bodies rest).map fun (body, after) => (⟨id, some body⟩, trimStart after)) ++
      [(⟨id, none⟩, rest)]

/-- The target that a text starts with; it has the body of first preference. -/
def readTarget? (cs : List Char) : Option Endpoint := do
  let (id, rest) ← readId? cs
  some ⟨id, (bodies rest).head?.map (·.1)⟩

/-- The label between bars that a text starts with, and what follows it without leading blanks. -/
def readBarred? : List Char → Option (List Char × List Char)
  | '|' :: cs => (splitAt? ['|'] cs).map fun (label, rest) => (label, trimStart rest)
  | _ => none

/-- The arrow of the given form, with a label, that follows a source. -/
def readLabelled? (arrow : List Char) (source : Endpoint) (cs : List Char) : Option Statement := do
  let rest ← after? arrow cs
  let (label, rest) ← readBarred? (trimStart rest)
  let target ← readTarget? rest
  some (.edge source (some label) target)

/-- The arrow of the given form, without a label, that follows a source. -/
def readPlain? (arrow : List Char) (source : Endpoint) (cs : List Char) : Option Statement := do
  let rest ← after? arrow cs
  let target ← readTarget? (trimStart rest)
  some (.edge source none target)

/-- The arrow between nodes that a line starts with. -/
def readEdge? (line : List Char) : Option Statement :=
  arrows.findSome? fun arrow =>
    ((sources line).findSome? fun (source, rest) => readLabelled? arrow source rest).or
      ((sources line).findSome? fun (source, rest) => readPlain? arrow source rest)

/-! ## Sections -/

/-- A text without the quote it may start with. -/
def skipQuote : List Char → List Char
  | '"' :: rest => rest
  | cs => cs

/-- The label in square brackets, possibly quoted, that a text starts with. -/
def readSectionLabel? (cs : List Char) : Option (List Char) :=
  match trimStart cs with
  | '[' :: inner =>
    let inner := skipQuote (trimStart inner)
    let isEnd (c : Char) := c == '"' || c == ']'
    let rest := trimStart (skipQuote (inner.dropWhile (!isEnd ·)))
    if rest.head? = some ']' then some (inner.takeWhile (!isEnd ·)) else none
  | _ => none

/-- The opening of a section that a line starts with. -/
def readOpening? (line : List Char) : Option Statement := do
  let rest ← after? "subgraph".toList line
  let first ← rest.head?
  if isBlank first then
    let (id, after) := spanWord (trimStart rest)
    if id.isEmpty then none else some (.opening id (readSectionLabel? after))
  else none

/-! ## Lines -/

/-- A line without the blanks around it and the semicolons at its end. -/
def bareLine (raw : List Char) : List Char :=
  trim (dropEndWhile (· == ';') (trim raw))

/-- What a line says. Comments, which start with two percent signs, and lines of no known form say
nothing. -/
def Statement.read? (raw : List Char) : Option Statement :=
  let line := bareLine raw
  if startsWith ['%', '%'] line then none
  else
    (readOpening? line).or <|
    (if line = "end".toList then some .closing else none).or <|
    (readEdge? line).or <|
    readNode? line

end StepFlow.Diagram
