import StepFlow.Proofs.Diagram.Node
/-!
# Written diagrams

The statements of a diagram as they are written down: nodes in six frames, arrows of three forms
with an optional label and an optional frame at each end, sections, comments and blank lines. Each
stands on a line of its own, with blanks in front and semicolons behind. The types hold what can be
written and nothing else: words are words, and a label has none of the characters that end it.

`Sentence.meaning?` is what a sentence says. Indentation, semicolons, the number of spaces and the
form of the arrow are not part of it.
-/

namespace StepFlow.Diagram.Written

open Text

/-! ## Words and labels -/

/-- An id: a word that is not empty. -/
structure Word where
  /-- The characters. -/
  text : List Char
  ne_nil : text ≠ []
  isWord : ∀ c ∈ text, isWord c = true

/-- A label without breaks and without the barred characters. -/
structure Caption (barred : List Char) where
  /-- The characters. -/
  text : List Char
  unbroken : ∀ c ∈ text, isBreak c = false
  free : ∀ c ∈ text, c ∉ barred

/-- The characters that brackets are made of. -/
def bracketChars : List Char := ['(', ')', '[', ']', '{', '}']

/-! ## Frames -/

/-- What is drawn around the label of a node. -/
inductive Frame where
  /-- `((label))` -/
  | circle
  /-- `[[label]]` -/
  | doubledBox
  /-- `{label}` with curly brackets -/
  | rhombus
  /-- `[(label)]` -/
  | cylinder
  /-- `[label]` -/
  | box
  /-- `>label]` -/
  | flag

namespace Frame

/-- What stands before the label. -/
def opening : Frame → List Char
  | circle => ['(', '(']
  | doubledBox => ['[', '[']
  | rhombus => ['{']
  | cylinder => ['[', '(']
  | box => ['[']
  | flag => ['>']

/-- What stands after the label. -/
def closing : Frame → List Char
  | circle => [')', ')']
  | doubledBox => [']', ']']
  | rhombus => ['}']
  | cylinder => [')', ']']
  | box => [']']
  | flag => [']']

/-- The shape of the node. -/
def shape : Frame → Shape
  | circle => .start
  | doubledBox => .finish
  | rhombus => .decision
  | cylinder => .data
  | box => .process
  | flag => .process

end Frame

/-- A label in a frame. -/
structure Framed where
  /-- The frame. -/
  frame : Frame
  /-- The label. -/
  label : Caption bracketChars

namespace Framed

/-- The label as it is written, in its frame. -/
def text (f : Framed) : List Char :=
  f.frame.opening ++ (f.label.text ++ f.frame.closing)

/-- The shape and the label. -/
def body (f : Framed) : Body :=
  ⟨f.frame.shape, f.label.text⟩

end Framed

/-! ## Arrows -/

/-- The forms of arrows. -/
inductive Arrow where
  /-- `-->` -/
  | thin
  /-- `==>` -/
  | thick
  /-- `-.->` -/
  | dotted

/-- An arrow as it is written. -/
def Arrow.text : Arrow → List Char
  | thin => ['-', '-', '>']
  | thick => ['=', '=', '>']
  | dotted => ['-', '.', '-', '>']

/-- An end of an arrow: an id, and a label in a frame where it defines its node in passing. -/
structure End where
  /-- The id. -/
  id : Word
  /-- The label. -/
  framed? : Option Framed

namespace End

/-- The end as it is written, with the frame right behind the id. -/
def text (e : End) : List Char :=
  e.id.text ++ (e.framed?.map Framed.text).getD []

/-- The id and the body. -/
def endpoint (e : End) : Endpoint :=
  ⟨e.id.text, e.framed?.map Framed.body⟩

end End

/-- Spaces, at least one. -/
def gap (more : Nat) : List Char :=
  List.replicate (more + 1) ' '

/-- The label of an arrow and the spaces in front of it. -/
structure ArrowLabel where
  /-- The number of spaces beyond the first. -/
  more : Nat
  /-- The label. -/
  caption : Caption ('|' :: bracketChars)

/-- The label between bars, behind its spaces. -/
def ArrowLabel.text (l : ArrowLabel) : List Char :=
  gap l.more ++ '|' :: (l.caption.text ++ ['|'])

/-- What stands behind an arrow: its label if it has one, spaces, and the target. -/
def behindArrow (label? : Option ArrowLabel) (beforeTarget : Nat) (target : End) : List Char :=
  (label?.map ArrowLabel.text).getD [] ++ (gap beforeTarget ++ target.text)

/-- The word that opens a section. -/
def openingWord : List Char := "subgraph".toList

/-- The word that closes one. -/
def closingWord : List Char := "end".toList

/-- The label of a section as it is written, behind a space. -/
def sectionLabel (l : Caption ['"', ']']) : List Char :=
  ' ' :: '[' :: '"' :: (l.text ++ ['"', ']'])

/-! ## Sentences -/

/-- What can be written on a line. -/
inductive Sentence where
  /-- A node, with the frame right behind the id. -/
  | node (id : Word) (framed : Framed)
  /-- An arrow, with spaces behind the source and in front of the target. -/
  | edge (source : End) (behindSource : Nat) (arrow : Arrow) (label? : Option ArrowLabel)
      (beforeTarget : Nat) (target : End)
  /-- The opening of a section, with its label in quotes if it has one. -/
  | opening (id : Word) (label? : Option (Caption ['"', ']']))
  /-- The end of a section. -/
  | closing
  /-- A comment. -/
  | comment (text : Caption [])
  /-- Nothing. -/
  | blank

namespace Sentence

/-- A sentence as it is written. -/
def text : Sentence → List Char
  | node id framed => id.text ++ framed.text
  | edge source behindSource arrow label? beforeTarget target =>
    source.text ++ (gap behindSource ++ (arrow.text ++ behindArrow label? beforeTarget target))
  | opening id label? => openingWord ++ ' ' :: (id.text ++ (label?.map sectionLabel).getD [])
  | closing => closingWord
  | comment text => '%' :: '%' :: text.text
  | blank => []

/-- What a sentence says. -/
def meaning? : Sentence → Option Statement
  | node id framed => some (.node id.text framed.body)
  | edge source _ _ label? _ target =>
    some (.edge source.endpoint (label?.map (·.caption.text)) target.endpoint)
  | opening id label? => some (.opening id.text (label?.map (·.text)))
  | closing => some .closing
  | comment _ => none
  | blank => none

end Sentence

/-! ## Lines and texts -/

/-- A sentence on a line. -/
structure Line where
  /-- The blanks in front. -/
  indentation : List Char
  isBlank : ∀ c ∈ indentation, isBlank c = true
  unbroken : ∀ c ∈ indentation, isBreak c = false
  /-- The sentence. -/
  sentence : Sentence
  /-- The number of semicolons at the end. -/
  semicolons : Nat

/-- A line as it is written. -/
def Line.text (l : Line) : List Char :=
  l.indentation ++ (l.sentence.text ++ List.replicate l.semicolons ';')

/-- The text of several lines. -/
def print (ls : List Line) : String :=
  String.ofList (List.intercalate ['\n'] (ls.map Line.text))

/-- What several lines say, in order. -/
def meanings (ls : List Line) : List Statement :=
  ls.filterMap (·.sentence.meaning?)

end StepFlow.Diagram.Written
