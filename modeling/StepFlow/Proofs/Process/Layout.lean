import StepFlow.Proofs.Process.Outline
/-!
# Written outlines

An outline as it is laid out: a preamble, and then steps, each with a heading and the lines below
it, which have a bullet or run on. Every line may be indented, end in blanks and have blank lines
above it. The types hold what can be written and nothing else: a title has no colon, and a running
line has not the form of a heading and starts with no bullet.

`Passage.step` is what the lines of a step say. Indentation, blank lines and the kind of bullet are
not part of it, and neither is where the bullets stand among the running lines.
-/

namespace StepFlow.Outline

open Text

namespace Written

/-! ## Lines -/

/-- A text with nothing around it: not empty, without breaks, without blanks at its ends. -/
structure Phrase where
  /-- The characters. -/
  text : List Char
  ne_nil : text ≠ []
  inline : Inline text

/-- A line below a heading. -/
inductive Item where
  /-- A line with a bullet. -/
  | bullet (mark : List Char) (hmark : mark ∈ bullets) (phrase : Phrase)
  /-- A line that is neither a heading nor has a bullet. -/
  | running (phrase : Phrase) (hheading : ∀ digits, ¬ HasHeadingForm digits phrase.text)
      (hbullet : ∀ mark ∈ bullets, ¬ mark <+: phrase.text)

namespace Item

/-- The line as it is written. -/
def text : Item → List Char
  | bullet mark _ phrase => mark ++ phrase.text
  | running phrase _ _ => phrase.text

/-- What the line is. -/
def line : Item → Line
  | bullet _ _ phrase => .bullet phrase.text
  | running phrase _ _ => .running phrase.text

/-- The text behind a bullet. -/
def bullet? : Item → Option (List Char)
  | bullet _ _ phrase => some phrase.text
  | running _ _ _ => none

/-- The text of a running line. -/
def running? : Item → Option (List Char)
  | bullet _ _ _ => none
  | running phrase _ _ => some phrase.text

end Item

/-- What stands around a line: blank lines above it and blanks at its ends. -/
structure Place where
  /-- The blank lines above. -/
  above : List Blanks
  /-- The blanks in front. -/
  indentation : Blanks
  /-- The blanks behind. -/
  trailing : Blanks

/-- A line in its place. -/
def Place.rows (p : Place) (text : List Char) : List (List Char) :=
  p.above.map (·.text) ++ [p.indentation.text ++ (text ++ p.trailing.text)]

/-! ## Steps -/

/-- Texts joined by single spaces; empty ones are left out. -/
def joined (parts : List (List Char)) : String :=
  String.ofList (List.intercalate [' '] (parts.filter (· ≠ [])))

/-- A step as it is laid out. -/
structure Passage where
  /-- The number. -/
  number : Nat
  short : (decimal number).length ≤ digitLimit
  /-- The title. -/
  title : Phrase
  noColon : ':' ∉ title.text
  /-- What stands behind the title, possibly nothing. -/
  head : List Char
  inline_head : Inline head
  /-- What stands around the heading. -/
  place : Place
  /-- The lines below the heading, with what stands around them. -/
  body : List (Place × Item)

namespace Passage

/-- The heading as it is written. -/
def heading (p : Passage) : List Char :=
  decimal p.number ++ '.' :: ' ' :: (p.title.text ++ ':' :: ' ' :: p.head)

/-- The lines of the step. -/
def rows (p : Passage) : List (List Char) :=
  p.place.rows p.heading ++ p.body.flatMap fun x => x.1.rows x.2.text

/-- **The step that is meant:** its description is made of the head and the running lines. -/
def step (p : Passage) : Step where
  number := p.number
  title := String.ofList p.title.text
  description := joined (p.head :: p.body.filterMap (·.2.running?))
  subSteps := (p.body.filterMap (·.2.bullet?)).map String.ofList

end Passage

/-! ## Outlines -/

/-- An outline as it is laid out. -/
structure Layout where
  /-- The lines above the first heading. -/
  preamble : List (List Char)
  unbroken_preamble : ∀ row ∈ preamble, ∀ c ∈ row, isBreak c = false
  preamble_noHeading : ∀ row ∈ preamble, ∀ digits, ¬ HasHeadingForm digits (trim row)
  /-- The steps. -/
  passages : List Passage
  /-- The blank lines at the end. -/
  below : List Blanks

namespace Layout

/-- The lines of the outline. -/
def rows (o : Layout) : List (List Char) :=
  o.preamble ++ (o.passages.flatMap Passage.rows ++ o.below.map (·.text))

/-- The outline as a text. -/
def print (o : Layout) : String :=
  String.ofList (List.intercalate ['\n'] o.rows)

end Layout

end Written

end StepFlow.Outline
