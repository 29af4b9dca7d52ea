import StepFlow.Text.CaseRanges
import StepFlow.Text.Word
/-!
# Case

Lower case and capitalised text by the full mappings of Unicode, in which one character may become
several. A capital sigma is the one letter whose lower-case form depends on its neighbours: it is
final after a cased letter that no further cased letter follows, and case-ignorable characters are
skipped on both sides.
-/

namespace StepFlow.Text

/-- The first image that a table of runs gives a code point. -/
def runImage? (runs : Array CaseRun) (n : Nat) : Option Nat :=
  runs.findSome? (·.image? n)

/-- The nearest character that is not case-ignorable is there and is cased. -/
def nearestIsCased : List Char → Bool
  | [] => false
  | c :: rest =>
    if inRanges caseIgnorableRanges c.toNat then nearestIsCased rest
    else inRanges casedRanges c.toNat

/-- The lower-case form of one character; a capital sigma becomes the medial one. -/
def lowerChar (c : Char) : List Char :=
  if c.toNat < 128 then [c.toLower]
  else if c.toNat = 0x130 then ['i', '\u0307']
  else if c.toNat = 0x3A3 then ['σ']
  else
    match runImage? lowerRuns c.toNat with
    | some n => [Char.ofNat n]
    | none => [c]

/-- The lower-case form of a text that stands after `before`, which is given backwards. -/
def lowerAfter (before : List Char) : List Char → List Char
  | [] => []
  | c :: rest =>
    let image :=
      if c.toNat = 0x3A3 ∧ nearestIsCased before ∧ ¬ nearestIsCased rest then ['ς']
      else lowerChar c
    image ++ lowerAfter (c :: before) rest

/-- The lower-case form of a text. -/
def lower (cs : List Char) : List Char :=
  lowerAfter [] cs

/-- The title-case form of one character. -/
def titleChar (c : Char) : List Char :=
  if c.toNat < 128 then [c.toUpper]
  else
    match titleSpellings.find? (·.1 == c.toNat) with
    | some (_, spelling) => spelling.map Char.ofNat
    | none =>
      match runImage? titleRuns c.toNat with
      | some n => [Char.ofNat n]
      | none => [c]

/-- The first character in title case and the others in lower case. -/
def capitalize : List Char → List Char
  | [] => []
  | c :: rest => titleChar c ++ lowerAfter [c] rest

/-- The lower-case form of a string. -/
def lowered (s : String) : String :=
  String.ofList (lower s.toList)

end StepFlow.Text
