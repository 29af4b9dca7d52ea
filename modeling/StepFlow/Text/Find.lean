/-!
# Finding and replacing

Whether one text occurs in another, and character by character replacement.
-/

namespace StepFlow.Text

/-- Whether a text starts with the given one. -/
def startsWith (start cs : List Char) : Bool :=
  start.isPrefixOf cs

/-- Whether the given text occurs somewhere in a text. -/
def occursIn (needle : List Char) : List Char → Bool
  | [] => needle.isEmpty
  | c :: rest => startsWith needle (c :: rest) || occursIn needle rest

/-- What follows the given start of a text, if the text has it. -/
def after? : (start cs : List Char) → Option (List Char)
  | [], cs => some cs
  | _ :: _, [] => none
  | s :: start, c :: cs => if s = c then after? start cs else none

/-- The text before the first occurrence of a mark and the text after it. -/
def splitAt? (mark : List Char) : List Char → Option (List Char × List Char)
  | [] => (after? mark []).map fun rest => ([], rest)
  | c :: cs =>
    match after? mark (c :: cs) with
    | some rest => some ([], rest)
    | none => (splitAt? mark cs).map fun (before, rest) => (c :: before, rest)

/-- The text before and after each occurrence of a mark, from the first occurrence on. -/
def splits (mark : List Char) : List Char → List (List Char × List Char)
  | [] => ((after? mark []).map fun rest => ([], rest)).toList
  | c :: cs =>
    ((after? mark (c :: cs)).map fun rest => ([], rest)).toList ++
      (splits mark cs).map fun (before, rest) => (c :: before, rest)

/-- The parts of a list between the occurrences of an element. -/
def splitOn {α : Type} [DecidableEq α] (mark : α) : List α → List (List α)
  | [] => [[]]
  | c :: cs =>
    if c = mark then [] :: splitOn mark cs
    else
      match splitOn mark cs with
      | [] => [[c]]
      | part :: parts => (c :: part) :: parts

/-- Every occurrence of one character replaced by another. -/
def replaceChar (old new : Char) (cs : List Char) : List Char :=
  cs.map fun c => if c = old then new else c

end StepFlow.Text
