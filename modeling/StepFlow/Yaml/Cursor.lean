import StepFlow.Yaml.Character
import StepFlow.Yaml.Fault
/-!
# Cursors

A place in a document: what follows it, and how far it lies from the start of the document and of
its line. Readers of lexemes (`Scan`) move a cursor forward or fail.
-/

namespace StepFlow.Yaml

/-- A place in a document. -/
structure Cursor where
  /-- What follows. -/
  rest : List Char
  /-- The number of characters before the place. -/
  index : Nat := 0
  /-- The number of line breaks before it. -/
  line : Nat := 0
  /-- The number of columns before it on its line. -/
  column : Nat := 0
  /-- The number of characters of the whole document. -/
  size : Nat := rest.length

namespace Cursor

/-- The next character, or the end mark. -/
def peek (c : Cursor) : Char :=
  c.rest.headD endMark

/-- The character after `n` more, or the end mark. -/
def peekAt (c : Cursor) (n : Nat) : Char :=
  c.rest.getD n endMark

/-- The place after the next character. A carriage return before a line feed ends no line. -/
def next (c : Cursor) : Cursor :=
  match c.rest with
  | [] => c
  | ch :: rest =>
    let c := { c with rest, index := c.index + 1 }
    if isBreak ch && !(ch == '\r' && rest.head? == some '\n') then
      { c with line := c.line + 1, column := 0 }
    else if ch == byteOrderMark then c
    else { c with column := c.column + 1 }

/-- The place `n` characters further on. -/
def forward (n : Nat) (c : Cursor) : Cursor :=
  n.repeat next c

/-- Whether a mark between documents stands here: three dashes or three points, and a gap. -/
def atDocumentMark (c : Cursor) : Bool :=
  match c.rest with
  | '-' :: '-' :: '-' :: _ => isGap (c.peekAt 3)
  | '.' :: '.' :: '.' :: _ => isGap (c.peekAt 3)
  | _ => false

end Cursor

/-- A reader that moves a cursor. -/
abbrev Scan := StateT Cursor (Except Fault)

namespace Scan

/-- The next character, which stays unread. -/
def peek : Scan Char :=
  return (← get).peek

/-- Skips a number of characters. -/
def skip (n : Nat) : Scan Unit :=
  modify (Cursor.forward n)

/-- Refuses the document. -/
def refuse {α : Type} : Scan α :=
  throw .malformed

/-- Refuses the document unless the next character satisfies `p`. -/
def expect (p : Char → Bool) : Scan Unit := do
  if !p (← peek) then refuse

/-- Reads the characters that satisfy `p`. -/
def takeWhile (p : Char → Bool) : Scan (List Char) := do
  let run := (← get).rest.takeWhile p
  skip run.length
  return run

/-- Skips the characters that satisfy `p`. -/
def skipWhile (p : Char → Bool) : Scan Unit :=
  discard (takeWhile p)

/-- Reads a line break, if one comes next. All kinds read as a line feed but the two separators of
Unicode, which stay what they are. -/
def lineBreak : Scan (List Char) := do
  match (← get).rest with
  | '\r' :: '\n' :: _ =>
    skip 2
    return ['\n']
  | c :: _ =>
    if isBreak c then
      skip 1
      return [if isSeparator c then c else '\n']
    else return []
  | [] => return []

/-- Skips spaces and a comment, up to the end of the line. -/
def restOfLine : Scan Unit := do
  skipWhile (· == ' ')
  if (← peek) == '#' then skipWhile fun c => !endsLine c

/-- Skips the rest of a line on which nothing but a comment may follow. -/
def emptyRestOfLine : Scan Unit := do
  restOfLine
  expect endsLine
  discard lineBreak

/-- A bound for the number of steps that any reader of this document takes. -/
def bound : Scan Nat :=
  return (← get).size + 1

end Scan

/-- What a line break and the breaks after it read as inside a text that goes on: a single line
feed as a space, and the first of several line feeds as nothing. -/
def folded (first breaks : List Char) : List Char :=
  if first ≠ ['\n'] then first ++ breaks
  else if breaks.isEmpty then [' ']
  else breaks

end StepFlow.Yaml
