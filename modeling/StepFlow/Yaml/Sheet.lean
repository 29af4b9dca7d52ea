import StepFlow.Yaml.Style
/-!
# Sheets

A document as it is being written: what has been written so far, and where the pen stands. Long
texts are folded: once a line is longer than the width, it is broken at the next single space.
-/

namespace StepFlow.Yaml

open Text

/-- A document that is being written. -/
structure Sheet where
  /-- What has been written, the last character first. -/
  written : List Char := []
  /-- How many characters the current line has. -/
  column : Nat := 0
  /-- Whether the last thing written counts as a blank. -/
  spaced : Bool := true
  /-- Whether nothing but indentation and marks of items stands on the current line. -/
  fresh : Bool := true

namespace Sheet

/-- The length of a line after which texts are folded. -/
def width : Nat := 80

/-- The step of the indentation. -/
def step : Nat := 2

/-- Writes characters without a break among them. -/
def put (cs : List Char) (s : Sheet) : Sheet :=
  { s with written := cs.reverse ++ s.written, column := s.column + cs.length }

/-- Writes a line break. -/
def breakLine (c : Char) (s : Sheet) : Sheet :=
  { written := c :: s.written, column := 0, spaced := true, fresh := true }

/-- Goes to the given indentation, on a new line unless the current one holds nothing that would be
in the way. -/
def indentTo (n : Nat) (s : Sheet) : Sheet :=
  let s := if !s.fresh || n < s.column || (s.column == n && !s.spaced) then s.breakLine '\n' else s
  if s.column < n then { s.put (List.replicate (n - s.column) ' ') with spaced := true } else s

/-- Writes a mark of structure, after a blank if it needs one. -/
def mark (cs : List Char) (needsBlank : Bool) (s : Sheet) : Sheet :=
  let s := s.put (if s.spaced || !needsBlank then cs else ' ' :: cs)
  { s with spaced := false, fresh := false }

/-- Writes a mark of structure after which a further one may stand on the same line. -/
def markItem (c : Char) (s : Sheet) : Sheet :=
  { s.mark [c] true with fresh := s.fresh }

/-- The pen stands right after a text. -/
def closed (s : Sheet) : Sheet :=
  { s with spaced := false, fresh := false }

/-- Whether a line that is this long is broken before the next word. -/
def isFull (s : Sheet) : Bool :=
  width < s.column

/-! ## Plain texts and single quotes -/

/-- What a run of characters consists of. -/
inductive Stuff where
  /-- Spaces. -/
  | spaces
  /-- Line breaks. -/
  | breaks
  /-- Anything else. -/
  | word
deriving DecidableEq

/-- What a character makes a run of. -/
def Stuff.of (c : Char) : Stuff :=
  if c = ' ' then spaces else if Style.isFoldable c then breaks else word

/-- The runs of spaces, of line breaks and of other characters, in order. -/
def runs (cs : List Char) : List (List Char) :=
  cs.splitBy fun c d => Stuff.of c = Stuff.of d

/-- Writes the runs of a plain text. -/
def putPlain (fold : Bool) (indent : Nat) : List (List Char) → Sheet → Sheet
  | [], s => s
  | run :: rest, s =>
    if run = [' '] ∧ fold ∧ s.isFull then putPlain fold indent rest (s.indentTo indent).closed
    else putPlain fold indent rest (s.put run)

/-- Writes a plain text. -/
def plain (fold : Bool) (indent : Nat) (cs : List Char) (s : Sheet) : Sheet :=
  let s := if s.spaced then s else s.put [' ']
  putPlain fold indent (runs cs) s.closed

/-- Writes line breaks inside quotes: a single line feed is written twice, since one alone would
read as a space. -/
def putBreaks (indent : Nat) (run : List Char) (s : Sheet) : Sheet :=
  let s := if run.head? = some '\n' then s.breakLine '\n' else s
  (run.foldl (fun s c => s.breakLine c) s).indentTo indent

/-- Writes the runs of a text in single quotes. A space at its start or end stays. -/
def putSingle (fold : Bool) (indent : Nat) : (inside : Bool) → List (List Char) → Sheet → Sheet
  | _, [], s => s
  | inside, run :: rest, s =>
    let s :=
      match run.head?.map Stuff.of with
      | some .breaks => s.putBreaks indent run
      | some .spaces =>
        if run.length = 1 ∧ fold ∧ inside ∧ !rest.isEmpty ∧ s.isFull then s.indentTo indent
        else s.put run
      | _ => s.put (run.flatMap fun c => if c = '\'' then ['\'', '\''] else [c])
    putSingle fold indent true rest s

/-- Writes a text in single quotes. -/
def single (fold : Bool) (indent : Nat) (cs : List Char) (s : Sheet) : Sheet :=
  (putSingle fold indent false (runs cs) (s.mark ['\''] true)).mark ['\''] false

/-! ## Double quotes -/

/-- The letter by which a character is escaped, if it has one. -/
def escapeLetter? (c : Char) : Option Char :=
  [('\x00', '0'), ('\x07', 'a'), ('\x08', 'b'), ('\t', 't'), ('\n', 'n'), ('\x0b', 'v'),
    ('\x0c', 'f'), ('\r', 'r'), ('\x1b', 'e'), ('"', '"'), ('\\', '\\'), ('\x85', 'N'),
    ('\xa0', '_'), ('\u2028', 'L'), ('\u2029', 'P')].lookup c

/-- Whether double quotes hold a character as itself. -/
def isBare (c : Char) : Bool :=
  let n := c.toNat
  c != '"' && c != '\\' && c != byteOrderMark && !isSeparator c &&
    ((0x20 ≤ n && n ≤ 0x7E) || (0xA0 ≤ n && n ≤ 0xFFFD))

/-- The digits of a number in upper-case hexadecimal, filled up to the given width. -/
def upperHex (width n : Nat) : List Char :=
  (hexadecimal width n).map Char.toUpper

/-- The escape of a character. -/
def escaped (c : Char) : List Char :=
  match escapeLetter? c with
  | some letter => ['\\', letter]
  | none =>
    let n := c.toNat
    if n ≤ 0xFF then '\\' :: 'x' :: upperHex 2 n
    else if n ≤ 0xFFFF then '\\' :: 'u' :: upperHex 4 n
    else '\\' :: 'U' :: upperHex 8 n

/-- Breaks the line inside double quotes by a backslash; a space that comes next is kept by another
one. -/
def continueLine (indent : Nat) (next : Option Char) (s : Sheet) : Sheet :=
  let s := ((s.put ['\\']).indentTo indent).closed
  if next = some ' ' then s.put ['\\'] else s

/-- Writes the characters of a text in double quotes. The line may be broken after an escape and
before a space, but neither at the first nor at the last character. -/
def putDouble (fold : Bool) (indent : Nat) :
    (inside afterEscape : Bool) → List Char → Sheet → Sheet
  | _, _, [], s => s
  | inside, afterEscape, c :: rest, s =>
    let mayBreak := fold && inside && !rest.isEmpty
    if isBare c then
      let s :=
        if mayBreak && (c == ' ' || afterEscape) && s.isFull then s.continueLine indent (some c)
        else s
      putDouble fold indent true false rest (s.put [c])
    else
      let s := s.put (escaped c)
      let s :=
        if mayBreak && width + 1 < s.column then s.continueLine indent rest.head? else s
      putDouble fold indent true true rest s

/-- Writes a text in double quotes. -/
def double (fold : Bool) (indent : Nat) (cs : List Char) (s : Sheet) : Sheet :=
  (putDouble fold indent false false cs (s.mark ['"'] true)).mark ['"'] false

/-- Writes a text in its style, folded if asked for. -/
def text (fold : Bool) (indent : Nat) (cs : List Char) (s : Sheet) : Sheet :=
  match Style.ofText cs with
  | .plain => s.plain fold indent cs
  | .single => s.single fold indent cs
  | .double => s.double fold indent cs

end Sheet
end StepFlow.Yaml
