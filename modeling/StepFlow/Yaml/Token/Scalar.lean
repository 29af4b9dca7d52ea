import StepFlow.Text.Code
import StepFlow.Yaml.Cursor
/-!
# Scalars in YAML

Texts as documents hold them: plain, in single or double quotes, and as blocks of lines. Each reader
starts at the first character of the scalar and stops after its last.
-/

namespace StepFlow.Yaml.Scan

open Text

/-! ## Plain texts -/

/-- Whether a colon before this character ends a key. -/
def followsKey (inFlow : Bool) (c : Char) : Bool :=
  isGap c || (inFlow && isFlowIndicator c)

/-- The characters of a plain text up to a gap or a mark of structure. -/
def plainRun (inFlow : Bool) : List Char → List Char
  | [] => []
  | c :: rest =>
    if isGap c || (c == ':' && followsKey inFlow (rest.headD endMark)) ||
        (inFlow && (isFlowIndicator c || c == '?')) then []
    else c :: plainRun inFlow rest

/-- Reads the further line breaks and the indentation between two lines of a plain text. There are
none to be read before a mark between documents. -/
def plainBreaks : (fuel : Nat) → (breaks : List Char) → Scan (Option (List Char))
  | 0, breaks => return some breaks
  | fuel + 1, breaks => do
    let c ← peek
    if c == ' ' then
      skip 1
      plainBreaks fuel breaks
    else if isBreak c then
      let breaks := breaks ++ (← lineBreak)
      if (← get).atDocumentMark then return none
      plainBreaks fuel breaks
    else return some breaks

/-- Reads what stands between two runs of a plain text, nothing if the text ends here, and says
whether a line was ended. -/
def plainGap : Scan (List Char × Bool) := do
  let blanks ← takeWhile (· == ' ')
  if isBreak (← peek) then
    let first ← lineBreak
    if (← get).atDocumentMark then return ([], true)
    match ← plainBreaks (← bound) [] with
    | some breaks => return (folded first breaks, true)
    | none => return ([], true)
  else return (blanks, false)

/-- Reads the further runs of a plain text, the last one first. The gap stands before the next run,
and is dropped if there is none. -/
def plainRuns (inFlow : Bool) (indent : Int) :
    (fuel : Nat) → (runs : List (List Char)) → (gap : List Char) → (ended : Bool) →
      Scan (List (List Char) × Bool)
  | 0, runs, _, ended => return (runs, ended)
  | fuel + 1, runs, gap, ended => do
    let c ← get
    let run := plainRun inFlow c.rest
    if c.peek == '#' || run.isEmpty then return (runs, ended)
    skip run.length
    let (next, ended) ← plainGap
    let runs := run :: gap :: runs
    let c ← get
    if next.isEmpty || c.peek == '#' || (!inFlow && (c.column : Int) < indent) then
      return (runs, ended)
    plainRuns inFlow indent fuel runs next ended

/-- Reads a plain text whose further lines are indented at least this far, and says whether the
line after it has been reached. -/
def plain (inFlow : Bool) (indent : Int) : Scan (List Char × Bool) := do
  let (runs, ended) ← plainRuns inFlow indent (← bound) [] [] false
  return (runs.reverse.flatten, ended)

/-! ## Texts in quotes -/

/-- The character that a letter stands for after a backslash. -/
def escape? (c : Char) : Option Char :=
  [('0', '\x00'), ('a', '\x07'), ('b', '\x08'), ('t', '\t'), ('\t', '\t'), ('n', '\n'),
    ('v', '\x0b'), ('f', '\x0c'), ('r', '\r'), ('e', '\x1b'), (' ', ' '), ('"', '"'),
    ('\\', '\\'), ('/', '/'), ('N', '\x85'), ('_', '\xa0'), ('L', '\u2028'),
    ('P', '\u2029')].lookup c

/-- The number of digits of the code that a letter announces after a backslash. -/
def codeWidth? (c : Char) : Option Nat :=
  [('x', 2), ('u', 4), ('U', 8)].lookup c

/-- The number that exactly this many hexadecimal digits write. -/
def hexCode? (width : Nat) (cs : List Char) : Option Nat :=
  if cs.length < width then none
  else ((cs.take width).mapM hexValue?).map (ofDigits 16)

/-- The code of a number. -/
def codeOf (n : Nat) : Scan Code := do
  if 0x7FFFFFFF < n then throw .codeTooLarge
  if 0x10FFFF < n then throw .noCharacter
  return .ofNat n

/-- Reads the further line breaks between two lines of a text in quotes, and the blanks after
them. -/
def quotedBreaks : (fuel : Nat) → (breaks : List Char) → Scan (List Char)
  | 0, breaks => return breaks
  | fuel + 1, breaks => do
    if (← get).atDocumentMark then refuse
    skipWhile isBlank
    if isBreak (← peek) then quotedBreaks fuel (breaks ++ (← lineBreak))
    else return breaks

/-- Reads what follows a backslash. A line break there is left out. -/
def escape : Scan (List Code) := do
  let c ← peek
  match escape? c, codeWidth? c with
  | some e, _ =>
    skip 1
    return [.char e]
  | none, some width =>
    skip 1
    match hexCode? width (← get).rest with
    | some n =>
      skip width
      return [← codeOf n]
    | none => refuse
  | none, none =>
    if isBreak c then
      discard lineBreak
      return Code.ofChars (← quotedBreaks (← bound) [])
    else refuse

/-- Whether a character may have a meaning of its own in quotes. -/
def isQuotedMark (c : Char) : Bool :=
  c == '\'' || c == '"' || c == '\\' || isGap c

/-- Reads a text in quotes up to a gap or its closing quote; the runs come last one first. -/
def quotedWord (double : Bool) : (fuel : Nat) → (runs : List (List Code)) → Scan (List (List Code))
  | 0, runs => return runs
  | fuel + 1, runs => do
    let run ← takeWhile fun c => !isQuotedMark c
    let runs := Code.ofChars run :: runs
    let c ← get
    if !double && c.peek == '\'' && c.peekAt 1 == '\'' then
      skip 2
      quotedWord double fuel ([.char '\''] :: runs)
    else if (double && c.peek == '\'') || (!double && (c.peek == '"' || c.peek == '\\')) then
      skip 1
      quotedWord double fuel ([.char c.peek] :: runs)
    else if double && c.peek == '\\' then
      skip 1
      quotedWord double fuel ((← escape) :: runs)
    else return runs

/-- Reads a gap in a text in quotes. -/
def quotedGap : Scan (List Char) := do
  let blanks ← takeWhile isBlank
  let c ← peek
  if c == endMark then refuse
  else if isBreak c then
    let first ← lineBreak
    return folded first (← quotedBreaks (← bound) [])
  else return blanks

/-- Reads the further words of a text in quotes, up to the closing quote. -/
def quotedWords (quote : Char) :
    (fuel : Nat) → (runs : List (List Code)) → Scan (List (List Code))
  | 0, runs => return runs
  | fuel + 1, runs => do
    if (← peek) == quote then return runs
    let gap ← quotedGap
    quotedWords quote fuel (← quotedWord (quote == '"') (← bound) (Code.ofChars gap :: runs))

/-- Reads a text in quotes of the given kind. -/
def quoted (quote : Char) : Scan (List Code) := do
  skip 1
  let runs ← quotedWords quote (← bound) (← quotedWord (quote == '"') (← bound) [])
  skip 1
  return runs.reverse.flatten

/-! ## Blocks of lines -/

/-- Which line breaks at the end of a block are kept. -/
inductive Chomping where
  /-- The last line's. -/
  | clip
  /-- None. -/
  | strip
  /-- All. -/
  | keep

/-- The sign for a way of treating the breaks at the end. -/
def chomping? : Char → Option Chomping
  | '+' => some .keep
  | '-' => some .strip
  | _ => none

/-- Reads the sign of a chomping, if there is one. -/
def chompingSign : Scan (Option Chomping) := do
  match chomping? (← peek) with
  | some chomping =>
    skip 1
    return some chomping
  | none => return none

/-- Reads the digit of an indentation, if there is one; zero is refused. -/
def indentationDigit : Scan (Option Nat) := do
  let c ← peek
  if c == '0' then refuse
  else if isAsciiDigit c then
    skip 1
    return some (c.toNat - '0'.toNat)
  else return none

/-- Reads the head of a block: a chomping and the indentation, in either order, and the rest of the
line. -/
def blockHead : Scan (Chomping × Option Nat) := do
  let before ← chompingSign
  let indentation ← indentationDigit
  let after ← if before.isNone && indentation.isSome then chompingSign else pure none
  expect endsWord
  emptyRestOfLine
  return ((before.or after).getD .clip, indentation)

/-- Reads the empty lines before a block whose indentation is not given, and the most columns that
any of them and the first line have. -/
def blockStart : (fuel : Nat) → (breaks : List Char) → (most : Nat) → Scan (List Char × Nat)
  | 0, breaks, most => return (breaks, most)
  | fuel + 1, breaks, most => do
    let c ← peek
    if c == ' ' then
      skip 1
      blockStart fuel breaks (max most (← get).column)
    else if isBreak c then blockStart fuel (breaks ++ (← lineBreak)) most
    else return (breaks, most)

/-- Skips the indentation of a line of a block. -/
def blockIndentation (indent : Nat) : Scan Unit := do
  let c ← get
  skip ((c.rest.take (indent - c.column)).takeWhile (· == ' ')).length

/-- Reads the empty lines before the next line of a block. -/
def blockBreaks (indent : Nat) : (fuel : Nat) → (breaks : List Char) → Scan (List Char)
  | 0, breaks => return breaks
  | fuel + 1, breaks => do
    blockIndentation indent
    if isBreak (← peek) then blockBreaks indent fuel (breaks ++ (← lineBreak))
    else return breaks

/-- The lines of a block, read so far. -/
structure BlockLines where
  /-- The runs of characters, the last one first. -/
  runs : List (List Char) := []
  /-- The break after the last line. -/
  lineBreak : List Char := []
  /-- The breaks of the empty lines after that. -/
  breaks : List Char

/-- The break between two lines of a folded block reads as a space, unless a line starts with a
blank or an empty line lies between. -/
def blockJoint (fold leading : Bool) (next : Char) (lineBreak breaks : List Char) : List Char :=
  if fold && lineBreak == ['\n'] && leading && !isBlank next then
    if breaks.isEmpty then [' '] else []
  else lineBreak

/-- Reads the lines of a block. -/
def blockLines (fold : Bool) (indent : Nat) : (fuel : Nat) → BlockLines → Scan BlockLines
  | 0, lines => return lines
  | fuel + 1, lines => do
    let c ← get
    if c.column != indent || c.peek == endMark then return lines
    let leading := !isBlank c.peek
    let line ← takeWhile fun c => !endsLine c
    let ending ← lineBreak
    let breaks ← blockBreaks indent (← bound) []
    let runs := line :: lines.breaks :: lines.runs
    let c ← get
    if c.column == indent && c.peek != endMark then
      blockLines fold indent fuel ⟨blockJoint fold leading c.peek ending breaks :: runs, [], breaks⟩
    else return ⟨runs, ending, breaks⟩

/-- Reads a block of lines that stands inside a part of the given indentation. -/
def block (fold : Bool) (outer : Int) : Scan (List Char) := do
  skip 1
  let (chomping, indentation) ← blockHead
  let least := (max (outer + 1) 1).toNat
  let (breaks, indent) ←
    match indentation with
    | none => do
      let (breaks, most) ← blockStart (← bound) [] 0
      pure (breaks, max least most)
    | some n => do
      let indent := least + n - 1
      pure (← blockBreaks indent (← bound) [], indent)
  let lines ← blockLines fold indent (← bound) { breaks }
  let text := lines.runs.reverse.flatten
  match chomping with
  | .strip => return text
  | .clip => return text ++ lines.lineBreak
  | .keep => return text ++ lines.lineBreak ++ lines.breaks

end StepFlow.Yaml.Scan
