import StepFlow.Yaml.Token.Property
import StepFlow.Yaml.Token.Scalar
/-!
# Streams of tokens

The tokens of a whole document. Where lists and records begin and end by indentation, tokens say so;
and a part turns out to be a key only when the colon after it is met, so each part that may be one
is remembered until its line ends.
-/

namespace StepFlow.Yaml

/-- A part that is a key if a colon follows it. -/
structure Candidate where
  /-- How many tokens come before it. -/
  position : Nat
  /-- Whether it stands where nothing but a key may stand. -/
  required : Bool
  /-- Where it starts. -/
  place : Cursor

/-- How many characters a key may have, up to its colon. -/
def keyLimit : Nat := 1024

/-- Whether a part is too far away to be the key of a colon that stands here. -/
def Candidate.isStale (k : Candidate) (c : Cursor) : Bool :=
  k.place.line != c.line || keyLimit < c.index - k.place.index

/-- A document whose tokens are being read. -/
structure Stream where
  /-- What is left to be read. -/
  cursor : Cursor
  /-- The tokens so far, the last one first. -/
  tokens : List Token := []
  /-- How many tokens there are. -/
  count : Nat := 0
  /-- How many brackets are open. -/
  depth : Nat := 0
  /-- The indentation of the innermost list or record without brackets; -1 outside of all. -/
  indent : Int := -1
  /-- The indentations of the ones around it. -/
  outer : List Int := []
  /-- Whether a key may start here. -/
  keyAllowed : Bool := true
  /-- The parts that may still turn out to be keys, by the brackets that were open. -/
  candidates : List (Nat × Candidate) := []

namespace Stream

/-- Adds a token. -/
def push (t : Token) (s : Stream) : Stream :=
  { s with tokens := t :: s.tokens, count := s.count + 1 }

/-- Adds a token before the ones from the given position on. -/
def insertAt (position : Nat) (t : Token) (s : Stream) : Stream :=
  let (later, earlier) := s.tokens.splitAt (s.count - position)
  { s with tokens := later ++ t :: earlier, count := s.count + 1 }

end Stream

/-- A step in reading the tokens of a document. -/
abbrev Tokenize := StateT Stream (Except Fault)

namespace Tokenize

/-- Whether brackets are open. -/
def inFlow : Tokenize Bool :=
  return (← get).depth != 0

/-- Adds a token. -/
def emit (t : Token) : Tokenize Unit :=
  modify (Stream.push t)

/-- Reads a lexeme. -/
def lexeme {α : Type} (read : Scan α) : Tokenize α := do
  let s ← get
  let (a, cursor) ← read s.cursor
  set { s with cursor }
  return a

/-- Refuses the document. -/
def refuse {α : Type} : Tokenize α :=
  throw .malformed

/-- Says whether a key may start here. -/
def allowKey (allowed : Bool) : Tokenize Unit :=
  modify fun s => { s with keyAllowed := allowed }

/-! ## Candidates for keys -/

/-- The part that a colon here would make a key. -/
def candidate? : Tokenize (Option Candidate) := do
  let s ← get
  return s.candidates.lookup s.depth

/-- Forgets the part that a colon here would make a key. -/
def forget : Tokenize Unit :=
  modify fun s => { s with candidates := s.candidates.filter fun k => k.1 != s.depth }

/-- A colon can no longer follow the part that it would have made a key. -/
def giveUp : Tokenize Unit := do
  if ((← candidate?).map Candidate.required).getD false then refuse
  forget

/-- Gives up all parts that are too far away to be keys. -/
def giveUpStale : Tokenize Unit := do
  let s ← get
  let (stale, fresh) := s.candidates.partition fun k => k.2.isStale s.cursor
  if stale.any fun k => k.2.required then refuse
  set { s with candidates := fresh }

/-- Remembers the part that starts here, if it may be a key. -/
def remember : Tokenize Unit := do
  let s ← get
  let required := s.depth == 0 && s.indent == s.cursor.column
  if s.keyAllowed then
    giveUp
    modify fun t =>
      { t with candidates := (s.depth, ⟨s.count, required, s.cursor⟩) :: t.candidates }

/-! ## Indentation -/

/-- Ends the lists and records that are indented further than the given column. -/
def unindent (column : Int) : Tokenize Unit := do
  let s ← get
  if s.depth = 0 then
    let ended := (s.indent :: s.outer).takeWhile (column < ·)
    match (s.indent :: s.outer).drop ended.length with
    | indent :: outer =>
      set (ended.length.repeat (Stream.push .blockEnd) { s with indent, outer })
    | [] => pure ()

/-- Begins a list or record at a column, if it is indented further than what stands around it; the
token goes before the ones from the given position on. -/
def indentTo (column : Nat) (t : Token) (position : Nat) : Tokenize Unit :=
  modify fun s =>
    if s.indent < (column : Int) then
      { s with indent := (column : Int), outer := s.indent :: s.outer }.insertAt position t
    else s

/-- Begins a list or record here, where a key or an item without brackets has to be allowed. -/
def beginBlock (t : Token) : Tokenize Unit := do
  let s ← get
  if s.depth = 0 then
    if !s.keyAllowed then refuse
    indentTo s.cursor.column t s.count

/-! ## Tokens -/

/-- Ends all lists and records without brackets. -/
def endBlocks : Tokenize Unit := do
  unindent (-1)
  giveUp
  allowKey false

/-- Reads a mark of the given length. -/
def mark (length : Nat) (t : Token) : Tokenize Unit := do
  lexeme (Scan.skip length)
  emit t

/-- Reads an opening bracket. -/
def openBracket (t : Token) : Tokenize Unit := do
  remember
  modify fun s => { s with depth := s.depth + 1 }
  allowKey true
  mark 1 t

/-- Reads a closing bracket. -/
def closeBracket (t : Token) : Tokenize Unit := do
  giveUp
  modify fun s => { s with depth := s.depth - 1 }
  allowKey false
  mark 1 t

/-- Reads a comma. -/
def comma : Tokenize Unit := do
  allowKey true
  giveUp
  mark 1 .comma

/-- Reads a dash before an item. -/
def dash : Tokenize Unit := do
  beginBlock .blockList
  allowKey true
  giveUp
  mark 1 .dash

/-- Reads a question mark before a key. -/
def key : Tokenize Unit := do
  beginBlock .blockRecord
  allowKey !(← inFlow)
  giveUp
  mark 1 .key

/-- Reads a colon before a value. The part before it becomes a key, if it is one that may. -/
def value : Tokenize Unit := do
  match ← candidate? with
  | some k =>
    forget
    modify (Stream.insertAt k.position .key)
    if !(← inFlow) then indentTo k.place.column .blockRecord k.position
    allowKey false
  | none =>
    beginBlock .blockRecord
    allowKey !(← inFlow)
    giveUp
  mark 1 .value

/-- Reads a property or a text in quotes, which may be a key or the start of one. -/
def part (read : Scan Token) : Tokenize Unit := do
  remember
  allowKey false
  emit (← lexeme read)

/-- Reads a plain text. A key may follow if the text goes on to the end of its line. -/
def plain : Tokenize Unit := do
  remember
  let s ← get
  let (text, ended) ← lexeme (Scan.plain (s.depth != 0) (s.indent + 1))
  allowKey ended
  emit (.scalar (Text.Code.ofChars text) true)

/-- Reads a text in quotes. -/
def quoted (quote : Char) : Tokenize Unit :=
  part do return .scalar (← Scan.quoted quote) false

/-- Reads a block of lines. -/
def block (fold : Bool) : Tokenize Unit := do
  allowKey true
  giveUp
  let s ← get
  emit (.scalar (Text.Code.ofChars (← lexeme (Scan.block fold s.indent))) false)

/-- Skips blanks, comments and empty lines. Outside of brackets a key may start on a new line. -/
def skipToToken : (fuel : Nat) → Tokenize Unit
  | 0 => pure ()
  | fuel + 1 => do
    lexeme Scan.restOfLine
    if (← lexeme Scan.lineBreak).isEmpty then return
    if !(← inFlow) then allowKey true
    skipToToken fuel

/-- Whether a plain text may start with the next character. -/
def startsPlain (inFlow : Bool) (c : Cursor) : Bool :=
  let ch := c.peek
  !(isGap ch || "-?:,[]\x7b\x7d#&*!|>'\"%@`".toList.contains ch) ||
    (!isGap (c.peekAt 1) && (ch == '-' || (!inFlow && (ch == '?' || ch == ':'))))

/-- Reads the token whose first character is next. -/
def dispatch (c : Cursor) (flow : Bool) : Tokenize Unit :=
  let beforeGap := isGap (c.peekAt 1)
  match c.peek with
  | '%' => if c.column = 0 then directive else refuse
  | '[' => openBracket .flowList
  | '\x7b' => openBracket .flowRecord
  | ']' => closeBracket .flowListEnd
  | '\x7d' => closeBracket .flowRecordEnd
  | ',' => comma
  | '-' => if beforeGap then dash else orPlain
  | '?' => if flow || beforeGap then key else orPlain
  | ':' => if flow || beforeGap then value else orPlain
  | '*' => part do return .alias (← Scan.partName)
  | '&' => part do return .anchor (← Scan.partName)
  | '!' => part do return .tag (← Scan.tag)
  | '|' => if flow then refuse else block false
  | '>' => if flow then refuse else block true
  | '\'' => quoted '\''
  | '"' => quoted '"'
  | _ => orPlain
where
  directive : Tokenize Unit := do
    endBlocks
    emit (.directive (← lexeme Scan.directive))
  orPlain : Tokenize Unit := if startsPlain flow c then plain else refuse

/-- Reads the next token and those that its indentation calls for. -/
def step : Tokenize Unit := do
  let start := (← get).cursor
  if start.index = 0 && start.peek == byteOrderMark then lexeme (Scan.skip 1)
  skipToToken (← lexeme Scan.bound)
  giveUpStale
  let s ← get
  unindent s.cursor.column
  if s.cursor.peek == endMark then
    endBlocks
    emit .textEnd
  else if s.cursor.column = 0 && s.cursor.atDocumentMark then
    endBlocks
    mark 3 (if s.cursor.peek == '-' then .documentStart else .documentEnd)
  else dispatch s.cursor (← inFlow)

end Tokenize

namespace Stream

/-- The tokens that are settled, in order: from the first part on that may still turn out to be a
key, none is. -/
def settled (s : Stream) : List Token :=
  let open_ := s.candidates.filter fun k => !k.2.isStale s.cursor
  let positions := open_.map fun k => k.2.position
  s.tokens.reverse.take (positions.foldl min s.count)

/-- The tokens of a document, and the fault that ends them if there is one. -/
def run : (fuel : Nat) → Stream → List Token × Option Fault
  | 0, s => (s.tokens.reverse, some .malformed)
  | fuel + 1, s =>
    match Tokenize.step s with
    | .error fault => (s.settled, some fault)
    | .ok ((), next) =>
      match next.tokens with
      | .textEnd :: _ => (next.tokens.reverse, none)
      | _ => run fuel next

end Stream

/-- The tokens of a text up to the first fault, which follows them. The last token of a text without
faults is its end. -/
def tokens (cs : List Char) : List Token × Option Fault :=
  let cursor : Cursor := { rest := cs }
  Stream.run (cursor.size + 2) { cursor }

end StepFlow.Yaml
