import StepFlow.Text.Digit
import StepFlow.Text.Utf8
import StepFlow.Yaml.Cursor
import StepFlow.Yaml.Token.Basic
/-!
# Properties and directives

Readers of what stands before the parts of a document: names of parts, tags, and the directives at
the head of a document.
-/

namespace StepFlow.Yaml.Scan

open Text

/-- Reads a name, which must not be empty. -/
def name : Scan String := do
  let run ← takeWhile isNameChar
  if run.isEmpty then refuse
  return String.ofList run

/-- The characters that may follow a name of a part. -/
def endsPartName (c : Char) : Bool :=
  isGap c || "?:,]\x7d%@`".toList.contains c

/-- Reads the name of a part after its sign. -/
def partName : Scan String := do
  skip 1
  let s ← name
  expect endsPartName
  return s

/-! ## Tags -/

/-- The characters that the rest of a tag is made of. -/
def isTagChar (c : Char) : Bool :=
  c.isAlphanum || "-;/?:@&=+$,_.!~*'()[]%".toList.contains c

/-- Reads the bytes that a run of percent signs writes, two digits each. -/
def escapedBytes : (fuel : Nat) → (bytes : List UInt8) → Scan (List UInt8)
  | 0, bytes => return bytes.reverse
  | fuel + 1, bytes => do
    match (← get).rest with
    | '%' :: a :: b :: _ =>
      match hexValue? a, hexValue? b with
      | some x, some y =>
        skip 3
        escapedBytes fuel (UInt8.ofNat (16 * x + y) :: bytes)
      | _, _ => refuse
    | '%' :: _ => refuse
    | _ => return bytes.reverse

/-- Reads the rest of a tag; the runs come last one first. -/
def tagRuns : (fuel : Nat) → (runs : List (List Char)) → Scan (List (List Char))
  | 0, runs => return runs
  | fuel + 1, runs => do
    let run ← takeWhile fun c => isTagChar c && c != '%'
    let runs := run :: runs
    if (← peek) == '%' then
      match utf8? (← escapedBytes (← bound) []) with
      | some s => tagRuns fuel (s.toList :: runs)
      | none => refuse
    else return runs

/-- Reads the rest of a tag, which must not be empty. -/
def tagRest : Scan String := do
  expect isTagChar
  return String.ofList (← tagRuns (← bound) []).reverse.flatten

/-- Reads a handle: an exclamation mark alone, or a name between two. -/
def tagHandle : Scan String := do
  expect (· == '!')
  skip 1
  if (← peek) == ' ' then return "!"
  let run ← takeWhile isNameChar
  expect (· == '!')
  skip 1
  return String.ofList ('!' :: run ++ ['!'])

/-- Reads a tag. -/
def tag : Scan WrittenTag := do
  let c ← get
  let written ←
    if c.peekAt 1 == '<' then do
      skip 2
      let suffix ← tagRest
      expect (· == '>')
      skip 1
      pure ⟨none, suffix⟩
    else if isGap (c.peekAt 1) then do
      skip 1
      pure ⟨none, "!"⟩
    else do
      let word := (c.rest.drop 1).takeWhile fun c => !endsWord c
      let handle ← if word.contains '!' then tagHandle else do
        skip 1
        pure "!"
      pure ⟨some handle, ← tagRest⟩
  expect endsWord
  return written

/-! ## Directives -/

/-- Reads one of the two numbers of a version. -/
def versionNumber : Scan Nat := do
  expect isAsciiDigit
  let digits ← takeWhile isAsciiDigit
  if digitLimit < digits.length then throw (.overlong digits.length)
  return readDecimal digits

/-- Reads a version. -/
def version : Scan Directive := do
  skipWhile (· == ' ')
  let major ← versionNumber
  expect (· == '.')
  skip 1
  discard versionNumber
  expect endsWord
  return .version major

/-- Reads what the tags with a handle begin with. -/
def handleDirective : Scan Directive := do
  skipWhile (· == ' ')
  let handle ← tagHandle
  expect (· == ' ')
  skipWhile (· == ' ')
  let start ← tagRest
  expect endsWord
  return .handle handle start

/-- Reads a directive and the rest of its line. -/
def directive : Scan Directive := do
  skip 1
  let s ← name
  expect endsWord
  let d ←
    if s = "YAML" then version
    else if s = "TAG" then handleDirective
    else do
      skipWhile fun c => !endsLine c
      pure .other
  emptyRestOfLine
  return d

end StepFlow.Yaml.Scan
