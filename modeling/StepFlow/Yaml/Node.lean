import StepFlow.Yaml.Tag
import StepFlow.Yaml.Token.Stream
/-!
# Nodes

The parts of a document, put together from its tokens. The parts have numbers, and a list or a
record knows its own parts by their numbers: a part that is named can stand in several places, also
inside itself.
-/

namespace StepFlow.Yaml

/-- A part of a document. -/
inductive Node where
  /-- A text. -/
  | scalar (tag : Tag) (text : List Text.Code)
  /-- A list of the parts with the given numbers. -/
  | list (tag : Tag) (items : List Nat)
  /-- Pairs of a key and a value, which are parts with the given numbers. -/
  | record (tag : Tag) (entries : List (Nat × Nat))
deriving Inhabited

/-- What a part is marked to stand for. -/
def Node.tag : Node → Tag
  | .scalar t _ => t
  | .list t _ => t
  | .record t _ => t

/-- A part under another tag. -/
def Node.withTag (tag : Tag) : Node → Node
  | .scalar _ text => .scalar tag text
  | .list _ items => .list tag items
  | .record _ entries => .record tag entries

/-- The number of entries that a part has. -/
def Node.entryCount : Node → Nat
  | .record _ entries => entries.length
  | _ => 0

/-- A document. -/
structure Document where
  /-- The parts, each at its number. -/
  nodes : Array Node
  /-- The number of the part that is the whole content. -/
  root : Nat

/-- What is left of a document that is being put together. -/
structure Supply where
  /-- The tokens that are left. -/
  tokens : List Token
  /-- Why there are no more, if the document's end is not among them. -/
  fault : Option Fault
  /-- The parts met so far. -/
  nodes : Array Node := #[]
  /-- The named parts met so far, by their numbers. -/
  anchors : List (String × Nat) := []
  /-- How many lists and records stand around what is read. -/
  depth : Nat := 0
  /-- What the tags with a handle begin with. -/
  handles : List (String × String) := []

/-- A step in putting a document together. -/
abbrev Parse := StateT Supply (Except Fault)

namespace Parse

/-- The next token, which stays unread. -/
def peek : Parse Token := do
  let s ← get
  match s.tokens with
  | t :: _ => return t
  | [] => throw (s.fault.getD .malformed)

/-- Goes past the next token. -/
def skip : Parse Unit :=
  modify fun s => { s with tokens := s.tokens.tail }

/-- Refuses the document. -/
def refuse {α : Type} : Parse α :=
  throw .malformed

/-! ## Directives -/

/-- The handles that need no declaration. -/
def knownHandles : List (String × String) := [("!", "!"), ("!!", Tag.authority)]

/-- Reads the directives of a document: at most one version, which must be 1, and at most one
declaration of each handle. -/
def directives : (fuel : Nat) → (versioned : Bool) → (handles : List (String × String)) →
    Parse (List (String × String))
  | 0, _, handles => return handles
  | fuel + 1, versioned, handles => do
    match ← peek with
    | .directive (.version major) =>
      skip
      if versioned || major != 1 then refuse
      directives fuel true handles
    | .directive (.handle name start) =>
      skip
      if (handles.lookup name).isSome then refuse
      directives fuel versioned ((name, start) :: handles)
    | .directive .other =>
      skip
      directives fuel versioned handles
    | _ => return handles

/-! ## Properties -/

/-- The full name of a tag. -/
def fullName (t : WrittenTag) : Parse String := do
  match t.handle with
  | none => return t.suffix
  | some handle =>
    match (← get).handles.lookup handle with
    | some start => return start ++ t.suffix
    | none => refuse

/-- Reads the name of the part that follows, if it has one. -/
def anchor? : Parse (Option String) := do
  match ← peek with
  | .anchor name =>
    skip
    return some name
  | _ => return none

/-- Reads the tag of the part that follows, if it has one. -/
def tag? : Parse (Option WrittenTag) := do
  match ← peek with
  | .tag t =>
    skip
    return some t
  | _ => return none

/-- What is said about a part before it. -/
structure Properties where
  /-- The part's name. -/
  anchor : Option String
  /-- The full name of the part's tag. -/
  tag : Option String

/-- Reads a name and a tag in either order. -/
def properties : Parse Properties := do
  let before ← anchor?
  let tag ← tag?
  let anchor ← if before.isNone && tag.isSome then anchor? else pure before
  match tag with
  | none => return ⟨anchor, none⟩
  | some t => return ⟨anchor, some (← fullName t)⟩

namespace Properties

/-- The tag of a list or record, which is the given one unless it is marked otherwise. -/
def collectionTag (p : Properties) (usual : Tag) : Tag :=
  match p.tag with
  | none => usual
  | some name => if name = "!" then usual else .ofName name

/-- What a text stands for by its look. -/
def looks (text : List Text.Code) : Tag :=
  match Text.Code.chars? text with
  | some cs => .ofPlain cs
  | none => .text

/-- The tag of a text: a plain one, and one that is marked as such, is judged by its look. -/
def scalarTag (p : Properties) (plain : Bool) (text : List Text.Code) : Tag :=
  match p.tag with
  | none => if plain then looks text else .text
  | some name => if name = "!" then looks text else .ofName name

end Properties

/-- Refuses a name that another part has. -/
def checkNew (p : Properties) : Parse Unit := do
  match p.anchor with
  | some name => if ((← get).anchors.lookup name).isSome then refuse
  | none => pure ()

/-- Adds a part that its properties may name. -/
def add (p : Properties) (n : Node) : Parse Nat :=
  modifyGet fun s =>
    let number := s.nodes.size
    let anchors :=
      match p.anchor with
      | some name => (name, number) :: s.anchors
      | none => s.anchors
    (number, { s with nodes := s.nodes.push n, anchors })

/-- Puts a part into the place of the one with a number. -/
def replace (number : Nat) (n : Node) : Parse Unit :=
  modify fun s => { s with nodes := s.nodes.setIfInBounds number n }

/-- Adds the part that is not there. -/
def empty : Parse Nat :=
  add ⟨none, none⟩ (.scalar .null [])

/-! ## Parts -/

/-- Tokens that stand after a dash or the like if nothing stands in its place. -/
def endsItem : Token → Bool
  | .dash | .blockEnd => true
  | _ => false

/-- Tokens that stand after a key or its colon if nothing stands in its place. -/
def endsEntry : Token → Bool
  | .key | .value | .blockEnd => true
  | _ => false

/-- Whether a token is the bracket that closes a list. -/
def closesList : Token → Bool
  | .flowListEnd => true
  | _ => false

/-- Whether a token is the bracket that closes a record. -/
def closesRecord : Token → Bool
  | .flowRecordEnd => true
  | _ => false

/-- Whether a token is a comma. -/
def isComma : Token → Bool
  | .comma => true
  | _ => false

/-- Tokens that stand after an item between brackets. -/
def endsFlowItem (t : Token) : Bool :=
  isComma t || closesList t

/-- Tokens that stand after an entry between brackets. -/
def endsFlowEntry (t : Token) : Bool :=
  isComma t || closesRecord t

/-- Whether a token is the colon before a value. -/
def isValue : Token → Bool
  | .value => true
  | _ => false

/-- Which parts may come next. -/
inductive Context where
  /-- Parts between brackets. -/
  | flow
  /-- All parts. -/
  | block
  /-- All parts, and the items of a list that are not indented. -/
  | entry
deriving DecidableEq

/-- Stands for a part of which only the properties are there. -/
def missing (p : Properties) : Parse Nat := do
  if p.anchor.isNone && p.tag.isNone then refuse
  checkNew p
  add p (.scalar (p.scalarTag true []) [])

/-- How many lists and records may stand inside each other. -/
def depthLimit : Nat := 489

/-- Reads what stands inside a list or record, unless that is nested too deeply. -/
def inside {α : Type} (read : Parse α) : Parse α := do
  if depthLimit ≤ (← get).depth then throw .tooDeep
  modify fun s => { s with depth := s.depth + 1 }
  let a ← read
  modify fun s => { s with depth := s.depth - 1 }
  return a

/-- Reads a list or record. It has its number and its name before its own parts are read. -/
def collection {α : Type} (p : Properties) (build : List α → Node) (read : Parse (List α)) :
    Parse Nat := do
  checkNew p
  let number ← add p (build [])
  replace number (build (← inside read))
  return number

/-- Goes past the comma before a further part between brackets, unless the bracket closes. -/
def separator (closes : Token → Bool) : Parse Unit := do
  match ← peek with
  | .comma => skip
  | t => if !closes t then refuse

mutual

/-- Reads a part. -/
def node : (fuel : Nat) → Context → Parse Nat
  | 0, _ => refuse
  | fuel + 1, context => do
    if let .alias name ← peek then
      skip
      match (← get).anchors.lookup name with
      | some n => return n
      | none => refuse
    else
      let p ← properties
      match ← peek with
      | .dash =>
        if context = .entry then collection p (.list (p.collectionTag .list)) (looseItems fuel [])
        else missing p
      | .scalar text plain =>
        skip
        checkNew p
        add p (.scalar (p.scalarTag plain text) text)
      | .flowList =>
        collection p (.list (p.collectionTag .list)) do
          skip
          flowItems fuel true []
      | .flowRecord =>
        collection p (.record (p.collectionTag .record)) do
          skip
          flowEntries fuel true []
      | .blockList =>
        if context = .flow then missing p
        else
          collection p (.list (p.collectionTag .list)) do
            skip
            items fuel []
      | .blockRecord =>
        if context = .flow then missing p
        else
          collection p (.record (p.collectionTag .record)) do
            skip
            entries fuel []
      | _ => missing p

/-- Reads a part, unless a token that satisfies `ends` shows that it is not there. -/
def optional : (fuel : Nat) → Context → (ends : Token → Bool) → Parse Nat
  | 0, _, _ => refuse
  | fuel + 1, context, ends => do
    if ends (← peek) then empty else node fuel context

/-- Reads the value of a key, if there is one. -/
def valueOf : (fuel : Nat) → Context → (ends : Token → Bool) → Parse Nat
  | 0, _, _ => refuse
  | fuel + 1, context, ends => do
    if isValue (← peek) then
      skip
      optional fuel context ends
    else empty

/-- Reads the items of an indented list. -/
def items : (fuel : Nat) → (read : List Nat) → Parse (List Nat)
  | 0, _ => refuse
  | fuel + 1, read => do
    match ← peek with
    | .dash =>
      skip
      items fuel ((← optional fuel .block endsItem) :: read)
    | .blockEnd =>
      skip
      return read.reverse
    | _ => refuse

/-- Reads the items of a list that is not indented further than the key it belongs to. -/
def looseItems : (fuel : Nat) → (read : List Nat) → Parse (List Nat)
  | 0, _ => refuse
  | fuel + 1, read => do
    match ← peek with
    | .dash =>
      skip
      looseItems fuel ((← optional fuel .block fun t => endsItem t || endsEntry t) :: read)
    | _ => return read.reverse

/-- Reads the entries of an indented record. -/
def entries : (fuel : Nat) → (read : List (Nat × Nat)) → Parse (List (Nat × Nat))
  | 0, _ => refuse
  | fuel + 1, read => do
    match ← peek with
    | .key =>
      skip
      let key ← optional fuel .entry endsEntry
      entries fuel ((key, ← valueOf fuel .entry endsEntry) :: read)
    | .blockEnd =>
      skip
      return read.reverse
    | _ => refuse

/-- Reads the items of a list between brackets. A key among them opens a record of one entry. -/
def flowItems : (fuel : Nat) → (first : Bool) → (read : List Nat) → Parse (List Nat)
  | 0, _, _ => refuse
  | fuel + 1, first, read => do
    if !first then separator closesList
    match ← peek with
    | .flowListEnd =>
      skip
      return read.reverse
    | .key =>
      skip
      let entry ← inside do
        let key ← optional fuel .flow fun t => isValue t || endsFlowItem t
        return (key, ← valueOf fuel .flow endsFlowItem)
      let single ← add ⟨none, none⟩ (.record .record [entry])
      flowItems fuel false (single :: read)
    | _ =>
      flowItems fuel false ((← node fuel .flow) :: read)

/-- Reads the entries of a record between brackets. A part that is no key is one without a
value. -/
def flowEntries : (fuel : Nat) → (first : Bool) → (read : List (Nat × Nat)) →
    Parse (List (Nat × Nat))
  | 0, _, _ => refuse
  | fuel + 1, first, read => do
    if !first then separator closesRecord
    match ← peek with
    | .flowRecordEnd =>
      skip
      return read.reverse
    | .key =>
      skip
      let key ← optional fuel .flow fun t => isValue t || endsFlowEntry t
      let value ← valueOf fuel .flow endsFlowEntry
      flowEntries fuel false ((key, value) :: read)
    | _ =>
      let key ← node fuel .flow
      flowEntries fuel false ((key, ← empty) :: read)

end

/-! ## Documents -/

/-- Skips the marks after a document. -/
def documentEnds : (fuel : Nat) → Parse Unit
  | 0 => pure ()
  | fuel + 1 => do
    if let .documentEnd ← peek then
      skip
      documentEnds fuel

/-- Reads what stands before a document, up to its mark, and says whether there is a document. -/
def documentStart (fuel : Nat) : Parse Bool := do
  documentEnds fuel
  if let .textEnd ← peek then return false
  let handles ← directives fuel false []
  match ← peek with
  | .documentStart =>
    skip
    modify fun s => { s with handles := handles ++ knownHandles }
    return true
  | _ => refuse

/-- Reads the content of a document after its mark, which may be missing. -/
def content (fuel : Nat) : Parse Nat := do
  match ← peek with
  | .directive _ | .documentStart | .documentEnd | .textEnd => empty
  | _ => node fuel .block

/-- Reads the content of the one document of a text, if there is one. The mark before it can be
missing. -/
def document (fuel : Nat) : Parse (Option Nat) := do
  let root ←
    match ← peek with
    | .directive _ | .documentStart | .textEnd =>
      if ← documentStart fuel then some <$> content fuel else pure none
    | _ => some <$> node fuel .block
  if root.isSome then
    if ← documentStart fuel then refuse
  return root

end Parse

/-- The one document of a text, if there is one. -/
def Document.read (cs : List Char) : Except Fault (Option Document) := do
  if cs.all isReadable then
    let (tokens, fault) := tokens cs
    let supply := { tokens, fault, handles := Parse.knownHandles }
    let (root, supply) ← Parse.document (4 * tokens.length + 8) supply
    return root.map fun root => ⟨supply.nodes, root⟩
  else throw .malformed

end StepFlow.Yaml
