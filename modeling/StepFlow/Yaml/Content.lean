import StepFlow.Value.Scatter
import StepFlow.Yaml.Node
import StepFlow.Yaml.Scalar
/-!
# Contents

The value that a document stands for. Every part is built once, wherever it stands. A list or a
record is begun empty and filled later, after all that was begun before it; so what stands no deeper
is looked at first, and a part can be a part of itself. Of several faults the first that is met
counts.
-/

namespace StepFlow.Yaml

/-- What a part stands for. Other parts are given by their numbers. -/
inductive Content where
  /-- A scalar. -/
  | scalar (s : Scalar)
  /-- A list. -/
  | list (items : List Nat)
  /-- A list of pairs. -/
  | pairs (items : List (Nat × Nat))
  /-- A set. -/
  | set (members : List Scalar)
  /-- A record. -/
  | record (entries : Entries Scalar Nat)

/-- What a part with parts of its own is before it is filled. -/
def Content.start? : Tag → Option Content
  | .list => some (.list [])
  | .pairs => some (.pairs [])
  | .set => some (.set [])
  | .record => some (.record [])
  | _ => none

/-- A document whose parts are being built. -/
structure Site where
  /-- The parts. Taking over entries changes the records among them. -/
  nodes : Array Node
  /-- What the parts stand for, as far as they are built. -/
  contents : Array (Option Content)
  /-- The lists and records that were begun, in order. -/
  begun : Array Nat := #[]
  /-- The number of entries that the records had at first. -/
  entryCount : Nat

/-- A step in building a document's parts. -/
abbrev Build := StateT Site (Except Fault)

namespace Build

/-- Refuses the document. -/
def refuse {α : Type} : Build α :=
  throw .malformed

/-- The part with a number. -/
def node (number : Nat) : Build Node :=
  return (← get).nodes.getD number default

/-- Puts a part into the place of the one with a number. -/
def setNode (number : Nat) (n : Node) : Build Unit :=
  modify fun s => { s with nodes := s.nodes.setIfInBounds number n }

/-- Says what the part with a number stands for. -/
def setContent (number : Nat) (c : Content) : Build Unit :=
  modify fun s => { s with contents := s.contents.setIfInBounds number (some c) }

/-! ## Scalars -/

/-- The text that a part holds; a record holds that of its first default value. -/
def text (nodes : Array Node) : (fuel number : Nat) → Except Fault (List Text.Code)
  | 0, _ => .error .endless
  | fuel + 1, number =>
    match nodes.getD number default with
    | .scalar _ codes => .ok codes
    | .list _ _ => .error .malformed
    | .record _ entries =>
      match entries.find? fun (k, _) => (nodes.getD k default).tag = .default with
      | some (_, v) => text nodes fuel v
      | none => .error .malformed

/-- Whether a tag is among those under which a text is a scalar. -/
def isScalarTag : Tag → Bool
  | .null | .bool | .int | .real | .bytes | .moment | .text => true
  | _ => false

/-- The scalar that a part stands for. -/
def scalar (number : Nat) : Build Scalar := do
  let nodes := (← get).nodes
  let n ← node number
  if !isScalarTag n.tag then refuse
  let codes ← text nodes (nodes.size + 1) number
  match n, n.tag with
  | .record _ _, .moment => throw .momentInRecord
  | _, tag => readScalar number tag codes

/-- What a part stands for. A list or record that is met for the first time is begun. -/
def content (number : Nat) : Build Content := do
  match (← get).contents.getD number none with
  | some c => return c
  | none =>
    match Content.start? (← node number).tag with
    | some c =>
      setContent number c
      modify fun s => { s with begun := s.begun.push number }
      return c
    | none =>
      let s ← scalar number
      setContent number (.scalar s)
      return .scalar s

/-- The scalar that a key stands for. -/
def key (number : Nat) : Build Scalar := do
  match ← content number with
  | .scalar s => return s
  | _ => refuse

/-! ## Records -/

/-- The entries of a record. -/
def entries (number : Nat) : Build (List (Nat × Nat)) := do
  match ← node number with
  | .record _ entries => return entries
  | _ => refuse

/-- Changes the entries of a record. -/
def setEntries (number : Nat) (entries : List (Nat × Nat)) : Build Unit := do
  setNode number (.record (← node number).tag entries)

/-- Removes the first entry of a record under which it takes over others, and gives that entry's
value. -/
def takeMerge? (number : Nat) : Build (Option Nat) := do
  let all ← entries number
  let nodes := (← get).nodes
  match all.findIdx? fun (k, _) => (nodes.getD k default).tag = .merge with
  | none => return none
  | some i =>
    setEntries number (all.eraseIdx i)
    return all[i]?.map (·.2)

/-- The entries that a record takes over from the parts under its merge keys, those of earlier keys
first. Of a list of records those of the last come first. The fuel exceeds the number of merge keys
in the document, each of which is removed as it is met. -/
def takeOver : (fuel number : Nat) → Build (List (Nat × Nat))
  | 0, _ => refuse
  | fuel + 1, number => do
    match ← takeMerge? number with
    | none => return []
    | some source =>
      let flat (n : Nat) : Build (List (Nat × Nat)) := do
        let merged ← takeOver fuel n
        setEntries n (merged ++ (← entries n))
        entries n
      let merged ←
        match ← node source with
        | .record _ _ => flat source
        | .list _ items => do
          let all ← items.mapM flat
          pure all.reverse.flatten
        | .scalar _ _ => refuse
      return merged ++ (← takeOver fuel number)

/-- Makes a key that marks a default value a text. -/
def plainKey (number : Nat) : Build Unit := do
  let n ← node number
  if n.tag = .default then setNode number (n.withTag .text)

/-- Gives a record the entries that it takes over, in front of its own. -/
def flatten (number : Nat) : Build Unit := do
  let merged ← takeOver ((← get).entryCount + 1) number
  let all := merged ++ (← entries number)
  all.forM fun (k, _) => plainKey k
  setEntries number all

/-- The table that the entries of a record leave. -/
def table (number : Nat) : Build (Entries Scalar Nat) := do
  flatten number
  (← entries number).foldlM (fun t (k, v) => do
    let s ← key k
    discard (content v)
    return t.put s v) []

/-- The pair that a record of one entry stands for. -/
def pair (number : Nat) : Build (Nat × Nat) := do
  match ← entries number with
  | [(first, second)] =>
    discard (content first)
    discard (content second)
    return (first, second)
  | _ => refuse

/-! ## Filling -/

/-- Fills a list or record that was begun. -/
def fill (number : Nat) : Build Unit := do
  let n ← node number
  match n.tag, n with
  | .list, .list _ items =>
    items.forM fun item => discard (content item)
    setContent number (.list items)
  | .pairs, .list _ items => setContent number (.pairs (← items.mapM pair))
  | .set, .record _ _ => setContent number (.set ((← table number).map (·.1)))
  | .record, .record _ _ => setContent number (.record (← table number))
  | _, _ => refuse

/-- Fills what was begun, from the given place on. The fuel exceeds the number of parts. -/
def fillFrom : (fuel place : Nat) → Build Unit
  | 0, _ => pure ()
  | fuel + 1, place => do
    match (← get).begun[place]? with
    | some number =>
      fill number
      fillFrom fuel (place + 1)
    | none => pure ()

end Build

namespace Document

/-- The number of all entries of a document's records. -/
def entryCount (d : Document) : Nat :=
  d.nodes.foldl (fun count n => count + n.entryCount) 0

/-- What the parts of a document stand for. -/
def contents (d : Document) : Except Fault (Array (Option Content)) := do
  let build : Build Unit := do
    discard (Build.content d.root)
    Build.fillFrom (d.nodes.size + 1) 0
  let (_, site) ← build.run {
    nodes := d.nodes
    contents := Array.replicate d.nodes.size none
    entryCount := d.entryCount }
  return site.contents

end Document

/-! ## Values -/

/-- The value of the part with a number, which stands inside the lists and records with the numbers
in `around`, the nearest first. One of these stands for itself by a loop. The fuel exceeds the
number of parts. -/
def unfold (contents : Array (Option Content)) : (fuel : Nat) → (around : List Nat) →
    (number : Nat) → Value
  | 0, _, _ => .null
  | fuel + 1, around, number =>
    match contents.getD number none with
    | none => .null
    | some (.scalar s) => .scalar s
    | some (.set members) => .setOf members
    | some (.list items) =>
      match around.idxOf? number with
      | some levels => .loop levels true
      | none => .list (items.map (unfold contents fuel (number :: around)))
    | some (.pairs items) =>
      match around.idxOf? number with
      | some levels => .loop levels true
      | none =>
        let part := unfold contents fuel (number :: around)
        .list (items.map fun (a, b) => .pair (part a) (part b))
    | some (.record entries) =>
      match around.idxOf? number with
      | some levels => .loop levels false
      | none => .record (entries.map fun (k, v) => (k, unfold contents fuel (number :: around) v))

/-- The value of a document in YAML; a text without a document stands for the absent value. -/
def read (s : String) : Except Fault Value := do
  match ← Document.read s.toList with
  | none => return .null
  | some d => return unfold (← d.contents) (d.nodes.size + 1) [] d.root

end StepFlow.Yaml
