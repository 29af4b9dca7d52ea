import StepFlow.Model.WrittenInteger
import StepFlow.Text.Utf8
import StepFlow.Value.Display
/-!
# Reading typed records

How parts of typed records are read from dynamic values. Reading is lenient where nothing is lost: a
truth value or a whole double reads as an integer, a text as the integer or the truth value that it
writes. All parts are read and all issues are reported, in the order of the parts.
-/

namespace StepFlow.Model

/-- Something read, or the issues that stood against it. -/
abbrev Result (α : Type) := Except (List Issue) α

/-- Reads something from a value. -/
abbrev Reader (α : Type) := Value → Result α

/-- Fails with one mismatch at the place itself. -/
def mismatch {α : Type} (m : Mismatch) : Result α :=
  .error [⟨[], m⟩]

namespace Result

/-- Two results combined; the issues of both are kept. -/
def map₂ {α β γ : Type} (f : α → β → γ) : Result α → Result β → Result γ
  | .ok a, .ok b => .ok (f a b)
  | .ok _, .error es => .error es
  | .error es, .ok _ => .error es
  | .error es, .error fs => .error (es ++ fs)

/-- A function and its next argument. -/
def ap {α β : Type} (f : Result (α → β)) (a : Result α) : Result β :=
  map₂ (fun g x => g x) f a

/-- The issues of a result lie one step further away. -/
def within {α : Type} (place : Place) : Result α → Result α :=
  Except.mapError fun es => es.map fun e => { e with path := place :: e.path }

/-- All results of a list. -/
def all {α : Type} : List (Result α) → Result (List α)
  | [] => .ok []
  | r :: rest => map₂ (· :: ·) r (all rest)

end Result

/-! ## Scalars -/

/-- A text. -/
def readText : Reader String
  | .text s => .ok s
  | .scalar (.torn codes) => .ok (String.ofList (Text.Code.joined codes))
  | .scalar (.bytes bs) =>
    match Text.utf8? bs with
    | some s => .ok s
    | none => mismatch .textBytes
  | _ => mismatch .text

/-- A value that may be absent. -/
def readOptional {α : Type} (read : Reader α) : Reader (Option α)
  | .null => .ok none
  | v => (read v).map some

/-- Anything. -/
def readAny : Reader Value := .ok

/-- One of the named values. -/
def readChoice {α : Type} (names : List String) (ofName? : String → Option α) : Reader α
  | .text s =>
    match ofName? s with
    | some a => .ok a
    | none => mismatch (.choice names)
  | _ => mismatch (.choice names)

/-- The integer that a text writes. -/
def readIntegerText (s : String) : Result Int :=
  match WrittenInteger.read s.toList with
  | .ok n => .ok n
  | .error m => mismatch m

/-- The first integer that is too large for a word of 64 bits. -/
def wordBound : Nat := Nat.pow 2 63

/-- Whether an integer is in the range of words of 64 bits. -/
def isWord (n : Int) : Bool :=
  -wordBound ≤ n && n < wordBound

/-- An integer. -/
def readInteger : Reader Int
  | .int n => .ok n
  | .bool b => .ok (if b then 1 else 0)
  | .text s => readIntegerText s
  | .scalar (.bytes bs) =>
    match Text.utf8? bs with
    | some s => readIntegerText s
    | none => mismatch .integerText
  | .real (.finite negative units) =>
    match (Double.finite negative units).toInt? with
    | none => mismatch .fraction
    | some n => if n.natAbs < wordBound then .ok n else mismatch .integerSize
  | .real _ => mismatch .finite
  | .scalar (.nan _) => mismatch .finite
  | _ => mismatch .integer

/-- The texts that stand for false. -/
def falseTexts : List String := ["0", "f", "n", "no", "off", "false"]

/-- The texts that stand for true. -/
def trueTexts : List String := ["1", "t", "y", "yes", "on", "true"]

/-- The truth value that a text stands for, in any case. -/
def readTruthText (s : String) : Result Bool :=
  let word := String.ofList (s.toList.map Char.toLower)
  if falseTexts.contains word then .ok false
  else if trueTexts.contains word then .ok true
  else mismatch .truthText

/-- The truth value that a number stands for. -/
def readTruthNumber (n : Int) : Result Bool :=
  if n = 0 then .ok false else if n = 1 then .ok true else mismatch .truthText

/-- A truth value. Integers and whole doubles are looked at only within the range of words. -/
def readTruth : Reader Bool
  | .bool b => .ok b
  | .int n => if isWord n then readTruthNumber n else mismatch .truth
  | .text s => readTruthText s
  | .scalar (.bytes bs) =>
    match Text.utf8? bs with
    | some s => readTruthText s
    | none => mismatch .truthText
  | .real x =>
    match x.toInt? with
    | some n => if n.natAbs < wordBound then readTruthNumber n else mismatch .truth
    | none => mismatch .truth
  | _ => mismatch .truth

/-! ## Lists, tables and records -/

/-- The items of a value that is a list of some kind. -/
def items? (v : Value) : Option (List Value) :=
  match v.opened with
  | .list vs => some vs
  | .pair a b => some [a, b]
  | .set members => some (members.map .scalar)
  | _ => none

/-- A list. -/
def readList {α : Type} (read : Reader α) : Reader (List α) := fun v =>
  match items? v with
  | some vs => Result.all (vs.mapIdx fun i v => (read v).within (.index i))
  | none => mismatch .list

/-- The step to the entry at a key: texts are names, integers of a word's size are indexes, and any
other key goes by its text. -/
def placeOf (k : Scalar) : Place :=
  match k with
  | .text s => .name s
  | .bool b => .index (if b then 1 else 0)
  | .int n => if isWord n then .index n else .name (String.ofList (Text.integer n))
  | k => .name (match k.shown with | .ok cs => String.ofList cs | .error _ => "")

/-- The key of an entry of a table. -/
def readKey (k : Scalar) : Result String :=
  (readText (.scalar k)).within (.name "[key]")

/-- A table with text keys. -/
def readTable {α : Type} (read : Reader α) : Reader (Entries String α) := fun v =>
  match v.opened with
  | .record entries =>
    (Result.all (entries.map fun (k, v) =>
      (Result.map₂ Prod.mk (readKey k) (read v)).within (placeOf k))).map Entries.ofList
  | _ => mismatch .table

/-- The entries of a record of the given model. -/
def readRecord (model : String) : Reader Record := fun v =>
  match v.opened with
  | .record entries => .ok entries
  | _ => mismatch (.record model)

/-- A field that must be there. -/
def required {α : Type} (r : Record) (name : String) (read : Reader α) : Result α :=
  match r.get? (.text name) with
  | some v => (read v).within (.name name)
  | none => (mismatch .missing : Result α).within (.name name)

/-- A field that may be left out. -/
def optional {α : Type} (r : Record) (name : String) (read : Reader α) (otherwise : α) : Result α :=
  match r.get? (.text name) with
  | some v => (read v).within (.name name)
  | none => .ok otherwise

/-- A record as a whole: its issues become a report. -/
def report {α : Type} (model : String) (read : Reader α) (v : Value) : Except Report α :=
  (read v).mapError (⟨model, ·⟩)

end StepFlow.Model
