import StepFlow.Calendar.Basic
import StepFlow.Double.Basic
import StepFlow.Entries
import StepFlow.Text.Code
/-!
# Values

The dynamic data that payloads, node properties and documents hold. Scalars can be keys; lists,
pairs, sets and records cannot. Keys are matched by what they denote: numbers and truth values by
their number, moments on a known clock by the instant.

A list or a record may be a part of itself. Where that is so a loop stands inside it and tells how
far out it leads, so that every value is finite; `opened` puts the whole in the place of the loops
that lead to it, so that the parts can be looked at on their own.
-/

namespace StepFlow

/-- A value without parts. -/
inductive Scalar where
  /-- The absent value. -/
  | null
  /-- A truth value. -/
  | bool (b : Bool)
  /-- An integer. -/
  | int (n : Int)
  /-- A double. -/
  | real (x : Double)
  /-- What is not a number, told by a mark from all else that is not a number. -/
  | nan (mark : Nat)
  /-- A text. -/
  | text (s : String)
  /-- A text with halves of characters in it. -/
  | torn (codes : List Text.Code)
  /-- A string of bytes. -/
  | bytes (bs : List UInt8)
  /-- A date. -/
  | date (d : Calendar.Date)
  /-- A moment. -/
  | moment (m : Calendar.Moment)
deriving Inhabited

/-- What a scalar denotes as a key. -/
inductive Key where
  /-- The absent value. -/
  | null
  /-- A whole number, whichever kind of scalar writes it. -/
  | whole (n : Int)
  /-- A double that is no whole number. -/
  | real (x : Double)
  /-- What is not a number, by its mark. -/
  | nan (mark : Nat)
  /-- A text. -/
  | text (s : String)
  /-- A text with halves of characters in it. -/
  | torn (codes : List Text.Code)
  /-- A string of bytes. -/
  | bytes (bs : List UInt8)
  /-- A date. -/
  | date (d : Calendar.Date)
  /-- A moment by a clock of unknown distance from universal time. -/
  | clock (microseconds : Int)
  /-- A moment of universal time. -/
  | instant (microseconds : Int)
deriving DecidableEq

/-- What a scalar denotes as a key. -/
def Scalar.key : Scalar → Key
  | .null => .null
  | .bool b => .whole (if b then 1 else 0)
  | .int n => .whole n
  | .real x =>
    match x.toInt? with
    | some n => .whole n
    | none => .real x
  | .nan mark => .nan mark
  | .text s => .text s
  | .torn codes => .torn codes
  | .bytes bs => .bytes bs
  | .date d => .date d
  | .moment m =>
    match m.offset with
    | none => .clock m.clock
    | some ahead => .instant (m.clock - ahead)

/-- The text that a scalar is; one with halves of characters in it is put together. -/
def Scalar.text? : Scalar → Option String
  | .text s => some s
  | .torn codes => some (String.ofList (Text.Code.joined codes))
  | _ => none

/-- Whether a scalar is a text with halves of characters in it. -/
def Scalar.isTorn : Scalar → Bool
  | .torn _ => true
  | _ => false

/-- Scalars match as keys if they denote the same. -/
instance : BEq Scalar where
  beq a b := a.key = b.key

/-- A dynamic value. -/
inductive Value where
  /-- A value without parts. -/
  | scalar (s : Scalar)
  /-- A list. -/
  | list (items : List Value)
  /-- A pair of values. -/
  | pair (first second : Value)
  /-- A set of scalars, in the order in which they show. -/
  | set (members : List Scalar)
  /-- A record: values at scalar keys, in order. -/
  | record (entries : List (Scalar × Value))
  /-- The list or the record that stands so many levels around the one that this is a part of, and
  whether it is a list. -/
  | loop (levels : Nat) (isList : Bool)
deriving Inhabited

/-- A table of values at scalar keys. -/
abbrev Record := Entries Scalar Value

namespace Value

/-- The absent value. -/
@[match_pattern] abbrev null : Value := .scalar .null

/-- A text as a value. -/
@[match_pattern] abbrev text (s : String) : Value := .scalar (.text s)

/-- A truth value as a value. -/
@[match_pattern] abbrev bool (b : Bool) : Value := .scalar (.bool b)

/-- An integer as a value. -/
@[match_pattern] abbrev int (n : Int) : Value := .scalar (.int n)

/-- A double as a value. -/
@[match_pattern] abbrev real (x : Double) : Value := .scalar (.real x)

/-- Whether a value is the text `s`. -/
def isText (v : Value) (s : String) : Bool :=
  match v with
  | text t => t == s
  | _ => false

/-- Whether a value is absent or the empty text. -/
def isBlank : Value → Bool
  | null => true
  | text s => s.isEmpty
  | _ => false

/-- Whether a value counts as given: absent values, zeros and empty values do not. -/
def isGiven : Value → Bool
  | null => false
  | bool b => b
  | int n => n != 0
  | real x => !x.isZero
  | text s => !s.isEmpty
  | .scalar (.bytes bs) => !bs.isEmpty
  | .scalar _ => true
  | .list items => !items.isEmpty
  | .pair _ _ => true
  | .set members => !members.isEmpty
  | .record entries => !entries.isEmpty
  | .loop _ _ => true

/-- A value as it counts where it is not a part of another: a text with halves of characters in it
is put together. -/
def alone (v : Value) : Value :=
  match v with
  | .scalar s => s.text?.elim v .text
  | v => v

/-- The value at a text key of a record; a missing key reads as the absent value. -/
def field (r : Record) (name : String) : Value :=
  ((r.get? (.text name)).getD null).alone

/-- The first value if it counts as given, otherwise the second. -/
def orElse (v w : Value) : Value :=
  if v.isGiven then v else w

/-! ## Loops -/

mutual

/-- A value with `whole` in the place of the loops that lead the given number of levels out of
it. -/
def fill (whole : Value) (levels : Nat) : Value → Value
  | .loop n isList => if n = levels then whole else .loop n isList
  | .list items => .list (fillItems whole (levels + 1) items)
  | .record entries => .record (fillEntries whole (levels + 1) entries)
  | .pair a b => .pair (fill whole levels a) (fill whole levels b)
  | .scalar s => .scalar s
  | .set members => .set members

/-- The items of a list with `whole` in the place of loops. -/
def fillItems (whole : Value) (levels : Nat) : List Value → List Value
  | [] => []
  | v :: rest => fill whole levels v :: fillItems whole levels rest

/-- The entries of a record with `whole` in the place of loops. -/
def fillEntries (whole : Value) (levels : Nat) : List (Scalar × Value) → List (Scalar × Value)
  | [] => []
  | (k, v) :: rest => (k, fill whole levels v) :: fillEntries whole levels rest

end

/-- A value whose parts no longer refer to the whole: it stands in the place of the loops that lead
to it. -/
def opened (v : Value) : Value :=
  match v with
  | .list items => .list (fillItems v 0 items)
  | .record entries => .record (fillEntries v 0 entries)
  | v => v

mutual

/-- Whether there is a loop in a value. -/
def hasLoop : Value → Bool
  | .loop _ _ => true
  | .list items => anyLoop items
  | .record entries => anyEntryLoop entries
  | .pair a b => hasLoop a || hasLoop b
  | .scalar _ => false
  | .set _ => false

/-- Whether there is a loop in one of the items. -/
def anyLoop : List Value → Bool
  | [] => false
  | v :: rest => hasLoop v || anyLoop rest

/-- Whether there is a loop in one of the entries. -/
def anyEntryLoop : List (Scalar × Value) → Bool
  | [] => false
  | (_, v) :: rest => hasLoop v || anyEntryLoop rest

end

/-! ## Height -/

mutual

/-- How many levels of values a value has, itself included. -/
def height : Value → Nat
  | .list items => itemsHeight items + 1
  | .record entries => entriesHeight entries + 1
  | .pair a b => max (height a) (height b) + 1
  | .set members => if members.isEmpty then 1 else 2
  | .scalar _ => 1
  | .loop _ _ => 1

/-- The greatest height of the items. -/
def itemsHeight : List Value → Nat
  | [] => 0
  | v :: rest => max (height v) (itemsHeight rest)

/-- The greatest height of the values of the entries. -/
def entriesHeight : List (Scalar × Value) → Nat
  | [] => 0
  | (_, v) :: rest => max (height v) (entriesHeight rest)

end

end Value

/-- Why an operation on dynamic values fails. -/
inductive Obstacle where
  /-- A list, set or record stands where a key is needed. -/
  | notAKey
  /-- An integer is too large for a double. -/
  | tooLarge
  /-- An integer has too many digits to be written. -/
  | tooLong
deriving DecidableEq

/-- The scalar that a value is. Values with parts cannot be keys. -/
def Value.asKey : Value → Except Obstacle Scalar
  | .scalar s => .ok s
  | _ => .error .notAKey

end StepFlow
