/-!
# Entries

Tables that keep the order in which their keys were first written. A later write to a key replaces
the value in its place, and a look-up sees the one entry of a key.
-/

namespace StepFlow

/-- A table as its list of entries, in the order of their keys' first writes. -/
abbrev Entries (κ α : Type) := List (κ × α)

namespace Entries

variable {κ α : Type} [BEq κ]

/-- The value at a key. -/
def get? : Entries κ α → κ → Option α
  | [], _ => none
  | (k, v) :: rest, key => if k == key then some v else get? rest key

/-- Whether the table has a key. -/
def has (t : Entries κ α) (key : κ) : Bool :=
  (t.get? key).isSome

/-- Writes a value at a key: in its place if the table has the key, otherwise at the end. -/
def put : Entries κ α → κ → α → Entries κ α
  | [], key, value => [(key, value)]
  | (k, v) :: rest, key, value =>
    if k == key then (k, value) :: rest else (k, v) :: put rest key value

/-- Writes all entries of a list in order. -/
def putAll (t : Entries κ α) (entries : List (κ × α)) : Entries κ α :=
  entries.foldl (fun t e => t.put e.1 e.2) t

/-- The table that a list of writes leaves. -/
def ofList (entries : List (κ × α)) : Entries κ α :=
  putAll [] entries

/-- The table without the entries whose keys satisfy `p`. -/
def without (t : Entries κ α) (p : κ → Bool) : Entries κ α :=
  t.filter fun e => !p e.1

end Entries
end StepFlow
