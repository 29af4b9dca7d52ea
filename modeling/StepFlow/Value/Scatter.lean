import StepFlow.Value.Basic
/-!
# The order of sets

The order in which the members of a set show. A set of numbers is a table of slots: each member goes
to the slot that its residue names, or from there along a fixed course to the first free one, and
the members show in the order of their slots. Small numbers thus show in ascending order. For
members of other kinds no order is distinguished, and a set that has any shows in the order in which
they were first mentioned.
-/

namespace StepFlow

/-- The prime by which the residues of numbers are taken. -/
def residueModulus : Nat := Nat.pow 2 61 - 1

/-- A magnitude with a sign; minus one, which stands for failure, is passed over. -/
def signedResidue (negative : Bool) (n : Nat) : Int :=
  let r := Double.signed negative n
  if r = -1 then -2 else r

/-- The residue of a key that is a number. Powers of two repeat after 61 steps, so that the smallest
unit of doubles counts as the power of two that is as far from a multiple of 61. -/
def Key.residue? : Key → Option Int
  | .whole n => some (signedResidue (n < 0) (n.natAbs % residueModulus))
  | .real (.finite negative units) =>
    let unit := Nat.pow 2 (61 - Double.unitBits % 61)
    some (signedResidue negative (units * unit % residueModulus))
  | .real (.infinite negative) => some (signedResidue negative 314159)
  | _ => none

namespace Scatter

/-- The slots of a table, each free or taken. -/
abbrev Slots := Array (Option Scalar)

/-- How many slots in a row are tried before the course leaps. -/
def rowLength : Nat := 10

/-- The first free slot among so many from the given one on. -/
def firstFree? (slots : Slots) (slot count : Nat) : Option Nat :=
  (List.range' slot count).find? fun i => (slots.getD i none).isNone

/-- Puts a member into the first free slot of its course from the given one on. The course leaps
from row to row, at first by a distance that depends on the rest of the member's residue, `spread`,
and in the end through all slots. -/
def place (slots : Slots) (member : Scalar) : (fuel slot spread : Nat) → Slots
  | 0, _, _ => slots
  | fuel + 1, slot, spread =>
    let count := if slot + rowLength ≤ slots.size then rowLength else 1
    match firstFree? slots slot count with
    | some i => slots.setIfInBounds i (some member)
    | none =>
      let spread := spread / 32
      place slots member fuel ((slot * 5 + 1 + spread) % slots.size) spread

/-- The number of slots for so many members: eight for up to four, otherwise the least power of two
that is more than twice as great. -/
def slotCount (members : Nat) : Nat :=
  if members ≤ 4 then 8 else Nat.pow 2 ((2 * members).log2 + 1)

/-- Puts a member with the given residue, counted modulo `2 ^ 64`, into a table. -/
def insert (slots : Slots) (member : Scalar) (residue : Int) : Slots :=
  let start := (residue % (Nat.pow 2 64 : Nat)).toNat
  place slots member (slots.size + 16) (start % slots.size) start

/-- Members with their residues in the order of their slots. -/
def arrange (members : List (Scalar × Int)) : List Scalar :=
  let free : Slots := Array.replicate (slotCount members.length) none
  (members.foldl (fun slots (m, r) => insert slots m r) free).toList.filterMap id

end Scatter

/-- The set of distinct members. -/
def Value.setOf (members : List Scalar) : Value :=
  match members.mapM fun m => m.key.residue?.map fun r => (m, r) with
  | some placed => .set (Scatter.arrange placed)
  | none => .set members

end StepFlow
