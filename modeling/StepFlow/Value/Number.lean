import StepFlow.Double.Reading
import StepFlow.Value.Basic
/-!
# Numbers in values

What number a value is or writes. Integers and texts pass through the nearest double, and a double
that is a whole number becomes an integer again; so a number is an integer or a double that is no
whole number. Numbers of both kinds are ordered exactly, and not-a-number is unordered.
-/

namespace StepFlow

/-- An integer or a double. -/
inductive Number where
  /-- An integer. -/
  | int (n : Int)
  /-- A double. -/
  | real (x : Double)
deriving DecidableEq

namespace Number

/-- A double as a number: an integer if it is a whole number. -/
def ofDouble (x : Double) : Number :=
  match x.toInt? with
  | some n => .int n
  | none => .real x

/-- A number as a value. -/
def toValue : Number → Value
  | .int n => .int n
  | .real x => .real x

/-- The sum with an integer; a double stays a double. -/
def add : Number → Int → Number
  | .int n, k => .int (n + k)
  | .real x, k => .real (x.addInt k)

/-- The place of a number on the line: below or above everything finite, or at a whole number of
the smallest units of doubles. -/
inductive Level where
  /-- Below all finite numbers. -/
  | bottom
  /-- At the given number of units. -/
  | units (n : Int)
  /-- Above all finite numbers. -/
  | top

/-- The place of a number on the line, which not-a-number does not have. -/
def level? : Number → Option Level
  | .int n => some (.units (n * Double.one))
  | .real .nan => none
  | .real (.infinite negative) => some (if negative then .bottom else .top)
  | .real (.finite negative units) => some (.units (Double.signed negative units))

/-- The order of two places. -/
def Level.order : Level → Level → Ordering
  | .bottom, .bottom => .eq
  | .bottom, _ => .lt
  | _, .bottom => .gt
  | .units a, .units b => compare a b
  | .top, .top => .eq
  | .top, _ => .gt
  | _, .top => .lt

/-- The order of two numbers, if both have a place on the line. -/
def order? (a b : Number) : Option Ordering :=
  match a.level?, b.level? with
  | some x, some y => some (x.order y)
  | _, _ => none

end Number

/-- The number that a value is or writes. Truth values are no numbers; an integer that is too large
for a double is an obstacle. -/
def Value.toNumber : Value → Except Obstacle (Option Number)
  | .int n =>
    (Double.ofInt? n).elim (.error .tooLarge) fun x => .ok (some (Number.ofDouble x))
  | .real x => .ok (some (Number.ofDouble x))
  | .scalar (.nan _) => .ok (some (.real .nan))
  | .text s => .ok ((Double.read? s.toList).map Number.ofDouble)
  | .scalar (.bytes bs) =>
    .ok ((Double.read? (bs.map fun b => if b < 127 then Char.ofNat b.toNat else '?')).map Number.ofDouble)
  | _ => .ok none

end StepFlow
