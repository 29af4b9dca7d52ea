/-!
# Doubles

Binary floating-point numbers of 53 bits, exactly. Every finite one is a whole multiple of the
smallest positive one, so a finite double is a sign and a natural number of these units: order,
integrality and sums are questions about integers, and rounding happens in one place, `roundUnits`,
to the nearest representable number with ties going to the even neighbour.
-/

namespace StepFlow

/-- A double: not a number, an infinity, or a sign and a count of smallest units. -/
inductive Double where
  /-- Not a number. -/
  | nan
  /-- Positive or negative infinity. -/
  | infinite (negative : Bool)
  /-- The given number of units, possibly negated; zero has both signs. -/
  | finite (negative : Bool) (units : Nat)
deriving DecidableEq, Inhabited

namespace Double

/-- The number of bits that the units lie below one. -/
def unitBits : Nat := 1074

/-- The number of units that make one. -/
def one : Nat := Nat.pow 2 unitBits

/-- The number of bits of a significand. -/
def significandBits : Nat := 53

/-- The first count of units that is too large for a finite double. -/
def overflow : Nat := Nat.pow 2 (1024 + unitBits)

/-- The number of bits needed to write a number; zero needs none. -/
def bitLength (n : Nat) : Nat :=
  if n = 0 then 0 else n.log2 + 1

/-- The quotient rounded to the nearest natural number, a tie going to the even one. -/
def roundQuotient (num den : Nat) : Nat :=
  let q := num / den
  let r := num % den
  if 2 * r > den ∨ (2 * r = den ∧ q % 2 = 1) then q + 1 else q

/-- The quotient rounded to the nearest number of at most 53 significant bits, a tie going to the
one whose significand is even. -/
def roundUnits (num den : Nat) : Nat :=
  let step := Nat.pow 2 (bitLength (num / den) - significandBits)
  roundQuotient num (den * step) * step

/-- The double nearest to a quotient of units; it is infinite when that is out of range. -/
def ofQuotient (negative : Bool) (num den : Nat) : Double :=
  let units := roundUnits num den
  if units < overflow then .finite negative units else .infinite negative

/-- The double, if it is a number and finite. -/
def finite? : Double → Option Double
  | .finite negative units => some (.finite negative units)
  | _ => none

/-- The double nearest to an integer, if it is in range. -/
def ofInt? (n : Int) : Option Double :=
  (ofQuotient (n < 0) (n.natAbs * one) 1).finite?

/-- A sign and a magnitude as an integer. -/
def signed (negative : Bool) (n : Nat) : Int :=
  if negative then -n else n

/-- The integer that a double equals, if it is a whole number. -/
def toInt? : Double → Option Int
  | .finite negative units =>
    if units % one = 0 then some (signed negative (units / one)) else none
  | _ => none

/-- The double nearest to the sum with an integer. A sum of zero is positive. -/
def addInt : Double → Int → Double
  | .nan, _ => .nan
  | .infinite negative, _ => .infinite negative
  | .finite negative units, n =>
    let sum := signed negative units + n * one
    ofQuotient (sum < 0) sum.natAbs 1

/-- The double with the other sign. -/
def neg : Double → Double
  | .nan => .nan
  | .infinite negative => .infinite !negative
  | .finite negative units => .finite (!negative) units

/-- The double nearest to a sum. A sum of zero is positive unless both summands are negative. -/
def add : Double → Double → Double
  | .nan, _ => .nan
  | _, .nan => .nan
  | .infinite a, .infinite b => if a = b then .infinite a else .nan
  | .infinite a, .finite _ _ => .infinite a
  | .finite _ _, .infinite b => .infinite b
  | .finite a m, .finite b n =>
    let sum := signed a m + signed b n
    ofQuotient (if sum = 0 then a && b else sum < 0) sum.natAbs 1

/-- The double nearest to a product; nothing is the product of zero and infinity. -/
def mul : Double → Double → Double
  | .nan, _ => .nan
  | _, .nan => .nan
  | .infinite a, .infinite b => .infinite (a != b)
  | .infinite a, .finite b n => if n = 0 then .nan else .infinite (a != b)
  | .finite a m, .infinite b => if m = 0 then .nan else .infinite (a != b)
  | .finite a m, .finite b n => ofQuotient (a != b) (m * n) one

/-- Whether the double is a number and finite. -/
def isFinite : Double → Bool
  | .finite _ _ => true
  | _ => false

/-- Whether the double is zero, of either sign. -/
def isZero : Double → Bool
  | .finite _ units => units == 0
  | _ => false

end Double
end StepFlow
