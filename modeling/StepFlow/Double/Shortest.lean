import StepFlow.Double.Reading
/-!
# Shortest decimals

The text of a double: the fewest digits that read back as the same double and, of those, the
decimal nearest to it. Numbers from `10^-4` up to below `10^16` are written in positional notation
with at least one digit after the point, all others with an exponent of at least two digits.
-/

namespace StepFlow.Double

open Text

/-- The greatest `e` with `10^e ≤ units / one` for a positive number of units below one, counted
down from `e` by at most `fuel` steps. -/
def negativeScale (units : Nat) : (fuel : Nat) → (e : Nat) → Nat
  | 0, e => e
  | fuel + 1, e => if one ≤ units * Nat.pow 10 e then e else negativeScale units fuel (e + 1)

/-- The power of ten of the first digit of a positive number of units. -/
def scale (units : Nat) : Int :=
  if one ≤ units then (decimal (units / one)).length - 1
  else -(negativeScale units 330 1 : Int)

/-- The number of steps of `10^place` below or at the given units, and whether none are left. -/
def gridFloor (units : Nat) (place : Int) : Nat × Bool :=
  let num := units * Nat.pow 10 (-place).toNat
  let den := one * Nat.pow 10 place.toNat
  (num / den, num % den = 0)

/-- Whether `n · 10^place` reads as the given number of units. -/
def readsAs (units n : Nat) (place : Int) : Bool :=
  ofScientific false ⟨decimal n, place⟩ = .finite false units

/-- Whether the upper neighbour on the grid is nearer than the lower one, `n`; a tie goes to the
even one. -/
def upperIsNearer (units n : Nat) (place : Int) : Bool :=
  let num := units * Nat.pow 10 (-place).toNat
  let den := one * Nat.pow 10 place.toNat
  roundQuotient num den = n + 1

/-- The neighbour on the grid of `10^place` that reads back, the nearer one if both do. -/
def gridHit? (units : Nat) (place : Int) : Option Nat :=
  let (n, exact) := gridFloor units place
  if exact then some n
  else
    match readsAs units n place, readsAs units (n + 1) place with
    | true, true => some (if upperIsNearer units n place then n + 1 else n)
    | true, false => some n
    | false, true => some (n + 1)
    | false, false => none

/-- The shortest decimal with the given number of digits or up to `fuel` more: its value on the
grid, and the place of its last digit. -/
def shortestFrom (units : Nat) (top : Int) : (fuel : Nat) → (count : Nat) → Nat × Int
  | 0, count =>
    let place := top + 1 - count
    ((gridFloor units place).1, place)
  | fuel + 1, count =>
    let place := top + 1 - count
    match gridHit? units place with
    | some n => (n, place)
    | none => shortestFrom units top fuel (count + 1)

/-- The digits of a positive number of units, without zeros at the end, and the power of ten of
the first of them. -/
def shortest (units : Nat) : List Char × Int :=
  let (n, place) := shortestFrom units (scale units) 17 1
  let digits := decimal n
  (dropEndWhile (· == '0') digits, digits.length - 1 + place)

/-- Digits in positional notation, the first having the weight `10^top`. -/
def positional (digits : List Char) (top : Int) : List Char :=
  if top < 0 then '0' :: '.' :: (List.replicate (-top - 1).toNat '0' ++ digits)
  else
    let whole := digits.take (top + 1).toNat
    let fraction := digits.drop (top + 1).toNat
    whole ++ List.replicate ((top + 1).toNat - whole.length) '0' ++ '.' ::
      (if fraction.isEmpty then ['0'] else fraction)

/-- Digits in exponent notation, the first having the weight `10^top`. -/
def exponential (digits : List Char) (top : Int) : List Char :=
  let mantissa :=
    match digits with
    | d :: e :: rest => d :: '.' :: e :: rest
    | ds => ds
  let power := decimal top.natAbs
  mantissa ++ ['e', if top < 0 then '-' else '+'] ++
    (if power.length < 2 then '0' :: power else power)

/-- The text of a number of units. -/
def textOfUnits (units : Nat) : List Char :=
  if units = 0 then ['0', '.', '0']
  else
    let (digits, top) := shortest units
    if -4 ≤ top ∧ top < 16 then positional digits top else exponential digits top

/-- The text of a double. -/
def text : Double → List Char
  | .nan => "nan".toList
  | .infinite negative => (if negative then "-inf" else "inf").toList
  | .finite negative units => (if negative then ['-'] else []) ++ textOfUnits units

end StepFlow.Double
