import PokerClient.Numeric.Decimal

/-!
# Shortest decimals

The fewest decimal digits that read back as a given binary number, and of
those the ones nearest to it. For each number of digits only the two grid
points around the value can be nearest, and some grid point reads back exactly
when one of these two does.
-/

namespace PokerClient
namespace Numeric

/-- The power of ten at which the first digit of `num / den` stands. Both are
positive. -/
def leadingPower (num den : Nat) : Int :=
  if den ≤ num then ((digitsOfNat (num / den)).length : Int) - 1
  else
    let d := (digitsOfNat (den / num)).length
    if num * tenTo (d - 1) = den then -((d : Int) - 1) else -(d : Int)

namespace Shortest

/-- A positive value `num / den` with the ends of the interval of reals that
round to it, over the same denominator. -/
structure Target where
  num : Nat
  low : Nat
  high : Nat
  den : Nat
  closed : Bool

/-- The interval around `m * 2 ^ e` units. Below a power of two the neighbours
stand half as far apart. -/
def Target.ofFinite (m e : Nat) : Target :=
  let unit := twoTo e
  { num := 4 * m * unit
    low := 4 * m * unit - (if m = twoTo 52 ∧ 0 < e then unit else 2 * unit)
    high := 4 * m * unit + 2 * unit
    den := 4 * Binary64.unitsPerOne
    closed := m % 2 = 0 }

/-- Whether `digits * 10 ^ power` rounds to the target. -/
def Target.contains (t : Target) (digits : Nat) (power : Int) : Bool :=
  let (a, b) : Nat × Nat := match power with
    | .ofNat p => (digits * tenTo p * t.den, 1)
    | .negSucc p => (digits * t.den, tenTo (p + 1))
  if t.closed then decide (t.low * b ≤ a) && decide (a ≤ t.high * b)
  else decide (t.low * b < a) && decide (a < t.high * b)

/-- The quotient of the target by a power of ten as a fraction. -/
def Target.over (t : Target) (power : Int) : Nat × Nat :=
  match power with
  | .ofNat p => (t.num, t.den * tenTo p)
  | .negSucc p => (t.num * tenTo (p + 1), t.den)

/-- The nearest grid point with `count` digits that reads back, if one does. -/
def Target.candidate (t : Target) (lead : Int) (count : Nat) : Option (Nat × Int) :=
  let power := lead - (count : Int) + 1
  let (a, b) := t.over power
  let below := a / b
  let nearest := roundHalfEven a b
  let other := if nearest = below then below + 1 else below
  if t.contains nearest power then some (nearest, power)
  else if t.contains other power then some (other, power)
  else none

/-- Moves zeros at the end of the digits into the exponent. -/
def dropZeros : Nat → Nat → Int → Nat × Int
  | 0, digits, power => (digits, power)
  | fuel + 1, digits, power =>
    if digits ≠ 0 ∧ digits % 10 = 0 then dropZeros fuel (digits / 10) (power + 1)
    else (digits, power)

/-- The shortest digits of `m * 2 ^ e` units with their power of ten; zero has
the digit zero. Seventeen digits always suffice. -/
def digits (m e : Nat) : Nat × Int :=
  if m = 0 then (0, 0)
  else
    let t := Target.ofFinite m e
    let lead := leadingPower t.num t.den
    let found := ((List.range 17).findSome? fun k => t.candidate lead (k + 1)).getD
      (let (a, b) := t.over (lead - 16); (roundHalfEven a b, lead - 16))
    dropZeros 400 found.1 found.2

end Shortest
end Numeric
end PokerClient
