import RelayTree.Decimal.Binary64

/-!
# The shortest decimal that names a double

A double stands for an interval of reals that round to it. Of all decimals in
that interval the one with the fewest digits is chosen, and among those the one
nearest to the value. For one digit, two digits and so on it suffices to test
the two points of the decimal grid around the value: if any point of the grid
lies in the interval, one of these two does.
-/
namespace RelayTree

/-- A decimal `digits · 10 ^ exponent`, which need not be the only way to write its value. -/
structure Decimal where
  digits : Nat
  exponent : Int
deriving DecidableEq, Repr

namespace Magnitude

/-- Twice the distance to the middle between a double and its lower neighbour,
in quarters of a unit. Just above a power of two the lower neighbour is closer. -/
def lowerGap (x : Magnitude) : Nat :=
  if x.significand = twoTo 52 ∧ 0 < x.scale then 1 else 2

/-- Whether the decimal `c · num / den` rounds to the double: it lies between
the two middles, and the middles themselves belong to even significands. All
lengths are in quarters of the last binary place. -/
def covers (x : Magnitude) (num den : Nat) : Bool :=
  let value := num * twoTo 1074 * 4
  let unit := den * twoTo x.scale
  let low := (4 * x.significand - x.lowerGap) * unit
  let high := (4 * x.significand + 2) * unit
  if x.significand % 2 = 0 then low ≤ value ∧ value ≤ high else low < value ∧ value < high

/-- The number of decimal places that make every positive double at least one. -/
def tenShift : Nat := 400

/-- The exponent of the first decimal digit. It is read off the digits of the value after it was
scaled up to an integer. -/
def decimalExponent (x : Magnitude) : Int :=
  (Nat.toDigits 10 (x.numerator * tenTo tenShift / twoTo 1074)).length - 1 - tenShift

/-- The grid with `count` significant digits, as the exponent of its unit. -/
def gridExponent (x : Magnitude) (count : Nat) : Int := x.decimalExponent - (count - 1)

/-- A positive or negative power of ten as numerator and denominator, so that no fraction is
needed. -/
def tenRatio : Int → Nat × Nat
  | .ofNat n => (tenTo n, 1)
  | .negSucc n => (1, tenTo (n + 1))

/-- The decimal with `count` digits that names the double, if there is one: the
nearer of the two grid points around the value that lie in the interval, on a
tie the even one. -/
def decimalOfLength? (x : Magnitude) (count : Nat) : Option Decimal :=
  let exponent := x.gridExponent count
  let (num, den) := tenRatio exponent
  let below := x.numerator * den / (num * twoTo 1074)
  let rest := x.numerator * den % (num * twoTo 1074)
  let above := below + 1
  let lowFits := x.covers (below * num) den
  let highFits := x.covers (above * num) den
  let preferHigh :=
    num * twoTo 1074 < 2 * rest ∨ (2 * rest = num * twoTo 1074 ∧ below % 2 = 1)
  if highFits ∧ (preferHigh ∨ !lowFits) then
    -- The point after a row of nines is a power of ten, one digit longer.
    some (if above = tenTo count then ⟨1, exponent + count⟩ else ⟨above, exponent⟩)
  else if lowFits then some ⟨below, exponent⟩
  else none

/-- Seventeen digits always suffice to tell one double from the next, so no longer decimal is
tried. -/
def mostDigits : Nat := 17

/-- The shortest decimal that names a positive double: the first length at which one of the two grid
points names it. -/
def shortest (x : Magnitude) : Decimal :=
  match (List.range mostDigits).findSome? fun n => x.decimalOfLength? (n + 1) with
  | some decimal => decimal
  | none => ⟨x.significand, x.decimalExponent⟩

end Magnitude

end RelayTree
