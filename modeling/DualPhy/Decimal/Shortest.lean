import DualPhy.Binary64

/-!
# Shortest decimal digits

The shortest decimal that reads back as a given finite binary64 value. All
comparisons are exact: the numbers that round to the value form an interval
whose ends are whole multiples of a quarter of a unit, and a candidate
`digits * 10 ^ exponent` is compared with them after clearing denominators.

The search walks the decimal grids from coarse to fine and stops at the first
grid on which one of the value's two neighbours lies in the interval.
-/

namespace DualPhy
namespace Decimal

/-- Which of two equally near neighbours of a value is written. -/
inductive TieRule
  /-- The neighbour of larger absolute value. -/
  | away
  /-- The neighbour whose last digit is even. -/
  | toEven
  deriving DecidableEq

/-- The numbers that round to one value, in quarters of a unit. -/
structure Interval where
  /-- Lower end. -/
  lower : Nat
  /-- The value itself. -/
  value : Nat
  /-- Upper end. -/
  upper : Nat
  /-- Whether the ends themselves round to the value. -/
  closed : Bool

namespace Interval

/-- The rounding interval of a finite positive value. Below a power of two the
neighbouring values are half as far apart as above it. -/
def of (value : Binary64) : Interval :=
  let step := twoPow value.scale
  let below :=
    if value.fractionField = 0 ∧ 1 < value.exponentField then step else 2 * step
  { lower := 4 * value.units - below
    value := 4 * value.units
    upper := 4 * value.units + 2 * step
    closed := value.significand % 2 == 0 }

/-- Whether `number / weight` quarters lie in the interval. -/
def contains (interval : Interval) (number weight : Nat) : Bool :=
  if interval.closed then
    interval.lower * weight ≤ number && number ≤ interval.upper * weight
  else interval.lower * weight < number && number < interval.upper * weight

end Interval

/-- Quarters of a unit in one step of the grid of multiples of
`10 ^ exponent`, over the denominator `gridWeight exponent`. -/
def gridStep (exponent : Int) : Nat :=
  tenPow exponent.toNat * twoPow (Binary64.unitExponent + 2)

/-- The denominator that belongs to `gridStep`. -/
def gridWeight (exponent : Int) : Nat := tenPow (-exponent).toNat

/-- The neighbour, on the grid of multiples of `10 ^ exponent`, that is written
for the value of an interval, provided one of the two neighbours lies in it. -/
def gridNeighbour? (tie : TieRule) (interval : Interval) (exponent : Int) :
    Option Nat :=
  let step := gridStep exponent
  let weight := gridWeight exponent
  let target := interval.value * weight
  let below := target / step
  let above := below + 1
  let belowFits := interval.contains (below * step) weight
  let aboveFits := interval.contains (above * step) weight
  match belowFits, aboveFits with
  | false, false => none
  | true, false => some below
  | false, true => some above
  | true, true =>
      let toBelow := target - below * step
      let toAbove := above * step - target
      if toBelow < toAbove then some below
      else if toAbove < toBelow then some above
      else
        match tie with
        | .away => some above
        | .toEven => if below % 2 = 0 then some below else some above

/-- Power of ten of the coarsest grid that is searched. -/
def coarsestExponent : Int := 309

/-- Number of grids searched; the finest has the exponent `-324`, and its step
is narrower than every rounding interval. -/
def gridCount : Nat := 634

/-- The first fitting neighbour among `count` grids, starting at the grid of
`exponent` and refining. -/
def searchGrids (tie : TieRule) (interval : Interval) :
    (count : Nat) → (exponent : Int) → Option (Nat × Int)
  | 0, _ => none
  | count + 1, exponent =>
      match gridNeighbour? tie interval exponent with
      | some digits => some (digits, exponent)
      | none => searchGrids tie interval count (exponent - 1)

/-- Digits and power of ten of the shortest decimal that reads back as the
absolute value of a finite value; among several, the nearest. -/
def shortest (tie : TieRule) (value : Binary64) : Nat × Int :=
  if value.units = 0 then (0, 0)
  else (searchGrids tie (.of value) gridCount coarsestExponent).getD (0, 0)

end Decimal
end DualPhy
