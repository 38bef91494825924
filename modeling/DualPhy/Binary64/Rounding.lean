import DualPhy.Binary64

/-!
# Rounding into binary64

The nearest binary64 magnitude of an exact non-negative ratio, ties going to
the even magnitude. The ratio is given in units of `2 ^ (-1074)`, so that the
subnormal numbers and the lowest normal binade are the whole numbers below
`2 ^ 53` and every higher binade repeats them at twice the step.
-/

namespace DualPhy
namespace Binary64

/-- The whole number nearest to `numerator / denominator`, a tie going to the
even one. -/
def nearestWhole (numerator denominator : Nat) : Nat :=
  let quotient := numerator / denominator
  let doubled := 2 * (numerator % denominator)
  if doubled < denominator then quotient
  else if denominator < doubled then quotient + 1
  else quotient + quotient % 2

/-- Number of binades that lie below the one holding a value of `quotient`
whole units, not counting the two that share the smallest step. -/
def binade (quotient : Nat) : Nat := quotient.log2 - 52

/-- The magnitude nearest to `numerator / denominator` units. Rounding up to
the next binade carries into the exponent field by itself. -/
def nearestMagnitude (numerator denominator : Nat) : Nat :=
  let step := binade (numerator / denominator)
  step * fractionSize + nearestWhole numerator (denominator * twoPow step)

/-- The value nearest to `numerator / denominator` units; beyond the largest
finite value it is infinite. -/
def nearest (negative : Bool) (numerator denominator : Nat) : Binary64 :=
  ofMagnitude negative (nearestMagnitude numerator denominator)

/-- The value nearest to a natural number. -/
def ofNat (number : Nat) : Binary64 :=
  nearest false (number * twoPow unitExponent) 1

end Binary64
end DualPhy
