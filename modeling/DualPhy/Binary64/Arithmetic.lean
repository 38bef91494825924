import DualPhy.Binary64.Rounding

/-!
# Products and quotients of binary64 numbers

The result of an operation is the exact one, rounded once. The exact product and the
exact quotient of two values are ratios of units, so that rounding is the one of
`DualPhy.Binary64.Rounding`.
-/

namespace DualPhy
namespace Binary64

/-- The product of two finite values. -/
def times (first second : Binary64) : Binary64 :=
  .nearest (first.negative != second.negative) (first.units * second.units)
    (twoPow unitExponent)

/-- The quotient of a finite value by one that is not zero. -/
def dividedBy (dividend divisor : Binary64) : Binary64 :=
  .nearest (dividend.negative != divisor.negative) (dividend.units * twoPow unitExponent)
    divisor.units

end Binary64
end DualPhy
