import DualPhy.Binary64.Rounding

/-!
# Decimal numerals and their binary64 values

A `Decimal` is a sign, a whole coefficient and a power of ten. `Decimal.round`
is its correctly rounded binary64 value.
-/

namespace DualPhy

/-- The exact number `± coefficient * 10 ^ exponent`. -/
structure Decimal where
  /-- Whether a minus sign was written; it is kept on zero. -/
  negative : Bool
  /-- The digits, read as one whole number. -/
  coefficient : Nat
  /-- The power of ten that scales the coefficient. -/
  exponent : Int
  deriving DecidableEq

namespace Decimal

/-- Exponents beyond this bound, either way, are beyond the range of binary64
for every coefficient other than zero. -/
def exponentBound : Nat := 400

/-- The nearest binary64 value, a tie going to the even one. Numbers that are
certainly too large or too small are settled without expanding their power of
ten. -/
def round (decimal : Decimal) : Binary64 :=
  if decimal.coefficient = 0 then .zero decimal.negative
  else if (exponentBound : Int) < decimal.exponent then .infinity decimal.negative
  else if decimal.exponent + decimal.coefficient.log2 + 1 < -(exponentBound : Int) then
    .zero decimal.negative
  else
    .nearest decimal.negative
      (decimal.coefficient * tenPow decimal.exponent.toNat *
        twoPow Binary64.unitExponent)
      (tenPow (-decimal.exponent).toNat)

end Decimal
end DualPhy
