import DualPhy.Binary64.Arithmetic
import DualPhy.Decimal

/-!
# Decimal numbers scaled in binary64

The value that a number of a document is given. Its coefficient keeps the leading
digits that fit in sixty-four bits. The coefficient is rounded first, and the power of
ten is applied by binary64 operations, each of which rounds again. The value is the
nearest one as long as coefficient and power are exact, and may otherwise lie beside
the value of `Decimal.round`.
-/

namespace DualPhy
namespace Decimal

/-- A coefficient continued by decimal digits while it fits in sixty-four bits, and
the digits that are left. -/
def takeDigits : List Char → Nat → Nat × List Char
  | [], coefficient => (coefficient, [])
  | digit :: digits, coefficient =>
      let longer := 10 * coefficient + (digit.toNat - '0'.toNat)
      if longer < UInt64.size then takeDigits digits longer
      else (coefficient, digit :: digits)

/-- The largest power of ten that binary64 represents is that of this exponent. -/
def largestPower : Nat := 308

/-- The value nearest to a power of ten. -/
def power (exponent : Nat) : Binary64 := .ofNat (tenPow exponent)

/-- The coefficient times the power of ten, by one rounded operation after the other.
An exponent that is too large for a single power gives an infinity. One that is too
small is applied in two parts, of which the second need not be larger than the largest
power: the value is zero by then. -/
def scale (decimal : Decimal) : Binary64 :=
  let value := Binary64.nearest decimal.negative
    (decimal.coefficient * twoPow Binary64.unitExponent) 1
  let up := decimal.exponent.toNat
  let down := (-decimal.exponent).toNat
  if decimal.coefficient = 0 then .zero decimal.negative
  else if largestPower < up then .infinity decimal.negative
  else if down = 0 then value.times (power up)
  else if down ≤ largestPower then value.dividedBy (power down)
  else
    (value.dividedBy (power largestPower)).dividedBy
      (power (min (down - largestPower) largestPower))

end Decimal
end DualPhy
