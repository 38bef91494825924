import DualPhy.Power

/-!
# Binary64 numbers

A `Binary64` is a sign together with the sixty-three remaining bits of the
interchange format, read as one natural number, its *magnitude*. Magnitudes are
ordered as the absolute values they stand for, and the next larger absolute
value has the next larger magnitude.

Every finite value is a whole multiple of the smallest positive one, so a
finite magnitude is given exactly by its number of *units*: the value is
`units / 2 ^ 1074`. Nothing here is approximate; rounding into the format is in
`DualPhy.Binary64.Rounding`.
-/

namespace DualPhy

/-- A binary64 number, identified with its bit pattern. -/
structure Binary64 where
  /-- The sign bit. -/
  negative : Bool
  /-- The exponent field followed by the fraction field. -/
  magnitude : Fin 9223372036854775808
  deriving DecidableEq

namespace Binary64

/-- Exponent of the smallest positive value, negated: one unit is
`2 ^ (-unitExponent)`. -/
def unitExponent : Nat := 1074

/-- Number of fraction values sharing one exponent field. -/
def fractionSize : Nat := 4503599627370496

/-- Magnitude of the infinities. -/
def infiniteMagnitude : Nat := 2047 * fractionSize

/-- The biased exponent field. -/
def exponentField (value : Binary64) : Nat := value.magnitude.val / fractionSize

/-- The fraction field. -/
def fractionField (value : Binary64) : Nat := value.magnitude.val % fractionSize

/-- Neither infinite nor a NaN. -/
def isFinite (value : Binary64) : Bool := value.magnitude.val < infiniteMagnitude

/-- One of the two infinities. -/
def isInfinite (value : Binary64) : Bool := value.magnitude.val == infiniteMagnitude

/-- Not a number, whatever its payload. -/
def isNaN (value : Binary64) : Bool := infiniteMagnitude < value.magnitude.val

/-- The significand of a finite value, with the leading bit of a normal one. -/
def significand (value : Binary64) : Nat :=
  if value.exponentField = 0 then value.fractionField
  else fractionSize + value.fractionField

/-- Power of two that scales the significand of a finite value to units. -/
def scale (value : Binary64) : Nat := value.exponentField - 1

/-- The absolute value of a finite value, in units of `2 ^ (-1074)`. -/
def units (value : Binary64) : Nat := value.significand * twoPow value.scale

/-- A value whose magnitude is cut off at that of the infinities. -/
def ofMagnitude (negative : Bool) (magnitude : Nat) : Binary64 where
  negative := negative
  magnitude :=
    ⟨min magnitude infiniteMagnitude, by
      have := Nat.min_le_right magnitude infiniteMagnitude
      simp only [infiniteMagnitude, fractionSize] at *
      omega⟩

/-- The zero of the given sign. -/
def zero (negative : Bool) : Binary64 := ofMagnitude negative 0

/-- The infinity of the given sign. -/
def infinity (negative : Bool) : Binary64 := ofMagnitude negative infiniteMagnitude

/-- The NaN that reading the word `nan` gives. -/
def quietNaN (negative : Bool) : Binary64 where
  negative := negative
  magnitude := ⟨infiniteMagnitude + 2251799813685248, by decide⟩

/-- The interchange bit pattern. -/
def toBits (value : Binary64) : UInt64 :=
  .ofNat ((if value.negative then 9223372036854775808 else 0) + value.magnitude.val)

/-- The value of an interchange bit pattern. -/
def ofBits (bits : UInt64) : Binary64 where
  negative := decide (9223372036854775808 ≤ bits.toNat)
  magnitude := ⟨bits.toNat % 9223372036854775808, Nat.mod_lt _ (by decide)⟩

/-- Truncate toward zero and clamp to the signed 64-bit integers. A NaN counts
as zero, an infinity as beyond the range on its side. -/
def truncate (value : Binary64) : Int :=
  if value.isNaN then 0
  else
    let whole := if value.isInfinite then twoPow 63 else value.units / twoPow unitExponent
    if value.negative then -(min whole (twoPow 63) : Nat)
    else (min whole (twoPow 63 - 1) : Nat)

end Binary64
end DualPhy
