import DualPhy.Decimal.Shortest

/-!
# Decimal text of binary64 values

Two layouts of the shortest digits. Messages and tables write every finite
value positionally, whatever its size; documents write whole numbers with a
final `.0` and switch to an exponent outside a fixed range.
-/

namespace DualPhy
namespace Decimal

/-- Decimal digits of a natural number. -/
def digitChars (number : Nat) : List Char := Nat.toDigits 10 number

/-- `digits * 10 ^ exponent` written without an exponent. A whole number is
followed by `wholeSuffix`. -/
def positional (wholeSuffix : List Char) (digits : List Char) (exponent : Int) :
    List Char :=
  if 0 ≤ exponent then
    digits ++ List.replicate exponent.toNat '0' ++ wholeSuffix
  else
    let places := (-exponent).toNat
    if places < digits.length then
      digits.take (digits.length - places) ++ '.' :: digits.drop (digits.length - places)
    else
      '0' :: '.' :: (List.replicate (places - digits.length) '0' ++ digits)

/-- The first digit, the other digits after a point, and the power of ten of
the first digit, always with its sign. -/
def exponential (digits : List Char) (leading : Int) : List Char :=
  let mantissa :=
    match digits with
    | [] => []
    | [digit] => [digit]
    | digit :: rest => digit :: '.' :: rest
  let sign := if leading < 0 then '-' else '+'
  mantissa ++ 'e' :: sign :: digitChars leading.natAbs

/-- A minus sign in front of the text of a negative value. -/
def signed (negative : Bool) (text : List Char) : List Char :=
  if negative then '-' :: text else text

/-- Text of a value in messages and tables: shortest digits, an exact tie
going away from zero, never an exponent. -/
def plain (value : Binary64) : List Char :=
  if value.isNaN then ['N', 'a', 'N']
  else if value.isInfinite then signed value.negative ['i', 'n', 'f']
  else
    let (digits, exponent) := shortest .away value
    signed value.negative (positional [] (digitChars digits) exponent)

/-- Text of a finite value in a document: shortest digits, an exact tie going
to the even digit, positional when the leading digit's power of ten is between
`-5` and `15`. -/
def document (value : Binary64) : List Char :=
  let (digits, exponent) := shortest .toEven value
  let chars := digitChars digits
  let leading := exponent + chars.length - 1
  signed value.negative <|
    if -5 ≤ leading ∧ leading ≤ 15 then positional ['.', '0'] chars exponent
    else exponential chars leading

end Decimal

namespace Binary64

/-- Text of a value in messages and tables. -/
def text (value : Binary64) : String := String.ofList (Decimal.plain value)

end Binary64
end DualPhy
