/-!
# Hexadecimal digits
-/

namespace DualPhy
namespace Text

/-- Value of a hexadecimal digit. -/
def hexDigit? (letter : Char) : Option Nat :=
  if letter.isDigit then some (letter.toNat - '0'.toNat)
  else if 'a' ≤ letter ∧ letter ≤ 'f' then some (letter.toNat - 'a'.toNat + 10)
  else if 'A' ≤ letter ∧ letter ≤ 'F' then some (letter.toNat - 'A'.toNat + 10)
  else none

end Text
end DualPhy
