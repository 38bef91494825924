/-!
# Ranges of code points

Properties of characters are given as ranges of code points, both ends
included, in ascending order.
-/

namespace DualPhy
namespace Text

/-- Whether the code point of a character lies in one of the ranges. -/
def liesIn (ranges : List (Nat × Nat)) (letter : Char) : Bool :=
  ranges.any fun (first, last) => first ≤ letter.toNat && letter.toNat ≤ last

end Text
end DualPhy
