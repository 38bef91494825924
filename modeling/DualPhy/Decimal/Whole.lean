import DualPhy.Decimal.Numeral

/-!
# Reading whole numbers typed by a person

Decimal digits behind an optional sign, and nothing else.
-/

namespace DualPhy
namespace Decimal

/-- Value of a text that consists of at least one digit and of digits only. -/
def digits? (text : List Char) : Option Nat :=
  if text ≠ [] ∧ text.all Char.isDigit then some (ofDigits text 0) else none

/-- A natural number, with a plus sign in front of it or none. -/
def natural? (text : List Char) : Option Nat :=
  match text with
  | '+' :: rest => digits? rest
  | text => digits? text

/-- A natural number below a bound. -/
def naturalBelow? (bound : Nat) (text : List Char) : Option Nat :=
  (natural? text).filter fun value => value < bound

/-- A whole number, with a sign in front of it or none. -/
def integer? (text : List Char) : Option Int :=
  match text with
  | '-' :: rest => (digits? rest).map fun value => -(value : Int)
  | text => (natural? text).map fun value => (value : Int)

end Decimal
end DualPhy
