import DualPhy.Decimal

/-!
# Reading numerals typed by a person

The grammar of a number on the command line and at a prompt: an optional sign,
then `inf`, `infinity` or `nan` in any case, or decimal digits with an optional
point, at least one digit on one side of it, and an optional exponent.
-/

namespace DualPhy
namespace Decimal

/-- Value of a run of decimal digits, continuing from `value`. -/
def ofDigits (digits : List Char) (value : Nat) : Nat :=
  digits.foldl (fun total digit => 10 * total + (digit.toNat - '0'.toNat)) value

/-- A sign in front of a text, if there is one, and what follows it. -/
def takeSign : List Char → Bool × List Char
  | '-' :: rest => (true, rest)
  | '+' :: rest => (false, rest)
  | text => (false, text)

/-- The exponent part that must make up the whole of a text. -/
def exponentPart? (text : List Char) : Option Int :=
  match text with
  | [] => some 0
  | letter :: rest =>
      if letter = 'e' ∨ letter = 'E' then
        let (negative, digits) := takeSign rest
        if digits ≠ [] ∧ digits.all Char.isDigit then
          let magnitude : Int := ofDigits digits 0
          some (if negative then -magnitude else magnitude)
        else none
      else none

/-- The fraction digits after a point, and what follows them; without a point
there are none. -/
def fractionPart (text : List Char) : List Char × List Char :=
  match text with
  | '.' :: rest => rest.span Char.isDigit
  | rest => ([], rest)

/-- An unsigned decimal numeral that makes up the whole of a text. -/
def unsigned? (negative : Bool) (text : List Char) : Option Decimal :=
  let (whole, afterWhole) := text.span Char.isDigit
  let (fraction, afterFraction) := fractionPart afterWhole
  if whole = [] ∧ fraction = [] then none
  else
    (exponentPart? afterFraction).map fun exponent =>
      { negative := negative
        coefficient := ofDigits fraction (ofDigits whole 0)
        exponent := exponent - fraction.length }

/-- Whether a text is one of the given words up to the case of ASCII letters. -/
def isWord (words : List String) (text : List Char) : Bool :=
  words.any fun word => text.map Char.toLower == word.toList

end Decimal

/-- Why a typed number was refused. -/
inductive NumeralError
  /-- Nothing was typed. -/
  | empty
  /-- What was typed is not in the grammar. -/
  | invalid
  deriving DecidableEq

namespace NumeralError

/-- Wording of the error. -/
def message : NumeralError → String
  | .empty => "cannot parse float from empty string"
  | .invalid => "invalid float literal"

end NumeralError

namespace Binary64

/-- Read a typed number, correctly rounded. -/
def read (text : List Char) : Except NumeralError Binary64 :=
  if text = [] then .error .empty
  else
    let (negative, unsigned) := Decimal.takeSign text
    if Decimal.isWord ["inf", "infinity"] unsigned then .ok (.infinity negative)
    else if Decimal.isWord ["nan"] unsigned then .ok (.quietNaN negative)
    else
      match Decimal.unsigned? negative unsigned with
      | some decimal => .ok decimal.round
      | none => .error .invalid

end Binary64
end DualPhy
