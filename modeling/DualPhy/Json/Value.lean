import DualPhy.Binary64.Rounding

/-!
# JSON values

The documents that the program exchanges and stores. A number keeps the form in
which it was written: a whole number that fits sixty-four bits stays exact, any
other number is a binary64 value.
-/

namespace DualPhy

/-- A JSON number. -/
inductive Json.Number
  /-- A whole number written without a fraction and without an exponent. -/
  | whole (value : Int)
  /-- Any other number. -/
  | real (value : Binary64)
  deriving DecidableEq

/-- A JSON value. The members of an object keep the order they are given in. -/
inductive Json
  /-- The value `null`. -/
  | null
  /-- A truth value. -/
  | bool (value : Bool)
  /-- A number. -/
  | number (value : Json.Number)
  /-- A text. -/
  | string (value : String)
  /-- An array. -/
  | array (items : List Json)
  /-- An object. -/
  | object (members : List (String × Json))

namespace Json
namespace Number

/-- A natural number. -/
def ofNat (value : Nat) : Number := .whole value

/-- The nearest binary64 value. -/
def toBinary64 : Number → Binary64
  | .whole value =>
      .nearest (value < 0) (value.natAbs * twoPow Binary64.unitExponent) 1
  | .real value => value

end Number

/-- The member of an object under a key; the first one counts. -/
def member? (key : String) (members : List (String × Json)) : Option Json :=
  (members.find? fun pair => pair.1 == key).map Prod.snd

end Json
end DualPhy
