import DualPhy.Decimal.Numeral
import DualPhy.Decimal.Scaling
import DualPhy.Json.Error
import DualPhy.Json.Value
import DualPhy.Text.Hexadecimal

/-!
# The leaves of JSON text

White space, words, strings and numbers. Each reader takes a text and gives
what it read together with the text behind it, or the first problem.

A value that nobody asks for is only checked, and more leniently so: the
escapes in its strings need not pair up surrogates, and its numbers may be too
large to represent.

What value a kept number has is left to a `Conversion`. There is one in use, and
whatever reads numbers takes it when no other is given.
-/

namespace DualPhy
namespace Json

/-- Read something from the front of a text. -/
abbrev Reader (α : Type) := List Char → Except Error (α × List Char)

/-- Whether a value is kept or merely skipped. -/
inductive Purpose
  /-- The value is kept. -/
  | keep
  /-- The value is skipped. -/
  | skip
  deriving DecidableEq

/-- JSON white space. -/
def isSpace (letter : Char) : Bool :=
  letter == ' ' || letter == '\n' || letter == '\t' || letter == '\r'

/-- The text behind leading white space. -/
def skipSpace (text : List Char) : List Char := text.dropWhile isSpace

/-- Read the rest of a word whose first letter has been recognised. -/
def readWord : (rest : List Char) → List Char → Except Error (List Char)
  | [], text => .ok text
  | _ :: _, [] => .error .endInValue
  | letter :: rest, found :: text =>
      if found = letter then readWord rest text else .error .expectedWord

/-! ## Strings -/

/-- Value of four hexadecimal digits. -/
def hexValue? (a b c d : Char) : Option Nat := do
  let a ← Text.hexDigit? a
  let b ← Text.hexDigit? b
  let c ← Text.hexDigit? c
  let d ← Text.hexDigit? d
  return ((a * 16 + b) * 16 + c) * 16 + d

/-- Number of bytes that a text takes in UTF-8. -/
def byteCount (text : List Char) : Nat :=
  text.foldl (fun total letter => total + letter.utf8Size) 0

/-- Read four hexadecimal digits. Four bytes are looked at, so that a text with
fewer of them has ended too early, whatever they are. -/
def readHex : Reader Nat := fun text =>
  let problem := if byteCount text < 4 then Error.endInString else .invalidEscape
  match text with
  | a :: b :: c :: d :: rest =>
      match hexValue? a b c d with
      | some value => .ok (value, rest)
      | none => .error problem
  | _ => .error problem

/-- Whether a sixteen-bit unit opens a surrogate pair. -/
def isLeading (unit : Nat) : Bool := 0xD800 ≤ unit && unit ≤ 0xDBFF

/-- Whether a sixteen-bit unit closes a surrogate pair. -/
def isTrailing (unit : Nat) : Bool := 0xDC00 ≤ unit && unit ≤ 0xDFFF

/-- The character of a surrogate pair. -/
def pairChar (leading trailing : Nat) : Char :=
  Char.ofNat ((leading - 0xD800) * 0x400 + (trailing - 0xDC00) + 0x10000)

/-- Read a second unit behind a leading surrogate. -/
def readPartner (leading : Nat) : Reader Char
  | [] => .error .endInString
  | '\\' :: [] => .error .endInString
  | '\\' :: 'u' :: rest => do
      let (trailing, rest) ← readHex rest
      if isTrailing trailing then .ok (pairChar leading trailing, rest)
      else .error .loneSurrogate
  | _ => .error .unfinishedPair

/-- Read the digits of an escape by code unit. -/
def readUnit (purpose : Purpose) : Reader Char := fun text => do
  let (unit, rest) ← readHex text
  match purpose with
  | .skip => .ok (Char.ofNat unit, rest)
  | .keep =>
      if isTrailing unit then .error .loneSurrogate
      else if isLeading unit then readPartner unit rest
      else .ok (Char.ofNat unit, rest)

/-- The character of a one-letter escape. -/
def shortEscape? : Char → Option Char
  | '\x22' => some '\x22'
  | '\\' => some '\\'
  | '/' => some '/'
  | 'b' => some '\x08'
  | 'f' => some '\x0c'
  | 'n' => some '\n'
  | 'r' => some '\r'
  | 't' => some '\t'
  | _ => none

/-- Read an escape behind its backslash. -/
def readEscape (purpose : Purpose) : Reader Char
  | [] => .error .endInString
  | 'u' :: rest => readUnit purpose rest
  | letter :: rest =>
      match shortEscape? letter with
      | some meaning => .ok (meaning, rest)
      | none => .error .invalidEscape

/-- Read the characters of a string up to its closing quote, at most `fuel` of
them. -/
def readCharacters (purpose : Purpose) :
    (fuel : Nat) → Reader (List Char)
  | 0, _ => .error .endInString
  | _ + 1, [] => .error .endInString
  | _ + 1, '\x22' :: rest => .ok ([], rest)
  | fuel + 1, '\\' :: rest => do
      let (letter, rest) ← readEscape purpose rest
      let (letters, rest) ← readCharacters purpose fuel rest
      return (letter :: letters, rest)
  | fuel + 1, letter :: rest =>
      if letter.toNat < 0x20 then .error .controlCharacter
      else do
        let (letters, rest) ← readCharacters purpose fuel rest
        return (letter :: letters, rest)

/-- Read a string behind its opening quote. -/
def readString (purpose : Purpose) : Reader String := fun text => do
  let (letters, rest) ← readCharacters purpose (text.length + 1) text
  return (String.ofList letters, rest)

/-! ## Numbers -/

/-- A number as it is written. -/
structure Literal where
  /-- Whether it starts with a minus sign. -/
  negative : Bool
  /-- The digits before the point. -/
  whole : List Char
  /-- The digits after the point; empty without one. -/
  fraction : List Char
  /-- The value behind the letter `e`, if there is one. -/
  exponent : Option Int

/-- The problem of a number that lacks a digit in front of a text. A kept
number that ends too early is told apart from a wrong one. -/
def digitProblem (purpose : Purpose) : List Char → Error
  | [] =>
      match purpose with
      | .keep => .endInValue
      | .skip => .invalidNumber
  | _ => .invalidNumber

/-- Read at least one decimal digit. -/
def readDigits (purpose : Purpose) : Reader (List Char) := fun text =>
  match text.span Char.isDigit with
  | ([], rest) => .error (digitProblem purpose rest)
  | (digits, rest) => .ok (digits, rest)

/-- Read the digits before the point: a single zero or digits that do not start
with one. -/
def readWhole (purpose : Purpose) : Reader (List Char) := fun text => do
  let (digits, rest) ← readDigits purpose text
  match digits with
  | '0' :: _ :: _ => .error .invalidNumber
  | _ => .ok (digits, rest)

/-- Read the fraction of a number, if one follows. -/
def readFraction (purpose : Purpose) : Reader (List Char)
  | '.' :: rest => readDigits purpose rest
  | text => .ok ([], text)

/-- Read the exponent of a number, if one follows. -/
def readExponent (purpose : Purpose) : Reader (Option Int) := fun text =>
  match text with
  | [] => .ok (none, [])
  | letter :: rest =>
      if letter = 'e' ∨ letter = 'E' then do
        let (negative, rest) := Decimal.takeSign rest
        let (digits, rest) ← readDigits purpose rest
        let magnitude : Int := Decimal.ofDigits digits 0
        .ok (some (if negative then -magnitude else magnitude), rest)
      else .ok (none, text)

/-- Read a number as it is written. -/
def readLiteral (purpose : Purpose) : Reader Literal := fun text => do
  let (negative, text) :=
    match text with
    | '-' :: rest => (true, rest)
    | text => (false, text)
  let (whole, text) ← readWhole purpose text
  let (fraction, text) ← readFraction purpose text
  let (exponent, text) ← readExponent purpose text
  return ({ negative, whole, fraction, exponent }, text)

namespace Literal

/-- The number that is kept of a written one. Digits before the point that the
coefficient has no room for still count for the power of ten. -/
def toDecimal (literal : Literal) : Decimal :=
  let (coefficient, unkeptWhole) := Decimal.takeDigits literal.whole 0
  let (coefficient, unkeptFraction) := Decimal.takeDigits literal.fraction coefficient
  { negative := literal.negative
    coefficient := coefficient
    exponent :=
      literal.exponent.getD 0 + unkeptWhole.length -
        (literal.fraction.length - unkeptFraction.length : Nat) }

/-- The whole number that is written, if it is written as one that is kept
exact. A negative zero is not. -/
def whole? (literal : Literal) : Option Int :=
  if literal.fraction = [] ∧ literal.exponent = none then
    let magnitude := Decimal.ofDigits literal.whole 0
    if literal.negative then
      if 0 < magnitude ∧ magnitude ≤ twoPow 63 then some (-magnitude) else none
    else if magnitude < UInt64.size then some magnitude else none
  else none

end Literal

/-- How a number that is not kept as a whole one becomes a binary64 value. -/
class Conversion where
  /-- The value of the number. -/
  real : Literal → Binary64

/-- The conversion in use, by scaling in binary64. -/
instance Conversion.scaled : Conversion where
  real literal := literal.toDecimal.scale

/-- The value of a number. -/
def Literal.toNumber [Conversion] (literal : Literal) : Except Error Number :=
  match literal.whole? with
  | some value => .ok (.whole value)
  | none =>
      let value := Conversion.real literal
      if value.isFinite then .ok (.real value) else .error .numberOutOfRange

/-- Read a number. -/
def readNumber [Conversion] : Reader Number := fun text => do
  let (literal, rest) ← readLiteral .keep text
  let number ← literal.toNumber
  return (number, rest)

end Json
end DualPhy
