import DualPhy.Pattern.Mode
import DualPhy.Text.Hexadecimal

/-!
# Symbols of a pattern

A symbol is a character that stands for itself, or a backslash and what follows
it.

Case and kind are known for the characters of ASCII alone. Where a pattern is
about characters, nothing can be written that asks for the case or the kind of
one; where it is about bytes, nothing that a single byte beyond ASCII matches. A
property, `\p`, cannot be written at all.
-/

namespace DualPhy
namespace Pattern

/-- What stands at one place of a pattern. -/
inductive Symbol
  /-- A character. -/
  | literal (letter : Char)
  /-- The digits, the white space or the characters of words. -/
  | shorthand
  /-- A condition on the place, which takes up no character. -/
  | condition
  deriving DecidableEq

namespace Symbol

/-- Whether a character belongs to ASCII. -/
def isPlain (letter : Char) : Bool := letter.toNat < 0x80

/-- A character as a symbol. Among characters of unknown case none can be told from
its other case. -/
def ofLetter? (mode : Mode) (letter : Char) : Option Symbol :=
  if mode.ofCharacters && mode.caseless then none else some (.literal letter)

/-! ## Escapes -/

/-- The control character that a letter behind a backslash stands for. -/
def control? : Char → Option Char
  | 'a' => some '\x07'
  | 'f' => some '\x0c'
  | 'n' => some '\n'
  | 'r' => some '\r'
  | 't' => some '\t'
  | 'v' => some '\x0b'
  | _ => none

/-- How many hexadecimal digits follow a letter behind a backslash. -/
def digitCount? : Char → Option Nat
  | 'x' => some 2
  | 'u' => some 4
  | 'U' => some 8
  | _ => none

/-- Read hexadecimal digits behind a value. -/
def readHex (mode : Mode) : (digits value : Nat) → List Char → Option (Nat × List Char)
  | 0, value, text => some (value, text)
  | digits + 1, value, text =>
      match mode.skip text with
      | [] => none
      | letter :: rest => do readHex mode digits (value * 16 + (← Text.hexDigit? letter)) rest

/-- Read a character by its number. Two digits stand for a byte where the pattern is
about bytes. -/
def readNumbered (mode : Mode) (digits : Nat) (text : List Char) :
    Option (Symbol × List Char) := do
  let (code, rest) ← readHex mode digits 0 text
  let letter := Char.ofNat code
  if !decide code.isValidChar || (digits == 2 && !mode.ofCharacters && !isPlain letter) then none
  else
    let symbol ← ofLetter? mode letter
    return (symbol, rest)

/-- The symbol of one character behind a backslash. A character that is no letter
and no digit stands for itself; digits do not refer back to a group. -/
def escape? (mode : Mode) (letter : Char) : Option Symbol :=
  if ['A', 'z'].contains letter then some .condition
  else if ['b', 'B', '<', '>'].contains letter then
    if mode.ofCharacters then none else some .condition
  else if ['d', 's', 'w'].contains letter then
    if mode.ofCharacters then none else some .shorthand
  else
    match control? letter with
    | some control => ofLetter? mode control
    | none =>
        if isPlain letter && !letter.isAlphanum then ofLetter? mode letter else none

/-- Read a symbol. -/
def read (mode : Mode) : List Char → Option (Symbol × List Char)
  | [] => none
  | ['\\'] => none
  | '\\' :: letter :: rest =>
      match digitCount? letter with
      | some digits => readNumbered mode digits rest
      | none => (escape? mode letter).map fun symbol => (symbol, rest)
  | letter :: rest => (ofLetter? mode letter).map fun symbol => (symbol, rest)

end Symbol
end Pattern
end DualPhy
