import DualPhy.Text.Quoted

/-!
# Text for a terminal

Control characters with which a text could steer a terminal are spelled out:
the escape, the bell, the backspace, the form feed and the delete character, and
the controls from U+0080 to U+009F. All other characters stand for themselves.
-/

namespace DualPhy
namespace Text

/-- The control characters of ASCII that are spelled out. -/
def steeringControls : List Char := ['\x1b', '\x07', '\x08', '\x0c', '\x7f']

/-- The escape of an ASCII character by its two hexadecimal digits. -/
def byteEscape (letter : Char) : List Char :=
  ['\\', 'x', Nat.digitChar (letter.toNat / 16), Nat.digitChar (letter.toNat % 16)]

/-- A character as it is given to a terminal. -/
def harmlessChar (letter : Char) : List Char :=
  if steeringControls.contains letter then byteEscape letter
  else if 0x80 ≤ letter.toNat ∧ letter.toNat ≤ 0x9F then codePointEscape letter
  else [letter]

/-- A text as it is given to a terminal. -/
def harmless (text : String) : String := String.ofList (text.toList.flatMap harmlessChar)

end Text
end DualPhy
