import DualPhy.Text.Unprintable

/-!
# Quoted texts in messages

A text inside double quotes on one line. The quote and the backslash are
escaped, so are the characters that leave no mark; every other character stands
for itself.
-/

namespace DualPhy
namespace Text

/-- The escape of a character by its code point in hexadecimal digits. -/
def codePointEscape (letter : Char) : List Char :=
  ['\\', 'u', '\x7b'] ++ Nat.toDigits 16 letter.toNat ++ ['\x7d']

/-- A character as it stands inside the quotes. -/
def quoteChar (letter : Char) : List Char :=
  if letter = '\x22' ∨ letter = '\\' then ['\\', letter]
  else if letter = '\n' then ['\\', 'n']
  else if letter = '\r' then ['\\', 'r']
  else if letter = '\t' then ['\\', 't']
  else if letter = '\x00' then ['\\', '0']
  else if letter.toNat < 0x20 ∨ isUnprintable letter then codePointEscape letter
  else [letter]

/-- A text inside double quotes. -/
def quoted (text : String) : String :=
  String.ofList ('\x22' :: (text.toList.flatMap quoteChar ++ ['\x22']))

end Text
end DualPhy
