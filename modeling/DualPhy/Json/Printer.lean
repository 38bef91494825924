import DualPhy.Decimal.Layout
import DualPhy.Json.Value

/-!
# Writing JSON text

Two layouts: compact, without any white space, and indented by two spaces for
every level. Strings escape the quote, the backslash and the control characters
below U+0020 only.
-/

namespace DualPhy
namespace Json

/-- A character by its code unit in four hexadecimal digits. -/
def unitEscape (letter : Char) : List Char :=
  let digits := Nat.toDigits 16 letter.toNat
  ['\\', 'u'] ++ List.replicate (4 - digits.length) '0' ++ digits

/-- A character as it stands inside a string. -/
def escapeChar (letter : Char) : List Char :=
  if letter = '\x22' ∨ letter = '\\' then ['\\', letter]
  else if letter = '\x08' then ['\\', 'b']
  else if letter = '\x0c' then ['\\', 'f']
  else if letter = '\n' then ['\\', 'n']
  else if letter = '\r' then ['\\', 'r']
  else if letter = '\t' then ['\\', 't']
  else if letter.toNat < 0x20 then unitEscape letter
  else [letter]

/-- A string in its quotes. -/
def stringText (value : String) : List Char :=
  '\x22' :: (value.toList.flatMap escapeChar ++ ['\x22'])

namespace Number

/-- Text of a number; one that is not finite has none and becomes `null`. -/
def text : Number → List Char
  | .whole value => (toString value).toList
  | .real value =>
      if value.isFinite then Decimal.document value else ['n', 'u', 'l', 'l']

end Number

/-- Items with a separator between them. -/
def separated (separator : List Char) : List (List Char) → List Char
  | [] => []
  | [item] => item
  | item :: rest => item ++ separator ++ separated separator rest

/-! ## Compact layout -/

mutual

/-- Characters of a value without white space. -/
def compactChars : Json → List Char
  | .null => ['n', 'u', 'l', 'l']
  | .bool true => ['t', 'r', 'u', 'e']
  | .bool false => ['f', 'a', 'l', 's', 'e']
  | .number value => value.text
  | .string value => stringText value
  | .array items => '[' :: (separated [','] (compactItems items) ++ [']'])
  | .object members =>
      '\x7b' :: (separated [','] (compactMembers members) ++ ['\x7d'])

/-- Characters of the items of an array. -/
def compactItems : List Json → List (List Char)
  | [] => []
  | item :: rest => compactChars item :: compactItems rest

/-- Characters of the members of an object. -/
def compactMembers : List (String × Json) → List (List Char)
  | [] => []
  | (key, value) :: rest =>
      (stringText key ++ ':' :: compactChars value) :: compactMembers rest

end

/-- Text of a value without white space. -/
def compact (value : Json) : String := String.ofList (compactChars value)

/-! ## Indented layout -/

/-- A new line at a level of indentation. -/
def newLine (level : Nat) : List Char :=
  '\n' :: List.replicate (2 * level) ' '

/-- Items on lines of their own between two brackets. -/
def bracketed (opening closing : Char) (level : Nat) (items : List (List Char)) :
    List Char :=
  if items = [] then [opening, closing]
  else
    opening :: (newLine (level + 1) ++
      separated (',' :: newLine (level + 1)) items ++ newLine level ++ [closing])

mutual

/-- Characters of a value that starts at a level of indentation. -/
def indentedChars (level : Nat) : Json → List Char
  | .null => ['n', 'u', 'l', 'l']
  | .bool true => ['t', 'r', 'u', 'e']
  | .bool false => ['f', 'a', 'l', 's', 'e']
  | .number value => value.text
  | .string value => stringText value
  | .array items => bracketed '[' ']' level (indentedItems (level + 1) items)
  | .object members =>
      bracketed '\x7b' '\x7d' level (indentedMembers (level + 1) members)

/-- Characters of the items of an array. -/
def indentedItems (level : Nat) : List Json → List (List Char)
  | [] => []
  | item :: rest => indentedChars level item :: indentedItems level rest

/-- Characters of the members of an object. -/
def indentedMembers (level : Nat) : List (String × Json) → List (List Char)
  | [] => []
  | (key, value) :: rest =>
      (stringText key ++ [':', ' '] ++ indentedChars level value) ::
        indentedMembers level rest

end

/-- Text of a value with one item or member on a line. -/
def indented (value : Json) : String := String.ofList (indentedChars 0 value)

end Json
end DualPhy
