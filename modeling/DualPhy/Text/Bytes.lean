/-!
# Parts of a text by positions in bytes

A position counts the bytes of the characters in front of it, in UTF-8.
-/

namespace DualPhy
namespace Text

/-- The text in front of a position and the text behind it, unless the position
lies inside a character or behind the end. -/
def splitAtByte? : Nat → List Char → Option (List Char × List Char)
  | 0, text => some ([], text)
  | _ + 1, [] => none
  | position, letter :: rest =>
      if letter.utf8Size ≤ position then
        (splitAtByte? (position - letter.utf8Size) rest).map fun (front, back) =>
          (letter :: front, back)
      else none

/-- The text from a position on. -/
def fromByte? (first : Nat) (text : List Char) : Option (List Char) :=
  (splitAtByte? first text).map Prod.snd

/-- The text between two positions. -/
def betweenBytes? (first last : Nat) (text : List Char) : Option (List Char) := do
  let rest ← fromByte? first text
  let (part, _) ← splitAtByte? (last - first) rest
  return part

end Text
end DualPhy
