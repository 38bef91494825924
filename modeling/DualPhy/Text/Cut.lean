/-!
# Cutting a text

A text between the places where a mark stands.
-/

namespace DualPhy
namespace Text

/-- The parts of a text between its marks, one more than there are marks. -/
def cutAt (mark : Char) : List Char → List (List Char)
  | [] => [[]]
  | letter :: rest =>
      if letter = mark then [] :: cutAt mark rest
      else
        match cutAt mark rest with
        | [] => [[letter]]
        | part :: parts => (letter :: part) :: parts

end Text
end DualPhy
