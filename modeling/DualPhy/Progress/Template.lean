/-!
# Templates of progress bars

A template is text with fields in braces: a name, then optionally a colon with
alignment, width and up to two styles. Doubled braces stand for themselves, and
a brace before white space opens no field. `Template.check` tells whether a
text is a template; at the first character out of place it says where.
-/

namespace DualPhy
namespace Template

/-- What a character of a template belongs to. -/
inductive Place
  /-- Text outside the fields. -/
  | literal
  /-- Behind a brace that may open a field. -/
  | maybeOpen
  /-- Behind a closing brace that has to be doubled. -/
  | doubleClose
  /-- The name of a field. -/
  | key
  /-- The alignment of a field. -/
  | align
  /-- The width of a field. -/
  | width
  /-- The style of a field. -/
  | firstStyle
  /-- The alternative style of a field. -/
  | altStyle
  deriving DecidableEq

namespace Place

/-- Name of a place in messages. -/
def name : Place → String
  | .literal => "Literal"
  | .maybeOpen => "MaybeOpen"
  | .doubleClose => "DoubleClose"
  | .key => "Key"
  | .align => "Align"
  | .width => "Width"
  | .firstStyle => "FirstStyle"
  | .altStyle => "AltStyle"

/-- ASCII white space. -/
def isGap (letter : Char) : Bool :=
  letter == ' ' || letter == '\t' || letter == '\n' || letter == '\r' || letter == '\x0c'

/-- The place behind a character, unless the character is out of place. -/
def next? (place : Place) (letter : Char) : Option Place :=
  match place with
  | .literal =>
      some (if letter = '\x7b' then .maybeOpen
        else if letter = '\x7d' then .doubleClose else .literal)
  | .doubleClose => if letter = '\x7d' then some .literal else none
  | .maybeOpen =>
      if letter = '\x7b' ∨ isGap letter then some .literal
      else if letter = '\x7d' ∨ letter = ':' then none
      else some .key
  | .key =>
      if letter = '\x7d' ∨ isGap letter then some .literal
      else if letter = ':' then some .align
      else some .key
  | .align =>
      if letter = '<' ∨ letter = '^' ∨ letter = '>' ∨ letter = '!' ∨ letter.isDigit then
        some .width
      else if letter = '.' then some .firstStyle
      else if letter = '\x7d' then some .literal
      else none
  | .width =>
      if letter = '!' ∨ letter.isDigit then some .width
      else if letter = '.' then some .firstStyle
      else if letter = '\x7d' then some .literal
      else none
  | .firstStyle =>
      some (if letter = '/' then .altStyle
        else if letter = '\x7d' then .literal else .firstStyle)
  | .altStyle => some (if letter = '\x7d' then .literal else .altStyle)

end Place

/-- A character out of place. -/
structure Problem where
  /-- The character. -/
  letter : Char
  /-- Where it stands. -/
  place : Place
  deriving DecidableEq

namespace Problem

/-- Wording of the problem. -/
def message (problem : Problem) : String :=
  "TemplateError: unexpected character '" ++ String.singleton problem.letter ++
    "' in state " ++ problem.place.name

end Problem

/-- The first character of a text that is out of place. -/
def problem? (place : Place) : List Char → Option Problem
  | [] => none
  | letter :: rest =>
      match place.next? letter with
      | none => some { letter, place }
      | some place => problem? place rest

/-- The first character of a template that is out of place. -/
def check (template : String) : Option Problem :=
  problem? .literal template.toList

/-- The template of a bar that follows the calls of a selection. -/
def apply : String :=
  "APPLY [\x7bbar:30.cyan\x7d] \x7bpos\x7d/\x7blen\x7d calls \x7bmsg\x7d"

/-- The template of a bar that follows one immediate call. -/
def tune : String :=
  "TUNE  [\x7bbar:30.green\x7d] \x7bpos\x7d/\x7blen\x7d calls \x7bmsg\x7d"

end Template
end DualPhy
