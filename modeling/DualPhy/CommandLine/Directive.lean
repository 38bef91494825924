import DualPhy.Decimal.Numeral
import DualPhy.Decimal.Whole
import DualPhy.Event
import DualPhy.Pattern
import DualPhy.Text.Bytes
import DualPhy.Text.Cut

/-!
# Directives of a log filter

A directive is a threshold alone, or the beginning of the names of topics with a
threshold of its own behind an equals sign. Between the two there may stand, in
brackets, the name of a span and conditions on fields in braces:
`target[span{field=value}]=threshold`. A directive without a threshold
shows everything.

No line of this program is logged inside a span, and a line has no field but its
message. A directive that asks for a span or for the value of a field can be
written, but covers no line.
-/

namespace DualPhy

/-- A condition on a field. -/
structure FieldCondition where
  /-- Name of the field. -/
  name : List Char
  /-- Whether a value is asked for. -/
  hasValue : Bool
  deriving DecidableEq

namespace FieldCondition

/-- Whether a text stands for values of a field: for a number, or as a pattern for
all that it matches. -/
def isValue (text : List Char) : Bool :=
  (Binary64.read text).toOption.isSome || Pattern.isPattern text

/-- Read a condition: a name, and optionally an equals sign and a value. What stands
behind a second equals sign is dropped. -/
def read? (text : List Char) : Option FieldCondition :=
  match Text.cutAt '=' text with
  | name :: value :: _ => if isValue value then some ⟨name, true⟩ else none
  | _ => some ⟨text, false⟩

/-- The condition that there is a message. -/
def hasMessage : FieldCondition := ⟨"message".toList, false⟩

end FieldCondition

/-- A part of a filter. -/
structure Directive where
  /-- What the name of a topic has to start with. -/
  target : Option (List Char)
  /-- The span in which a line has to be logged. -/
  span : Option (List Char)
  /-- Conditions on fields. -/
  fields : List FieldCondition
  /-- How many levels are shown, from the most important one on. -/
  threshold : Nat
  deriving DecidableEq

namespace Directive

/-! ## Thresholds -/

/-- The names of the thresholds, in ascending order. -/
def thresholdNames : List String := ["off", "error", "warn", "info", "debug", "trace"]

/-- The threshold that shows everything. -/
def everything : Nat := 5

/-- The threshold of a number or name, in which case does not matter. -/
def threshold? (word : List Char) : Option Nat :=
  match Decimal.natural? word with
  | some number => if number ≤ everything then some number else none
  | none => thresholdNames.findIdx? fun name => name.toList == word.map Char.toLower

/-- The threshold behind an equals sign; nothing stands for the one that shows
everything. -/
def thresholdOrAll? (word : List Char) : Option Nat :=
  if word = [] then some everything else threshold? word

/-! ## Reading -/

/-- The directive that shows everything. -/
def all : Directive := ⟨none, none, [], everything⟩

/-- What a character of a directive belongs to, and at which position that
began. -/
inductive Part
  /-- Nothing yet. -/
  | start
  /-- A target or a threshold alone. -/
  | name
  /-- The name of a span. -/
  | span (first : Nat)
  /-- A condition on a field. -/
  | field (first : Nat)
  /-- The end of the conditions. -/
  | fieldsEnd
  /-- The end of the brackets. -/
  | bracketsEnd
  /-- The threshold behind an equals sign. -/
  | threshold (first : Nat)
  deriving DecidableEq

/-- Whether a target or threshold may start with a character. -/
def startsName (letter : Char) : Bool :=
  letter == '-' || letter == ':' || letter == '_' || Text.isAlphanumeric letter

/-- Take in a character of a directive, given what has been read in front of
it. -/
def step?
    (text : List Char)
    (position : Nat)
    (letter : Char)
    (draft : Directive) :
    Part → Option (Directive × Part)
  | .start =>
      if letter = '[' then some (draft, .span (position + 1))
      else if startsName letter then some (draft, .name)
      else none
  | .name =>
      if letter = '=' then do
        let target ← Text.betweenBytes? 0 position text
        return ({ draft with target := some target }, .threshold (position + 1))
      else if letter = '[' then do
        let target ← Text.betweenBytes? 0 position text
        return ({ draft with target := some target }, .span (position + 1))
      else some (draft, .name)
  | .span first =>
      if letter = ']' then do
        let span ← Text.betweenBytes? first position text
        return ({ draft with span := some span }, .bracketsEnd)
      else if letter = '\x7b' then do
        let span ← Text.betweenBytes? first position text
        return ({ draft with span := if span = [] then none else some span },
          .field (position + 1))
      else some (draft, .span first)
  | .field first =>
      if letter = '\x7d' then do
        let field ← Text.betweenBytes? first position text
        if field = [] then none
        else
          let condition ← FieldCondition.read? field
          return ({ draft with fields := draft.fields ++ [condition] }, .fieldsEnd)
      else some (draft, .field first)
  | .fieldsEnd => if letter = ']' then some (draft, .bracketsEnd) else none
  | .bracketsEnd => if letter = '=' then some (draft, .threshold (position + 1)) else none
  | .threshold first => some (draft, .threshold first)

/-- What has been read, at the end of a directive. -/
def finish? (text : List Char) (draft : Directive) : Part → Option Directive
  | .name =>
      match threshold? text with
      | some threshold => some { draft with threshold }
      | none => some { draft with target := some text }
  | .bracketsEnd => some draft
  | .threshold first => do
      let threshold ← thresholdOrAll? (← Text.fromByte? first text)
      return { draft with threshold }
  | _ => none

/-- Read on from a position. -/
def readOn? (text : List Char) (draft : Directive) (part : Part) (position : Nat) :
    List Char → Option Directive
  | [] => finish? text draft part
  | letter :: rest => do
      let (draft, part) ← step? text position letter draft part
      readOn? text draft part (position + letter.utf8Size) rest

/-- Read a directive. The positions of its parts are counted from the first
character that is not white space, but the parts are cut out of the whole text:
white space in front shifts every part. -/
def read? (text : List Char) : Option Directive :=
  readOn? text all .start 0 (Text.trim text)

/-! ## Lines -/

/-- Whether the directive speaks of a line. -/
def covers (directive : Directive) (line : LogLine) : Bool :=
  directive.span.isNone && directive.fields.all (· == .hasMessage) &&
    directive.target.all fun target => target.isPrefixOf line.topic.name.toList

/-- How closely a directive describes its lines: by the length of its target, and
then by the number of its conditions. -/
def closeness (directive : Directive) : Nat × Nat :=
  ((directive.target.map fun target => target.length + 1).getD 0, directive.fields.length)

/-- Whether a directive describes its lines at least as closely as another. -/
def isAsClose (directive other : Directive) : Bool :=
  directive.closeness.1 > other.closeness.1 ||
    (directive.closeness.1 == other.closeness.1 &&
      directive.closeness.2 ≥ other.closeness.2)

end Directive
end DualPhy
