import DualPhy.Decimal.Numeral
import DualPhy.Phy.Parameter
import DualPhy.Text.Blank

/-!
# Assignments of parameters

A text `name=value` that sets a parameter. White space around the name and
around the value does not count. A value that is no number is reported before a
name that is none.
-/

namespace DualPhy

/-- A parameter and its new value. -/
structure Assignment where
  /-- The parameter. -/
  parameter : Parameter
  /-- The value. -/
  value : Binary64
  deriving DecidableEq

/-- Why a text is no assignment. -/
inductive AssignmentError
  /-- There is no equals sign. -/
  | noEqualsSign (text : List Char)
  /-- The value is no number. -/
  | badValue (value : List Char) (reason : NumeralError)
  /-- The name is not that of a parameter. -/
  | unknownName (name : List Char)
  deriving DecidableEq

namespace AssignmentError

/-- Wording of the error. -/
def message : AssignmentError → String
  | .noEqualsSign text =>
      "expected <parameter>=<value>, got '" ++ String.ofList text ++ "'"
  | .badValue value reason =>
      "bad value '" ++ String.ofList value ++ "': " ++ reason.message
  | .unknownName name => Parameter.unknownMessage name

end AssignmentError

namespace Assignment

/-- The parts of a text before and after its first equals sign. -/
def split? (text : List Char) : Option (List Char × List Char) :=
  match text.span (· != '=') with
  | (_, []) => none
  | (name, _ :: value) => some (name, value)

/-- Read an assignment. -/
def read (text : List Char) : Except AssignmentError Assignment :=
  match split? text with
  | none => .error (.noEqualsSign text)
  | some (name, written) =>
      match Binary64.read (Text.trim written) with
      | .error reason => .error (.badValue written reason)
      | .ok value =>
          match Parameter.read? (Text.trim name) with
          | none => .error (.unknownName (Text.trim name))
          | some parameter => .ok { parameter, value }

end Assignment
end DualPhy
