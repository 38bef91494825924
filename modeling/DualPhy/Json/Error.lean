import DualPhy.Decimal.Layout
import DualPhy.Json.Value
import DualPhy.Text.Quoted

/-!
# Why a document is refused

The first problem met in a JSON document, read from the left, and its wording.
-/

namespace DualPhy
namespace Json

/-- What stands where something else was expected. -/
inductive Found
  /-- The value `null`. -/
  | null
  /-- A truth value. -/
  | bool (value : Bool)
  /-- A whole number. -/
  | whole (value : Int)
  /-- Another number. -/
  | real (value : Binary64)
  /-- A text. -/
  | string (value : String)
  /-- An array. -/
  | array
  /-- An object. -/
  | object

/-- The first problem met in a document. -/
inductive Error
  /-- The text ends where a value goes on. -/
  | endInValue
  /-- The text ends inside an array. -/
  | endInList
  /-- The text ends inside an object. -/
  | endInObject
  /-- The text ends inside a string. -/
  | endInString
  /-- No value starts here. -/
  | expectedValue
  /-- A word starts like `null`, `true` or `false` and goes on differently. -/
  | expectedWord
  /-- A key is not followed by a colon. -/
  | expectedColon
  /-- An item of an array is followed by neither a comma nor the end. -/
  | expectedListSeparator
  /-- A member of an object is followed by neither a comma nor the end. -/
  | expectedObjectSeparator
  /-- A comma stands before the end of an array or object. -/
  | trailingComma
  /-- Something stands behind the end. -/
  | trailingCharacters
  /-- A member of an object starts with something other than a string. -/
  | keyNotString
  /-- A number is not written as the grammar asks. -/
  | invalidNumber
  /-- A number is beyond the largest finite value. -/
  | numberOutOfRange
  /-- A backslash starts no escape. -/
  | invalidEscape
  /-- A surrogate stands without its partner. -/
  | loneSurrogate
  /-- A leading surrogate is not followed by a second escape. -/
  | unfinishedPair
  /-- A control character stands in a string. -/
  | controlCharacter
  /-- Arrays and objects are nested too deeply. -/
  | tooDeep
  /-- A value has the wrong type. -/
  | wrongType (found : Found) (expected : String)
  /-- A whole number is outside the range of its field. -/
  | wrongRange (found : Int) (expected : String)
  /-- A required member is missing. -/
  | missingKey (key : String)
  /-- A member is given twice. -/
  | repeatedKey (key : String)
  /-- A member has no meaning. -/
  | unknownKey (key : String) (known : List String)
  /-- A name is none of the two alternatives. -/
  | unknownName (name first second : String)
  /-- An array has the wrong number of items. -/
  | wrongLength (length : Nat) (expected : String)
  /-- A value matches none of the alternatives of a type. -/
  | noAlternative (type : String)

namespace Found

/-- A number in the wrong place. -/
def ofNumber : Number → Found
  | .whole value => .whole value
  | .real value => .real value

/-- Wording for a value in the wrong place. -/
def describe : Found → String
  | .null => "null"
  | .bool value => "boolean `" ++ (if value then "true" else "false") ++ "`"
  | .whole value => "integer `" ++ toString value ++ "`"
  | .real value => "floating point `" ++ String.ofList (Decimal.document value) ++ "`"
  | .string value => "string " ++ Text.quoted value
  | .array => "sequence"
  | .object => "map"

end Found

namespace Error

/-- A list of alternatives. -/
def alternatives (names : List String) : String :=
  ", ".intercalate (names.map fun name => "`" ++ name ++ "`")

/-- Wording of the problem. -/
def message : Error → String
  | .endInValue => "EOF while parsing a value"
  | .endInList => "EOF while parsing a list"
  | .endInObject => "EOF while parsing an object"
  | .endInString => "EOF while parsing a string"
  | .expectedValue => "expected value"
  | .expectedWord => "expected ident"
  | .expectedColon => "expected `:`"
  | .expectedListSeparator => "expected `,` or `]`"
  | .expectedObjectSeparator => "expected `,` or `\x7d`"
  | .trailingComma => "trailing comma"
  | .trailingCharacters => "trailing characters"
  | .keyNotString => "key must be a string"
  | .invalidNumber => "invalid number"
  | .numberOutOfRange => "number out of range"
  | .invalidEscape => "invalid escape"
  | .loneSurrogate => "lone leading surrogate in hex escape"
  | .unfinishedPair => "unexpected end of hex escape"
  | .controlCharacter =>
      "control character (\\u0000-\\u001F) found while parsing a string"
  | .tooDeep => "recursion limit exceeded"
  | .wrongType found expected =>
      "invalid type: " ++ found.describe ++ ", expected " ++ expected
  | .wrongRange found expected =>
      "invalid value: " ++ (Found.whole found).describe ++ ", expected " ++ expected
  | .missingKey key => "missing field `" ++ key ++ "`"
  | .repeatedKey key => "duplicate field `" ++ key ++ "`"
  | .unknownKey key known =>
      "unknown field `" ++ key ++ "`, expected one of " ++ alternatives known
  | .unknownName name first second =>
      "unknown variant `" ++ name ++ "`, expected `" ++ first ++ "` or `" ++ second ++ "`"
  | .wrongLength length expected =>
      "invalid length " ++ toString length ++ ", expected " ++ expected
  | .noAlternative type => "data did not match any variant of untagged enum " ++ type

end Error
end Json
end DualPhy
