import DualPhy.Json.Lexeme

/-!
# Reading JSON text

The separators of arrays and objects, values that are skipped, and whole
documents as `Json` values. Loops over items and members are bounded by the
length of the text, which each round shortens.
-/

namespace DualPhy
namespace Json

/-! ## Separators -/

/-- The text behind the comma between two items. A skipped array leaves an
early end to the reader of the next item. -/
def afterItemComma (purpose : Purpose) (text : List Char) :
    Except Error (List Char) :=
  match purpose, skipSpace text with
  | .skip, text => .ok text
  | .keep, [] => .error .endInValue
  | .keep, ']' :: _ => .error .trailingComma
  | .keep, text => .ok text

/-- Go on to the next item of an array; whether there is one. At the end the
closing bracket is left in place. -/
def nextItem (purpose : Purpose) (first : Bool) : Reader Bool := fun text =>
  match skipSpace text, first with
  | [], _ => .error .endInList
  | ']' :: rest, _ => .ok (false, ']' :: rest)
  | text, true => .ok (true, text)
  | ',' :: rest, false => (afterItemComma purpose rest).map (true, ·)
  | _, false => .error .expectedListSeparator

/-- Read the end of an array. -/
def closeList (text : List Char) : Except Error (List Char) :=
  match skipSpace text with
  | [] => .error .endInList
  | ']' :: rest => .ok rest
  | ',' :: rest =>
      match skipSpace rest with
      | ']' :: _ => .error .trailingComma
      | _ => .error .trailingCharacters
  | _ => .error .trailingCharacters

/-- The problem of a member that does not start with a string, behind a
comma. -/
def keyProblem (purpose : Purpose) (text : List Char) : Error :=
  match purpose, text with
  | .keep, [] => .endInValue
  | .skip, [] => .endInObject
  | .keep, '\x7d' :: _ => .trailingComma
  | _, _ => .keyNotString

/-- Go on to the next member of an object and read its key. At the end there is
none and the closing brace is left in place. -/
def nextKey (purpose : Purpose) (first : Bool) : Reader (Option String) := fun text =>
  match skipSpace text, first with
  | [], _ => .error .endInObject
  | '\x7d' :: rest, _ => .ok (none, '\x7d' :: rest)
  | '\x22' :: rest, true => do
      let (key, rest) ← readString purpose rest
      return (some key, rest)
  | _, true => .error .keyNotString
  | ',' :: rest, false =>
      match skipSpace rest with
      | '\x22' :: rest => do
          let (key, rest) ← readString purpose rest
          return (some key, rest)
      | text => .error (keyProblem purpose text)
  | _, false => .error .expectedObjectSeparator

/-- Read the colon between a key and its value. -/
def readColon (text : List Char) : Except Error (List Char) :=
  match skipSpace text with
  | [] => .error .endInObject
  | ':' :: rest => .ok rest
  | _ => .error .expectedColon

/-- Read the end of an object whose members have all been read. -/
def closeObject (text : List Char) : Except Error (List Char) :=
  match skipSpace text with
  | [] => .error .endInObject
  | '\x7d' :: rest => .ok rest
  | ',' :: _ => .error .trailingComma
  | _ => .error .trailingCharacters

/-! ## Items and members -/

/-- Read the items of an array behind its opening bracket, and its end. -/
def readItems (purpose : Purpose) (item : Reader α) :
    (fuel : Nat) → (first : Bool) → Reader (List α)
  | 0, _, _ => .error .endInList
  | fuel + 1, first, text => do
      let (more, text) ← nextItem purpose first text
      if more then
        let (value, text) ← item text
        let (values, text) ← readItems purpose item fuel false text
        return (value :: values, text)
      else
        let text ← closeList text
        return ([], text)

/-- Read the members of an object behind its opening brace, and its end. -/
def readMembers (purpose : Purpose) (value : Reader α) :
    (fuel : Nat) → (first : Bool) → Reader (List (String × α))
  | 0, _, _ => .error .endInObject
  | fuel + 1, first, text => do
      let (key?, text) ← nextKey purpose first text
      match key? with
      | none =>
          let text ← closeObject text
          return ([], text)
      | some key =>
          let text ← readColon text
          let (content, text) ← value text
          let (members, text) ← readMembers purpose value fuel false text
          return ((key, content) :: members, text)

/-! ## Skipped values -/

/-- Check a value nested at most `depth` deep and drop it. -/
def skipNested : (depth : Nat) → Reader Unit
  | 0, _ => .error .tooDeep
  | depth + 1, text =>
      match skipSpace text with
      | [] => .error .endInValue
      | 'n' :: rest => (readWord ['u', 'l', 'l'] rest).map ((), ·)
      | 't' :: rest => (readWord ['r', 'u', 'e'] rest).map ((), ·)
      | 'f' :: rest => (readWord ['a', 'l', 's', 'e'] rest).map ((), ·)
      | '\x22' :: rest => do
          let (_, rest) ← readString .skip rest
          return ((), rest)
      | '[' :: rest => do
          let (_, rest) ← readItems .skip (skipNested depth) (rest.length + 1) true rest
          return ((), rest)
      | '\x7b' :: rest => do
          let (_, rest) ← readMembers .skip (skipNested depth) (rest.length + 1) true rest
          return ((), rest)
      | letter :: rest =>
          if letter = '-' ∨ letter.isDigit then do
            let (_, rest) ← readLiteral .skip (letter :: rest)
            return ((), rest)
          else .error .expectedValue

/-- Check a value and drop it, however deeply it is nested. -/
def skipValue : Reader Unit := fun text => skipNested (text.length + 1) text

/-! ## Kept values -/

/-- The problem of a value that starts here where another type was expected. -/
def mismatch [Conversion] (expected : String) (text : List Char) : Error :=
  let found : Except Error Found :=
    match text with
    | [] => .error .endInValue
    | 'n' :: rest => (readWord ['u', 'l', 'l'] rest).map fun _ => .null
    | 't' :: rest => (readWord ['r', 'u', 'e'] rest).map fun _ => .bool true
    | 'f' :: rest => (readWord ['a', 'l', 's', 'e'] rest).map fun _ => .bool false
    | '\x22' :: rest => (readString .keep rest).map fun (value, _) => .string value
    | '[' :: _ => .ok .array
    | '\x7b' :: _ => .ok .object
    | letter :: rest =>
        if letter = '-' ∨ letter.isDigit then
          (readNumber (letter :: rest)).map fun (value, _) => .ofNumber value
        else .error .expectedValue
  match found with
  | .error problem => problem
  | .ok found => .wrongType found expected

/-- Insert a member into members sorted by key, in place of an earlier one of
the same key. -/
def insertMember (key : String) (value : Json) :
    List (String × Json) → List (String × Json)
  | [] => [(key, value)]
  | (other, kept) :: rest =>
      if key = other then (key, value) :: rest
      else if key < other then (key, value) :: (other, kept) :: rest
      else (other, kept) :: insertMember key value rest

/-- The object of members in the order they were read: sorted by key, the last
of a repeated key counting. -/
def ofMembers (members : List (String × Json)) : Json :=
  .object (members.foldl (fun sorted (key, value) => insertMember key value sorted) [])

/-- Read a value whose arrays and objects are nested at most `depth` deep. -/
def readNested [Conversion] : (depth : Nat) → Reader Json
  | depth, text =>
      match skipSpace text with
      | [] => .error .endInValue
      | 'n' :: rest => (readWord ['u', 'l', 'l'] rest).map (.null, ·)
      | 't' :: rest => (readWord ['r', 'u', 'e'] rest).map (.bool true, ·)
      | 'f' :: rest => (readWord ['a', 'l', 's', 'e'] rest).map (.bool false, ·)
      | '\x22' :: rest => do
          let (value, rest) ← readString .keep rest
          return (.string value, rest)
      | '[' :: rest =>
          match depth with
          | 0 => .error .tooDeep
          | depth + 1 => do
              let (items, rest) ←
                readItems .keep (readNested depth) (rest.length + 1) true rest
              return (.array items, rest)
      | '\x7b' :: rest =>
          match depth with
          | 0 => .error .tooDeep
          | depth + 1 => do
              let (members, rest) ←
                readMembers .keep (readNested depth) (rest.length + 1) true rest
              return (ofMembers members, rest)
      | letter :: rest =>
          if letter = '-' ∨ letter.isDigit then do
            let (value, rest) ← readNumber (letter :: rest)
            return (.number value, rest)
          else .error .expectedValue

/-- How deeply the arrays and objects of a document may be nested. -/
def depthLimit : Nat := 127

/-! ## Whole documents -/

/-- Read a text that holds one thing and nothing behind it. -/
def readDocument (reader : Reader α) (text : String) : Except Error α := do
  let (value, rest) ← reader text.toList
  match skipSpace rest with
  | [] => .ok value
  | _ => .error .trailingCharacters

/-- Read a document. -/
def parse [Conversion] (text : String) : Except Error Json :=
  readDocument (readNested depthLimit) text

end Json
end DualPhy
