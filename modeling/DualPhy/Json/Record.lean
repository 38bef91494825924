import DualPhy.Json.Reader

/-!
# Reading records

A record is written as an object whose members are named after its entries, in
any order, or as an array of the entries in the order of their declaration. A
`Schema` lists the entries; an entry that is not written keeps its value from
the record the schema starts with.
-/

namespace DualPhy
namespace Json

/-! ## Plain entries -/

/-- Read a number as a binary64 value. -/
def readReal [Conversion] : Reader Binary64 := fun text =>
  match skipSpace text with
  | [] => .error .endInValue
  | letter :: rest =>
      if letter = '-' ∨ letter.isDigit then do
        let (value, rest) ← readNumber (letter :: rest)
        return (value.toBinary64, rest)
      else .error (mismatch "f64" (letter :: rest))

/-- Read a number, or `null` for none. -/
def readOptionalReal [Conversion] : Reader (Option Binary64) := fun text =>
  match skipSpace text with
  | 'n' :: rest => (readWord ['u', 'l', 'l'] rest).map (none, ·)
  | text => do
      let (value, rest) ← readReal text
      return (some value, rest)

/-- Read a whole number of at most thirty-two bits. -/
def readUInt32 [Conversion] : Reader UInt32 := fun text =>
  match skipSpace text with
  | [] => .error .endInValue
  | letter :: rest =>
      if letter = '-' ∨ letter.isDigit then do
        let (value, rest) ← readNumber (letter :: rest)
        match value with
        | .whole value =>
            if 0 ≤ value ∧ value < UInt32.size then return (.ofNat value.toNat, rest)
            else .error (.wrongRange value "u32")
        | .real value => .error (.wrongType (.real value) "u32")
      else .error (mismatch "u32" (letter :: rest))

/-- Read a string. -/
def readText [Conversion] : Reader String := fun text =>
  match skipSpace text with
  | '\x22' :: rest => readString .keep rest
  | text => .error (mismatch "a string" text)

/-! ## Records -/

/-- An entry of a record as documents write it. -/
structure Entry (ρ : Type) where
  /-- Key of the entry. -/
  key : String
  /-- Whether it must be written. -/
  required : Bool
  /-- Read the entry; the result puts it into a record. -/
  read : Reader (ρ → ρ)

namespace Entry

/-- An entry that is read by a reader and put in place by a function. -/
def of
    (key : String)
    (required : Bool)
    (reader : Reader α)
    (store : α → ρ → ρ) :
    Entry ρ where
  key := key
  required := required
  read text := do
    let (value, rest) ← reader text
    return (store value, rest)

end Entry

/-- How documents write a record. -/
structure Schema (ρ : Type) where
  /-- Name of the record in messages. -/
  name : String
  /-- The entries in the order of their declaration. -/
  entries : List (Entry ρ)
  /-- Whether members that are no entries are refused. -/
  closed : Bool
  /-- The record before anything is read. -/
  start : ρ

namespace Schema

/-- The keys of all entries. -/
def keys (schema : Schema ρ) : List String := schema.entries.map Entry.key

/-- What is expected in place of an array that is too short. -/
def lengthNote (schema : Schema ρ) : String :=
  let count := schema.entries.length
  schema.name ++ " with " ++ toString count ++ (if count = 1 then " element" else " elements")

/-- The first required entry whose key has not been seen. -/
def missing? (schema : Schema ρ) (seen : List String) : Option (Entry ρ) :=
  schema.entries.find? fun entry => entry.required && !seen.contains entry.key

/-- Read the value of one member, behind its key. -/
def readMember
    (schema : Schema ρ)
    (seen : List String)
    (key : String)
    (record : ρ) :
    Reader ρ := fun text =>
  match schema.entries.find? fun entry => entry.key == key with
  | none =>
      if schema.closed then .error (.unknownKey key schema.keys)
      else do
        let text ← readColon text
        let (_, text) ← skipValue text
        return (record, text)
  | some entry =>
      if seen.contains key then .error (.repeatedKey key)
      else do
        let text ← readColon text
        let (store, text) ← entry.read text
        return (store record, text)

/-- Read the members of the object form up to the closing brace. -/
def readObject (schema : Schema ρ) :
    (fuel : Nat) → (first : Bool) → (seen : List String) → ρ → Reader ρ
  | 0, _, _, _, _ => .error .endInObject
  | fuel + 1, first, seen, record, text => do
      let (key?, text) ← nextKey .keep first text
      match key? with
      | none =>
          match schema.missing? seen with
          | some entry => .error (.missingKey entry.key)
          | none => return (record, text)
      | some key =>
          let (record, text) ← schema.readMember seen key record text
          schema.readObject fuel false (key :: seen) record text

/-- Read the array form up to its closing bracket, from the entry at
`position` on. -/
def readArray (schema : Schema ρ) :
    (entries : List (Entry ρ)) → (position : Nat) → ρ → Reader ρ
  | [], _, record, text => .ok (record, text)
  | entry :: entries, position, record, text => do
      let (more, text) ← nextItem .keep (position == 0) text
      if more then
        let (store, text) ← entry.read text
        schema.readArray entries (position + 1) (store record) text
      else if entry.required then
        .error (.wrongLength position schema.lengthNote)
      else
        schema.readArray entries (position + 1) record text

/-- Read a record in either form. -/
def read [Conversion] (schema : Schema ρ) : Reader ρ := fun text =>
  match skipSpace text with
  | '\x7b' :: rest => do
      let (record, rest) ←
        schema.readObject (rest.length + 1) true [] schema.start rest
      let rest ← closeObject rest
      return (record, rest)
  | '[' :: rest => do
      let (record, rest) ← schema.readArray schema.entries 0 schema.start rest
      let rest ← closeList rest
      return (record, rest)
  | text => .error (mismatch schema.name text)

end Schema
end Json
end DualPhy
