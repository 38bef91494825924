import DualPhy.Json.Error

/-!
# Block descriptors

A discovery document lists the blocks of the flowgraph. Members that are not
part of a descriptor are ignored, and a descriptor may also be written as an
array of its parts.
-/

namespace DualPhy

/-- One block of the flowgraph. -/
structure Block where
  /-- Identifier of the block, part of the addresses of its handlers. -/
  id : String
  /-- Name of the block in its flowgraph. -/
  instanceName : String
  /-- Name of the block's type, where the flowgraph publishes it. -/
  typeName : Option String
  deriving DecidableEq

namespace Json

/-- What a value is found to be. -/
def found : Json → Found
  | .null => .null
  | .bool value => .bool value
  | .number value => .ofNumber value
  | .string value => .string value
  | .array _ => .array
  | .object _ => .object

/-- Decode a string. -/
def asText : Json → Except Error String
  | .string value => .ok value
  | value => .error (.wrongType value.found "a string")

/-- Decode a string that may be `null`. -/
def asOptionalText : Json → Except Error (Option String)
  | .null => .ok none
  | value => value.asText.map some

/-- Decode the items of an array. -/
def asItems : Json → Except Error (List Json)
  | .array items => .ok items
  | value => .error (.wrongType value.found "a sequence")

/-- Decode a member that may be absent. -/
def decodeMember
    (key : String)
    (members : List (String × Json))
    (decode : Json → Except Error α) :
    Except Error (Option α) :=
  match member? key members with
  | none => .ok none
  | some value => (decode value).map some

/-- A member that has to be there. -/
def require (key : String) : Option α → Except Error α
  | none => .error (.missingKey key)
  | some value => .ok value

end Json

namespace Block

/-- Decode an identifier: a natural number of at most sixty-four bits or a
string. -/
def decodeId : Json → Except Json.Error String
  | .string text => .ok text
  | .number (.whole value) =>
      if 0 ≤ value ∧ value < UInt64.size then .ok (toString value.toNat)
      else .error (.noAlternative "RawId")
  | _ => .error (.noAlternative "RawId")

/-- The problem of an array with too few parts. -/
def tooShort (length : Nat) : Json.Error :=
  .wrongLength length "struct BlockDescriptor with 3 elements"

/-- The problem of an array with too many parts. -/
def tooLong (length : Nat) : Json.Error :=
  .wrongLength length "fewer elements in array"

/-- Decode a descriptor. The members are looked at in the order of their keys
before any is found missing. -/
def decode : Json → Except Json.Error Block
  | .object members => do
      let id ← Json.decodeMember "id" members decodeId
      let instanceName ← Json.decodeMember "instance_name" members Json.asText
      let typeName ← Json.decodeMember "type_name" members Json.asOptionalText
      let id ← Json.require "id" id
      let instanceName ← Json.require "instance_name" instanceName
      return { id, instanceName, typeName := typeName.join }
  | .array [] => .error (tooShort 0)
  | .array [id] => do
      let _ ← decodeId id
      .error (tooShort 1)
  | .array (id :: instanceName :: rest) => do
      let id ← decodeId id
      let instanceName ← instanceName.asText
      match rest with
      | [] => return { id, instanceName, typeName := none }
      | typeName :: surplus =>
          let typeName ← typeName.asOptionalText
          if surplus.isEmpty then return { id, instanceName, typeName }
          else .error (tooLong (surplus.length + 3))
  | value => .error (.wrongType value.found "struct BlockDescriptor")

end Block

/-- Decode the blocks of a discovery document. -/
def decodeBlocks : Json → Except Json.Error (List Block)
  | .object members => do
      let blocks ← Json.decodeMember "blocks" members fun value => do
        let items ← value.asItems
        items.mapM Block.decode
      Json.require "blocks" blocks
  | .array [] => .error (.wrongLength 0 "struct FlowgraphDescription with 1 element")
  | .array (value :: surplus) => do
      let items ← value.asItems
      let blocks ← items.mapM Block.decode
      if surplus.isEmpty then return blocks
      else .error (Block.tooLong (surplus.length + 1))
  | value => .error (.wrongType value.found "struct FlowgraphDescription")

end DualPhy
