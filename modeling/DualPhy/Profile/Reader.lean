import DualPhy.Json.Record
import DualPhy.Profile

/-!
# Reading profiles

The documents of a profile and of its parts.
-/

namespace DualPhy

namespace TuningMode

/-- The mode of a name. -/
def ofName (name : String) : Except Json.Error TuningMode :=
  match ofKeyword? name with
  | some mode => .ok mode
  | none => .error (.unknownName name direct.keyword centerOffset.keyword)

/-- Read the `null` behind the name of a mode in the object form. -/
def readUnit [Json.Conversion] (text : List Char) : Except Json.Error (List Char) :=
  match Json.skipSpace text with
  | 'n' :: rest => Json.readWord ['u', 'l', 'l'] rest
  | text => .error (Json.mismatch "unit" text)

/-- Read the name of a mode behind its opening quote. -/
def readName : Json.Reader TuningMode := fun text => do
  let (name, rest) ← Json.readString .keep text
  let mode ← ofName name
  return (mode, rest)

/-- Read the name of a mode that is the key of an object. -/
def readKey : Json.Reader TuningMode := fun text =>
  match Json.skipSpace text with
  | [] => .error .endInObject
  | '\x7d' :: _ => .error .expectedValue
  | '\x22' :: rest => readName rest
  | _ => .error .keyNotString

/-- Read a tuning mode: its name, or an object with the name as its only key
and `null` under it. -/
def read [Json.Conversion] : Json.Reader TuningMode := fun text =>
  match Json.skipSpace text with
  | [] => .error .endInValue
  | '\x22' :: rest => readName rest
  | '\x7b' :: rest => do
      let (mode, rest) ← readKey rest
      let rest ← Json.readColon rest
      let rest ← readUnit rest
      match Json.skipSpace rest with
      | [] => .error .endInObject
      | '\x7d' :: rest => return (mode, rest)
      | _ => .error .expectedValue
  | _ => .error .expectedValue

end TuningMode

namespace Channels

/-- How documents write the channels. -/
def schema [Json.Conversion] : Json.Schema Channels where
  name := "struct ChannelMapping"
  entries :=
    [ .of "rx" true Json.readUInt32 fun rx channels => { channels with rx },
      .of "tx" true Json.readUInt32 fun tx channels => { channels with tx } ]
  closed := false
  start := initial

end Channels

namespace ParameterSet

/-- How documents write a whole parameter set. -/
def schema [Json.Conversion] : Json.Schema ParameterSet where
  name := "struct PhyParameterSet"
  entries := Parameter.all.map fun parameter =>
    .of parameter.key true Json.readReal fun value parameters =>
      parameters.set parameter value
  closed := false
  start := .ofFn fun _ => .zero false

end ParameterSet

namespace Overrides

/-- How documents write the parameters that a profile sets. -/
def schema [Json.Conversion] : Json.Schema Overrides where
  name := "struct PhyOverrides"
  entries := Parameter.all.map fun parameter =>
    .of parameter.key false Json.readOptionalReal fun value overrides =>
      overrides.set parameter value
  closed := true
  start := none

end Overrides

namespace Profile

/-- How documents write the instance names. -/
def rolesSchema [Json.Conversion] : Json.Schema (PerRole String) where
  name := "struct RoleNames"
  entries := Role.all.map fun role =>
    .of role.key false Json.readText fun name roles => roles.set role name
  closed := true
  start := stockRoles

/-- What is expected in place of a pair that is none. -/
def pairNote : String := "an array of length 2"

/-- Read one entry of the pair of overrides. -/
def readPairItem [Json.Conversion] (position : Nat) : Json.Reader Overrides := fun text => do
  let (more, text) ← Json.nextItem .keep (position == 0) text
  if more then Overrides.schema.read text
  else .error (.wrongLength position pairNote)

/-- Read the overrides of both PHYs. -/
def readPair [Json.Conversion] : Json.Reader (PerPhy Overrides) := fun text =>
  match Json.skipSpace text with
  | '[' :: rest => do
      let (phy0, rest) ← readPairItem 0 rest
      let (phy1, rest) ← readPairItem 1 rest
      let rest ← Json.closeList rest
      return (⟨phy0, phy1⟩, rest)
  | text => .error (Json.mismatch pairNote text)

/-- How documents write a profile. -/
def schema [Json.Conversion] : Json.Schema Profile where
  name := "struct Profile"
  entries :=
    [ .of "tuning_mode" false TuningMode.read fun mode profile => { profile with mode },
      .of "channels" false Channels.schema.read fun channels profile =>
        { profile with channels },
      .of "phys" false readPair fun overrides profile => { profile with overrides },
      .of "roles" false rolesSchema.read fun roles profile => { profile with roles } ]
  closed := true
  start := initial

/-- Read a profile. -/
def parse [Json.Conversion] (text : String) : Except ProfileError Profile :=
  match Json.readDocument schema.read text with
  | .error problem => .error (.document problem)
  | .ok profile => do
      profile.checkFinite
      return profile

end Profile
end DualPhy
