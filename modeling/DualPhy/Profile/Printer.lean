import DualPhy.Json.Printer
import DualPhy.Profile

/-!
# Writing profiles

The documents of a profile and of its parts. Parameters that are not set are
left out.
-/

namespace DualPhy

namespace TuningMode

/-- The document of a tuning mode. -/
def toJson (mode : TuningMode) : Json := .string mode.keyword

end TuningMode

namespace Channels

/-- The document of the channels. -/
def toJson (channels : Channels) : Json :=
  .object
    [ ("rx", .number (.ofNat channels.rx.toNat)),
      ("tx", .number (.ofNat channels.tx.toNat)) ]

end Channels

namespace ParameterSet

/-- The document of a whole parameter set. -/
def toJson (parameters : ParameterSet) : Json :=
  .object (Parameter.all.map fun parameter =>
    (parameter.key, .number (.real (parameters.get parameter))))

end ParameterSet

namespace Overrides

/-- The document of the parameters that are set. -/
def toJson (overrides : Overrides) : Json :=
  .object (Parameter.all.filterMap fun parameter =>
    (overrides.get parameter).map fun value =>
      (parameter.key, .number (.real value)))

end Overrides

namespace Profile

/-- The document of the instance names. -/
def rolesToJson (roles : PerRole String) : Json :=
  .object (Role.all.map fun role => (role.key, .string (roles.get role)))

/-- The document of a profile. -/
def toJson (profile : Profile) : Json :=
  .object
    [ ("tuning_mode", profile.mode.toJson),
      ("channels", profile.channels.toJson),
      ("phys",
        .array [profile.overrides.phy0.toJson, profile.overrides.phy1.toJson]),
      ("roles", rolesToJson profile.roles) ]

/-- The text of a profile, unless it holds something other than finite
numbers. -/
def print (profile : Profile) : Except ProfileError String := do
  profile.checkFinite
  return profile.toJson.indented

end Profile
end DualPhy
