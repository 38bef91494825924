import DualPhy.Profile
import DualPhy.Text.Column

/-!
# Previews

The calls that each selection would make under a profile, as text, without a
flowgraph.
-/

namespace DualPhy
namespace Profile

/-- One call of a preview. -/
def previewCall (step : Nat) (call : Call) : String :=
  "  " ++ String.ofList (Text.alignRight 2 (toString step).toList) ++ ". " ++
    String.ofList (Text.alignLeft 28 call.operation.name.toList) ++ " call/" ++
    toString call.operation.callIndex.toNat ++ "  " ++ call.payload.bodyText

/-- Calls with their numbers, from a first number on. -/
def previewCalls : (step : Nat) → List Call → List String
  | _, [] => []
  | step, call :: calls => previewCall step call :: previewCalls (step + 1) calls

/-- The lines about one PHY. -/
def previewPhy (profile : Profile) (phy : Phy) : List String :=
  "" :: ("select " ++ phy.name ++ ":") :: previewCalls 1 (profile.state.plan phy)

/-- The lines of a preview. -/
def preview (profile : Profile) : List String :=
  ("tuning mode: " ++ profile.mode.name) :: Phy.all.flatMap profile.previewPhy

/-- The text of a preview, every line with its end. -/
def previewText (profile : Profile) : String :=
  String.join (profile.preview.map fun line => line ++ "\n")

end Profile
end DualPhy
