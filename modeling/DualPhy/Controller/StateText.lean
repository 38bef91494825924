import DualPhy.Controller.State
import DualPhy.Decimal.Layout
import DualPhy.Text.Column

/-!
# The state as a table

A line with mode and channels, then the parameters of both PHYs side by side.
The active PHY is marked with a star.
-/

namespace DualPhy
namespace ControllerState

/-- Mark in front of the name of a PHY. -/
def mark (state : ControllerState) (phy : Phy) : String :=
  if state.active = phy then "*" else " "

/-- One row of the table. -/
def row (name first second : String) : String :=
  String.ofList (Text.alignLeft 22 name.toList ++ Text.alignRight 18 first.toList ++
    Text.alignRight 18 second.toList)

/-- The lines of the table. -/
def lines (state : ControllerState) : List String :=
  ("mode: " ++ state.mode.name ++ "  channels: rx=" ++ toString state.channels.rx.toNat ++
      " tx=" ++ toString state.channels.tx.toNat) ::
    row "" (state.mark .phy0 ++ Phy.phy0.name) (state.mark .phy1 ++ Phy.phy1.name) ::
    Parameter.all.map fun parameter =>
      row parameter.name ((state.table.get .phy0).get parameter).text
        ((state.table.get .phy1).get parameter).text

/-- The table as text, every line with its end. -/
def text (state : ControllerState) : String :=
  String.join (state.lines.map fun line => line ++ "\n")

end ControllerState
end DualPhy
