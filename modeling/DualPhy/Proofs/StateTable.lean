import DualPhy.Controller.StateText
import DualPhy.Proofs.LineText
import DualPhy.Proofs.ValueText
import Mathlib.Data.List.Forall2

/-!
# Tables that show a state

What a text has to be to show a state: the first line says the tuning mode and the channels, the
second one names the PHYs and marks the one on air, and every parameter has a line with a cell for
each PHY. A cell is a number that denotes the value. The text of a state shows the state.
-/

namespace DualPhy

namespace Binary64

/-- Two values are the same, or neither is a number. -/
def Same (first second : Binary64) : Prop :=
  first = second ∨ first.isNaN = true ∧ second.isNaN = true

/-- A cell shows a value: it denotes the value, or some NaN if the value is one. -/
def ShownAs (value : Binary64) (cell : List Char) : Prop :=
  ∃ denoted, Decimal.Denotes cell denoted ∧ denoted.Same value

theorem shownAs_plain (value : Binary64) : value.ShownAs (Decimal.plain value) := by
  cases kind : value.isNaN with
  | false => exact ⟨value, Decimal.denotes_plain kind, .inl rfl⟩
  | true => exact ⟨.quietNaN false, Decimal.denotes_plain_of_isNaN kind, .inr ⟨rfl, kind⟩⟩

end Binary64

namespace ControllerState

/-- A line of a name and two cells. The cells end behind the fortieth and the fifty-eighth letter,
unless something in front of them is too wide for its column. -/
def columns (name first second : List Char) : List Char :=
  name ++ List.replicate (22 - name.length) ' ' ++
    (List.replicate (18 - first.length) ' ' ++ first) ++
    (List.replicate (18 - second.length) ' ' ++ second)

/-- The line with the tuning mode and the channels. -/
def titleLine (mode : TuningMode) (channels : Channels) : String :=
  let name :=
    match mode with
    | .direct => "direct"
    | .centerOffset => "center+offset"
  "mode: " ++ name ++ "  channels: rx=" ++ toString channels.rx.toNat ++ " tx=" ++
    toString channels.tx.toNat

/-- The line that names the PHYs, with a star in front of the one on air. -/
def nameLine (active : Phy) : List Char :=
  match active with
  | .phy0 => columns [] "*PHY 0".toList " PHY 1".toList
  | .phy1 => columns [] " PHY 0".toList "*PHY 1".toList

/-- The names of the parameters, in the order of their lines. -/
def rowNames : List (String × Parameter) :=
  [ ("rx-frequency", .rxFrequency),
    ("tx-frequency", .txFrequency),
    ("rx-gain", .rxGain),
    ("tx-gain", .txGain),
    ("sample-rate", .sampleRate),
    ("center-frequency", .centerFrequency),
    ("rx-frequency-offset", .rxFrequencyOffset),
    ("tx-frequency-offset", .txFrequencyOffset) ]

/-- A line shows a parameter of both PHYs under a name. -/
def RowShows (table : ParameterTable) (named : String × Parameter) (line : List Char) : Prop :=
  ∃ first second,
    ((table.get .phy0).get named.2).ShownAs first ∧
    ((table.get .phy1).get named.2).ShownAs second ∧
    line = columns named.1.toList first second

/-- A text shows a state: it is a table of the state, every line with its end. -/
def ShownAs (state : ControllerState) (output : String) : Prop :=
  ∃ rows : List (List Char),
    output.toList =
      withLineEnds ((titleLine state.mode state.channels).toList :: nameLine state.active :: rows) ∧
    List.Forall₂ (RowShows state.table) rowNames rows

/-- A table is not empty. -/
theorem ShownAs.ne_empty {state : ControllerState} {output : String} (shown : state.ShownAs output) :
    output ≠ "" := by
  obtain ⟨rows, table, -⟩ := shown
  rintro rfl
  simp [withLineEnds] at table

theorem toList_text (state : ControllerState) :
    state.text.toList = withLineEnds (state.lines.map String.toList) :=
  toList_join_lines state.lines

theorem toList_row (name first second : String) :
    (row name first second).toList = columns name.toList first.toList second.toList := by
  simp [row, columns, Text.alignLeft, Text.alignRight]

/-- The text of a state shows it. -/
theorem shownAs_text (state : ControllerState) : state.ShownAs state.text := by
  let cell (phy : Phy) (parameter : Parameter) : List Char :=
    Decimal.plain ((state.table.get phy).get parameter)
  refine ⟨rowNames.map fun named => columns named.1.toList (cell .phy0 named.2)
    (cell .phy1 named.2), ?_, ?_⟩
  · have title : "mode: " ++ state.mode.name ++ "  channels: rx=" ++
        toString state.channels.rx.toNat ++ " tx=" ++ toString state.channels.tx.toNat =
          titleLine state.mode state.channels := by
      cases state.mode <;> rfl
    have names : (row "" (state.mark .phy0 ++ Phy.phy0.name)
        (state.mark .phy1 ++ Phy.phy1.name)).toList = nameLine state.active := by
      rw [toList_row, mark, mark]
      cases state.active <;> rfl
    rw [toList_text, lines, List.map_cons, List.map_cons, title, names]
    simp only [Parameter.all, rowNames, List.map_cons, List.map_nil, toList_row, Binary64.text,
      String.toList_ofList, Parameter.name, cell]
  · rw [List.forall₂_map_right_iff, List.forall₂_same]
    exact fun named _ => ⟨_, _, Binary64.shownAs_plain _, Binary64.shownAs_plain _, rfl⟩

end ControllerState
end DualPhy
