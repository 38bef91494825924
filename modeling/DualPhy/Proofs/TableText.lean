import DualPhy.Proofs.Addresses
import DualPhy.Proofs.Assignments
import DualPhy.Proofs.StateTable

/-!
# What the table of the state tells

The columns of the table have no separators, and a wide value of PHY 0 moves what follows. Still
the table tells the state that it shows: a cell of PHY 1 that fits its column is as wide as the
column, so that a row ends with it, and what is left behind the name is the cell of PHY 0. A cell
gives its value back, but for the payload of a NaN.
-/

namespace DualPhy

/-! ## Cells -/

namespace Text

/-- A cell without spaces is determined by what stands in its column. -/
theorem alignRight_inj
    {width : Nat}
    {first second : List Char}
    (dark : ' ' ∉ first)
    (otherDark : ' ' ∉ second)
    (same : alignRight width first = alignRight width second) :
    first = second := by
  have kept : ∀ cell : List Char, ' ' ∉ cell →
      (alignRight width cell).filter (· != ' ') = cell := by
    intro cell dark
    have letters : ∀ letter ∈ cell, (letter != ' ') = true := by
      intro letter member
      rw [bne_iff_ne]
      rintro rfl
      exact dark member
    simp [alignRight, List.filter_eq_self.mpr letters]
  rw [← kept first dark, same, kept second otherDark]

/-- A cell that fits its column is as wide as the column. -/
theorem length_alignRight
    {width : Nat}
    {cell : List Char}
    (fits : cell.length ≤ width) :
    (alignRight width cell).length = width := by
  rw [alignRight, List.length_append, List.length_replicate, Nat.sub_add_cancel fits]

end Text

namespace Binary64

theorem read_plain {value : Binary64} (number : value.isNaN = false) :
    read (Decimal.plain value) = .ok value :=
  read_eq_ok_iff.mpr (Decimal.denotes_plain number)

theorem read_plain_of_isNaN {value : Binary64} (nan : value.isNaN = true) :
    read (Decimal.plain value) = .ok (.quietNaN false) :=
  read_eq_ok_iff.mpr (Decimal.denotes_plain_of_isNaN nan)

/-- The text of a value tells the value, but for the payload of a NaN. -/
theorem text_eq_iff {first second : Binary64} :
    first.text = second.text ↔ first.Same second := by
  constructor
  · intro sameText
    have same : read (Decimal.plain first) = read (Decimal.plain second) :=
      congrArg read (String.ofList_injective sameText)
    cases kind : first.isNaN <;> cases otherKind : second.isNaN
    case false.false =>
      rw [read_plain kind, read_plain otherKind] at same
      exact .inl (Except.ok.inj same)
    case false.true =>
      rw [read_plain kind, read_plain_of_isNaN otherKind] at same
      rw [Except.ok.inj same] at kind
      cases kind
    case true.false =>
      rw [read_plain_of_isNaN kind, read_plain otherKind] at same
      rw [← Except.ok.inj same] at otherKind
      cases otherKind
    case true.true => exact .inr ⟨kind, otherKind⟩
  · rintro (rfl | ⟨nan, otherNaN⟩)
    · rfl
    · rw [text, text, Decimal.plain, Decimal.plain, if_pos nan, if_pos otherNaN]

end Binary64

namespace ControllerState

/-! ## The rows -/

/-- The cells of the parameters of PHY 1 fit their column. -/
def Fits (state : ControllerState) : Prop :=
  ∀ parameter, ((state.table.get .phy1).get parameter).text.length ≤ 18

/-- Two states are the same, but for the payloads of NaNs. -/
structure Resembles (first second : ControllerState) : Prop where
  /-- The same PHY is on air. -/
  active : first.active = second.active
  /-- The tuning mode is the same. -/
  mode : first.mode = second.mode
  /-- So are the channels. -/
  channels : first.channels = second.channels
  /-- Every parameter of both PHYs has the same value, or neither value is a number. -/
  parameters : ∀ phy parameter,
    ((first.table.get phy).get parameter).Same ((second.table.get phy).get parameter)

/-- States are the same but for NaNs if a parameter of both is set to values that are. -/
theorem resembles_setParameter
    (state : ControllerState)
    {phy : Phy}
    {parameter : Parameter}
    {first second : Binary64}
    (same : first.Same second) :
    (state.setParameter phy parameter first).Resembles
      (state.setParameter phy parameter second) := by
  refine ⟨rfl, rfl, rfl, fun other read => ?_⟩
  by_cases samePhy : other = phy
  · by_cases sameParameter : read = parameter
    · simpa [setParameter, samePhy, sameParameter] using same
    · exact .inl (by simp [setParameter, samePhy, sameParameter])
  · exact .inl (by simp [setParameter, samePhy])

/-- The first line, with mode and channels. -/
def modeLine (mode : TuningMode) (channels : Channels) : String :=
  "mode: " ++ mode.name ++ "  channels: rx=" ++ toString channels.rx.toNat ++
    " tx=" ++ toString channels.tx.toNat

/-- The second line, with the mark of the active PHY. -/
def headRow (active : Phy) : String :=
  row "" ((if active = .phy0 then "*" else " ") ++ Phy.phy0.name)
    ((if active = .phy1 then "*" else " ") ++ Phy.phy1.name)

/-- The line of a parameter. -/
def parameterRow (table : ParameterTable) (parameter : Parameter) : String :=
  row parameter.name ((table.get .phy0).get parameter).text
    ((table.get .phy1).get parameter).text

theorem lines_eq (state : ControllerState) :
    state.lines = modeLine state.mode state.channels :: headRow state.active ::
      Parameter.all.map (parameterRow state.table) := rfl

theorem toList_modeLine (mode : TuningMode) (channels : Channels) :
    (modeLine mode channels).toList =
      "mode: ".toList ++ (mode.name.toList ++ ("  channels: rx=".toList ++
        (Nat.toDigits 10 channels.rx.toNat ++ " tx".toList) ++
          '=' :: Nat.toDigits 10 channels.tx.toNat)) := by
  simp [modeLine]

/-- The names of the modes differ in their first letter, and the last equals sign stands in front
of the second channel. -/
theorem modeLine_inj
    {mode other : TuningMode}
    {channels otherChannels : Channels}
    (same : modeLine mode channels = modeLine other otherChannels) :
    mode = other ∧ channels = otherChannels := by
  have chars := congrArg String.toList same
  rw [toList_modeLine, toList_modeLine] at chars
  replace chars := List.append_cancel_left chars
  have sameMode : mode = other := by
    cases mode <;> cases other <;> simp [TuningMode.name] at chars ⊢
  subst sameMode
  obtain ⟨fronts, transmitters⟩ := eq_of_append_separator_eq
    (not_mem_toDigits (by decide) _) (not_mem_toDigits (by decide) _)
    (List.append_cancel_left chars)
  have receivers := List.append_cancel_right (List.append_cancel_left fronts)
  refine ⟨rfl, ?_⟩
  cases channels
  cases otherChannels
  exact congrArg₂ Channels.mk (UInt32.toNat.inj (eq_of_toDigits_eq receivers))
    (UInt32.toNat.inj (eq_of_toDigits_eq transmitters))

theorem headRow_inj {active other : Phy} (same : headRow active = headRow other) :
    active = other := by
  have rows : ∀ first ∈ Phy.all, ∀ second ∈ Phy.all,
      headRow first = headRow second → first = second := by
    decide
  exact rows active (by cases active <;> decide) other (by cases other <;> decide) same

/-- The text of a value contains no white space. -/
theorem not_mem_text {letter : Char} (blank : Text.isBlank letter = true) (value : Binary64) :
    letter ∉ value.text.toList := by
  intro member
  rw [Binary64.text, String.toList_ofList] at member
  rw [Decimal.dark_plain value letter member] at blank
  cases blank

/-- A row whose last cell fits its column tells what both cells show. -/
theorem row_inj
    {name : String}
    {first second other otherSecond : Binary64}
    (fits : second.text.length ≤ 18)
    (otherFits : otherSecond.text.length ≤ 18)
    (same : row name first.text second.text = row name other.text otherSecond.text) :
    first.Same other ∧ second.Same otherSecond := by
  have dark : ∀ value : Binary64, ' ' ∉ value.text.toList := not_mem_text rfl
  have width : ∀ value : Binary64, value.text.length ≤ 18 →
      (Text.alignRight 18 value.text.toList).length = 18 :=
    fun value fits => Text.length_alignRight fits
  obtain ⟨fronts, lasts⟩ := List.append_inj' (String.ofList_injective same)
    ((width second fits).trans (width otherSecond otherFits).symm)
  rw [← Binary64.text_eq_iff, ← Binary64.text_eq_iff]
  exact ⟨String.toList_injective (Text.alignRight_inj (dark _) (dark _)
      (List.append_cancel_left fronts)),
    String.toList_injective (Text.alignRight_inj (dark _) (dark _) lasts)⟩

/-! ## The table -/

theorem not_mem_modeLine (mode : TuningMode) (channels : Channels) :
    '\n' ∉ (modeLine mode channels).toList := by
  have name : '\n' ∉ mode.name.toList := by cases mode <;> decide
  have digits : ∀ number, '\n' ∉ Nat.toDigits 10 number := not_mem_toDigits (by decide)
  simp [toList_modeLine, name, digits]

theorem not_mem_parameterRow (table : ParameterTable) (parameter : Parameter) :
    '\n' ∉ (parameterRow table parameter).toList := by
  have name : '\n' ∉ parameter.name.toList := by cases parameter <;> decide
  have cell : ∀ value : Binary64, '\n' ∉ value.text.toList := not_mem_text rfl
  simp [parameterRow, row, Text.alignLeft, Text.alignRight, name, cell]

/-- No line of the table contains a line end. -/
theorem not_mem_line (state : ControllerState) :
    ∀ line ∈ state.lines.map String.toList, '\n' ∉ line := by
  rw [lines_eq, List.forall_mem_map]
  refine List.forall_mem_cons.mpr ⟨not_mem_modeLine _ _, List.forall_mem_cons.mpr ⟨?_, ?_⟩⟩
  · cases state.active <;> decide
  · exact List.forall_mem_map.mpr fun parameter _ => not_mem_parameterRow state.table parameter

theorem text_inj {first second : ControllerState} :
    first.text = second.text ↔ first.lines = second.lines := by
  constructor
  · intro same
    have chars : withLineEnds (first.lines.map String.toList) =
        withLineEnds (second.lines.map String.toList) := by
      rw [← toList_text, ← toList_text, same]
    exact List.map_injective_iff.mpr (fun _ _ => String.toList_injective)
      (withLineEnds_inj first.not_mem_line second.not_mem_line chars)
  · intro same
    rw [text, text, same]

/-- Where the values of PHY 1 fit their column, the table tells the state that it shows: two states
have the same table exactly if they have the same PHY on air, the same tuning mode, the same
channels and the same parameters, but for the payloads of NaNs. -/
theorem text_tells_state
    {first second : ControllerState}
    (fits : first.Fits)
    (otherFits : second.Fits) :
    first.text = second.text ↔ first.Resembles second := by
  rw [text_inj, lines_eq, lines_eq, List.cons.injEq, List.cons.injEq, List.map_inj_left]
  constructor
  · rintro ⟨modeLines, headRows, rows⟩
    obtain ⟨mode, channels⟩ := modeLine_inj modeLines
    refine ⟨headRow_inj headRows, mode, channels, fun phy parameter => ?_⟩
    have cells := row_inj (fits parameter) (otherFits parameter)
      (rows parameter (by cases parameter <;> decide))
    cases phy with
    | phy0 => exact cells.1
    | phy1 => exact cells.2
  · rintro ⟨active, mode, channels, parameters⟩
    refine ⟨by rw [mode, channels], by rw [active], fun parameter _ => ?_⟩
    have cell := fun phy => Binary64.text_eq_iff.mpr (parameters phy parameter)
    rw [parameterRow, cell .phy0, cell .phy1, parameterRow]

/-- Next to the largest value, which is far wider than its column, the table shows the sign of a
zero of PHY 1, and it does not show which of two NaNs a value of PHY 0 is. -/
theorem text_tells_state_overflowing :
    let wide := initial.setParameter .phy0 .rxFrequency ⟨false, 0x7FEFFFFFFFFFFFFF⟩
    let signed := wide.setParameter .phy1 .txFrequencyOffset (.zero true)
    let nan := wide.setParameter .phy0 .txGain (.quietNaN false)
    let otherNaN := wide.setParameter .phy0 .txGain (.quietNaN true)
    wide.Fits ∧ signed.Fits ∧ nan.Fits ∧ otherNaN.Fits ∧
      wide.text ≠ signed.text ∧ nan.text = otherNaN.text ∧ nan ≠ otherNaN := by
  intro wide signed nan otherNaN
  have wideFits : wide.Fits := by
    intro parameter
    cases parameter <;> decide +kernel
  have signedFits : signed.Fits := by
    intro parameter
    cases parameter <;> decide +kernel
  have apart : ¬ wide.Resembles signed := by
    intro resembles
    rcases resembles.parameters .phy1 .txFrequencyOffset with same | ⟨none, -⟩
    · exact absurd same (by decide +kernel)
    · exact absurd none (by decide +kernel)
  have stillFits : ∀ value, (wide.setParameter .phy0 .txGain value).Fits := by
    intro value parameter
    simpa [setParameter] using wideFits parameter
  have noNumbers : (Binary64.quietNaN false).Same (.quietNaN true) := .inr ⟨rfl, rfl⟩
  have alike : nan.Resembles otherNaN := resembles_setParameter wide noNumbers
  exact ⟨wideFits, signedFits, stillFits _, stillFits _,
    fun same => apart ((text_tells_state wideFits signedFits).mp same),
    (text_tells_state (stillFits _) (stillFits _)).mpr alike, by decide +kernel⟩

end ControllerState
end DualPhy
