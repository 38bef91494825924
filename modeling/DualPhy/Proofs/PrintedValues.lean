import DualPhy.Proofs.Assignments
import DualPhy.Proofs.SelectCommand
import DualPhy.Proofs.ValueText

/-!
# Printed values read back

Every value is shown by its shortest digits without an exponent. Such a text is a number that the
value is nearest to, so that an assignment of it sets exactly the value that was shown. A NaN is
read as some NaN.
-/

namespace DualPhy

/-! ## Assignments of printed values -/

namespace Assignment

/-- The text that assigns a value as it is shown. -/
def text (assignment : Assignment) : String :=
  assignment.parameter.name ++ "=" ++ assignment.value.text

theorem toList_text (assignment : Assignment) :
    assignment.text.toList =
      assignment.parameter.name.toList ++ '=' :: Decimal.plain assignment.value := by
  simp [text, Binary64.text]

/-- The text of an assignment is read as the parameter with what its value denotes. -/
theorem read_text
    {parameter : Parameter}
    {value shown : Binary64}
    (denotes : Decimal.Denotes (Decimal.plain value) shown) :
    read (text ⟨parameter, value⟩).toList = .ok ⟨parameter, shown⟩ := by
  have dark : ∀ letter ∈ parameter.name.toList, Text.isBlank letter = false :=
    Decimal.dark_of_all (by cases parameter <;> decide)
  have name : '=' ∉ parameter.name.toList ∧
      Parameter.normalize parameter.name.toList = parameter.name.toList := by
    cases parameter <;> decide
  rw [toList_text, read_eq_ok_iff]
  exact ⟨_, _, _, _, ⟨rfl, name.1⟩, Text.trim_eq_iff.mp (Text.trim_of_no_blank dark),
    Text.trim_eq_iff.mp (Text.trim_of_no_blank (Decimal.dark_plain value)), name.2, denotes⟩

/-- Every name starts with a letter. -/
theorem toList_text_ne_dash (assignment : Assignment) (rest : List Char) :
    assignment.text.toList ≠ '-' :: rest := by
  rw [toList_text]
  cases assignment.parameter <;> nofun

end Assignment

/-! ## Assignments on the command line -/

namespace CommandLine

/-- The arguments that set parameters. -/
def setArguments (assignments : List Assignment) : List String :=
  assignments.flatMap fun assignment => ["--set", assignment.text]

/-- An assignment is taken in as the next one. -/
def intakeAssignment : Intake Selection :=
  accept (fun text => (Assignment.read text).toOption) fun assignment selection =>
    { selection with assignments := selection.assignments ++ [assignment] }

/-- An option with an assignment is held back, once what was held back before is settled. -/
theorem scanAll_set
    {scan settled : Scan Selection}
    (settles : scan.settle = .ok settled)
    (optionsGoOn : scan.optionsEnded = false)
    (stillGoOn : settled.optionsEnded = false)
    (assignment : Assignment)
    (rest : List String) :
    selectGrammar.scanAll scan ("--set" :: assignment.text :: rest) =
      selectGrammar.scanAll
        { settled with held := some ⟨"set", true, intakeAssignment, some assignment.text.toList⟩ }
        rest := by
  have first : selectGrammar.scanArgument scan "--set" =
      .ok { settled with held := some ⟨"set", true, intakeAssignment, none⟩ } := by
    rw [Grammar.scanArgument, optionsGoOn]
    change selectGrammar.scanLong scan ['s', 'e', 't'] = _
    change scan.giveValue "set" true intakeAssignment none = _
    rw [Scan.giveValue, Scan.hold, settles]
    rfl
  have second : selectGrammar.scanArgument
      { settled with held := some ⟨"set", true, intakeAssignment, none⟩ } assignment.text =
        .ok { settled with
          held := some ⟨"set", true, intakeAssignment, some assignment.text.toList⟩ } := by
    have noDash := assignment.toList_text_ne_dash
    rw [Grammar.scanArgument, stillGoOn, if_neg Bool.false_ne_true]
    split
    case h_5 => rfl
    all_goals exact absurd (by assumption) (noDash _)
  have none : ∀ (scan : Scan Selection) (argument : String),
      ¬ selectGrammar.startsSubcommand scan argument = true := by
    intro scan argument
    simp [Grammar.startsSubcommand, selectGrammar]
  rw [Grammar.scanAll, if_neg (none _ _), first]
  dsimp only [bind, Except.bind]
  rw [Grammar.scanAll, if_neg (none _ _), second]
  rfl

/-- Held back and settled, an assignment is the last one of the selection. -/
theorem settle_set
    (settled : Scan Selection)
    {assignment : Assignment}
    (read : Assignment.read assignment.text.toList = .ok assignment) :
    Scan.settle
        { settled with
          held := some ⟨"set", true, intakeAssignment, some assignment.text.toList⟩ } =
      .ok { settled with
        settings :=
          { settled.settings with assignments := settled.settings.assignments ++ [assignment] }
        given := "set" :: settled.given
        held := none } := by
  have taken : intakeAssignment assignment.text.toList = .ok fun selection =>
      { selection with assignments := selection.assignments ++ [assignment] } := by
    rw [intakeAssignment, accept, read]
    rfl
  rw [Scan.settle]
  simp only [taken, Bool.not_true, Bool.and_false, Bool.false_eq_true, if_false]
  rfl

/-- Arguments that set parameters add their assignments to the selection, in order. -/
theorem scanAll_setArguments
    {assignments : List Assignment}
    (readable : ∀ assignment ∈ assignments,
      Assignment.read assignment.text.toList = .ok assignment)
    {scan settled : Scan Selection}
    (settles : scan.settle = .ok settled)
    (optionsGoOn : scan.optionsEnded = false)
    (stillGoOn : settled.optionsEnded = false) :
    ∃ last final, selectGrammar.scanAll scan (setArguments assignments) = .ok ⟨last, none⟩ ∧
      last.settle = .ok final ∧ final.ahead = settled.ahead ∧
      final.settings =
        { settled.settings with assignments := settled.settings.assignments ++ assignments } := by
  induction assignments generalizing scan settled with
  | nil => exact ⟨scan, settled, rfl, settles, rfl, by rw [List.append_nil]⟩
  | cons first rest inductionHypothesis =>
      rw [List.forall_mem_cons] at readable
      obtain ⟨last, final, scanned, settledLast, ahead, settings⟩ :=
        inductionHypothesis readable.2 (settle_set settled readable.1) stillGoOn
          stillGoOn
      refine ⟨last, final, ?_, settledLast, ahead, ?_⟩
      · exact (scanAll_set settles optionsGoOn stillGoOn first _).trans scanned
      · rw [settings, List.append_assoc]
        rfl

/-- How far the arguments of a selection are read behind the number of the PHY. -/
theorem scanAll_phy (phy : Phy) (rest : List String) :
    ∃ scan, scan.settle = .ok ⟨⟨phy, []⟩, ["phy"], none, [], false⟩ ∧
      scan.optionsEnded = false ∧
      selectGrammar.scan (toString phy.index :: rest) = selectGrammar.scanAll scan rest := by
  cases phy <;> exact ⟨_, rfl, rfl, rfl⟩

/-- The arguments of a selection whose assignments are read back. -/
theorem parse_select
    (phy : Phy)
    {assignments : List Assignment}
    (readable : ∀ assignment ∈ assignments,
      Assignment.read assignment.text.toList = .ok assignment) :
    parse ("select" :: toString phy.index :: setArguments assignments) =
      .ok ⟨settingsGrammar.start, .select ⟨phy, assignments⟩⟩ := by
  obtain ⟨scan, settles, goesOn, start⟩ := scanAll_phy phy (setArguments assignments)
  obtain ⟨last, final, scanned, settled, ahead, settings⟩ :=
    scanAll_setArguments readable settles goesOn rfl
  have selection : selectGrammar.parse (toString phy.index :: setArguments assignments) =
      .ok ⟨phy, assignments⟩ := by
    rw [Grammar.parse, start, scanned]
    simp only [bind, Except.bind, settled, ahead, settings, List.isEmpty_nil, if_true,
      List.nil_append]
    rfl
  have subcommand : settingsGrammar.scan
      ("select" :: toString phy.index :: setArguments assignments) =
        .ok ⟨⟨settingsGrammar.start, [], none, [], false⟩,
          some ("select", toString phy.index :: setArguments assignments)⟩ := rfl
  rw [parse, subcommand]
  simp only [bind, Except.bind, parseSubcommand, selection, Scan.settle]
  rfl

end CommandLine

/-! ## What shows a value -/

namespace Controller

/-- A pending change is logged with the value. -/
theorem events_setParameter
    (controller : Controller τ)
    (phy : Phy)
    (parameter : Parameter)
    (value : Binary64) :
    (setParameter phy.index parameter value controller).events =
      [.log ⟨.controller, .debug, "PHY " ++ toString phy.index ++ " " ++ parameter.name ++ " = " ++
        value.text ++ " (pending)"⟩] := by
  cases phy <;> rfl

/-- What was shown behind a bar is shown by the operation with the bar, if it succeeds. -/
theorem events_of_withBar_done
    {run : GuidedRun τ α}
    {total : UInt64}
    {template label : String}
    {controller : Controller (Tracked τ)}
    {value : α}
    (done : (withBar total template label run controller).outcome = .done value) :
    ∃ behind, (run behind).outcome = .done value ∧
      ∀ event ∈ (run behind).events,
        event ∈ (withBar total template label run controller).events := by
  obtain ⟨_, -, attempted, first⟩ := Act.exists_of_bind_done done
  obtain ⟨result, ran, closed, second⟩ := Act.exists_of_bind_done attempted
  obtain ⟨_, -, given, -⟩ := Act.exists_of_bind_done closed
  generalize (tryOnBars (Tracked.onBars fun bars => bars.create barId total template label)
    controller).state = behind at *
  refine ⟨behind, ?_, fun event member => ?_⟩
  · cases result with
    | error error => cases given
    | ok found =>
        cases given
        rwa [Act.outcome_attempt, Outcome.attempt_eq_ok_iff] at ran
  · rw [withBar, first, second]
    exact List.mem_append_right _ (List.mem_append_left _ member)

end Controller

namespace CommandLine

/-- A parameter that was sent at once is logged with the value. -/
theorem events_runTune
    [Transport τ]
    {tuning : Tuning}
    {controller : Controller (Tracked τ)}
    (sent : (runTune tuning controller).outcome = .done ()) :
    .log ⟨.program, .info, tuning.parameter.identifier ++ " = " ++ tuning.value.text ++ " sent"⟩ ∈
      (runTune tuning controller).events := by
  obtain ⟨behind, done, shown⟩ := Controller.events_of_withBar_done sent
  obtain ⟨_, -, -, events⟩ := Act.exists_of_bind_done done
  apply shown
  rw [events]
  exact List.mem_append_right _ (List.mem_singleton.mpr rfl)

end CommandLine

/-! ## The round trip -/

/-- The assignments of all parameters. -/
def ParameterSet.assignments (parameters : ParameterSet) : List Assignment :=
  Parameter.all.map fun parameter => ⟨parameter, parameters.get parameter⟩

/-- Assigning all parameters gives all of them, whatever they were before. -/
theorem ParameterSet.assigned_assignments (before parameters : ParameterSet) :
    assigned before parameters.assignments = parameters := by
  refine PerParameter.ext_get fun parameter => ?_
  rw [assigned, PerParameter.get_ofFn]
  cases parameter <;> rfl

/-- An assignment without a NaN is read back from its text. -/
theorem Assignment.read_text_self
    {assignment : Assignment}
    (number : assignment.value.isNaN = false) :
    read assignment.text.toList = .ok assignment :=
  read_text (Decimal.denotes_plain number)

/-- The text that is shown for a value sets every parameter to exactly that value, or to a NaN if
the value is one. So does every sequence of options to set parameters. The line for a pending
change and the line for what was sent at once show that text, and so does the table, from which
all parameters of a PHY can be given back. -/
theorem printed_values_read_back
    [Transport τ]
    (parameter : Parameter)
    (value : Binary64) :
    (value.isNaN = false →
        Assignment.read (parameter.name ++ "=" ++ value.text).toList =
          .ok ⟨parameter, value⟩) ∧
      (value.isNaN = true → ∃ nan : Binary64, nan.isNaN = true ∧
        Assignment.read (parameter.name ++ "=" ++ value.text).toList = .ok ⟨parameter, nan⟩) ∧
      (∀ (phy : Phy) (assignments : List Assignment),
        (∀ assignment ∈ assignments, assignment.value.isNaN = false) →
        CommandLine.parse ("select" :: toString phy.index ::
            assignments.flatMap fun assignment =>
              ["--set", assignment.parameter.name ++ "=" ++ assignment.value.text]) =
          .ok ⟨CommandLine.settingsGrammar.start, .select ⟨phy, assignments⟩⟩) ∧
      (∀ (phy : Phy) (controller : Controller τ),
        (Controller.setParameter phy.index parameter value controller).events =
          [.log ⟨.controller, .debug, "PHY " ++ toString phy.index ++ " " ++ parameter.name ++
            " = " ++ value.text ++ " (pending)"⟩]) ∧
      (∀ (sent : Immediate) (channel : UInt32) (controller : Controller (Tracked τ)),
        (CommandLine.runTune ⟨sent, value, channel⟩ controller).outcome = .done () →
          .log ⟨.program, .info, sent.identifier ++ " = " ++ value.text ++ " sent"⟩ ∈
            (CommandLine.runTune ⟨sent, value, channel⟩ controller).events) ∧
      ∀ (phy : Phy) (controller : Controller (Tracked τ)),
        let state := controller.state
        (CommandLine.printState controller).events = [.print state.text] ∧
          ControllerState.row parameter.name ((state.table.get .phy0).get parameter).text
            ((state.table.get .phy1).get parameter).text ∈ state.lines ∧
          ∀ other : ControllerState,
            (other.assign phy (state.table.get phy).assignments).table.get phy =
              state.table.get phy := by
  refine ⟨fun number => Assignment.read_text (Decimal.denotes_plain number),
    fun nan => ⟨.quietNaN false, rfl, Assignment.read_text (Decimal.denotes_plain_of_isNaN nan)⟩,
    fun phy assignments numbers => ?_,
    fun phy controller => controller.events_setParameter phy parameter value,
    fun sent channel controller => CommandLine.events_runTune,
    fun phy controller => ⟨rfl, ?_, fun other => ?_⟩⟩
  · exact CommandLine.parse_select phy fun assignment member =>
      Assignment.read_text_self (numbers assignment member)
  · refine List.mem_cons_of_mem _ (List.mem_cons_of_mem _ (List.mem_map.mpr ⟨parameter, ?_, rfl⟩))
    cases parameter <;> decide
  · rw [ControllerState.assign, PerPhy.get_set, if_pos rfl,
      ParameterSet.assigned_assignments]

/-- The smallest value with a minus sign, and a NaN. The controller has all roles and has every
call accepted. -/
theorem printed_values_read_back_smallest :
    let smallest : Binary64 := ⟨true, 1⟩
    let nan : Binary64 := .quietNaN true
    let radio : Controller Scripted :=
      .fresh "http://radio" ⟨.ofFn fun role => some role.key⟩ ⟨.error .crash, ⟨[], []⟩, 0⟩
    Assignment.read (Parameter.rxGain.name ++ "=" ++ smallest.text).toList =
        .ok ⟨.rxGain, smallest⟩ ∧
      (∃ read : Binary64, read.isNaN = true ∧
        Assignment.read (Parameter.rxGain.name ++ "=" ++ nan.text).toList = .ok ⟨.rxGain, read⟩) ∧
      CommandLine.parse ["select", "1", "--set", "rx-gain" ++ "=" ++ smallest.text] =
        .ok ⟨CommandLine.settingsGrammar.start, .select ⟨.phy1, [⟨.rxGain, smallest⟩]⟩⟩ ∧
      .log ⟨.program, .info, "RxGain" ++ " = " ++ smallest.text ++ " sent"⟩ ∈
        (CommandLine.runTune ⟨.rxGain, smallest, 0⟩ (radio.tracked .empty)).events := by
  intro smallest nan radio
  have sent : (CommandLine.runTune ⟨.rxGain, smallest, 0⟩ (radio.tracked .empty)).outcome =
      .done () := by
    decide +kernel
  obtain ⟨readBack, -, parsed, -, shown, -⟩ :=
    printed_values_read_back (τ := Scripted) .rxGain smallest
  obtain ⟨-, readNaN, -⟩ := printed_values_read_back (τ := Scripted) .rxGain nan
  exact ⟨readBack (by decide), readNaN (by decide),
    parsed .phy1 [⟨.rxGain, smallest⟩] (by decide),
    shown .rxGain 0 (radio.tracked .empty) sent⟩

end DualPhy
