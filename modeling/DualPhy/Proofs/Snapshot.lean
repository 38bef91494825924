import DualPhy.Proofs.ProfileText
import DualPhy.Proofs.SelectCommand

/-!
# Saved configurations

A snapshot is the profile of a state: it sets every parameter, so nothing of the state is left to
the stock values when it is loaded. The command that prints a profile prints the snapshot of what
the profile stands for. The main statement follows a configuration through the text and back, from
an accepted text or from a state, and says which states cannot be saved.
-/

namespace DualPhy

/-! ## Finite parameters -/

theorem ParameterSet.isFinite_initial (phy : Phy) (parameter : Parameter) :
    ((initial phy).get parameter).isFinite = true := by
  cases phy <;> cases parameter <;> decide +kernel

namespace ControllerState

/-- Whether every parameter of both PHYs is a finite number. -/
def IsFinite (state : ControllerState) : Prop :=
  ∀ phy parameter, ((state.table.get phy).get parameter).isFinite = true

/-- The first parameter, PHY 0 first and then in the order of declaration, that is a NaN or
infinite. -/
structure FirstInfinite (state : ControllerState) (phy : Phy) (parameter : Parameter) : Prop where
  /-- It is not finite. -/
  infinite : ((state.table.get phy).get parameter).isFinite = false
  /-- All before it are. -/
  first : ∃ front back, Profile.places = front ++ (phy, parameter) :: back ∧
    ∀ place ∈ front, ((state.table.get place.1).get place.2).isFinite = true

end ControllerState

/-! ## The snapshot of a state -/

theorem Overrides.resolve_ofParameters (parameters : ParameterSet) (phy : Phy) :
    (ofParameters parameters).resolve phy = parameters :=
  PerParameter.ext_get fun parameter => by simp [ofParameters, resolve]

namespace Profile

variable (state : ControllerState) (roles : PerRole String)

@[simp] theorem get_overrides_ofState (phy : Phy) (parameter : Parameter) :
    ((ofState state roles).overrides.get phy).get parameter =
      some ((state.table.get phy).get parameter) := by
  simp [ofState, Overrides.ofParameters]

/-- Nothing of a state is left to the stock values. -/
@[simp] theorem table_ofState : (ofState state roles).table = state.table := by
  have resolved : ∀ phy, ((ofState state roles).overrides.get phy).resolve phy =
      state.table.get phy := by
    intro phy
    rw [ofState, PerPhy.get_ofFn]
    exact Overrides.resolve_ofParameters _ phy
  rw [table, PerPhy.ofFn, resolved, resolved]
  rfl

/-- The snapshot of a state stands for that state, but for the PHY on air. -/
theorem state_ofState :
    (ofState state roles).state = { state with active := ControllerState.initial.active } := by
  rw [Profile.state, table_ofState]
  rfl

theorem offends_ofState_iff (phy : Phy) (parameter : Parameter) :
    (ofState state roles).Offends phy parameter ↔
      ((state.table.get phy).get parameter).isFinite = false := by
  simp [Offends]

variable {state}

/-- The snapshot of a state is finite if the state is. -/
theorem isFinite_ofState_iff : (ofState state roles).IsFinite ↔ state.IsFinite := by
  simp [All, Overrides.All, ControllerState.IsFinite]

theorem FirstOffence.of_ofState
    {roles : PerRole String}
    {phy : Phy}
    {parameter : Parameter}
    (offence : (ofState state roles).FirstOffence phy parameter) :
    state.FirstInfinite phy parameter := by
  obtain ⟨front, back, split, before⟩ := offence.first
  refine ⟨(offends_ofState_iff state roles phy parameter).mp offence.offends, front, back, split,
    fun place member => ?_⟩
  have sound := before place member
  rwa [offends_ofState_iff, Bool.not_eq_false] at sound

/-- A finite state is saved, and its snapshot is read back. -/
theorem parse_print_ofState
    [Json.Conversion]
    (correct : Json.Conversion.Correct)
    (finite : state.IsFinite) :
    ∃ text, (ofState state roles).print = .ok text ∧ parse text = .ok (ofState state roles) := by
  have finiteSnapshot := (isFinite_ofState_iff roles).mpr finite
  apply parse_print_of_readsBack finiteSnapshot
  intro phy parameter value set
  exact correct.readsBack (finiteSnapshot phy parameter value set)

/-- A state with a NaN or an infinite parameter is refused, and the first one is named. -/
theorem print_ofState_of_infinite (infinite : ¬ state.IsFinite) :
    ∃ phy parameter, state.FirstInfinite phy parameter ∧
      (ofState state roles).print = .error (.notFinite phy parameter) := by
  obtain ⟨phy, parameter, offence, refused⟩ :=
    checkFinite_of_not_finite (mt (isFinite_ofState_iff roles).mp infinite)
  refine ⟨phy, parameter, offence.of_ofState, ?_⟩
  rw [print, refused]
  rfl

/-- What a finite profile stands for is finite, since the stock values are. -/
theorem isFinite_state {profile : Profile} (finite : profile.IsFinite) :
    profile.state.IsFinite := by
  intro phy parameter
  simp only [Profile.state, table, PerPhy.get_ofFn, Overrides.resolve, PerParameter.get_ofFn]
  cases set : (profile.overrides.get phy).get parameter with
  | none => exact ParameterSet.isFinite_initial phy parameter
  | some value => exact finite phy parameter value set

/-! ## Loading -/

/-- Loaded into a controller in any state, a profile gives it the mode, the channels and the
parameters of a state. The PHY on air stays, and nothing is sent. So the plan of each target is
the one that belongs to the state. -/
def Restores (profile : Profile) (saved : ControllerState) : Prop :=
  ∀ (τ : Type) (controller : Controller τ),
    let report := profile.applyTo controller
    report.outcome = .done () ∧
      report.state =
        { controller with state := { saved with active := controller.state.active } } ∧
      report.events = [] ∧
      ∀ target, report.state.state.plan target = saved.plan target

theorem restores_ofState : (ofState state roles).Restores state := by
  intro τ controller
  have restored : (ofState state roles).applyTo controller =
      ⟨.done (),
        { controller with state := { state with active := controller.state.active } }, []⟩ := by
    rw [applyTo, table_ofState]
    rfl
  simp only [restored, true_and]
  intro target
  rfl

end Profile

/-! ## Printing a profile -/

namespace CommandLine

/-- The snapshot that is printed for a snapshot is the same one. -/
@[simp] theorem effective_effective (profile : Profile) :
    effective (effective profile) = effective profile := by
  rw [effective, effective, Profile.state_ofState]
  rfl

/-- The command that prints a profile prints this text and the end of a line. -/
structure Displays (profile : Profile) (text : String) : Prop where
  /-- This is all that it does with the profile. -/
  prints : ∀ (σ : Type) (start : σ),
    runPrintProfile profile start = ⟨.done (), start, [.print (text ++ "\n")]⟩
  /-- A run that goes by the profile prints it too. It leaves the flowgraph alone. -/
  runs : ∀ (τ : Type) [Transport τ] (surroundings : Surroundings) (settings : Settings)
      (transport : Tracked τ),
    Chosen surroundings settings profile →
      Report.Alike (run surroundings ⟨settings, .printProfile⟩ transport)
        ⟨.done (), transport, [.print (text ++ "\n")]⟩

theorem displays_of_print
    {profile : Profile}
    {text : String}
    (printed : (effective profile).print = .ok text) :
    Displays profile text := by
  have prints : ∀ (σ : Type) (start : σ),
      runPrintProfile profile start = ⟨.done (), start, [.print (text ++ "\n")]⟩ := by
    intro σ start
    rw [runPrintProfile, printed]
    rfl
  refine ⟨prints, fun τ _ surroundings settings transport chosen => ?_⟩
  obtain ⟨loaded, unchanged⟩ := chosen.chooseProfile transport
  rw [← prints (Tracked τ) transport]
  exact (silent_chooseProfile surroundings settings).bind_of_done loaded unchanged _

/-! ## The round trip -/

/-- With a correct conversion of numbers, the command that prints a profile gives for each
accepted text another one that stands for the same configuration, sets every parameter and is
printed as it is. A state with finite parameters is saved in a text from which every controller
is given that configuration, bit for bit. Any other state is not saved, and the message names the
first parameter that stands against it. -/
theorem snapshots_survive
    [Json.Conversion]
    (correct : Json.Conversion.Correct) :
    (∀ source profile, Profile.parse source = .ok profile →
        ∃ text shown, Displays profile text ∧
          Profile.parse text = .ok shown ∧
          shown.mode = profile.mode ∧
          shown.channels = profile.channels ∧
          shown.roles = profile.roles ∧
          shown.table = profile.table ∧
          (∀ phy parameter, ((shown.overrides.get phy).get parameter).isSome = true) ∧
          Displays shown text) ∧
      (∀ state roles, state.IsFinite →
        ∃ text loaded, (Profile.ofState state roles).print = .ok text ∧
          Profile.parse text = .ok loaded ∧
          loaded.roles = roles ∧
          loaded.Restores state) ∧
      (∀ state roles, ¬ state.IsFinite →
        ∃ phy parameter problem, state.FirstInfinite phy parameter ∧
          (Profile.ofState state roles).print = .error problem ∧
          problem.message =
            "phys[" ++ toString phy.index ++ "]." ++ parameter.key ++
              " is not a finite number") := by
  refine ⟨fun source profile accepted => ?_, fun state roles finite => ?_,
    fun state roles infinite => ?_⟩
  · have finite := Profile.isFinite_state (Profile.isFinite_of_parse accepted)
    obtain ⟨text, printed, readBack⟩ :=
      Profile.parse_print_ofState profile.roles correct finite
    refine ⟨text, effective profile, displays_of_print printed, readBack, rfl, rfl, rfl,
      Profile.table_ofState _ _, fun phy parameter => ?_, displays_of_print ?_⟩
    · rw [effective, Profile.get_overrides_ofState]
      rfl
    · rw [effective_effective]
      exact printed
  · obtain ⟨text, printed, readBack⟩ := Profile.parse_print_ofState roles correct finite
    exact ⟨text, _, printed, readBack, rfl, Profile.restores_ofState roles⟩
  · obtain ⟨phy, parameter, first, refused⟩ :=
      Profile.print_ofState_of_infinite roles infinite
    exact ⟨phy, parameter, _, first, refused, rfl⟩

/-- A state in which the gain of PHY 0 is a NaN and a frequency of PHY 1 is infinite. -/
def unheard : ControllerState :=
  (ControllerState.initial.setParameter .phy1 .rxFrequency (.infinity true)).setParameter
    .phy0 .txGain (.quietNaN false)

/-- The text of a partial profile is printed in full, its state is saved, and of two parameters
that cannot be saved the one of PHY 0 is named. -/
theorem snapshots_survive_subdued :
    let parse := @Profile.parse Json.Conversion.nearest
    @Json.Conversion.Correct Json.Conversion.nearest ∧
      parse subduedText = .ok subdued ∧
      (∃ text shown, Displays subdued text ∧ parse text = .ok shown ∧
        shown.table = subdued.table ∧ Displays shown text) ∧
      subdued.state.IsFinite ∧
      (∃ text loaded, (Profile.ofState subdued.state subdued.roles).print = .ok text ∧
        parse text = .ok loaded ∧ loaded.Restores subdued.state) ∧
      ¬ unheard.IsFinite ∧
      ∃ problem, (Profile.ofState unheard Profile.stockRoles).print = .error problem ∧
        problem.message = "phys[0].tx_gain is not a finite number" := by
  intro parse
  have correct := Json.Conversion.correct_nearest
  have accepted : parse subduedText = .ok subdued := eq_ok_of_toOption (by decide +kernel)
  have finite : subdued.state.IsFinite :=
    Profile.isFinite_state (@Profile.isFinite_of_parse Json.Conversion.nearest _ _ accepted)
  have infinite : ¬ unheard.IsFinite := fun finite => by
    have gain := finite .phy0 .txGain
    revert gain
    decide
  obtain ⟨text, shown, displays, readBack, -, -, -, table, -, again⟩ :=
    (@snapshots_survive Json.Conversion.nearest correct).1 subduedText subdued accepted
  obtain ⟨saved, loaded, printed, read, -, restores⟩ :=
    (@snapshots_survive Json.Conversion.nearest correct).2.1 subdued.state subdued.roles finite
  obtain ⟨phy, parameter, problem, -, refused, -⟩ :=
    (@snapshots_survive Json.Conversion.nearest correct).2.2 unheard Profile.stockRoles infinite
  have named : (Profile.ofState unheard Profile.stockRoles).print.mapError ProfileError.message =
      .error "phys[0].tx_gain is not a finite number" := by
    decide +kernel
  rw [refused] at named
  exact ⟨correct, accepted, ⟨text, shown, displays, readBack, table, again⟩, finite,
    ⟨saved, loaded, printed, read, restores⟩, infinite, problem, refused,
    Except.error.inj named⟩

end CommandLine
end DualPhy
