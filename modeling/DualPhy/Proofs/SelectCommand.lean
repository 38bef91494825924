import DualPhy.Proofs.Coverage
import DualPhy.Proofs.Discovery
import DualPhy.Proofs.Guidance
import DualPhy.Proofs.Silence
import DualPhy.Proofs.StateTable

/-!
# What the command to select does

The command loads a profile, finds the blocks, sets parameters and selects a PHY behind a bar.
The main statement follows it from the profile and the discovery document to the requests and
to standard output: the parameters of the PHY are those of the profile but for the last
assignment to each, the plan for them is sent up to the first refusal, and the state is printed
exactly when there is none. A strict run in which a role is missing makes no call at all.
-/

namespace DualPhy

/-! ## Repeated assignments -/

namespace Assignment

/-- The value of the last assignment to a parameter, if there is one. -/
def lastValue? (assignments : List Assignment) (parameter : Parameter) : Option Binary64 :=
  (assignments.filter fun assignment => assignment.parameter = parameter).getLast?.map value

@[simp] theorem lastValue?_nil (parameter : Parameter) : lastValue? [] parameter = none := rfl

/-- The first assignment counts unless there is a later one to the same parameter. -/
theorem lastValue?_cons
    (first : Assignment)
    (rest : List Assignment)
    (parameter : Parameter) :
    lastValue? (first :: rest) parameter =
      (lastValue? rest parameter).or
        (if first.parameter = parameter then some first.value else none) := by
  by_cases same : first.parameter = parameter
  · rw [lastValue?, List.filter_cons_of_pos (by simpa using same), List.getLast?_cons, if_pos same,
      lastValue?]
    cases (rest.filter fun assignment => assignment.parameter = parameter).getLast? <;> rfl
  · rw [lastValue?, List.filter_cons_of_neg (by simpa using same), if_neg same, Option.or_none,
      lastValue?]

end Assignment

namespace ParameterSet

/-- The parameters of which each that is assigned to has the last value assigned. -/
def assigned (parameters : ParameterSet) (assignments : List Assignment) : ParameterSet :=
  .ofFn fun parameter =>
    (Assignment.lastValue? assignments parameter).getD (parameters.get parameter)

@[simp] theorem assigned_nil (parameters : ParameterSet) : assigned parameters [] = parameters :=
  PerParameter.ext_get fun parameter => by simp [assigned]

theorem assigned_cons
    (parameters : ParameterSet)
    (first : Assignment)
    (rest : List Assignment) :
    assigned parameters (first :: rest) =
      assigned (parameters.set first.parameter first.value) rest := by
  refine PerParameter.ext_get fun parameter => ?_
  simp only [assigned, PerParameter.get_ofFn, PerParameter.get_set, Assignment.lastValue?_cons]
  cases Assignment.lastValue? rest parameter with
  | some value => rfl
  | none =>
      by_cases same : first.parameter = parameter
      · simp [same]
      · simp [same, Ne.symm same]

end ParameterSet

namespace ControllerState

/-- The state behind assignments to parameters of a PHY. -/
def assign (state : ControllerState) (phy : Phy) (assignments : List Assignment) :
    ControllerState :=
  { state with
    table := state.table.set phy (ParameterSet.assigned (state.table.get phy) assignments) }

theorem assign_nil (state : ControllerState) (phy : Phy) : state.assign phy [] = state := by
  rw [assign, ParameterSet.assigned_nil]
  cases phy <;> rfl

theorem assign_cons
    (state : ControllerState)
    (phy : Phy)
    (first : Assignment)
    (rest : List Assignment) :
    state.assign phy (first :: rest) =
      (state.setParameter phy first.parameter first.value).assign phy rest := by
  rw [assign, ParameterSet.assigned_cons]
  cases phy <;> rfl

end ControllerState

/-- Parameters of a PHY that are set one after the other. -/
theorem Controller.forEach_setParameter
    (controller : Controller τ)
    (phy : Phy)
    (assignments : List Assignment) :
    let setting : Run τ Unit := Act.forEach
      (fun assignment => setParameter phy.index assignment.parameter assignment.value) assignments
    (setting controller).outcome = .done () ∧
      (setting controller).state =
        { controller with state := controller.state.assign phy assignments } := by
  induction assignments generalizing controller with
  | nil =>
      rw [ControllerState.assign_nil]
      exact ⟨rfl, rfl⟩
  | cons first rest inductionHypothesis =>
      let state := controller.state.setParameter phy first.parameter first.value
      have set : (setParameter phy.index first.parameter first.value controller).outcome =
          .done () ∧
            (setParameter phy.index first.parameter first.value controller).state =
              { controller with state } := by
        simp [setParameter, modifyState, state]
      obtain ⟨outcome, left⟩ := inductionHypothesis { controller with state }
      rw [ControllerState.assign_cons]
      simp only [Act.forEach, Act.outcome_bind, Act.state_bind, set.1, set.2]
      exact ⟨outcome, left⟩

namespace CommandLine

/-- The profile that a run goes by: the stock one, or the one in the file that is named. -/
inductive Chosen (surroundings : Surroundings) (settings : Settings) : Profile → Prop
  /-- No file is named. -/
  | stock (unnamed : settings.profile = none) : Chosen surroundings settings .initial
  /-- A file is named, and its text is accepted. -/
  | file {path text : String} {profile : Profile}
      (named : settings.profile = some path)
      (read : surroundings.fileText path = .ok text)
      (accepted : Profile.parse text = .ok profile) :
      Chosen surroundings settings profile

theorem Chosen.chooseProfile
    {surroundings : Surroundings}
    {settings : Settings}
    {profile : Profile}
    (chosen : Chosen surroundings settings profile)
    (start : σ) :
    (chooseProfile surroundings settings start).outcome = .done profile ∧
      (chooseProfile surroundings settings start).state = start := by
  cases chosen with
  | stock unnamed => simp [CommandLine.chooseProfile, unnamed]
  | file named read accepted =>
      simp [CommandLine.chooseProfile, named, loadProfile, read, accepted]

section Runs

variable [Transport τ] {settings : Settings} {profile : Profile} {transport : τ}
  {document : Json} {blocks : List Block}

/-- Whether a run stops for want of a block. -/
def Refuses (settings : Settings) (resolution : Resolution) : Prop :=
  settings.strict = true ∧ resolution.missing ≠ []

/-- Discovery gives the blocks that are found, unless the run is strict and some are missing. -/
theorem discover_of_document
    (profile : Profile)
    (fetched : (Transport.get settings.url transport).outcome = .done document)
    (decoded : decodeBlocks document = .ok blocks) :
    let resolution := Resolution.resolve blocks profile.matchers
    let discovery := discover settings profile transport
    (Refuses settings resolution →
        discovery.outcome = .failed (.discoveryIncomplete resolution.missing)) ∧
      (¬ Refuses settings resolution → discovery.outcome = .done resolution) ∧
      discovery.state = (Transport.get settings.url transport).state := by
  intro resolution discovery
  obtain ⟨outcome, state⟩ := Survey.discover_of_document fetched decoded profile.matchers
  cases strict : settings.strict with
  | false =>
      refine ⟨fun refuses => ?_, fun _ => ?_, ?_⟩
      · simp [Refuses, strict] at refuses
      · simp [discovery, discover, outcome, strict, resolution]
      · simp [discovery, discover, outcome, state, strict]
  | true =>
      have checked : resolution.requireComplete =
          if resolution.missing = [] then .ok resolution
          else .error (.discoveryIncomplete resolution.missing) := by
        simp [Resolution.requireComplete, Resolution.isComplete]
      refine ⟨fun refuses => ?_, fun admits => ?_, ?_⟩
      · rw [if_neg refuses.2] at checked
        simp [discovery, discover, outcome, strict, resolution, checked]
      · have complete : resolution.missing = [] := by simpa [Refuses, strict] using admits
        rw [if_pos complete] at checked
        simp [discovery, discover, outcome, strict, resolution, checked]
      · simp [discovery, discover, outcome, state, strict]

/-- The controller of a run, to which the profile was applied. -/
def prepared (base : String) (resolution : Resolution) (profile : Profile) (transport : τ) :
    Controller τ :=
  { Controller.fresh base resolution transport with state := profile.state }

/-- What was done behind a bar is what was done without it, and the state is printed exactly
behind a success. -/
structure Shows
    (guided : Report ControllerError (Controller (Tracked τ)) Unit)
    (bare : Report ControllerError (Controller τ) Unit) : Prop where
  /-- They end in the same way. -/
  outcome : guided.outcome = bare.outcome
  /-- They leave the same controller, but for the bars. -/
  state : guided.state.untracked = bare.state
  /-- The state is printed behind a success, and nothing otherwise. -/
  printed : Event.printed guided.events =
    match bare.outcome with
    | .done () => bare.state.state.text
    | _ => ""

omit [Transport τ] in
/-- An act behind a bar that prints nothing, followed by the printing of the state. -/
theorem shows_bind_printState
    {guided : Controller.GuidedRun τ Unit}
    {bare : Controller.Run τ Unit}
    (mirrors : Controller.Mirrors guided bare)
    (silent : guided.Silent)
    (bars : Bars)
    (controller : Controller τ) :
    Shows ((guided >>= fun _ => printState) (controller.tracked bars)) (bare controller) := by
  have reflects := mirrors bars controller
  obtain ⟨behind, left⟩ := reflects.exists_bars
  have outcome := reflects.outcome
  have prints : ∀ after : Controller (Tracked τ), printState after =
      ⟨.done (), after, [.print after.state.text]⟩ := fun _ => rfl
  constructor
  case outcome =>
    rw [Act.outcome_bind, outcome]
    cases (bare controller).outcome <;> simp [prints]
  case state =>
    rw [Act.state_bind, outcome]
    cases (bare controller).outcome <;> simp [prints, left]
  case printed =>
    rw [silent.printed_bind, outcome]
    cases (bare controller).outcome <;> simp [prints, left]

/-- Setting parameters and selecting behind a bar is setting them and selecting. -/
theorem shows_runSelect
    (silent : Transport.Silent τ)
    (controller : Controller τ)
    (bars : Bars)
    (selection : Selection)
    (assigned : Controller τ)
    (assigns : assigned =
      { controller with
        state := controller.state.assign selection.phy selection.assignments }) :
    Shows (runSelect selection (controller.tracked bars))
      (Controller.selectPhy selection.phy assigned) := by
  obtain ⟨assigning, left⟩ := Controller.forEach_setParameter (controller.tracked bars)
    selection.phy selection.assignments
  have behind : (Act.forEach (fun assignment : Assignment => Controller.setParameter
      selection.phy.index assignment.parameter assignment.value) selection.assignments
        (controller.tracked bars)).state = assigned.tracked bars := by
    rw [left, assigns]
    rfl
  have alike := (Act.silent_forEach (fun _ => Controller.silent_setParameter _ _ _) _).bind_of_done
    assigning behind fun _ => Controller.selectWithBar selection.phy >>= fun _ => printState
  have shows := shows_bind_printState (Controller.mirrors_selectWithBar selection.phy)
    (Controller.silent_selectWithBar silent selection.phy) bars assigned
  exact ⟨alike.outcome.trans shows.outcome,
    (congrArg Controller.untracked alike.state).trans shows.state,
    alike.printed.trans shows.printed⟩

/-- Behind the choice of its profile, a run goes on to discovery. -/
theorem Chosen.run_select
    {surroundings : Surroundings}
    (chosen : Chosen surroundings settings profile)
    (selection : Selection)
    (tracked : Tracked τ) :
    Report.Alike (run surroundings ⟨settings, .select selection⟩ tracked)
      (((discover settings profile).mapError .controller >>= fun resolution =>
        withController settings.url resolution do
          profile.applyTo.mapError .controller
          work surroundings profile (.select selection)) tracked) :=
  (silent_chooseProfile surroundings settings).bind_of_done (chosen.chooseProfile tracked).1
    (chosen.chooseProfile tracked).2 _

/-- A run that discovery stops makes no call and prints nothing. -/
theorem run_select_of_refused
    (silent : Transport.Silent τ)
    {surroundings : Surroundings}
    (chosen : Chosen surroundings settings profile)
    (fetched : (Transport.get settings.url transport).outcome = .done document)
    (decoded : decodeBlocks document = .ok blocks)
    (refuses : Refuses settings (Resolution.resolve blocks profile.matchers))
    (selection : Selection) :
    Report.Alike
      (run surroundings ⟨settings, .select selection⟩ (Tracked.fresh transport Controller.barId))
      ⟨.failed (.controller
          (.discoveryIncomplete (Resolution.resolve blocks profile.matchers).missing)),
        Tracked.fresh (Transport.get settings.url transport).state Controller.barId, []⟩ := by
  let tracked : Tracked τ := .fresh transport Controller.barId
  obtain ⟨refused, -, found⟩ := discover_of_document profile
    (show (Transport.get settings.url tracked).outcome = .done document from fetched) decoded
  have discovered := congrArg (Outcome.mapError RunError.controller) (refused refuses)
  have quiet := (silent_discover (Tracked.silent silent) settings profile).mapError
    RunError.controller
  exact (chosen.run_select selection tracked).trans (quiet.bind_of_failed discovered found _)

/-- A run that discovery does not stop selects on the prepared controller. -/
theorem run_select_of_admitted
    (silent : Transport.Silent τ)
    {surroundings : Surroundings}
    (chosen : Chosen surroundings settings profile)
    (fetched : (Transport.get settings.url transport).outcome = .done document)
    (decoded : decodeBlocks document = .ok blocks)
    (admits : ¬ Refuses settings (Resolution.resolve blocks profile.matchers))
    (selection : Selection) :
    let selected := runSelect selection ((prepared settings.url
      (Resolution.resolve blocks profile.matchers) profile
      (Transport.get settings.url transport).state).tracked .empty)
    Report.Alike
      (run surroundings ⟨settings, .select selection⟩ (Tracked.fresh transport Controller.barId))
      ⟨selected.outcome.mapError .controller, selected.state.transport, selected.events⟩ := by
  intro selected
  let tracked : Tracked τ := .fresh transport Controller.barId
  obtain ⟨-, admitted, found⟩ := discover_of_document profile
    (show (Transport.get settings.url tracked).outcome = .done document from fetched) decoded
  have discovered := congrArg (Outcome.mapError RunError.controller) (admitted admits)
  have quiet := (silent_discover (Tracked.silent silent) settings profile).mapError
    RunError.controller
  exact (chosen.run_select selection tracked).trans (quiet.bind_of_done discovered found _)

end Runs

/-! ## The command -/

/-- The state that a selection asks for under a profile: mode and channels of the profile, its
parameters with the last assignment to each of the PHY selected, and that PHY on air. -/
def requested (profile : Profile) (selection : Selection) : ControllerState where
  active := selection.phy
  mode := profile.mode
  channels := profile.channels
  table := .ofFn fun phy =>
    let resolved := (profile.overrides.get phy).resolve phy
    if phy = selection.phy then resolved.assigned selection.assignments else resolved

theorem assign_eq_requested (profile : Profile) (selection : Selection) :
    { profile.state.assign selection.phy selection.assignments with active := selection.phy } =
      requested profile selection := by
  obtain ⟨phy, assignments⟩ := selection
  cases phy <;> rfl

/-- The requests that reached the transport of a run. -/
def posted (transport : Tracked (Recorded σ)) : List Post :=
  transport.inner.calls.map CallRecord.post

/-- What the command has to do with a controller that is connected, to bring about a state. -/
structure BringsAbout
    [Transport σ]
    (wanted : ControllerState)
    (connected : Controller (Recorded σ))
    (report : Report RunError (Tracked (Recorded σ)) Unit) : Prop where
  /-- It succeeds exactly if the whole plan is accepted. -/
  done_iff : report.outcome = .done () ↔ connected.Accepts (wanted.plan wanted.active)
  /-- If it succeeds, the whole plan was sent, and what is printed is the text of the state, a
  table that shows it. -/
  done : report.outcome = .done () →
    posted report.state =
        connected.posted ++ connected.endpoints.posts (wanted.plan wanted.active) ∧
      Event.printed report.events = wanted.text ∧
      wanted.ShownAs (Event.printed report.events)
  /-- If not, the plan stops somewhere, and it fails with the call there. The calls up to there
  were sent, that one if it has an address, and nothing is printed. -/
  stopped : report.outcome ≠ .done () →
    ∃ position call, connected.StopsAt (wanted.plan wanted.active) position call ∧
      report.outcome =
        ((connected.reply ((wanted.plan wanted.active).take position) call).mapError
          (.transportFailure call.operation)).mapError .controller ∧
      posted report.state =
        connected.posted ++
          connected.endpoints.posts ((wanted.plan wanted.active).take (position + 1)) ∧
      Event.printed report.events = ""
  /-- So something is printed exactly if it succeeds. -/
  prints_iff : Event.printed report.events ≠ "" ↔ report.outcome = .done ()

section Shown

variable [Transport σ] {connected : Controller (Recorded σ)} {state : ControllerState} {target : Phy}

/-- A state that a controller is given before a selection counts for the plan, and stays behind a
plan that is accepted. -/
theorem selectPhy_given_of_accepts (accepts : connected.Accepts (state.plan target)) :
    let selected := Controller.selectPhy target { connected with state }
    selected.outcome = .done () ∧
      selected.state.posted = connected.posted ++ connected.endpoints.posts (state.plan target) ∧
      selected.state.state = { state with active := target } := by
  have given : ({ connected with state } : Controller (Recorded σ)).Accepts (state.plan target) :=
    accepts
  obtain ⟨succeeds, left⟩ := given.selectPhy
  refine ⟨succeeds, ?_, ?_⟩
  · rw [left]
    exact Controller.posted_asked { connected with state } _
  · rw [left]
    rfl

theorem selectPhy_given_of_stopsAt
    {position : Nat}
    {call : Call}
    (stops : connected.StopsAt (state.plan target) position call) :
    let selected := Controller.selectPhy target { connected with state }
    selected.outcome =
        (connected.reply ((state.plan target).take position) call).mapError
          (.transportFailure call.operation) ∧
      selected.state.posted =
        connected.posted ++
          connected.endpoints.posts ((state.plan target).take (position + 1)) := by
  have given : ({ connected with state } : Controller (Recorded σ)).StopsAt (state.plan target)
      position call := ⟨stops.found, stops.before, stops.refused⟩
  obtain ⟨fails, left⟩ := given.selectPhy
  refine ⟨fails, ?_⟩
  rw [left]
  exact Controller.posted_asked { connected with state } _

variable
  {guided : Report ControllerError (Controller (Tracked (Recorded σ))) Unit}
  {bare : Report ControllerError (Controller (Recorded σ)) Unit}
  {report : Report RunError (Tracked (Recorded σ)) Unit}

omit [Transport σ] in
/-- What a run says that ends with what was done behind a bar. -/
theorem Shows.reported
    (shows : Shows guided bare)
    (alike : Report.Alike report
      ⟨guided.outcome.mapError .controller, guided.state.transport, guided.events⟩) :
    report.outcome = bare.outcome.mapError .controller ∧
      posted report.state = bare.state.posted ∧
      Event.printed report.events =
        match bare.outcome with
        | .done () => bare.state.state.text
        | _ => "" := by
  have outcome : report.outcome = guided.outcome.mapError .controller := alike.outcome
  refine ⟨outcome.trans (by rw [shows.outcome]), ?_, alike.printed.trans shows.printed⟩
  rw [posted, alike.state, Controller.posted, ← shows.state]
  rfl

/-- A run that shows a selection by the connected controller brings about the state that it was
given, with the target on air. -/
theorem bringsAbout_of_shows
    (shows : Shows guided (Controller.selectPhy target { connected with state }))
    (alike : Report.Alike report
      ⟨guided.outcome.mapError .controller, guided.state.transport, guided.events⟩) :
    BringsAbout { state with active := target } connected report := by
  obtain ⟨outcome, sent, printed⟩ := shows.reported alike
  rcases Controller.accepts_or_stopsAt connected (state.plan target) with
    accepts | ⟨position, call, stops⟩
  · obtain ⟨succeeds, posts, left⟩ := selectPhy_given_of_accepts accepts
    rw [succeeds] at outcome
    rw [succeeds, left] at printed
    have shown : ControllerState.ShownAs { state with active := target }
        (Event.printed report.events) := printed ▸ ControllerState.shownAs_text _
    exact
      { done_iff := iff_of_true outcome accepts
        done := fun _ => ⟨sent.trans posts, printed, shown⟩
        stopped := fun undone => absurd outcome undone
        prints_iff := iff_of_true shown.ne_empty outcome }
  · obtain ⟨fails, posts⟩ := selectPhy_given_of_stopsAt stops
    rw [fails] at outcome
    have undone : report.outcome ≠ .done () := by
      rw [outcome, Ne, Outcome.mapError_eq_done_iff, Outcome.mapError_eq_done_iff]
      exact stops.refused
    have unprinted : Event.printed report.events = "" := by
      rw [printed, fails]
      cases answered : connected.reply ((state.plan target).take position) call with
      | done value => exact absurd answered stops.refused
      | failed error => rfl
      | crashed => rfl
    exact
      { done_iff := iff_of_false undone stops.not_accepts
        done := fun done => absurd done undone
        stopped := fun _ => ⟨position, call, stops, outcome, sent.trans posts, unprinted⟩
        prints_iff := iff_of_false (not_not.mpr unprinted) undone }

end Shown

/-- Behind a discovery document that can be read, the command sends the plan for the state that
is asked for up to the first refusal, and prints that state exactly if there is none. A strict
run in which a role is missing names the missing ones instead, those for which no block has the
instance name, and makes no call. -/
theorem select_brings_about_request
    [Transport σ]
    (silent : Transport.Silent σ)
    (surroundings : Surroundings)
    (settings : Settings)
    (selection : Selection)
    (profile : Profile)
    (chosen : Chosen surroundings settings profile)
    (transport : Recorded σ)
    (document : Json)
    (blocks : List Block)
    (fetched : (Transport.get settings.url transport).outcome = .done document)
    (decoded : decodeBlocks document = .ok blocks) :
    let resolution := Resolution.resolve blocks profile.matchers
    let report := run surroundings ⟨settings, .select selection⟩
      (Tracked.fresh transport Controller.barId)
    (∀ role, role ∈ resolution.missing ↔
        ∀ block ∈ blocks, block.instanceName ≠ profile.roles.get role) ∧
      (Refuses settings resolution →
        report.outcome = .failed (.controller (.discoveryIncomplete resolution.missing)) ∧
          posted report.state = transport.calls.map CallRecord.post ∧
          Event.printed report.events = "") ∧
      (¬ Refuses settings resolution →
        BringsAbout (requested profile selection)
          (Controller.fresh settings.url resolution
            (Transport.get settings.url transport).state)
          report) := by
  intro resolution report
  refine ⟨profile.mem_missing_iff blocks, fun refuses => ?_, fun admits => ?_⟩
  · have alike := run_select_of_refused (Recorded.silent silent) chosen fetched decoded refuses
      selection
    refine ⟨alike.outcome, ?_, alike.printed⟩
    rw [alike.state]
    rfl
  · have alike := run_select_of_admitted (Recorded.silent silent) chosen fetched decoded admits
      selection
    have shows := shows_runSelect (Recorded.silent silent)
      (prepared settings.url resolution profile (Transport.get settings.url transport).state)
      .empty selection _ rfl
    rw [← assign_eq_requested]
    exact bringsAbout_of_shows shows alike

/-- A profile that tunes directly and turns the transmit gain of PHY 1 down. -/
def subdued : Profile :=
  { Profile.initial with
    mode := .direct
    overrides := ⟨.none, Overrides.none.set .txGain (some (.ofNat 45))⟩ }

/-- Its text. -/
def subduedText : String :=
  "\x7b\"tuning_mode\": \"direct\", \"phys\": [\x7b\x7d, \x7b\"tx_gain\": 45\x7d]\x7d"

/-- The blocks of a flowgraph that selects on both sides and does nothing else. -/
def selectors : List Block :=
  [⟨"a", "Selector<2, 1>_0", none⟩, ⟨"b", "Selector<1, 2>_0", none⟩]

/-- Its discovery document. -/
def selectorsText : String :=
  "\x7b\"blocks\": [[\"a\", \"Selector<2, 1>_0\"], [\"b\", \"Selector<1, 2>_0\"]]\x7d"

/-- A client that gets the document and has two calls accepted. -/
def obliging : Recorded HttpClient :=
  .fresh ⟨Route.toAnyHost,
    [.answer 200 selectorsText, .answer 200 "0", .answer 204 "", .lost], none⟩

/-- The blocks of a flowgraph that has one for every role. -/
def stations : List Block :=
  [⟨"1", "Selector<2, 1>_0", none⟩, ⟨"2", "Selector<1, 2>_0", none⟩,
    ⟨"3", "MessageSelector_0", none⟩, ⟨"4", "SoapySource_0", none⟩, ⟨"5", "SoapySink_0", none⟩]

/-- Its discovery document, in which the blocks are numbered. -/
def stationsText : String :=
  "\x7b\"blocks\": [[1, \"Selector<2, 1>_0\"], [2, \"Selector<1, 2>_0\"],
    [3, \"MessageSelector_0\"], [4, \"SoapySource_0\"], [5, \"SoapySink_0\"]]\x7d"

/-- A transport over which this document is fetched and every call is accepted. -/
def accommodating : Recorded Scripted := .fresh ⟨.ok stationsText, .none, 0⟩

/-- A run under the profile in the file sets the receive gain twice and the transmit frequency to
no number. Over the first client it names the three roles that are missing if it is strict, and
otherwise its selection is cut at the third call, which has no address. Over the second transport
it succeeds, strict or not, and prints the state. -/
theorem select_brings_about_request_obliging :
    let surroundings : Surroundings := ⟨fun _ => .ok subduedText, [], 0⟩
    let settings (strict : Bool) : Settings :=
      ⟨"http://radio:1337/api/fg/0/", some "lab.json", 2000, strict, false⟩
    let selection : Selection :=
      ⟨.phy1, [⟨.rxGain, .ofNat 30⟩, ⟨.txFrequency, .quietNaN false⟩, ⟨.rxGain, .ofNat 35⟩]⟩
    let report (strict : Bool) := run surroundings ⟨settings strict, .select selection⟩
      (Tracked.fresh obliging Controller.barId)
    let success (strict : Bool) := run surroundings ⟨settings strict, .select selection⟩
      (Tracked.fresh accommodating Controller.barId)
    let resolution := Resolution.resolve selectors subdued.matchers
    ∃ document whole,
      Transport.Silent HttpClient ∧
        Transport.Silent Scripted ∧
        (∀ strict, Chosen surroundings (settings strict) subdued) ∧
        (Transport.get "http://radio:1337/api/fg/0/" obliging).outcome = .done document ∧
        decodeBlocks document = .ok selectors ∧
        (Transport.get "http://radio:1337/api/fg/0/" accommodating).outcome = .done whole ∧
        decodeBlocks whole = .ok stations ∧
        (report true).outcome = .failed (.controller (.discoveryIncomplete
          [.messageSelector, .rfSource, .rfSink])) ∧
        posted (report true).state = [] ∧
        Event.printed (report true).events = "" ∧
        BringsAbout (requested subdued selection)
          (Controller.fresh "http://radio:1337/api/fg/0/" resolution
            (Transport.get "http://radio:1337/api/fg/0/" obliging).state)
          (report false) ∧
        ∀ strict, (success strict).outcome = .done () ∧
          (requested subdued selection).ShownAs (Event.printed (success strict).events) := by
  intro surroundings settings selection report success resolution
  have accepted : Profile.parse subduedText = .ok subdued :=
    eq_ok_of_toOption (by decide +kernel)
  have chosen : ∀ strict, Chosen surroundings (settings strict) subdued :=
    fun _ => .file rfl rfl accepted
  have answered : (Transport.get "http://radio:1337/api/fg/0/" obliging).outcome.map
      (fun document => (decodeBlocks document).toOption) = .done (some selectors) := by
    decide +kernel
  have wholeAnswered : (Transport.get "http://radio:1337/api/fg/0/" accommodating).outcome.map
      (fun document => (decodeBlocks document).toOption) = .done (some stations) := by
    decide +kernel
  obtain ⟨document, fetched, read⟩ := (Outcome.map_eq_done_iff _ _ _).mp answered
  obtain ⟨whole, wholeFetched, wholeRead⟩ := (Outcome.map_eq_done_iff _ _ _).mp wholeAnswered
  have decoded : decodeBlocks document = .ok selectors := eq_ok_of_toOption read
  have wholeDecoded : decodeBlocks whole = .ok stations := eq_ok_of_toOption wholeRead
  have missing : resolution.missing = [.messageSelector, .rfSource, .rfSink] := by
    decide +kernel
  have refuses : Refuses (settings true) resolution := ⟨rfl, by simp [missing]⟩
  have admits : ¬ Refuses (settings false) resolution := by
    rintro ⟨strict, -⟩
    cases strict
  have complete : (Resolution.resolve stations subdued.matchers).missing = [] := by
    decide +kernel
  obtain ⟨refused, unsent, unprinted⟩ := (select_brings_about_request HttpClient.silent
    surroundings (settings true) selection subdued (chosen true) obliging document selectors
    fetched decoded).2.1 refuses
  have leniently := (select_brings_about_request HttpClient.silent surroundings (settings false)
    selection subdued (chosen false) obliging document selectors fetched decoded).2.2 admits
  have accepting : Transport.Accepting
      (Transport.get "http://radio:1337/api/fg/0/" accommodating).state :=
    Recorded.always_get (Scripted.accepting _ _) _
  have succeeds : ∀ strict, (success strict).outcome = .done () ∧
      (requested subdued selection).ShownAs (Event.printed (success strict).events) := by
    intro strict
    have brings := (select_brings_about_request Scripted.silent surroundings (settings strict)
      selection subdued (chosen strict) accommodating whole stations wholeFetched
      wholeDecoded).2.2 fun refused => refused.2 complete
    generalize (Transport.get "http://radio:1337/api/fg/0/" accommodating).state = reached
      at accepting brings
    have done := brings.done_iff.mpr (Controller.accepts_of_accepting accepting fun _ _ =>
      (EndpointTable.isSome_url?_build_iff _ _ _).mpr (by simp [complete]))
    exact ⟨done, (brings.done done).2.2⟩
  exact ⟨document, whole, HttpClient.silent, Scripted.silent, chosen, fetched, decoded,
    wholeFetched, wholeDecoded, missing ▸ refused, unsent, unprinted, leniently, succeeds⟩

end CommandLine
end DualPhy
