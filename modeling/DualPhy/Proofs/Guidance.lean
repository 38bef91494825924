import DualPhy.Controller.Guided
import DualPhy.Proofs.Answers

/-!
# What a progress bar changes

Nothing but bars. An operation behind a bar, over a transport that is tracked, ends as the bare
operation does over the bare transport and leaves the same controller. This holds for each way
in which operations are put together, and so for every sequence of them. Behind an operation
with a bar of its own that bar is closed, whatever was open before, and all others are as they
were.
-/

namespace DualPhy

/-! ## Bars of other ids -/

namespace Bars

theorem find?_update_of_ne
    (bars : Bars)
    {changed other : String}
    (apart : other ≠ changed)
    (change : Bar → Bar) :
    (bars.orSame (bars.update changed change)).find? other = bars.find? other := by
  unfold update
  cases bars.find? changed <;> simp [orSame, apart]

theorem find?_create_of_ne
    (bars : Bars)
    {created other : String}
    (apart : other ≠ created)
    (total : UInt64)
    (template message : String) :
    (bars.orSame (bars.create created total template message)).find? other =
      bars.find? other := by
  unfold create
  split
  · rfl
  · cases Template.check template <;> simp [orSame, apart]

/-- A call that is followed by a bar leaves all other bars alone. -/
theorem find?_call_of_ne
    (bars : Bars)
    {followed other : String}
    (apart : other ≠ followed)
    (operation : Operation)
    (outcome : Outcome TransportError Unit) :
    ((bars.announce followed operation).count followed outcome).find? other =
      bars.find? other := by
  have announced := bars.find?_update_of_ne apart fun bar => { bar with message := operation.name }
  cases outcome with
  | done value => exact (find?_update_of_ne _ apart _).trans announced
  | failed error => exact announced
  | crashed => exact announced

end Bars

namespace Tracked

/-- An operation on the bars changes nothing else. -/
theorem onBars_eq (change : Bars → Except BarError Bars) (tracked : Tracked σ) :
    (onBars change tracked).outcome ≠ .crashed ∧
      (onBars change tracked).state =
        { tracked with bars := tracked.bars.orSame (change tracked.bars) } := by
  cases changed : change tracked.bars <;> simp [onBars, changed, Bars.orSame]

/-- Behind the closing of a bar no bar is open under its id, and the others are as before. -/
theorem closeBar_eq (id message : String) (tracked : Tracked σ) :
    (closeBar id message tracked).outcome ≠ .crashed ∧
      ∃ closed : Bars, (closeBar id message tracked).state = { tracked with bars := closed } ∧
        closed.find? id = none ∧
          ∀ other, other ≠ id → closed.find? other = tracked.bars.find? other := by
  unfold closeBar Bars.close
  cases found : tracked.bars.find? id with
  | none => exact ⟨nofun, tracked.bars, rfl, found, fun _ _ => rfl⟩
  | some bar =>
      exact ⟨nofun, tracked.bars.erase id, rfl, by simp, fun other apart => by simp [apart]⟩

end Tracked

namespace Controller

/-! ## Controllers with and without bars -/

/-- A controller whose calls are followed by the bar for them. -/
def tracked (controller : Controller τ) (bars : Bars) : Controller (Tracked τ) where
  transport := ⟨controller.transport, bars, barId⟩
  baseUrl := controller.baseUrl
  endpoints := controller.endpoints
  missing := controller.missing
  state := controller.state

/-- A controller without the bars. -/
def untracked (controller : Controller (Tracked τ)) : Controller τ where
  transport := controller.transport.inner
  baseUrl := controller.baseUrl
  endpoints := controller.endpoints
  missing := controller.missing
  state := controller.state

@[simp] theorem untracked_tracked (controller : Controller τ) (bars : Bars) :
    (controller.tracked bars).untracked = controller := rfl

@[simp] theorem state_tracked (controller : Controller τ) (bars : Bars) :
    (controller.tracked bars).state = controller.state := rfl

@[simp] theorem bars_tracked (controller : Controller τ) (bars : Bars) :
    (controller.tracked bars).transport.bars = bars := rfl

/-- What was done behind bars is what was done without them: it ended in the same way and left
the same controller, and of the bars at most the one for calls has changed. -/
structure Reflects
    (bars : Bars)
    (guided : Report ε (Controller (Tracked τ)) α)
    (bare : Report ε (Controller τ) α) : Prop where
  /-- The outcomes agree. -/
  outcome : guided.outcome = bare.outcome
  /-- So do the controllers, but for the bars. -/
  state : guided.state = bare.state.tracked guided.state.transport.bars
  /-- Every other bar is as before. -/
  others : ∀ id, id ≠ barId → guided.state.transport.bars.find? id = bars.find? id

theorem Reflects.exists_bars
    {bars : Bars}
    {guided : Report ε (Controller (Tracked τ)) α}
    {bare : Report ε (Controller τ) α}
    (reflects : Reflects bars guided bare) :
    ∃ left : Bars, guided.state = bare.state.tracked left :=
  ⟨_, reflects.state⟩

/-- An act behind bars does what a bare act does, whatever bars are open. -/
def Mirrors
    (guided : Act ε (Controller (Tracked τ)) α)
    (bare : Act ε (Controller τ) α) : Prop :=
  ∀ bars controller, Reflects bars (guided (controller.tracked bars)) (bare controller)

/-! ## Acts that are put together -/

theorem mirrors_pure (value : α) :
    Mirrors (pure value : Act ε (Controller (Tracked τ)) α) (pure value) :=
  fun _ _ => ⟨rfl, rfl, fun _ _ => rfl⟩

theorem mirrors_fail (error : ε) :
    Mirrors (Act.fail error : Act ε (Controller (Tracked τ)) α) (Act.fail error) :=
  fun _ _ => ⟨rfl, rfl, fun _ _ => rfl⟩

theorem mirrors_ofExcept (result : Except ε α) :
    Mirrors (Act.ofExcept result : Act ε (Controller (Tracked τ)) α) (Act.ofExcept result) := by
  cases result with
  | ok value => exact mirrors_pure value
  | error error => exact mirrors_fail error

theorem mirrors_log (topic : Topic) (level : Level) (message : String) :
    Mirrors (Act.log topic level message : Act ε (Controller (Tracked τ)) Unit)
      (Act.log topic level message) :=
  fun _ _ => ⟨rfl, rfl, fun _ _ => rfl⟩

theorem mirrors_modifyState (change : ControllerState → ControllerState) :
    Mirrors (modifyState change : Run (Tracked τ) Unit) (modifyState change) :=
  fun _ _ => ⟨rfl, rfl, fun _ _ => rfl⟩

/-- One act after the other, if the acts that follow a value do. -/
theorem Mirrors.bind
    {guided : Act ε (Controller (Tracked τ)) α}
    {bare : Act ε (Controller τ) α}
    {next : α → Act ε (Controller (Tracked τ)) β}
    {bareNext : α → Act ε (Controller τ) β}
    (first : Mirrors guided bare)
    (follow : ∀ value, Mirrors (next value) (bareNext value)) :
    Mirrors (guided >>= next) (bare >>= bareNext) := by
  intro bars controller
  obtain ⟨outcome, state, others⟩ := first bars controller
  cases ended : (bare controller).outcome with
  | done value =>
      have rest := follow value (guided (controller.tracked bars)).state.transport.bars
        (bare controller).state
      rw [← state] at rest
      rw [ended] at outcome
      constructor
      case outcome => simpa only [Act.outcome_bind, outcome, ended] using rest.outcome
      case state => simpa only [Act.state_bind, outcome, ended] using rest.state
      case others =>
        intro id apart
        simp only [Act.state_bind, outcome]
        exact (rest.others id apart).trans (others id apart)
  | failed error =>
      rw [ended] at outcome
      constructor
      case outcome => simp only [Act.outcome_bind, outcome, ended]
      case state => simpa only [Act.state_bind, outcome, ended] using state
      case others => simpa only [Act.state_bind, outcome] using others
  | crashed =>
      rw [ended] at outcome
      constructor
      case outcome => simp only [Act.outcome_bind, outcome, ended]
      case state => simpa only [Act.state_bind, outcome, ended] using state
      case others => simpa only [Act.state_bind, outcome] using others

/-- An act that looks at the controller first. -/
theorem mirrors_state_bind
    {guided : Controller (Tracked τ) → Act ε (Controller (Tracked τ)) α}
    {bare : Controller τ → Act ε (Controller τ) α}
    (follow : ∀ bars controller, Mirrors (guided (controller.tracked bars)) (bare controller)) :
    Mirrors (Act.state >>= guided) (Act.state >>= bare) := by
  intro bars controller
  obtain ⟨outcome, state, others⟩ := follow bars controller bars controller
  exact ⟨by simpa using outcome, by simpa using state, by simpa using others⟩

/-- An act that looks at the controller first, where the bare one does not. -/
theorem mirrors_look
    {guided : Controller (Tracked τ) → Act ε (Controller (Tracked τ)) α}
    {bare : Act ε (Controller τ) α}
    (follow : ∀ controller, Mirrors (guided controller) bare) :
    Mirrors (Act.state >>= guided) bare := by
  intro bars controller
  obtain ⟨outcome, state, others⟩ := follow (controller.tracked bars) bars controller
  exact ⟨by simpa using outcome, by simpa using state, by simpa using others⟩

theorem Mirrors.mapError
    {guided : Act ε (Controller (Tracked τ)) α}
    {bare : Act ε (Controller τ) α}
    (mirrors : Mirrors guided bare)
    (change : ε → δ) :
    Mirrors (guided.mapError change) (bare.mapError change) := by
  intro bars controller
  obtain ⟨outcome, state, others⟩ := mirrors bars controller
  exact ⟨congrArg (Outcome.mapError change) outcome, state, others⟩

theorem Mirrors.attempt
    {guided : Act ε (Controller (Tracked τ)) α}
    {bare : Act ε (Controller τ) α}
    (mirrors : Mirrors guided bare) :
    Mirrors (guided.attempt : Act δ (Controller (Tracked τ)) (Except ε α)) bare.attempt := by
  intro bars controller
  obtain ⟨outcome, state, others⟩ := mirrors bars controller
  exact ⟨congrArg Outcome.attempt outcome, state, others⟩

theorem mirrors_forEach
    {guided : α → Act ε (Controller (Tracked τ)) Unit}
    {bare : α → Act ε (Controller τ) Unit}
    (each : ∀ item, Mirrors (guided item) (bare item))
    (items : List α) :
    Mirrors (Act.forEach guided items) (Act.forEach bare items) := by
  induction items with
  | nil => exact mirrors_pure ()
  | cons item items inductionHypothesis =>
      exact (each item).bind fun _ => inductionHypothesis

/-! ## Operations -/

theorem mirrors_setParameter (index : Nat) (parameter : Parameter) (value : Binary64) :
    Mirrors (setParameter index parameter value : Run (Tracked τ) Unit)
      (setParameter index parameter value) :=
  (mirrors_ofExcept _).bind fun _ => (mirrors_modifyState _).bind fun _ => mirrors_log _ _ _

section Operations

variable [Transport τ]

/-- A call that is followed by a bar is the call. -/
theorem mirrors_transmit (url : String) (call : Call) :
    Mirrors (τ := τ) (transmit url call) (transmit url call) :=
  fun bars _ => ⟨rfl, rfl, fun _ apart => bars.find?_call_of_ne apart call.operation _⟩

theorem mirrors_issue (call : Call) : Mirrors (τ := τ) (issue call) (issue call) := by
  refine mirrors_state_bind fun bars controller => ?_
  have same : (controller.tracked bars).endpoints = controller.endpoints := rfl
  rw [same]
  cases controller.endpoints.url? call.operation with
  | none => exact mirrors_fail _
  | some url =>
      exact (mirrors_log _ _ _).bind fun _ => (mirrors_transmit url call).mapError _

theorem mirrors_selectPhy (target : Phy) :
    Mirrors (τ := τ) (selectPhy target) (selectPhy target) := by
  refine Mirrors.bind ?_ fun _ => mirrors_modifyState _
  refine mirrors_state_bind fun bars controller => ?_
  exact (mirrors_log _ _ _).bind fun _ =>
    (mirrors_forEach mirrors_issue _).bind fun _ => mirrors_log _ _ _

theorem mirrors_switch : Mirrors (τ := τ) switch switch :=
  mirrors_state_bind fun _ _ => (mirrors_selectPhy _).bind fun _ => mirrors_pure _

theorem mirrors_action (action : Action) : Mirrors (τ := τ) action.run action.run := by
  cases action with
  | setParameter index parameter value =>
      simpa only [Action.run, setter_eq] using mirrors_setParameter index parameter value
  | setChannels channels => exact mirrors_modifyState fun state => { state with channels }
  | setMode mode => exact mirrors_modifyState fun state => { state with mode }
  | configure table channels mode =>
      exact mirrors_modifyState fun state => { state with table, channels, mode }
  | send parameter value channel => exact mirrors_issue _
  | select index => exact (mirrors_ofExcept _).bind mirrors_selectPhy
  | selectPhy target => exact mirrors_selectPhy target
  | switch => exact mirrors_switch.bind fun _ => mirrors_pure ()

theorem mirrors_use (use : Use) : Mirrors (τ := τ) use.run use.run := by
  cases use with
  | act action => exact mirrors_action action
  | load profile =>
      exact mirrors_modifyState fun state => { state with
        table := profile.table, channels := profile.channels, mode := profile.mode }
  | parameters index =>
      exact mirrors_state_bind fun _ _ => (mirrors_ofExcept _).bind fun _ => mirrors_pure ()
  | plan target => exact mirrors_state_bind fun _ _ => mirrors_pure ()
  | look => exact mirrors_state_bind fun _ _ => mirrors_pure ()

end Operations

/-! ## Operations with a bar of their own -/

/-- An operation on the bars that does not break down is tried without failure. -/
theorem tryOnBars_eq
    {act : Act BarError (Tracked τ) Unit}
    {controller : Controller (Tracked τ)}
    (sound : (act controller.transport).outcome ≠ .crashed) :
    (tryOnBars act controller).outcome = .done () ∧
      (tryOnBars act controller).state =
        { controller with transport := (act controller.transport).state } := by
  cases ended : (act controller.transport).outcome with
  | done value => simp [tryOnBars, ended, Outcome.attempt]
  | failed error => simp [tryOnBars, ended, Outcome.attempt]
  | crashed => exact absurd ended sound

/-- Opening the bar leaves the controller and the other bars as they are. -/
theorem tryOnBars_create
    (controller : Controller τ)
    (bars : Bars)
    (total : UInt64)
    (template label : String) :
    let opening : GuidedRun τ Unit :=
      tryOnBars (Tracked.onBars fun bars => bars.create barId total template label)
    (opening (controller.tracked bars)).outcome = .done () ∧
      ∃ opened : Bars, (opening (controller.tracked bars)).state = controller.tracked opened ∧
        ∀ id, id ≠ barId → opened.find? id = bars.find? id := by
  obtain ⟨sound, state⟩ := Tracked.onBars_eq
    (fun bars => bars.create barId total template label) (controller.tracked bars).transport
  obtain ⟨outcome, left⟩ := tryOnBars_eq sound
  exact ⟨outcome, _, left.trans (by rw [state]; rfl),
    fun id apart => bars.find?_create_of_ne apart total template label⟩

/-- So does closing it, and no bar is left under its id. -/
theorem tryOnBars_close (controller : Controller τ) (bars : Bars) (message : String) :
    let closing : GuidedRun τ Unit := tryOnBars (Tracked.closeBar barId message)
    (closing (controller.tracked bars)).outcome = .done () ∧
      ∃ closed : Bars, (closing (controller.tracked bars)).state = controller.tracked closed ∧
        closed.find? barId = none ∧ ∀ id, id ≠ barId → closed.find? id = bars.find? id := by
  obtain ⟨sound, closed, state, gone, others⟩ :=
    Tracked.closeBar_eq barId message (controller.tracked bars).transport
  obtain ⟨outcome, left⟩ := tryOnBars_eq sound
  exact ⟨outcome, closed, left.trans (by rw [state]; rfl), gone, others⟩

/-- The bar is closed behind what was done, and the other bars stay as they were. -/
theorem Reflects.close
    {bars : Bars}
    {guided : Report ε (Controller (Tracked τ)) α}
    {bare : Report ε (Controller τ) α}
    (reflects : Reflects bars guided bare)
    (message : String) :
    let closing : GuidedRun τ Unit := tryOnBars (Tracked.closeBar barId message)
    (closing guided.state).outcome = .done () ∧
      ∃ closed : Bars, (closing guided.state).state = bare.state.tracked closed ∧
        closed.find? barId = none ∧ ∀ id, id ≠ barId → closed.find? id = bars.find? id := by
  intro closing
  obtain ⟨closes, closed, left, gone, kept⟩ :=
    tryOnBars_close bare.state guided.state.transport.bars message
  rw [← reflects.state] at closes left
  exact ⟨closes, closed, left, gone,
    fun id apart => (kept id apart).trans (reflects.others id apart)⟩

/-- An operation that breaks down behind a bar leaves it open. -/
theorem Mirrors.withBar_of_crashed
    {guided : GuidedRun τ α}
    {bare : Run τ α}
    (mirrors : Mirrors guided bare)
    (total : UInt64)
    (template label : String)
    (bars : Bars)
    {controller : Controller τ}
    (crashed : (bare controller).outcome = .crashed) :
    Reflects bars (withBar total template label guided (controller.tracked bars))
      (bare controller) := by
  obtain ⟨opens, opened, afterOpening, untouched⟩ :=
    tryOnBars_create controller bars total template label
  obtain ⟨outcome, state, others⟩ := mirrors opened controller
  rw [crashed] at outcome
  constructor
  case outcome => simp [withBar, opens, afterOpening, outcome, crashed, Outcome.attempt]
  case state => simpa [withBar, opens, afterOpening, outcome, Outcome.attempt] using state
  case others =>
    intro id apart
    simpa [withBar, opens, afterOpening, outcome, Outcome.attempt] using
      (others id apart).trans (untouched id apart)

/-- An operation that does not break down has its bar closed behind it. -/
theorem Mirrors.withBar_of_sound
    {guided : GuidedRun τ α}
    {bare : Run τ α}
    (mirrors : Mirrors guided bare)
    (total : UInt64)
    (template label : String)
    (bars : Bars)
    {controller : Controller τ}
    (sound : (bare controller).outcome ≠ .crashed) :
    let behind := withBar total template label guided (controller.tracked bars)
    Reflects bars behind (bare controller) ∧ behind.state.transport.bars.find? barId = none := by
  intro behind
  obtain ⟨opens, opened, afterOpening, untouched⟩ :=
    tryOnBars_create controller bars total template label
  have reflects := mirrors opened controller
  have outcome := reflects.outcome
  have settled : ∃ closed : Bars, behind.outcome = (bare controller).outcome ∧
      behind.state = (bare controller).state.tracked closed ∧
      closed.find? barId = none ∧ ∀ id, id ≠ barId → closed.find? id = opened.find? id := by
    -- The message differs between success and failure, and nothing else does.
    cases ended : (bare controller).outcome with
    | done value =>
        rw [ended] at outcome
        obtain ⟨closes, closed, left, rest⟩ := reflects.close (label ++ " done")
        refine ⟨closed, ?_, ?_, rest⟩
        · simp [behind, withBar, opens, afterOpening, outcome, Outcome.attempt, closes]
        · simp [behind, withBar, opens, afterOpening, outcome, Outcome.attempt, closes, left]
    | failed error =>
        rw [ended] at outcome
        obtain ⟨closes, closed, left, rest⟩ := reflects.close error.message
        refine ⟨closed, ?_, ?_, rest⟩
        · simp [behind, withBar, opens, afterOpening, outcome, Outcome.attempt, closes]
        · simp [behind, withBar, opens, afterOpening, outcome, Outcome.attempt, closes, left]
    | crashed => exact absurd ended sound
  obtain ⟨closed, ends, left, gone, kept⟩ := settled
  refine ⟨⟨ends, ?_, ?_⟩, ?_⟩
  · rw [left]
    rfl
  · rw [left]
    exact fun id apart => (kept id apart).trans (untouched id apart)
  · rw [left]
    exact gone

/-- An operation behind a bar is the operation. -/
theorem Mirrors.withBar
    {guided : GuidedRun τ α}
    {bare : Run τ α}
    (mirrors : Mirrors guided bare)
    (total : UInt64)
    (template label : String) :
    Mirrors (Controller.withBar total template label guided) bare := by
  intro bars controller
  by_cases crashed : (bare controller).outcome = .crashed
  · exact mirrors.withBar_of_crashed total template label bars crashed
  · exact (mirrors.withBar_of_sound total template label bars crashed).1

theorem mirrors_selectWithBar [Transport τ] (target : Phy) :
    Mirrors (τ := τ) (selectWithBar target) (selectPhy target) :=
  mirrors_look fun _ => (mirrors_selectPhy target).withBar _ _ _

theorem mirrors_switchWithBar [Transport τ] : Mirrors (τ := τ) switchWithBar switch :=
  mirrors_look fun _ => mirrors_switch.withBar _ _ _

theorem mirrors_tuneWithBar
    {guided : GuidedRun τ α}
    {bare : Run τ α}
    (mirrors : Mirrors guided bare)
    (label : String) :
    Mirrors (tuneWithBar label guided) bare :=
  mirrors.withBar _ _ _

/-- Behind an act that does not break down, the bar for calls is not open. -/
def Closes (guided : Act ε (Controller (Tracked τ)) α) : Prop :=
  ∀ bars (controller : Controller τ),
    (guided (controller.tracked bars)).outcome ≠ .crashed →
      (guided (controller.tracked bars)).state.transport.bars.find? barId = none

theorem Mirrors.closes_withBar
    {guided : GuidedRun τ α}
    {bare : Run τ α}
    (mirrors : Mirrors guided bare)
    (total : UInt64)
    (template label : String) :
    Closes (Controller.withBar total template label guided) := by
  intro bars controller sound
  have reflects := mirrors.withBar total template label bars controller
  rw [reflects.outcome] at sound
  exact (mirrors.withBar_of_sound total template label bars sound).2

theorem closes_look
    {guided : Controller (Tracked τ) → Act ε (Controller (Tracked τ)) α}
    (follow : ∀ controller, Closes (guided controller)) :
    Closes (Act.state >>= guided) := by
  intro bars controller sound
  simpa using follow (controller.tracked bars) bars controller (by simpa using sound)

/-- What is made of the value of an act does not matter to the bars. -/
theorem Closes.bind_pure
    {guided : Act ε (Controller (Tracked τ)) α}
    (closes : Closes guided)
    (result : α → β) :
    Closes (guided >>= fun value => pure (result value)) := by
  intro bars controller sound
  rw [Act.outcome_bind_pure, Ne, Outcome.map_eq_crashed_iff] at sound
  rw [Act.state_bind_pure]
  exact closes bars controller sound

/-! ## Sequences of operations -/

/-- What a caller asks of a controller: a use as it is, or an operation that has a bar of its
own where there are bars. -/
inductive Errand
  /-- A use as it is. -/
  | plain (use : Use)
  /-- Put a PHY on air. -/
  | select (target : Phy)
  /-- Put the other PHY on air. -/
  | switch
  /-- Send a parameter at once, under the label of its bar. -/
  | tune (label : String) (parameter : Immediate) (value : Binary64) (channel : UInt32)

namespace Errand

/-- Whether an errand has a bar of its own. -/
def hasBar : Errand → Bool
  | .plain _ => false
  | _ => true

section Runs

variable [Transport τ]

/-- Run an errand over a bare transport. Of a switch it gives the new active PHY. -/
def bare : Errand → Run τ (Option Phy)
  | .plain use => do
      use.run
      return none
  | .select target => do
      selectPhy target
      return none
  | .switch => do
      let target ← Controller.switch
      return some target
  | .tune _ parameter value channel => do
      send parameter value channel
      return none

/-- Run an errand over a tracked transport, behind its bar if it has one. -/
def guided : Errand → GuidedRun τ (Option Phy)
  | .plain use => do
      use.run
      return none
  | .select target => do
      selectWithBar target
      return none
  | .switch => do
      let target ← switchWithBar
      return some target
  | .tune label parameter value channel => do
      tuneWithBar label (send parameter value channel)
      return none

/-- The controller behind errands that are run in a certain way. -/
def after (run : Errand → Run τ (Option Phy)) : Controller τ → List Errand → Controller τ
  | controller, [] => controller
  | controller, errand :: errands => after run (run errand controller).state errands

/-- The use that an errand comes to. -/
def use : Errand → Use
  | .plain use => use
  | .select target => .act (.selectPhy target)
  | .switch => .act .switch
  | .tune _ parameter value channel => .act (.send parameter value channel)

/-- An errand over a bare transport ends as the use does that it comes to, but for the
value. -/
theorem bare_eq_use (errand : Errand) (controller : Controller τ) :
    (errand.bare controller).outcome.map (fun _ => ()) =
        (errand.use.run controller).outcome ∧
      (errand.bare controller).state = (errand.use.run controller).state := by
  have valued : ∀ {α : Type} (act : Run τ α) (result : α → Option Phy),
      ((act >>= fun value => pure (result value)) controller).outcome.map (fun _ => ()) =
          (act controller).outcome.map (fun _ => ()) ∧
        ((act >>= fun value => pure (result value)) controller).state =
          (act controller).state := by
    intro α act result
    rw [Act.outcome_bind_pure, Outcome.map_map]
    exact ⟨rfl, Act.state_bind_pure act result controller⟩
  cases errand with
  | plain use =>
      obtain ⟨outcome, state⟩ := valued use.run fun _ => none
      exact ⟨outcome.trans (Outcome.map_unit _), state⟩
  | select target =>
      obtain ⟨outcome, state⟩ := valued (selectPhy target) fun _ => none
      exact ⟨outcome.trans (Outcome.map_unit _), state⟩
  | switch =>
      obtain ⟨outcome, state⟩ := valued Controller.switch some
      exact ⟨outcome.trans (Act.outcome_bind_pure _ _ _).symm,
        state.trans (Act.state_bind_pure _ _ _).symm⟩
  | tune label parameter value channel =>
      obtain ⟨outcome, state⟩ := valued (send parameter value channel) fun _ => none
      exact ⟨outcome.trans (Outcome.map_unit _), state⟩

theorem mirrors (errand : Errand) : Mirrors (τ := τ) errand.guided errand.bare := by
  cases errand with
  | plain use => exact (mirrors_use use).bind fun _ => mirrors_pure none
  | select target => exact (mirrors_selectWithBar target).bind fun _ => mirrors_pure none
  | switch => exact mirrors_switchWithBar.bind fun _ => mirrors_pure _
  | tune label parameter value channel =>
      exact (mirrors_tuneWithBar (mirrors_issue _) label).bind fun _ => mirrors_pure none

theorem closes (errand : Errand) (hasBar : errand.hasBar = true) :
    Closes (τ := τ) errand.guided := by
  cases errand with
  | plain use => cases hasBar
  | select target =>
      exact (closes_look fun _ => (mirrors_selectPhy target).closes_withBar _ _ _).bind_pure _
  | switch => exact (closes_look fun _ => mirrors_switch.closes_withBar _ _ _).bind_pure _
  | tune label parameter value channel =>
      exact ((mirrors_issue _).closes_withBar _ _ _).bind_pure _

/-- Behind errands that were run behind bars stands the controller of the bare errands. -/
theorem after_tracked (controller : Controller τ) (bars : Bars) (errands : List Errand) :
    after guided (controller.tracked bars) errands =
      (after bare controller errands).tracked
        (after guided (controller.tracked bars) errands).transport.bars := by
  induction errands generalizing controller bars with
  | nil => rfl
  | cons errand errands inductionHypothesis =>
      rw [after, after, (errand.mirrors bars controller).state]
      exact inductionHypothesis _ _

theorem always_after
    {kind : Outcome TransportError Unit → Prop}
    {controller : Controller τ}
    (always : Transport.Always kind controller.transport)
    (errands : List Errand) :
    Transport.Always kind (after bare controller errands).transport := by
  induction errands generalizing controller with
  | nil => exact always
  | cons errand errands inductionHypothesis =>
      refine inductionHypothesis ?_
      rw [(errand.bare_eq_use controller).2]
      exact always_run always errand.use

end Runs

end Errand

/-- Behind the same errands, the next one ends over a tracked transport as it does over the bare
one, and leaves the same controller, the record of its calls included. If it has a bar of its
own, that bar is closed behind it, and the others are as they were. -/
theorem bars_change_nothing_else
    [Transport σ]
    (controller : Controller (Recorded σ))
    (bars : Bars)
    (sound : Transport.Sound controller.transport)
    (earlier : List Errand)
    (errand : Errand) :
    let followed := Errand.after Errand.guided (controller.tracked bars) earlier
    let unfollowed := Errand.after Errand.bare controller earlier
    (errand.guided followed).outcome = (errand.bare unfollowed).outcome ∧
      (errand.guided followed).outcome ≠ .crashed ∧
      (errand.guided followed).state.untracked = (errand.bare unfollowed).state ∧
      (errand.hasBar = true →
        (errand.guided followed).state.transport.bars.find? barId = none ∧
          ∀ id, id ≠ barId → (errand.guided followed).state.transport.bars.find? id =
            followed.transport.bars.find? id) := by
  intro followed unfollowed
  have stands : followed = unfollowed.tracked followed.transport.bars :=
    Errand.after_tracked controller bars earlier
  have reflects := errand.mirrors followed.transport.bars unfollowed
  have closes := fun hasBar => errand.closes hasBar followed.transport.bars unfollowed
  rw [← stands] at reflects closes
  have survives : (errand.guided followed).outcome ≠ .crashed := by
    rw [reflects.outcome]
    intro crashed
    have broken := (errand.bare_eq_use unfollowed).1
    rw [crashed] at broken
    exact run_ne_crashed (Errand.always_after sound earlier) errand.use broken.symm
  refine ⟨reflects.outcome, survives, ?_, fun hasBar => ⟨closes hasBar survives, reflects.others⟩⟩
  rw [reflects.state]
  rfl

/-- A controller whose third call is turned down. -/
def overloaded : Controller (Recorded Scripted) :=
  fresh "http://flowgraph/" ⟨.ofFn fun role => some role.key⟩
    (.fresh ⟨.error .crash, ⟨[(3, .status 503)], []⟩, 0⟩)

/-- A bar for calls that was left open, and another one. -/
def leftOpen : Bars := ⟨[(barId, ⟨3, 1, "select"⟩), ("scan", ⟨10, 4, "scanning"⟩)]⟩

/-- A switch behind a gain that was sent at once fails with its second call, over a bar that
was left open as without one. It closes that bar, and the other one stays where it is. -/
theorem bars_change_nothing_else_overloaded :
    let errands : List Errand :=
      [.plain (.act (.setMode .direct)), .tune "RxGain" .rxGain (.ofNat 40) 0]
    let followed := Errand.after Errand.guided (overloaded.tracked leftOpen) errands
    let unfollowed := Errand.after Errand.bare overloaded errands
    Transport.Sound overloaded.transport ∧
      (Errand.switch.guided followed).outcome = (Errand.switch.bare unfollowed).outcome ∧
      (Errand.switch.guided followed).state.untracked =
        (Errand.switch.bare unfollowed).state ∧
      (Errand.switch.guided followed).state.transport.bars.find? barId = none ∧
      (Errand.switch.guided followed).state.transport.bars.find? "scan" =
        followed.transport.bars.find? "scan" := by
  have sound : Transport.Sound overloaded.transport :=
    Recorded.always (Scripted.always_of_single nofun (fun _ => nofun) _ _ _)
  have same := bars_change_nothing_else overloaded leftOpen sound
    [.plain (.act (.setMode .direct)), .tune "RxGain" .rxGain (.ofNat 40) 0] .switch
  simp only at same ⊢
  obtain ⟨outcome, -, state, bars⟩ := same
  obtain ⟨closed, others⟩ := bars rfl
  exact ⟨sound, outcome, state, closed, others "scan" (by decide)⟩

end Controller
end DualPhy
