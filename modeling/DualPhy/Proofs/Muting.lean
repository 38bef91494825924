import DualPhy.Proofs.Uses

/-!
# What a controller shows by itself

A transport may show events of its own while a call is made. Over the same transport without them,
a controller ends every use in the same way and leaves the same transport. What is shown then is
what the controller shows by itself, and it is shown over the transport as it is as well, in the
same order.
-/

namespace DualPhy

/-! ## Muted transports -/

/-- A transport that shows no events. -/
structure Muted (σ : Type) where
  /-- The transport. -/
  inner : σ

namespace Muted

/-- Run an act of the transport and leave out its events. -/
def quietly (act : Act ε σ α) : Act ε (Muted σ) α := fun muted =>
  let report := act muted.inner
  ⟨report.outcome, ⟨report.state⟩, []⟩

instance [Transport σ] : Transport (Muted σ) where
  get url := quietly (Transport.get url)
  call url call := quietly (Transport.call url call)

end Muted

namespace Controller

/-- A controller whose transport shows no events. -/
def muted (controller : Controller τ) : Controller (Muted τ) where
  transport := ⟨controller.transport⟩
  baseUrl := controller.baseUrl
  endpoints := controller.endpoints
  missing := controller.missing
  state := controller.state

@[simp] theorem inner_muted (controller : Controller τ) :
    controller.muted.transport.inner = controller.transport := rfl

@[simp] theorem state_muted (controller : Controller τ) :
    controller.muted.state = controller.state := rfl

@[simp] theorem endpoints_muted (controller : Controller τ) :
    controller.muted.endpoints = controller.endpoints := rfl

/-- What was done over a muted transport is what was done over the transport: it ended in the same
way and left the same controller, and what was shown is among what was shown there. -/
structure Echoes
    (quiet : Report ε (Controller (Muted τ)) α)
    (loud : Report ε (Controller τ) α) : Prop where
  /-- The outcomes agree. -/
  outcome : quiet.outcome = loud.outcome
  /-- So do the controllers. -/
  state : quiet.state = loud.state.muted
  /-- The events are among the others. -/
  events : quiet.events.Sublist loud.events

/-- An act over muted transports does what an act over the transports does. -/
def Mutes
    (quiet : Act ε (Controller (Muted τ)) α)
    (loud : Act ε (Controller τ) α) : Prop :=
  ∀ controller, Echoes (quiet controller.muted) (loud controller)

/-! ## Acts that are put together -/

theorem mutes_pure (value : α) :
    Mutes (pure value : Act ε (Controller (Muted τ)) α) (pure value) :=
  fun _ => ⟨rfl, rfl, .slnil⟩

theorem mutes_fail (error : ε) :
    Mutes (Act.fail error : Act ε (Controller (Muted τ)) α) (Act.fail error) :=
  fun _ => ⟨rfl, rfl, .slnil⟩

theorem mutes_ofExcept (result : Except ε α) :
    Mutes (Act.ofExcept result : Act ε (Controller (Muted τ)) α) (Act.ofExcept result) := by
  cases result with
  | ok value => exact mutes_pure value
  | error error => exact mutes_fail error

theorem mutes_log (topic : Topic) (level : Level) (message : String) :
    Mutes (Act.log topic level message : Act ε (Controller (Muted τ)) Unit)
      (Act.log topic level message) :=
  fun _ => ⟨rfl, rfl, .refl _⟩

theorem mutes_modifyState (change : ControllerState → ControllerState) :
    Mutes (modifyState change : Run (Muted τ) Unit) (modifyState change) :=
  fun _ => ⟨rfl, rfl, .slnil⟩

/-- One act after the other, if the acts that follow a value do. -/
theorem Mutes.bind
    {quiet : Act ε (Controller (Muted τ)) α}
    {loud : Act ε (Controller τ) α}
    {next : α → Act ε (Controller (Muted τ)) β}
    {loudNext : α → Act ε (Controller τ) β}
    (first : Mutes quiet loud)
    (follow : ∀ value, Mutes (next value) (loudNext value)) :
    Mutes (quiet >>= next) (loud >>= loudNext) := by
  intro controller
  obtain ⟨outcome, state, events⟩ := first controller
  constructor
  case outcome =>
    rw [Act.outcome_bind, Act.outcome_bind, outcome, state]
    cases (loud controller).outcome with
    | done value => exact (follow value _).outcome
    | failed error => rfl
    | crashed => rfl
  case state =>
    rw [Act.state_bind, Act.state_bind, outcome, state]
    cases (loud controller).outcome with
    | done value => exact (follow value _).state
    | failed error => rfl
    | crashed => rfl
  case events =>
    rw [Act.events_bind, Act.events_bind, outcome, state]
    cases (loud controller).outcome with
    | done value => exact events.append (follow value _).events
    | failed error => exact events
    | crashed => exact events

/-- An act that looks at the controller first. -/
theorem mutes_state_bind
    {quiet : Controller (Muted τ) → Act ε (Controller (Muted τ)) α}
    {loud : Controller τ → Act ε (Controller τ) α}
    (follow : ∀ controller, Mutes (quiet controller.muted) (loud controller)) :
    Mutes (Act.state >>= quiet) (Act.state >>= loud) :=
  fun controller => follow controller controller

theorem mutes_forEach
    {quiet : α → Act ε (Controller (Muted τ)) Unit}
    {loud : α → Act ε (Controller τ) Unit}
    (each : ∀ item, Mutes (quiet item) (loud item))
    (items : List α) :
    Mutes (Act.forEach quiet items) (Act.forEach loud items) := by
  induction items with
  | nil => exact mutes_pure ()
  | cons item items inductionHypothesis => exact (each item).bind fun _ => inductionHypothesis

/-! ## Operations -/

section Operations

variable [Transport τ]

/-- A call is the only act that reaches the transport. -/
theorem mutes_issue (call : Call) : Mutes (τ := τ) (issue call) (issue call) := by
  refine mutes_state_bind fun controller => ?_
  rw [endpoints_muted]
  cases controller.endpoints.url? call.operation with
  | none => exact mutes_fail _
  | some url =>
      exact (mutes_log _ _ _).bind fun _ controller => ⟨rfl, rfl, List.nil_sublist _⟩

theorem mutes_selectPhy (target : Phy) :
    Mutes (τ := τ) (selectPhy target) (selectPhy target) := by
  refine Mutes.bind ?_ fun _ => mutes_modifyState _
  exact mutes_state_bind fun controller => (mutes_log _ _ _).bind fun _ =>
    (mutes_forEach mutes_issue _).bind fun _ => mutes_log _ _ _

theorem mutes_action (action : Action) : Mutes (τ := τ) action.run action.run := by
  cases action with
  | setParameter index parameter value =>
      simp only [Action.run, setter_eq]
      exact (mutes_ofExcept _).bind fun _ => (mutes_modifyState _).bind fun _ => mutes_log _ _ _
  | setChannels channels => exact mutes_modifyState fun state => { state with channels }
  | setMode mode => exact mutes_modifyState fun state => { state with mode }
  | configure table channels mode =>
      exact mutes_modifyState fun state => { state with table, channels, mode }
  | send parameter value channel => exact mutes_issue _
  | select index => exact (mutes_ofExcept _).bind mutes_selectPhy
  | selectPhy target => exact mutes_selectPhy target
  | switch =>
      refine Mutes.bind ?_ fun _ => mutes_pure ()
      exact mutes_state_bind fun controller =>
        (mutes_selectPhy controller.state.active.other).bind fun _ => mutes_pure _

theorem mutes_use (use : Use) : Mutes (τ := τ) use.run use.run := by
  cases use with
  | act action => exact mutes_action action
  | load profile =>
      exact mutes_modifyState fun state => { state with
        table := profile.table, channels := profile.channels, mode := profile.mode }
  | parameters index =>
      exact mutes_state_bind fun controller =>
        (mutes_ofExcept (controller.parameters index)).bind fun _ => mutes_pure ()
  | plan target => exact mutes_state_bind fun _ => mutes_pure ()
  | look => exact mutes_state_bind fun _ => mutes_pure ()

/-! ## Histories -/

/-- What is shown in a history of uses. -/
def eventsOfUses : Controller τ → List Use → List Event
  | _, [] => []
  | controller, use :: uses =>
      (use.run controller).events ++ eventsOfUses (use.run controller).state uses

theorem eventsOfUses_append (controller : Controller τ) (earlier later : List Use) :
    controller.eventsOfUses (earlier ++ later) =
      controller.eventsOfUses earlier ++ (controller.afterUses earlier).eventsOfUses later := by
  induction earlier generalizing controller with
  | nil => rfl
  | cons use earlier inductionHypothesis =>
      rw [List.cons_append, eventsOfUses, eventsOfUses, inductionHypothesis, List.append_assoc]
      rfl

/-- A history over a muted transport leaves the controller that it leaves over the transport, and
what it shows is shown there as well. -/
theorem mutes_afterUses (controller : Controller τ) (uses : List Use) :
    controller.muted.afterUses uses = (controller.afterUses uses).muted ∧
      (controller.muted.eventsOfUses uses).Sublist (controller.eventsOfUses uses) := by
  induction uses generalizing controller with
  | nil => exact ⟨rfl, .slnil⟩
  | cons use uses inductionHypothesis =>
      obtain ⟨-, state, events⟩ := mutes_use use controller
      obtain ⟨left, shown⟩ := inductionHypothesis (use.run controller).state
      rw [afterUses, eventsOfUses, eventsOfUses, state]
      exact ⟨left, events.append shown⟩

end Operations

end Controller
end DualPhy
