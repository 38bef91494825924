import DualPhy.Proofs.Selection

/-!
# Histories of a controller

The operations that a caller can ask of a controller, as data, and what a
history of them does, whether each of them succeeds or fails.
-/

namespace DualPhy

theorem Phy.ofIndex_of_some {index : Nat} {phy : Phy} (found : ofIndex? index = some phy) :
    ofIndex index = .ok phy := by
  rw [ofIndex, found]

theorem Phy.ofIndex_of_none {index : Nat} (absent : ofIndex? index = none) :
    ofIndex index = .error (.invalidIndex index) := by
  rw [ofIndex, absent]

namespace Controller

/-- An operation of a controller. -/
inductive Action
  /-- Set a parameter of the PHY of a number, with the setter of the parameter. -/
  | setParameter (index : Nat) (parameter : Parameter) (value : Binary64)
  /-- Set the channels. -/
  | setChannels (channels : Channels)
  /-- Set the tuning mode. -/
  | setMode (mode : TuningMode)
  /-- Replace the parameter table, the channels and the tuning mode. -/
  | configure (table : ParameterTable) (channels : Channels) (mode : TuningMode)
  /-- Send a parameter at once. -/
  | send (parameter : Immediate) (value : Binary64) (channel : UInt32)
  /-- Put the PHY of a number on air. -/
  | select (index : Nat)
  /-- Put a PHY on air. -/
  | selectPhy (target : Phy)
  /-- Put the other PHY on air. -/
  | switch

namespace Action

/-- Run an operation, without the value that it gives. -/
def run [Transport τ] : Action → Run τ Unit
  | .setParameter index parameter value => Controller.setter parameter index value
  | .setChannels channels => Controller.setChannels channels
  | .setMode mode => Controller.setMode mode
  | .configure table channels mode => Controller.configure table channels mode
  | .send parameter value channel => Controller.send parameter value channel
  | .select index => Controller.select index
  | .selectPhy target => Controller.selectPhy target
  | .switch => do
      let _ ← Controller.switch
      return ()

/-- The PHY that an operation would put on air. -/
def target? (state : ControllerState) : Action → Option Phy
  | .select index => Phy.ofIndex? index
  | .selectPhy target => some target
  | .switch => some state.active.other
  | _ => none

end Action

section Runs

variable [Transport τ]

/-- The controller after a history of operations. -/
def after : Controller τ → List Action → Controller τ
  | controller, [] => controller
  | controller, action :: history => after (action.run controller).state history

/-- An operation that would put a PHY on air does what the selection of that PHY
does. -/
theorem Action.run_eq_selectPhy
    {action : Action}
    {controller : Controller τ}
    {target : Phy}
    (targets : action.target? controller.state = some target) :
    (action.run controller).outcome = (Controller.selectPhy target controller).outcome ∧
      (action.run controller).state = (Controller.selectPhy target controller).state := by
  cases action with
  | select index =>
      simp [Action.run, Controller.select, Phy.ofIndex_of_some targets]
  | selectPhy chosen =>
      cases targets
      exact ⟨rfl, rfl⟩
  | switch =>
      cases targets
      obtain ⟨outcome, state⟩ := switch_eq_selectPhy controller
      cases ended : (Controller.selectPhy controller.state.active.other controller).outcome <;>
        simp [Action.run, outcome, state, ended, Outcome.map]
  | _ => cases targets

/-- It shows what the selection shows as well. -/
theorem Action.events_run_eq_selectPhy
    {action : Action}
    {controller : Controller τ}
    {target : Phy}
    (targets : action.target? controller.state = some target) :
    (action.run controller).events = (Controller.selectPhy target controller).events := by
  cases action with
  | select index =>
      change ((Act.ofExcept (Phy.ofIndex index) >>= Controller.selectPhy) controller).events = _
      rw [Phy.ofIndex_of_some targets]
      rfl
  | selectPhy chosen =>
      cases targets
      rfl
  | switch =>
      cases targets
      exact (Act.events_bind_pure _ _ _).trans (Act.events_bind_pure _ _ _)
  | _ => cases targets

/-- No operation changes what discovery has settled. -/
theorem Action.site_run (action : Action) (controller : Controller τ) :
    (action.run controller).state.site = controller.site := by
  cases targets : action.target? controller.state with
  | some target => rw [(run_eq_selectPhy targets).2, site_selectPhy]
  | none =>
      cases action with
      | setParameter index parameter value =>
          cases found : Phy.ofIndex index <;>
            simp [run, setter_eq, Controller.setParameter, modifyState, found, site]
      | setChannels channels => rfl
      | setMode mode => rfl
      | configure table channels mode => rfl
      | send parameter value channel =>
          simp only [run, Controller.send, state_issue, site_asked]
      | select index =>
          simp [run, Controller.select, Phy.ofIndex_of_none targets]
      | selectPhy target => cases targets
      | switch => cases targets

theorem site_after (controller : Controller τ) (history : List Action) :
    (controller.after history).site = controller.site := by
  induction history generalizing controller with
  | nil => rfl
  | cons action history inductionHypothesis =>
      rw [after, inductionHypothesis, Action.site_run]

theorem endpoints_after (controller : Controller τ) (history : List Action) :
    (controller.after history).endpoints = controller.endpoints :=
  congrArg (fun settled => settled.2.1) (site_after controller history)

end Runs

end Controller
end DualPhy
