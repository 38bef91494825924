import DualPhy.Profile
import DualPhy.Proofs.History

/-!
# What every use of a controller leaves alone

A use is an operation, the loading of a profile, or a look at what the controller
knows. One case analysis says all that a use can do: it selects a PHY, it refuses a
number, it stays within the controller, or it makes one call at once. From it follows
what a use changes and what it leaves alone, and by induction what a history of uses
comes to: the active PHY is the one that the last successful selection has put on air.
-/

namespace DualPhy

theorem Phy.ofIndex?_eq_none_iff (index : Nat) :
    ofIndex? index = none ↔ index ≠ 0 ∧ index ≠ 1 := by
  rcases index with _ | _ | index <;> simp [ofIndex?]

theorem Phy.index_of_ofIndex? {index : Nat} {phy : Phy} (found : ofIndex? index = some phy) :
    phy.index = index := by
  match index with
  | 0 => cases found; rfl
  | 1 => cases found; rfl
  | index + 2 => cases found

namespace Controller

/-- What a caller can do with a controller. -/
inductive Use
  /-- Run an operation. -/
  | act (action : Action)
  /-- Load a profile. -/
  | load (profile : Profile)
  /-- Look at the parameters of the PHY of a number. -/
  | parameters (index : Nat)
  /-- Look at the plan of a PHY. -/
  | plan (target : Phy)
  /-- Look at the state, the addresses, the base address or the missing roles. -/
  | look

namespace Use

/-- Run a use, without the value that it gives. -/
def run [Transport τ] : Use → Run τ Unit
  | .act action => action.run
  | .load profile => profile.applyTo
  | .parameters index => do
      let controller ← Act.state
      let _ ← Act.ofExcept (controller.parameters index)
      return ()
  | .plan target => do
      let controller ← Act.state
      let _ := controller.state.plan target
      return ()
  | .look => do
      let _ ← Act.state
      return ()

/-- The number of a PHY that a use is given. -/
def index? : Use → Option Nat
  | .act (.setParameter index _ _) | .act (.select index) | .parameters index => some index
  | _ => none

/-- The PHY that a use would put on air. -/
def target? (state : ControllerState) : Use → Option Phy
  | .act action => action.target? state
  | _ => none

/-- Whether a use is meant to put a PHY on air. -/
def selects : Use → Bool
  | .act (.select _) | .act (.selectPhy _) | .act .switch => true
  | _ => false

/-- Whether a use sends a parameter at once. -/
def sends : Use → Bool
  | .act (.send _ _ _) => true
  | _ => false

end Use

/-! ## What a use can do -/

section Uses

variable [Transport τ]

/-- A selection ends in the state before it, but for the active PHY if it
succeeds. -/
theorem state_selectPhy (controller : Controller τ) (target : Phy) :
    (selectPhy target controller).state.state =
      if (selectPhy target controller).outcome = .done () then
        { controller.state with active := target }
      else controller.state := by
  rcases accepts_or_stopsAt controller (controller.state.plan target) with
    accepts | ⟨position, call, stops⟩
  · rw [accepts.selectPhy.1, if_pos rfl, accepts.selectPhy.2]
    rfl
  · have broken : (selectPhy target controller).outcome ≠ .done () := by
      rw [Ne, outcome_selectPhy_eq_done_iff]
      exact stops.not_accepts
    rw [if_neg broken, stops.selectPhy.2]
    rfl

/-- The failure of a call is never that of a number. -/
theorem selectPhy_ne_invalidIndex (controller : Controller τ) (target : Phy) (index : Nat) :
    (selectPhy target controller).outcome ≠ .failed (.invalidIndex index) := by
  rcases accepts_or_stopsAt controller (controller.state.plan target) with
    accepts | ⟨position, call, stops⟩
  · rw [accepts.selectPhy.1]
    exact nofun
  · rw [stops.selectPhy.1]
    cases controller.reply ((controller.state.plan target).take position) call <;> simp

namespace Use

/-- What a use does to a controller, case by case. -/
inductive Effect (use : Use) (controller : Controller τ) :
    Outcome ControllerError Unit → Controller τ → Prop
  /-- It selects its target. -/
  | selection (target : Phy)
      (selects : use.selects = true)
      (targets : use.target? controller.state = some target)
      (valid : ∀ index, use.index? = some index → Phy.ofIndex? index ≠ none) :
      Effect use controller (selectPhy target controller).outcome
        (selectPhy target controller).state
  /-- It refuses a number and does nothing. -/
  | refusal (index : Nat)
      (named : use.index? = some index)
      (absent : Phy.ofIndex? index = none)
      (targets : use.target? controller.state = none)
      (sends : use.sends = false) :
      Effect use controller (.failed (.invalidIndex index)) controller
  /-- It changes at most the settings. -/
  | settings (state : ControllerState)
      (selects : use.selects = false)
      (sends : use.sends = false)
      (targets : use.target? controller.state = none)
      (valid : ∀ index, use.index? = some index → Phy.ofIndex? index ≠ none)
      (active : state.active = controller.state.active) :
      Effect use controller (.done ()) { controller with state }
  /-- It makes a call. -/
  | immediate (call : Call)
      (sends : use.sends = true)
      (selects : use.selects = false)
      (targets : use.target? controller.state = none)
      (numberless : use.index? = none) :
      Effect use controller
        ((controller.reply [] call).mapError (.transportFailure call.operation))
        (controller.asked [call])

/-- An operation does one of these. -/
theorem effect_act (action : Action) (controller : Controller τ) :
    Effect (.act action) controller (action.run controller).outcome
      (action.run controller).state := by
  cases targets : action.target? controller.state with
  | some target =>
      rw [(Action.run_eq_selectPhy targets).1, (Action.run_eq_selectPhy targets).2]
      cases action with
      | select index =>
          refine .selection target rfl targets ?_
          rintro named ⟨⟩
          simp only [Action.target?] at targets
          simp [targets]
      | selectPhy chosen => exact .selection target rfl targets (by rintro _ ⟨⟩)
      | switch => exact .selection target rfl targets (by rintro _ ⟨⟩)
      | _ => cases targets
  | none =>
      cases action with
      | setParameter index parameter value =>
          cases found : Phy.ofIndex? index with
          | none =>
              have refused := Phy.ofIndex_of_none found
              have effect : Effect (.act (.setParameter index parameter value)) controller
                  (.failed (.invalidIndex index)) controller :=
                .refusal index rfl found rfl rfl
              simpa [Action.run, setter_eq, Controller.setParameter, refused] using effect
          | some phy =>
              have accepted := Phy.ofIndex_of_some found
              let state := controller.state.setParameter phy parameter value
              have effect : Effect (.act (.setParameter index parameter value)) controller
                  (.done ()) { controller with state } :=
                .settings state rfl rfl rfl (by rintro named ⟨⟩; simp [found]) rfl
              simpa [Action.run, setter_eq, Controller.setParameter, accepted, modifyState] using effect
      | setChannels channels =>
          exact .settings { controller.state with channels } rfl rfl rfl
            (by rintro _ ⟨⟩) rfl
      | setMode mode =>
          exact .settings { controller.state with mode } rfl rfl rfl (by rintro _ ⟨⟩) rfl
      | configure table channels mode =>
          exact .settings { controller.state with table, channels, mode } rfl rfl rfl
            (by rintro _ ⟨⟩) rfl
      | send parameter value channel =>
          simp only [Action.run, Controller.send, outcome_issue, state_issue]
          exact .immediate _ rfl rfl rfl rfl
      | select index =>
          have absent : Phy.ofIndex? index = none := targets
          have refused := Phy.ofIndex_of_none absent
          have effect : Effect (.act (.select index)) controller
              (.failed (.invalidIndex index)) controller :=
            .refusal index rfl absent absent rfl
          simpa [Action.run, Controller.select, refused] using effect
      | selectPhy target => cases targets
      | switch => cases targets

/-- Every use does one of these. -/
theorem effect_run (use : Use) (controller : Controller τ) :
    Effect use controller (use.run controller).outcome (use.run controller).state := by
  cases use with
  | act action => exact effect_act action controller
  | load profile =>
      exact .settings { controller.state with
        table := profile.table, channels := profile.channels, mode := profile.mode }
        rfl rfl rfl (by rintro _ ⟨⟩) rfl
  | parameters index =>
      cases found : Phy.ofIndex? index with
      | none =>
          have refused : controller.parameters index = .error (.invalidIndex index) := by
            simp [Controller.parameters, Phy.ofIndex_of_none found, Except.map]
          have effect : Effect (.parameters index) controller
              (.failed (.invalidIndex index)) controller :=
            .refusal index rfl found rfl rfl
          simpa [run, refused] using effect
      | some phy =>
          have accepted : controller.parameters index = .ok (controller.state.table.get phy) := by
            simp [Controller.parameters, Phy.ofIndex_of_some found, Except.map]
          have effect : Effect (.parameters index) controller (.done ()) controller :=
            .settings controller.state rfl rfl rfl (by rintro named ⟨⟩; simp [found]) rfl
          simpa [run, accepted] using effect
  | plan target => exact .settings controller.state rfl rfl rfl (by rintro _ ⟨⟩) rfl
  | look => exact .settings controller.state rfl rfl rfl (by rintro _ ⟨⟩) rfl

end Use

end Uses

/-! ## Histories of uses -/

/-- One use in a history, with the controller before and behind it. -/
structure Episode (τ : Type) where
  /-- The controller before it. -/
  before : Controller τ
  /-- The use. -/
  use : Use
  /-- How it ended. -/
  outcome : Outcome ControllerError Unit
  /-- The controller behind it. -/
  after : Controller τ

namespace Episode

/-- The PHY that an episode has put on air. -/
def selected? (episode : Episode τ) : Option Phy :=
  if episode.outcome = .done () then episode.use.target? episode.before.state else none

end Episode

section Episodes

variable [Transport τ]

/-- The controller behind a history of uses. -/
def afterUses : Controller τ → List Use → Controller τ
  | controller, [] => controller
  | controller, use :: uses => afterUses (use.run controller).state uses

theorem afterUses_append (controller : Controller τ) (earlier later : List Use) :
    controller.afterUses (earlier ++ later) = (controller.afterUses earlier).afterUses later := by
  induction earlier generalizing controller with
  | nil => rfl
  | cons use earlier inductionHypothesis => exact inductionHypothesis _

/-- The episodes of a history of uses. -/
def episodes : Controller τ → List Use → List (Episode τ)
  | _, [] => []
  | controller, use :: uses =>
      ⟨controller, use, (use.run controller).outcome, (use.run controller).state⟩ ::
        episodes (use.run controller).state uses

end Episodes

/-- The PHY that the last successful selection among episodes has put on air. -/
def lastSelected? (episodes : List (Episode τ)) : Option Phy :=
  (episodes.filterMap Episode.selected?).getLast?

/-- What an episode changes, and what it leaves alone. -/
structure Episode.Orderly (episode : Episode (Recorded σ)) : Prop where
  /-- A use that does not succeed leaves the state as it was. -/
  unsuccessful : episode.outcome ≠ .done () → episode.after.state = episode.before.state
  /-- A number is refused exactly when it is not that of a PHY. -/
  invalid_iff : ∀ index, episode.outcome = .failed (.invalidIndex index) ↔
    episode.use.index? = some index ∧ index ≠ 0 ∧ index ≠ 1
  /-- A refused number leaves everything as it was: no call is made. -/
  invalid : ∀ index, episode.outcome = .failed (.invalidIndex index) →
    episode.after = episode.before
  /-- Settings and looks do not reach the transport or change the active PHY. -/
  settings : episode.use.selects = false → episode.use.sends = false →
    episode.after.transport = episode.before.transport ∧
      episode.after.state.active = episode.before.state.active
  /-- An immediate call is at most one call and changes nothing of the state. -/
  immediate : episode.use.sends = true →
    (∃ made, made.length ≤ 1 ∧ episode.after.posted = episode.before.posted ++ made) ∧
      episode.after.state = episode.before.state
  /-- A selection changes nothing of the state but the active PHY. -/
  selection : episode.use.selects = true →
    ∃ active, episode.after.state = { episode.before.state with active }
  /-- Base address, addresses and missing roles stay. -/
  site : episode.after.site = episode.before.site

/-! ## What follows for each use -/

namespace Use.Effect

variable [Transport τ] {use : Use} {controller after : Controller τ}
  {outcome : Outcome ControllerError Unit}

theorem state_of_not_done
    (effect : use.Effect controller outcome after)
    (undone : outcome ≠ .done ()) :
    after.state = controller.state := by
  cases effect with
  | selection target => rw [state_selectPhy, if_neg undone]
  | refusal index => rfl
  | settings state => exact absurd rfl undone
  | immediate call => rfl

theorem failed_invalidIndex_iff
    (effect : use.Effect controller outcome after)
    (index : Nat) :
    outcome = .failed (.invalidIndex index) ↔
      use.index? = some index ∧ index ≠ 0 ∧ index ≠ 1 := by
  rw [← Phy.ofIndex?_eq_none_iff]
  cases effect with
  | selection target selects targets valid =>
      constructor
      · exact fun failed => absurd failed (selectPhy_ne_invalidIndex controller target index)
      · exact fun ⟨named, outside⟩ => absurd outside (valid index named)
  | refusal refused named absent =>
      rw [named]
      constructor
      · rintro ⟨⟩
        exact ⟨rfl, absent⟩
      · rintro ⟨⟨⟩, -⟩
        rfl
  | settings state selects sends targets valid =>
      exact ⟨nofun, fun ⟨named, outside⟩ => absurd outside (valid index named)⟩
  | immediate call sends selects targets numberless =>
      rw [numberless]
      cases controller.reply [] call <;> simp

theorem eq_of_invalidIndex
    (effect : use.Effect controller outcome after)
    {index : Nat}
    (failed : outcome = .failed (.invalidIndex index)) :
    after = controller := by
  cases effect with
  | selection target => exact absurd failed (selectPhy_ne_invalidIndex controller target index)
  | refusal index => rfl
  | settings state => cases failed
  | immediate call => cases answered : controller.reply [] call <;> simp [answered] at failed

theorem transport_of_settings
    (effect : use.Effect controller outcome after)
    (noSelection : use.selects = false)
    (noCall : use.sends = false) :
    after.transport = controller.transport ∧ after.state.active = controller.state.active := by
  cases effect with
  | selection target selects => simp [selects] at noSelection
  | refusal index => exact ⟨rfl, rfl⟩
  | settings state selects sends targets valid active => exact ⟨rfl, active⟩
  | immediate call sends => simp [sends] at noCall

theorem asked_of_sends
    (effect : use.Effect controller outcome after)
    (sends : use.sends = true) :
    ∃ call, after = controller.asked [call] := by
  cases effect with
  | selection target selects => cases use with
    | act action => cases action <;> simp_all [Use.selects, Use.sends]
    | _ => cases sends
  | refusal index named absent targets noCall => simp [sends] at noCall
  | settings state selects noCall => simp [sends] at noCall
  | immediate call => exact ⟨call, rfl⟩

theorem state_of_selects
    (effect : use.Effect controller outcome after)
    (selects : use.selects = true) :
    ∃ active, after.state = { controller.state with active } := by
  cases effect with
  | selection target =>
      rw [state_selectPhy]
      split
      · exact ⟨target, rfl⟩
      · exact ⟨controller.state.active, rfl⟩
  | refusal index => exact ⟨controller.state.active, rfl⟩
  | settings state noSelection => simp [selects] at noSelection
  | immediate call sends noSelection => simp [selects] at noSelection

theorem site
    (effect : use.Effect controller outcome after) :
    after.site = controller.site := by
  cases effect with
  | selection target => exact site_selectPhy controller target
  | refusal index => rfl
  | settings state => rfl
  | immediate call => rfl

/-- A use that succeeds puts its target on air, and any other leaves the active PHY as it
was. -/
theorem active
    (effect : use.Effect controller outcome after) :
    after.state.active =
      (Episode.selected? ⟨controller, use, outcome, after⟩).getD controller.state.active := by
  cases effect with
  | selection target selects targets =>
      rw [state_selectPhy, Episode.selected?]
      simp only [targets]
      split <;> rfl
  | refusal index => rfl
  | settings state selects sends targets valid active =>
      simpa [Episode.selected?, targets] using active
  | immediate call sends selects targets => simp [Episode.selected?, targets]

end Use.Effect

/-- An immediate call adds at most one request. -/
theorem length_posts_singleton_le (table : EndpointTable) (call : Call) :
    (table.posts [call]).length ≤ 1 := by
  rw [EndpointTable.posts, List.length_map]
  exact List.length_filterMap_le _ [call]

/-- Every use is in order. -/
theorem Use.Effect.orderly
    [Transport σ]
    {use : Use}
    {controller after : Controller (Recorded σ)}
    {outcome : Outcome ControllerError Unit}
    (effect : use.Effect controller outcome after) :
    Episode.Orderly ⟨controller, use, outcome, after⟩ where
  unsuccessful := effect.state_of_not_done
  invalid_iff := effect.failed_invalidIndex_iff
  invalid _ := effect.eq_of_invalidIndex
  settings := effect.transport_of_settings
  immediate sends := by
    obtain ⟨call, rfl⟩ := effect.asked_of_sends sends
    exact ⟨⟨_, length_posts_singleton_le _ call, posted_asked controller [call]⟩, rfl⟩
  selection := effect.state_of_selects
  site := effect.site

/-! ## What follows for a history -/

section Histories

variable [Transport τ]

theorem episodes_orderly
    [Transport σ]
    (controller : Controller (Recorded σ))
    (uses : List Use) :
    ∀ episode ∈ controller.episodes uses, episode.Orderly := by
  induction uses generalizing controller with
  | nil => exact fun _ member => absurd member List.not_mem_nil
  | cons use uses inductionHypothesis =>
      rw [episodes, List.forall_mem_cons]
      exact ⟨(use.effect_run controller).orderly, inductionHypothesis _⟩

theorem site_afterUses (controller : Controller τ) (uses : List Use) :
    (controller.afterUses uses).site = controller.site := by
  induction uses generalizing controller with
  | nil => rfl
  | cons use uses inductionHypothesis =>
      rw [afterUses, inductionHypothesis, (use.effect_run controller).site]

/-- If a use leaves a part of the state as its episode says, and as it was if the episode says
nothing, then a history leaves it as the last of its episodes says that says anything. -/
theorem read_afterUses
    {read : ControllerState → α}
    {written? : Episode τ → Option α}
    (read_run : ∀ (controller : Controller τ) (use : Use),
      read (use.run controller).state.state =
        (written? ⟨controller, use, (use.run controller).outcome,
          (use.run controller).state⟩).getD (read controller.state))
    (controller : Controller τ)
    (uses : List Use) :
    read (controller.afterUses uses).state =
      ((controller.episodes uses).filterMap written?).getLast?.getD (read controller.state) := by
  induction uses generalizing controller with
  | nil => rfl
  | cons use uses inductionHypothesis =>
      rw [afterUses, inductionHypothesis, read_run, episodes, List.filterMap_cons]
      cases written? _ with
      | none => rfl
      | some value => simp [List.getLast?_cons]

/-- The active PHY behind a history is the one that the last successful selection has
put on air, or the one before the history if there is none. -/
theorem active_afterUses (controller : Controller τ) (uses : List Use) :
    (controller.afterUses uses).state.active =
      (lastSelected? (controller.episodes uses)).getD controller.state.active :=
  read_afterUses (fun controller use => (use.effect_run controller).active) controller uses

end Histories

/-- In every history of a fresh controller, the active PHY is the one that the last
successful selection has put on air, and PHY 0 before that; every use changes no more than
it is meant to, and nothing at all when it refuses a number; and what discovery has settled
stays. -/
theorem history_keeps_order
    [Transport σ]
    (base : String)
    (resolution : Resolution)
    (transport : Recorded σ)
    (uses : List Use) :
    ((fresh base resolution transport).afterUses uses).state.active =
        (lastSelected? ((fresh base resolution transport).episodes uses)).getD .phy0 ∧
      (∀ episode ∈ (fresh base resolution transport).episodes uses, episode.Orderly) ∧
      ((fresh base resolution transport).afterUses uses).site =
        (base, .build base resolution, resolution.missing) :=
  ⟨active_afterUses _ uses, episodes_orderly _ uses, site_afterUses _ uses⟩

end Controller
end DualPhy
