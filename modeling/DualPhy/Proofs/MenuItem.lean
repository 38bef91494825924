import DualPhy.Proofs.Dialogue
import DualPhy.Proofs.Guidance

/-!
# Items of the menu

A completed item of the menu stands for a plain operation of the controller. Up to its last prompt
nothing happens, and with the last answer the operation is run behind its bar, so one key does
either nothing to the controller or all that an item asks for.
-/

namespace DualPhy
namespace Console

open Controller (Mirrors Reflects)

/-! ## Completed items -/

/-- A completed item of the menu, with the answers to its prompts. -/
inductive Entry
  /-- Put a PHY on air. -/
  | selectPhy (phy : Phy)
  /-- Put the other PHY on air. -/
  | switchPhy
  /-- Change to the other tuning mode. -/
  | toggleMode
  /-- Set a parameter of a PHY. -/
  | editParameter (phy : Phy) (parameter : Parameter) (value : Binary64)
  /-- Set both channels. -/
  | setChannels (channels : Channels)
  /-- Write the state to standard output. -/
  | showState
  deriving DecidableEq

/-- Run an operation and pass over its failure. -/
def passOver (run : Controller.Run τ α) : Controller.Run τ Unit := do
  let _ ← (run.attempt : Controller.Run τ (Except ControllerError α))
  return ()

@[simp] theorem state_passOver (run : Controller.Run τ α) (controller : Controller τ) :
    (passOver run controller).state = (run controller).state :=
  Act.state_bind_pure _ _ _

theorem outcome_passOver (run : Controller.Run τ α) (controller : Controller τ) :
    (passOver run controller).outcome = .done () ∨
      (passOver run controller).outcome = .crashed := by
  cases ended : (run controller).outcome <;> simp [passOver, ended, Outcome.attempt]

namespace Entry

/-- The answers to the prompts of an item. -/
def answers : Entry → List Answer
  | .selectPhy phy => [.item (.selectPhy phy)]
  | .switchPhy => [.item .switchPhy]
  | .toggleMode => [.item .toggleMode]
  | .editParameter phy parameter value =>
      [.item .editParameter, .phy phy, .parameter parameter, .value value]
  | .setChannels channels => [.item .setChannels, .channel channels.rx, .channel channels.tx]
  | .showState => [.item .showState]

/-- The operation of an item, without bars. Its failure is passed over. -/
def tried [Transport τ] : Entry → Controller.Run τ Unit
  | .selectPhy phy => passOver (Controller.selectPhy phy)
  | .switchPhy => passOver Controller.switch
  | .toggleMode => passOver do
      let controller ← Act.state
      Controller.setMode controller.state.mode.other
  | .editParameter phy parameter value =>
      passOver (Controller.setParameter phy.index parameter value)
  | .setChannels channels => passOver (Controller.setChannels channels)
  | .showState => return ()

theorem answers_append_inj
    {first second : Entry}
    {rest more : List Answer}
    (same : first.answers ++ rest = second.answers ++ more) :
    first = second ∧ rest = more := by
  cases first <;> cases second <;> simp [answers] at same
  all_goals grind [Channels]

/-- What is left unfinished is not completed. -/
theorem answers_append_ne (entry : Entry) (rest : List Answer) (ending : Ending) :
    entry.answers ++ rest ≠ ending.answers := by
  have unfinished : ∀ (stage : Stage) (last : List Answer), last = [] ∨ last = [.failure] →
      entry.answers ++ rest ≠ stage.answers ++ last := by
    intro stage last tail
    rcases stage with (_ | _ | _) | (_ | _ | _) <;> cases entry <;> rcases tail with rfl | rfl <;>
      simp [answers, Stage.answers]
  cases ending with
  | quit => cases entry <;> simp [answers, Ending.answers]
  | failure stage => exact unfinished stage _ (.inr rfl)
  | waits stage =>
      have tail := unfinished stage [] (.inl rfl)
      rwa [List.append_nil] at tail

/-- An item is passed or breaks down. -/
theorem outcome_tried [Transport τ] (entry : Entry) (controller : Controller τ) :
    (entry.tried controller).outcome = .done () ∨
      (entry.tried controller).outcome = .crashed := by
  cases entry with
  | showState => exact .inl rfl
  | _ => exact outcome_passOver _ _

/-- Whether the value of an item, if it has one, is among those that its prompt can give. -/
def Answerable (state : ControllerState) : Entry → Prop
  | .editParameter phy parameter value =>
      (Stage.number (.value phy parameter)).Admits state (.value value)
  | _ => True

/-- Whether the numbers of an item are those that its prompts offer, which an empty line stands
for. -/
def AsOffered (state : ControllerState) : Entry → Prop
  | .editParameter phy parameter value =>
      (Field.value phy parameter).answer? state [] = some (.value value)
  | .setChannels channels =>
      Field.rxChannel.answer? state [] = some (.channel channels.rx) ∧
        (Field.txChannel channels.rx).answer? state [] = some (.channel channels.tx)
  | _ => False

/-- An item whose numbers are those that were offered changes nothing. -/
theorem AsOffered.state_tried
    [Transport τ]
    {entry : Entry}
    {controller : Controller τ}
    (offered : entry.AsOffered controller.state) :
    (entry.tried controller).state = controller := by
  cases entry with
  | editParameter phy parameter value =>
      have same : value = (controller.state.table.get phy).get parameter := by
        simpa [AsOffered, Field.answer?, typedValue, eq_comm] using offered
      have unchanged : controller.state.setParameter phy parameter value = controller.state := by
        rw [same]
        cases phy <;> cases parameter <;> rfl
      rw [tried, state_passOver]
      simp [Controller.setParameter, Controller.modifyState, Phy.ofIndex, unchanged]
  | setChannels channels =>
      obtain ⟨rx, tx⟩ := channels
      obtain ⟨rfl, rfl⟩ : rx = controller.state.channels.rx ∧
          tx = controller.state.channels.tx := by
        simpa [AsOffered, Field.answer?, channelAnswer?, typedValue, eq_comm] using offered
      rw [tried, state_passOver]
      rfl
  | _ => exact offered.elim

end Entry

/-! ## One key -/

theorem mirrors_logFailure
    {guided : Controller.GuidedRun τ α}
    {bare : Controller.Run τ α}
    (mirrors : Mirrors guided bare) :
    Mirrors (logFailure guided) (passOver bare) := by
  refine mirrors.attempt.bind fun result => ?_
  cases result with
  | ok value => exact Controller.mirrors_pure ()
  | error error => exact fun _ _ => ⟨rfl, rfl, fun _ _ => rfl⟩

theorem mirrors_editParameter (phy : Phy) (parameter : Parameter) (value : Binary64) :
    Mirrors (τ := τ) (editParameter phy parameter value)
      (Controller.setParameter phy.index parameter value) := by
  intro bars controller
  cases phy <;> exact ⟨rfl, rfl, fun _ _ => rfl⟩

/-- The item of the menu that an entry completes, if it has no prompts of its own. -/
def Item.entry? : Item → Option Entry
  | .selectPhy phy => some (.selectPhy phy)
  | .switchPhy => some .switchPhy
  | .toggleMode => some .toggleMode
  | .showState => some .showState
  | _ => none

section

variable [Transport τ]

/-- An item without prompts of its own is done behind bars as it is without them. -/
theorem mirrors_perform {item : Item} {entry : Entry} (completes : item.entry? = some entry) :
    Mirrors (τ := τ) (perform item) (entry.tried >>= fun _ => pure (.goOn .menu)) := by
  cases item <;> cases completes
  case selectPhy.refl phy =>
    exact (mirrors_logFailure (Controller.mirrors_selectWithBar phy)).bind fun _ =>
      Controller.mirrors_pure _
  case switchPhy.refl =>
    exact (mirrors_logFailure Controller.mirrors_switchWithBar).bind fun _ =>
      Controller.mirrors_pure _
  case toggleMode.refl => exact fun _ _ => ⟨rfl, rfl, fun _ _ => rfl⟩
  case showState.refl => exact fun _ _ => ⟨rfl, rfl, fun _ _ => rfl⟩

/-- Behind a completed item the menu is shown again. -/
theorem moves_of_completed
    {bars : Bars}
    {controller : Controller τ}
    {entry : Entry}
    {report : Report ControllerError (Controller (Tracked τ)) Next}
    (reflects : Reflects bars report
      ((entry.tried >>= fun _ => pure (.goOn .menu)) controller))
    (passed : (entry.tried controller).outcome = .done ()) :
    Moves report .menu ∧
      ∃ left : Bars, report.state = (entry.tried controller).state.tracked left := by
  obtain ⟨left, behind⟩ := reflects.exists_bars
  have ended := reflects.outcome
  rw [Act.outcome_bind_pure, passed] at ended
  rw [Act.state_bind_pure] at behind
  exact ⟨.inr ended, left, behind⟩

/-- What a key at a prompt leads to, by the answer that it gives there. -/
inductive Pressed
    (bars : Bars)
    (controller : Controller τ)
    (stage : Stage)
    (report : Report ControllerError (Controller (Tracked τ)) Next) : Option Answer → Prop
  /-- No answer: the same is asked as before. -/
  | unanswered (next : Place)
      (moves : Moves report next)
      (same : next.stage = stage)
      (still : report.state = controller.tracked bars) :
      Pressed bars controller stage report none
  /-- An answer behind which the item has another prompt. -/
  | answered (next : Stage) {answer : Answer}
      (moves : Moves report (next.place controller.state))
      (given : next.answers = stage.answers ++ [answer])
      (still : report.state = controller.tracked bars) :
      Pressed bars controller stage report (some answer)
  /-- The last answer of an item, which is done now. -/
  | completed (entry : Entry) {answer : Answer}
      (given : entry.answers = stage.answers ++ [answer])
      (reflects : Reflects bars report
        ((entry.tried >>= fun _ => pure (.goOn .menu)) controller)) :
      Pressed bars controller stage report (some answer)
  /-- The choice to leave. -/
  | left
      (outcome : report.outcome = .done .leave)
      (menu : stage = .list .menu)
      (still : report.state = controller.tracked bars) :
      Pressed bars controller stage report (some (.item .quit))
  /-- A failure of the terminal. -/
  | brokenOff
      (outcome : report.outcome = .done .breakOff)
      (still : report.state = controller.tracked bars) :
      Pressed bars controller stage report (some .failure)

theorem pressed_failure (bars : Bars) (controller : Controller τ) (place : Place) :
    Pressed bars controller place.stage (press place .failure (controller.tracked bars))
      (some .failure) := by
  cases place <;> exact .brokenOff rfl rfl

/-- Choosing the item at the cursor of a list. -/
theorem pressed_pick (bars : Bars) (controller : Controller τ) (choice : Choice) (cursor : Nat) :
    Pressed bars controller (.list choice) (pick choice cursor (controller.tracked bars))
      (some (choice.answer cursor)) := by
  cases choice with
  | menu =>
      unfold pick Choice.answer
      simp only
      cases Item.all.getD cursor .quit with
      | selectPhy phy => exact .completed (.selectPhy phy) rfl (mirrors_perform rfl bars controller)
      | switchPhy => exact .completed .switchPhy rfl (mirrors_perform rfl bars controller)
      | toggleMode => exact .completed .toggleMode rfl (mirrors_perform rfl bars controller)
      | showState => exact .completed .showState rfl (mirrors_perform rfl bars controller)
      | editParameter => exact .answered (.list .phy) (.inr rfl) rfl rfl
      | setChannels => exact .answered (.number .rxChannel) (.inr rfl) rfl rfl
      | quit => exact .left rfl rfl rfl
  | phy => exact .answered (.list (.parameter _)) (.inr rfl) rfl rfl
  | parameter phy => exact .answered (.number (.value phy _)) (.inr rfl) rfl rfl

/-- Ending a line. -/
theorem pressed_enter
    (bars : Bars)
    (controller : Controller τ)
    (field : Field)
    (line : List Char) :
    Pressed bars controller (.number field) (enter field line (controller.tracked bars))
      (field.answer? controller.state line) := by
  rw [enter, Act.state_bind_eq, Controller.state_tracked]
  cases field with
  | value phy parameter =>
      simp only [Field.answer?]
      cases typedValue (fun text => (Binary64.read text).toOption)
          ((controller.state.table.get phy).get parameter) line with
      | none => exact .unanswered (.typing (.value phy parameter) .empty) (.inr rfl) rfl rfl
      | some value =>
          refine .completed (.editParameter phy parameter value) rfl ?_
          exact (mirrors_logFailure (mirrors_editParameter phy parameter value)).bind
            (fun _ => Controller.mirrors_pure _) bars controller
  | rxChannel =>
      simp only [Field.answer?, channelAnswer?]
      cases typedValue (Decimal.naturalBelow? UInt32.size)
          controller.state.channels.rx.toNat line with
      | none => exact .unanswered (.typing .rxChannel .empty) (.inr rfl) rfl rfl
      | some rx => exact .answered (.number (.txChannel (.ofNat rx))) (.inr rfl) rfl rfl
  | txChannel rx =>
      simp only [Field.answer?, channelAnswer?]
      cases typedValue (Decimal.naturalBelow? UInt32.size)
          controller.state.channels.tx.toNat line with
      | none => exact .unanswered (.typing (.txChannel rx) .empty) (.inr rfl) rfl rfl
      | some tx =>
          exact .completed (.setChannels ⟨rx, .ofNat tx⟩) rfl ⟨rfl, rfl, fun _ _ => rfl⟩

/-- A key at a list, by what it means to the cursor. -/
theorem pressed_choosing
    (bars : Bars)
    (controller : Controller τ)
    (choice : Choice)
    (cursor : Nat)
    {key : Key}
    (sound : key ≠ .failure) :
    Pressed bars controller (.list choice)
      (press (.choosing choice cursor) key (controller.tracked bars))
      (if key.atCursor = .enter then some (choice.answer cursor) else none) := by
  have stays : ∀ next, Pressed bars controller (.list choice)
      ⟨.done (.stay (.choosing choice next)), controller.tracked bars, []⟩ none :=
    fun next => .unanswered (.choosing choice next) (.inl rfl) rfl rfl
  rw [press]
  · cases key.atCursor with
    | enter => exact pressed_pick bars controller choice cursor
    | _ => exact stays _
  · exact sound

/-- A key at a prompt leads to what its answer says. -/
theorem pressed_press (bars : Bars) (controller : Controller τ) (place : Place) (key : Key) :
    Pressed bars controller place.stage (press place key (controller.tracked bars))
      (place.answer? controller.state key) := by
  cases place with
  | choosing choice cursor =>
      by_cases failed : key = .failure
      · rw [failed]
        exact pressed_failure bars controller (.choosing choice cursor)
      · rw [Place.answer?]
        · exact pressed_choosing bars controller choice cursor failed
        · exact failed
  | typing field line =>
      cases key with
      | failure => exact pressed_failure bars controller (.typing field line)
      | enter => exact pressed_enter bars controller field line.text
      | _ => exact .unanswered (.typing field (line.press _)) (.inl rfl) rfl rfl

section

variable {bars : Bars} {controller : Controller τ} {stage : Stage} {answer : Answer}
  {report : Report ControllerError (Controller (Tracked τ)) Next}

/-- An answer behind which an item has another prompt leads there. -/
theorem Pressed.answered_of
    {next : Stage}
    (pressed : Pressed bars controller stage report (some answer))
    (more : next.answers = stage.answers ++ [answer]) :
    Moves report (next.place controller.state) ∧ report.state = controller.tracked bars := by
  cases pressed with
  | answered other moves given still =>
      rw [Stage.answers_injective (more.trans given.symm)]
      exact ⟨moves, still⟩
  | completed entry given reflects =>
      refine absurd ?_ (entry.answers_append_ne [] (.waits next))
      rw [List.append_nil, given]
      exact more.symm
  | left outcome menu still =>
      refine absurd ?_ next.quit_not_mem_answers
      rw [more]
      exact List.mem_append_right _ List.mem_cons_self
  | brokenOff outcome still =>
      refine absurd ?_ next.failure_not_mem_answers
      rw [more]
      exact List.mem_append_right _ List.mem_cons_self

/-- The last answer of an item has the item done. -/
theorem Pressed.completed_of
    {entry : Entry}
    (pressed : Pressed bars controller stage report (some answer))
    (more : entry.answers = stage.answers ++ [answer]) :
    Reflects bars report ((entry.tried >>= fun _ => pure (.goOn .menu)) controller) := by
  have completes : ∀ ending : Ending, stage.answers ++ [answer] ≠ ending.answers := by
    intro ending
    rw [← more, ← List.append_nil entry.answers]
    exact entry.answers_append_ne [] ending
  cases pressed with
  | answered next moves given still => exact absurd given.symm (completes (.waits next))
  | completed other given reflects =>
      have same : entry.answers ++ [] = other.answers ++ [] := by
        rw [more, given]
      rw [(Entry.answers_append_inj same).1]
      exact reflects
  | left outcome menu still =>
      rw [menu] at completes
      exact absurd rfl (completes .quit)
  | brokenOff outcome still => exact absurd rfl (completes (.failure stage))

end

end

end Console
end DualPhy
