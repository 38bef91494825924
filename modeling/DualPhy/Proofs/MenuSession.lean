import DualPhy.Proofs.MenuItem

/-!
# What a session in the console comes to

The answers of a session are those of completed items of the menu, followed by those of an item
that was left unfinished, a failure of the terminal or the choice to leave. The main statement
says that the session does what the operations of the completed items do, one after the other:
a failure of the controller ends nothing, and an unfinished item has no effect.
-/

namespace DualPhy
namespace Console

/-! ## Scripts -/

/-- What a session consists of. -/
structure Script where
  /-- The items that are completed. -/
  entries : List Entry
  /-- How it ends behind them. -/
  ending : Ending

namespace Script

/-- The answers of a script, prompt by prompt. -/
def answers (script : Script) : List Answer :=
  script.entries.flatMap Entry.answers ++ script.ending.answers

theorem answers_cons (entry : Entry) (script : Script) :
    answers ⟨entry :: script.entries, script.ending⟩ = entry.answers ++ script.answers := by
  rw [answers, List.flatMap_cons, List.append_assoc]
  rfl

/-- The operations of the completed items, one after the other. -/
def plain [Transport τ] (script : Script) : Controller.Run τ Unit :=
  Act.forEach Entry.tried script.entries

end Script

/-- The answers of a session determine its script. -/
theorem Script.answers_injective {first second : Script} (same : first.answers = second.answers) :
    first = second := by
  obtain ⟨entries, ending⟩ := first
  obtain ⟨others, otherEnding⟩ := second
  simp only [answers] at same
  induction entries generalizing others with
  | nil =>
      cases others with
      | nil => rw [Ending.answers_injective same]
      | cons other others =>
          rw [List.flatMap_cons, List.append_assoc] at same
          exact absurd same.symm (other.answers_append_ne _ ending)
  | cons entry entries inductionHypothesis =>
      cases others with
      | nil =>
          rw [List.flatMap_cons, List.append_assoc] at same
          exact absurd same (entry.answers_append_ne _ otherEnding)
      | cons other others =>
          simp only [List.flatMap_cons, List.append_assoc] at same
          obtain ⟨rfl, rest⟩ := Entry.answers_append_inj same
          have tails := inductionHypothesis others rest
          simp only [mk.injEq] at tails
          rw [tails.1, tails.2]

/-! ## A whole session -/

/-- How a session ends, by the ending of its script and by what the plain operations end with.
One that breaks down ends at the item that does so. -/
inductive Concludes :
    Ending → Outcome ControllerError Unit → Outcome ControllerError Progress → Prop
  /-- The session is left through the menu. -/
  | left : Concludes .quit (.done ()) (.done .left)
  /-- The terminal ends it. -/
  | brokenOff (stage : Stage) : Concludes (.failure stage) (.done ()) (.done .brokenOff)
  /-- It waits for a key. -/
  | waiting (place : Place) : Concludes (.waits place.stage) (.done ()) (.done (.waiting place))
  /-- An operation breaks down. -/
  | crashed : Concludes (.waits (.list .menu)) .crashed .crashed

namespace Concludes

variable {ending : Ending} {plain : Outcome ControllerError Unit}
  {outcome : Outcome ControllerError Progress}

theorem left_iff (ends : Concludes ending plain outcome) :
    outcome = .done .left ↔ ending = .quit := by
  cases ends <;> simp

theorem brokenOff_iff (ends : Concludes ending plain outcome) :
    outcome = .done .brokenOff ↔ ∃ stage, ending = .failure stage := by
  cases ends <;> simp

theorem not_failed (ends : Concludes ending plain outcome) (error : ControllerError) :
    outcome ≠ .failed error := by
  cases ends <;> simp

end Concludes

section

variable [Transport τ]

/-- What a session does whose answers are those of a script. -/
structure Carries
    (script : Script)
    (controller : Controller τ)
    (report : Report ControllerError (Controller (Tracked τ)) Progress) : Prop where
  /-- It leaves the controller as the operations of the completed items do, transport included. -/
  state : report.state.untracked = (script.plain controller).state
  /-- It ends as the script says. -/
  ends : Concludes script.ending (script.plain controller).outcome report.outcome

/-- The script of a session in which one item more is completed first. -/
theorem Carries.cons
    {script : Script}
    {controller : Controller τ}
    {entry : Entry}
    {report : Report ControllerError (Controller (Tracked τ)) Progress}
    (passed : (entry.tried controller).outcome = .done ())
    (carries : Carries script (entry.tried controller).state report) :
    Carries ⟨entry :: script.entries, script.ending⟩ controller report := by
  have outcome : (Script.plain ⟨entry :: script.entries, script.ending⟩ controller).outcome =
      (script.plain (entry.tried controller).state).outcome := by
    simp [Script.plain, Act.forEach, passed]
  have state : (Script.plain ⟨entry :: script.entries, script.ending⟩ controller).state =
      (script.plain (entry.tried controller).state).state := by
    simp [Script.plain, Act.forEach, passed]
  exact ⟨carries.state.trans state.symm, outcome ▸ carries.ends⟩

/-- What is done behind a key that only moves on is all that is done. -/
theorem Carries.of_moves
    {script : Script}
    {controller : Controller τ}
    {place next : Place}
    {key : Key}
    {keys : List Key}
    {start after : Controller (Tracked τ)}
    (moves : Moves (press place key start) next)
    (left : (press place key start).state = after)
    (carries : Carries script controller (follow next keys after)) :
    Carries script controller (follow place (key :: keys) start) := by
  obtain ⟨outcome, state⟩ := follow_of_moves moves keys
  rw [left] at outcome state
  exact ⟨state ▸ carries.state, outcome ▸ carries.ends⟩

/-- A session that ends before an item is completed leaves the controller as it is. -/
theorem carries_nil
    {ending : Ending}
    {controller : Controller τ}
    {bars : Bars}
    {report : Report ControllerError (Controller (Tracked τ)) Progress}
    (still : report.state = controller.tracked bars)
    (ends : Concludes ending (.done ()) report.outcome) :
    Carries ⟨[], ending⟩ controller report where
  state := congrArg Controller.untracked still
  ends := ends

/-- A session that breaks down with an item carries out the script that ends there. -/
theorem carries_of_crashed
    {controller : Controller τ}
    {entry : Entry}
    {report : Report ControllerError (Controller (Tracked τ)) Progress}
    (crashed : (entry.tried controller).outcome = .crashed)
    (outcome : report.outcome = .crashed)
    (state : report.state.untracked = (entry.tried controller).state) :
    Carries ⟨[entry], .waits (.list .menu)⟩ controller report := by
  constructor
  case state => simpa [Script.plain, Act.forEach, crashed] using state
  case ends =>
    have broken : (Script.plain ⟨[entry], .waits (.list .menu)⟩ controller).outcome =
        .crashed := by
      simp [Script.plain, Act.forEach, crashed]
    rw [broken, outcome]
    exact .crashed

/-- Keys that are pressed from a place on carry out a script. -/
theorem exists_carries
    (keys : List Key)
    (place : Place)
    (controller : Controller τ)
    (bars : Bars) :
    ∃ script : Script,
      place.stage.answers ++ transcript place keys (controller.tracked bars) = script.answers ∧
        Carries script controller (follow place keys (controller.tracked bars)) := by
  -- The answers that an unfinished item has already are those of its stage.
  induction keys generalizing place controller bars with
  | nil =>
      refine ⟨⟨[], .waits place.stage⟩, ?_, carries_nil rfl (.waiting place)⟩
      rw [transcript, List.append_nil]
      rfl
  | cons key keys inductionHypothesis =>
      have pressed := pressed_press bars controller place key
      generalize given : place.answer? controller.state key = answer at pressed
      cases pressed with
      | unanswered next moves same still =>
          obtain ⟨script, answers, carries⟩ := inductionHypothesis next controller bars
          refine ⟨script, ?_, carries.of_moves moves still⟩
          rw [transcript_of_moves moves, Controller.state_tracked, given, still, ← answers, same]
          rfl
      | answered next moves more still =>
          obtain ⟨script, answers, carries⟩ :=
            inductionHypothesis (next.place controller.state) controller bars
          refine ⟨script, ?_, carries.of_moves moves still⟩
          rw [transcript_of_moves moves, Controller.state_tracked, given, still, ← answers,
            Stage.stage_place, more, List.append_assoc]
          rfl
      | completed entry more reflects =>
          rcases entry.outcome_tried controller with passed | crashed
          · obtain ⟨moves, left, behind⟩ := moves_of_completed reflects passed
            obtain ⟨script, answers, carries⟩ :=
              inductionHypothesis .menu (entry.tried controller).state left
            refine ⟨⟨entry :: script.entries, script.ending⟩, ?_,
              (carries.of_moves moves behind).cons passed⟩
            rw [transcript_of_moves moves, Controller.state_tracked, given, behind,
              Script.answers_cons, more, ← answers, List.append_assoc]
            rfl
          · have ended := reflects.outcome
            have behind := congrArg Controller.untracked reflects.state
            rw [Act.outcome_bind_pure, crashed] at ended
            rw [Act.state_bind_pure, Controller.untracked_tracked] at behind
            refine ⟨⟨[entry], .waits (.list .menu)⟩, ?_, carries_of_crashed crashed ?_ ?_⟩
            · simp [transcript, ended, given, Script.answers, Ending.answers, Stage.answers, more,
                Outcome.map]
            · simp [follow, ended, Outcome.map]
            · simpa [follow, ended, Outcome.map] using behind
      | left outcome menu still =>
          have ended : (follow place (key :: keys) (controller.tracked bars)).outcome =
              .done .left := by
            simp [follow, outcome]
          have left : (follow place (key :: keys) (controller.tracked bars)).state =
              controller.tracked bars := by
            simp [follow, outcome, still]
          refine ⟨⟨[], .quit⟩, ?_, carries_nil left (ended ▸ .left)⟩
          simp [transcript, outcome, given, Script.answers, Ending.answers, menu, Stage.answers]
      | brokenOff outcome still =>
          have ended : (follow place (key :: keys) (controller.tracked bars)).outcome =
              .done .brokenOff := by
            simp [follow, outcome]
          have left : (follow place (key :: keys) (controller.tracked bars)).state =
              controller.tracked bars := by
            simp [follow, outcome, still]
          refine ⟨⟨[], .failure place.stage⟩, ?_, carries_nil left (ended ▸ .brokenOff _)⟩
          simp [transcript, outcome, given, Script.answers, Ending.answers]

/-- The first question changes nothing. -/
theorem Carries.run
    {script : Script}
    {controller : Controller τ}
    {keys : List Key}
    {start : Controller (Tracked τ)}
    (carries : Carries script controller (follow .menu keys start)) :
    Carries script controller (Console.run keys start) := by
  have outcome : (Console.run keys start).outcome = (follow .menu keys start).outcome := by
    simp [Console.run, ask]
  have state : (Console.run keys start).state = (follow .menu keys start).state := by
    simp [Console.run, ask]
  exact ⟨state ▸ carries.state, outcome ▸ carries.ends⟩

/-! ## Keys for a script -/

/-- Whether items can be completed one after the other: the value of each is one that its prompt
can give, and no operation breaks down. -/
def Possible : List Entry → Controller τ → Prop
  | [], _ => True
  | entry :: entries, controller =>
      entry.Answerable controller.state ∧
        (entry.tried controller).outcome = .done () ∧
        Possible entries (entry.tried controller).state

/-- There are keys that lead from the menu to a prompt and leave the controller as it is. -/
def Reached (controller : Controller τ) (bars : Bars) (stage : Stage) : Prop :=
  Leads .menu (controller.tracked bars) stage.answers (stage.place controller.state)
    (controller.tracked bars)

section

variable {controller : Controller τ} {bars : Bars} {stage : Stage} {answer : Answer}

/-- An answer that does not complete an item leads to the next prompt of that item. -/
theorem Reached.next
    {next : Stage}
    (reached : Reached controller bars stage)
    (admits : stage.Admits controller.state answer)
    (more : next.answers = stage.answers ++ [answer]) :
    Reached controller bars next := by
  obtain ⟨place, rfl, ready, given⟩ := exists_leads_of_admits (controller.tracked bars) admits
  have pressed := pressed_press bars controller place .enter
  rw [← Controller.state_tracked controller bars, given] at pressed
  obtain ⟨moves, still⟩ := pressed.answered_of more
  rw [Reached, more]
  exact reached.trans (ready.trans (leads_of_moves given moves still))

/-- An answer that completes an item leads back to the menu, behind its operation. -/
theorem Reached.completed
    {entry : Entry}
    (reached : Reached controller bars stage)
    (admits : stage.Admits controller.state answer)
    (more : entry.answers = stage.answers ++ [answer])
    (passed : (entry.tried controller).outcome = .done ()) :
    ∃ left : Bars, Leads .menu (controller.tracked bars) entry.answers .menu
      ((entry.tried controller).state.tracked left) := by
  obtain ⟨place, rfl, ready, given⟩ := exists_leads_of_admits (controller.tracked bars) admits
  have pressed := pressed_press bars controller place .enter
  rw [← Controller.state_tracked controller bars, given] at pressed
  obtain ⟨moves, left, behind⟩ := moves_of_completed (pressed.completed_of more) passed
  refine ⟨left, ?_⟩
  rw [more]
  exact reached.trans (ready.trans (leads_of_moves given moves behind))

end

/-- Each prompt is reached. -/
theorem reached (controller : Controller τ) (bars : Bars) (stage : Stage) :
    Reached controller bars stage := by
  have menu : Reached controller bars (.list .menu) := .refl _ _
  have phys : Reached controller bars (.list .phy) :=
    menu.next (Stage.admits_item _ .editParameter) rfl
  have parameters : ∀ phy, Reached controller bars (.list (.parameter phy)) :=
    fun phy => phys.next (Stage.admits_phy _ phy) rfl
  have channels : Reached controller bars (.number .rxChannel) :=
    menu.next (Stage.admits_item _ .setChannels) rfl
  rcases stage with (_ | _ | phy) | (⟨phy, parameter⟩ | _ | rx)
  · exact menu
  · exact phys
  · exact parameters phy
  · exact (parameters phy).next (Stage.admits_parameter _ phy parameter) rfl
  · exact channels
  · exact channels.next (Stage.admits_channel _ rx).1 rfl

/-- Each item is completed by some keys. -/
theorem exists_leads_of_entry
    {entry : Entry}
    {controller : Controller τ}
    (answerable : entry.Answerable controller.state)
    (passed : (entry.tried controller).outcome = .done ())
    (bars : Bars) :
    ∃ left : Bars, Leads .menu (controller.tracked bars) entry.answers .menu
      ((entry.tried controller).state.tracked left) := by
  have reached := reached controller bars
  cases entry with
  | selectPhy phy =>
      exact (reached (.list .menu)).completed (Stage.admits_item _ (.selectPhy phy)) rfl passed
  | switchPhy =>
      exact (reached (.list .menu)).completed (Stage.admits_item _ .switchPhy) rfl passed
  | toggleMode =>
      exact (reached (.list .menu)).completed (Stage.admits_item _ .toggleMode) rfl passed
  | showState =>
      exact (reached (.list .menu)).completed (Stage.admits_item _ .showState) rfl passed
  | editParameter phy parameter value =>
      exact (reached (.number (.value phy parameter))).completed answerable rfl passed
  | setChannels channels =>
      exact (reached (.number (.txChannel channels.rx))).completed
        ((Stage.admits_channel _ channels.tx).2 channels.rx) rfl passed

/-- So are items one after the other. -/
theorem exists_leads_of_possible
    {entries : List Entry}
    {controller : Controller τ}
    (possible : Possible entries controller)
    (bars : Bars) :
    ∃ (after : Controller τ) (left : Bars),
      Leads .menu (controller.tracked bars) (entries.flatMap Entry.answers) .menu
        (after.tracked left) := by
  induction entries generalizing controller bars with
  | nil => exact ⟨controller, bars, .refl _ _⟩
  | cons entry entries inductionHypothesis =>
      obtain ⟨answerable, passed, rest⟩ := possible
      obtain ⟨left, first⟩ := exists_leads_of_entry answerable passed bars
      obtain ⟨after, last, others⟩ := inductionHypothesis rest left
      exact ⟨after, last, first.trans others⟩

/-- The answers of every script can be given, provided that its items can be completed. -/
theorem exists_keys_of_possible
    {script : Script}
    {controller : Controller τ}
    (possible : Possible script.entries controller)
    (bars : Bars) :
    ∃ keys, transcript .menu keys (controller.tracked bars) = script.answers := by
  obtain ⟨after, left, completes⟩ := exists_leads_of_possible possible bars
  rw [Script.answers]
  cases script.ending with
  | quit =>
      obtain ⟨place, -, ready, given⟩ := exists_leads_of_admits (after.tracked left)
        (Stage.admits_item _ .quit)
      have reached := completes.trans ready
      rw [List.append_nil] at reached
      exact reached.exists_keys_of_answer given
  | failure stage =>
      have broken : (stage.place after.state).answer? after.state .failure = some .failure := by
        rw [Place.answer?]
      rw [Ending.answers, ← List.append_assoc]
      exact (completes.trans (reached after left stage)).exists_keys_of_answer broken
  | waits stage => exact (completes.trans (reached after left stage)).exists_keys

/-! ## The session as a whole -/

/-- A session in the console does, to the controller and to its transport, what the plain
operations of its completed items do one after the other. It is left exactly if Quit is chosen,
it is broken off exactly if the terminal fails, and no failure of the controller ends it. An item
that is not completed has no part in this, and one in which each number is the one that was
offered changes nothing. The answers of every session are those of a script, and every script
can be given whose items can be completed. -/
theorem session_runs_completed_items
    [Transport σ]
    (controller : Controller (Recorded σ))
    (bars : Bars) :
    let answers := fun keys => transcript .menu keys (controller.tracked bars)
    (∀ keys, ∃ script : Script, answers keys = script.answers) ∧
      (∀ script : Script, Possible script.entries controller →
        ∃ keys, answers keys = script.answers) ∧
      (∀ keys (script : Script), answers keys = script.answers →
        let report := run keys (controller.tracked bars)
        Carries script controller report ∧
          (report.outcome = .done .left ↔ script.ending = .quit) ∧
          (report.outcome = .done .brokenOff ↔ ∃ stage, script.ending = .failure stage) ∧
          ∀ error, report.outcome ≠ .failed error) ∧
      ∀ (entry : Entry) (before : Controller (Recorded σ)),
        entry.AsOffered before.state → (entry.tried before).state = before := by
  intro answers
  have carries : ∀ keys, ∃ script : Script, answers keys = script.answers ∧
      Carries script controller (run keys (controller.tracked bars)) := by
    intro keys
    obtain ⟨script, given, carried⟩ := exists_carries keys .menu controller bars
    exact ⟨script, given, carried.run⟩
  refine ⟨fun keys => ?_, fun script possible => exists_keys_of_possible possible bars,
    fun keys script given => ?_, fun entry before offered => offered.state_tried⟩
  · obtain ⟨script, given, -⟩ := carries keys
    exact ⟨script, given⟩
  · obtain ⟨other, same, carried⟩ := carries keys
    obtain rfl := Script.answers_injective (given.symm.trans same)
    exact ⟨carried, carried.ends.left_iff, carried.ends.brokenOff_iff, carried.ends.not_failed⟩

end

/-- A session at a controller whose third call is turned down: a selection fails there, the mode
and a gain are changed after it, and the terminal fails when the second channel is asked for. The
first channel is not set then, and the answers that are offered for both change nothing. -/
theorem session_runs_completed_items_overloaded :
    let script : Script :=
      ⟨[.selectPhy .phy1, .toggleMode, .editParameter .phy0 .rxGain (.ofNat 30)],
        .failure (.number (.txChannel 7))⟩
    let start := Controller.overloaded.tracked Controller.leftOpen
    Possible script.entries Controller.overloaded ∧
      (∃ keys, transcript .menu keys start = script.answers ∧
        (run keys start).outcome = .done .brokenOff ∧
        (run keys start).state.state =
          { ControllerState.initial.setParameter .phy0 .rxGain (.ofNat 30) with
            mode := .direct } ∧
        (run keys start).state.transport.inner.calls.length = 3) ∧
      (Entry.setChannels ⟨0, 0⟩).AsOffered Controller.overloaded.state ∧
      ((Entry.setChannels ⟨0, 0⟩).tried Controller.overloaded).state = Controller.overloaded := by
  intro script start
  have possible : Possible script.entries Controller.overloaded :=
    ⟨trivial, rfl, trivial, rfl, ⟨"30".toList, by decide +kernel⟩, rfl, trivial⟩
  have offered : (Entry.setChannels ⟨0, 0⟩).AsOffered Controller.overloaded.state := ⟨rfl, rfl⟩
  obtain ⟨-, exists_keys, carries, unchanged⟩ :=
    session_runs_completed_items Controller.overloaded Controller.leftOpen
  obtain ⟨keys, given⟩ := exists_keys script possible
  obtain ⟨carried, -, broken, -⟩ := carries keys script given
  have state := congrArg Controller.state carried.state
  have calls := congrArg (fun controller => controller.transport.calls.length) carried.state
  refine ⟨possible, ⟨keys, given, broken.mpr ⟨_, rfl⟩, ?_, ?_⟩, offered, unchanged _ _ offered⟩
  · exact state.trans (by decide +kernel)
  · exact calls.trans (by decide +kernel)

end Console
end DualPhy
