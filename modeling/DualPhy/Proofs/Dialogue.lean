import DualPhy.Console
import DualPhy.Proofs.Act
import DualPhy.Proofs.Literal

/-!
# Answers at the prompts of the console

The console takes keys, and most of them only move a cursor. What counts is what a prompt gives
back: the item at the cursor, the number on the line or the one that is offered, or the failure
of the terminal. The answers of a session are those that its keys give, one prompt after the
other. Keys can be found for every item of a list and for every line, so the answers that a
session can have are not limited by its keys.
-/

namespace DualPhy
namespace Console

/-! ## Answers -/

/-- What a prompt gives back. -/
inductive Answer
  /-- An item of the menu. -/
  | item (item : Item)
  /-- A PHY. -/
  | phy (phy : Phy)
  /-- A parameter. -/
  | parameter (parameter : Parameter)
  /-- The value of a parameter. -/
  | value (value : Binary64)
  /-- A channel. -/
  | channel (channel : UInt32)
  /-- The terminal failed. -/
  | failure
  deriving DecidableEq

/-- The answer of a list with the cursor at an item. -/
def Choice.answer (choice : Choice) (cursor : Nat) : Answer :=
  match choice with
  | .menu => .item (Item.all.getD cursor .quit)
  | .phy => .phy (Phy.all.getD cursor .phy0)
  | .parameter _ => .parameter (Parameter.all.getD cursor .rxFrequency)

/-- The channel on a line, or the one in use if the line is empty. -/
def channelAnswer? (current : UInt32) (line : List Char) : Option Answer :=
  (typedValue (Decimal.naturalBelow? UInt32.size) current.toNat line).map fun number =>
    .channel (.ofNat number)

/-- The answer of a line, if it is a number or stands for the one that is offered. -/
def Field.answer? (state : ControllerState) (line : List Char) : Field → Option Answer
  | .value phy parameter =>
      (typedValue (fun text => (Binary64.read text).toOption)
        ((state.table.get phy).get parameter) line).map .value
  | .rxChannel => channelAnswer? state.channels.rx line
  | .txChannel _ => channelAnswer? state.channels.tx line

/-- The answer that a key gives at a prompt, if it gives one. -/
def Place.answer? (state : ControllerState) : Place → Key → Option Answer
  | _, .failure => some .failure
  | .choosing choice cursor, key =>
      if key.atCursor = .enter then some (choice.answer cursor) else none
  | .typing field line, key => if key = .enter then field.answer? state line.text else none

/-- What is asked at a prompt, without cursor and line. -/
inductive Stage
  /-- An item of a list. -/
  | list (choice : Choice)
  /-- A number. -/
  | number (field : Field)
  deriving DecidableEq

/-- What is asked at a place. -/
def Place.stage : Place → Stage
  | .choosing choice _ => .list choice
  | .typing field _ => .number field

namespace Stage

/-- The prompts of an item of the menu that were answered before this one is asked. -/
def answers : Stage → List Answer
  | .list .menu => []
  | .list .phy => [.item .editParameter]
  | .list (.parameter phy) => [.item .editParameter, .phy phy]
  | .number (.value phy parameter) =>
      [.item .editParameter, .phy phy, .parameter parameter]
  | .number .rxChannel => [.item .setChannels]
  | .number (.txChannel rx) => [.item .setChannels, .channel rx]

/-- The place at which a prompt starts. -/
def place (state : ControllerState) : Stage → Place
  | .list .phy => .choosing .phy state.active.index
  | .list choice => .choosing choice 0
  | .number field => .typing field .empty

@[simp] theorem stage_place (state : ControllerState) (stage : Stage) :
    (stage.place state).stage = stage := by
  rcases stage with (_ | _ | _) | _ <;> rfl

theorem answers_injective {first second : Stage} (same : first.answers = second.answers) :
    first = second := by
  rcases first with (_ | _ | _) | (_ | _ | _) <;> rcases second with (_ | _ | _) | (_ | _ | _) <;>
    simp_all [answers]

theorem failure_not_mem_answers (stage : Stage) : Answer.failure ∉ stage.answers := by
  rcases stage with (_ | _ | _) | (_ | _ | _) <;> simp [answers]

theorem quit_not_mem_answers (stage : Stage) : Answer.item .quit ∉ stage.answers := by
  rcases stage with (_ | _ | _) | (_ | _ | _) <;> simp [answers]

end Stage

/-- How the answers of a session end behind its completed items. -/
inductive Ending
  /-- Quit is chosen. -/
  | quit
  /-- The terminal fails where this is asked. -/
  | failure (stage : Stage)
  /-- No more is answered where this is asked. -/
  | waits (stage : Stage)

/-- The answers of an ending: those to the prompts of an item that is not completed, and what
comes behind them. -/
def Ending.answers : Ending → List Answer
  | .quit => [.item .quit]
  | .failure stage => stage.answers ++ [.failure]
  | .waits stage => stage.answers

theorem Ending.answers_injective {first second : Ending} (same : first.answers = second.answers) :
    first = second := by
  have broken : ∀ stage other : Stage, stage.answers ++ [.failure] ≠ other.answers := by
    intro stage other same
    refine other.failure_not_mem_answers ?_
    rw [← same]
    exact List.mem_append_right _ List.mem_cons_self
  have quits : ∀ stage : Stage, [Answer.item .quit] ≠ stage.answers := by
    intro stage same
    refine stage.quit_not_mem_answers ?_
    rw [← same]
    exact List.mem_cons_self
  cases first <;> cases second
  case quit.quit => rfl
  case quit.failure stage => simp [answers, List.singleton_eq_append_iff] at same
  case quit.waits stage => exact absurd same (quits stage)
  case failure.quit stage => simp [answers, List.append_eq_singleton_iff] at same
  case failure.failure stage other =>
    rw [Stage.answers_injective (List.append_cancel_right same)]
  case failure.waits stage other => exact absurd same (broken stage other)
  case waits.quit stage => exact absurd same.symm (quits stage)
  case waits.failure stage other => exact absurd same.symm (broken other stage)
  case waits.waits stage other => rw [Stage.answers_injective same]

/-! ## Answers of a session -/

section

variable [Transport τ]

/-- The answers that keys give from a place on, to the prompts of a session. -/
def transcript : Place → List Key → Controller (Tracked τ) → List Answer
  | _, [], _ => []
  | place, key :: keys, controller =>
      let report := press place key controller
      (place.answer? controller.state key).toList ++
        match report.outcome with
        | .done (.stay next) => transcript next keys report.state
        | .done (.goOn next) => transcript next keys report.state
        | _ => []

/-- A key leads from a prompt to a place. -/
def Moves (report : Report ControllerError (Controller (Tracked τ)) Next) (next : Place) : Prop :=
  report.outcome = .done (.stay next) ∨ report.outcome = .done (.goOn next)

variable {place next : Place} {key : Key} {controller : Controller (Tracked τ)}

theorem transcript_of_moves
    (moves : Moves (press place key controller) next)
    (keys : List Key) :
    transcript place (key :: keys) controller =
      (place.answer? controller.state key).toList ++
        transcript next keys (press place key controller).state := by
  rcases moves with outcome | outcome <;> simp only [transcript, outcome]

/-- The prompts of a session change nothing. -/
theorem follow_of_moves
    (moves : Moves (press place key controller) next)
    (keys : List Key) :
    (follow place (key :: keys) controller).outcome =
        (follow next keys (press place key controller).state).outcome ∧
      (follow place (key :: keys) controller).state =
        (follow next keys (press place key controller).state).state := by
  rcases moves with outcome | outcome
  · simp [follow, outcome]
  · simp [follow, ask, outcome]

/-! ## Keys for answers -/

/-- There are keys that lead from a place to another one and give these answers on their way. -/
def Leads
    (place : Place)
    (controller : Controller (Tracked τ))
    (answers : List Answer)
    (next : Place)
    (after : Controller (Tracked τ)) : Prop :=
  ∃ keys, ∀ rest,
    transcript place (keys ++ rest) controller = answers ++ transcript next rest after

theorem Leads.refl (place : Place) (controller : Controller (Tracked τ)) :
    Leads place controller [] place controller :=
  ⟨[], fun _ => rfl⟩

theorem Leads.trans
    {last : Place}
    {middle after : Controller (Tracked τ)}
    {front back : List Answer}
    (first : Leads place controller front next middle)
    (second : Leads next middle back last after) :
    Leads place controller (front ++ back) last after := by
  obtain ⟨keys, leads⟩ := first
  obtain ⟨more, leadsOn⟩ := second
  refine ⟨keys ++ more, fun rest => ?_⟩
  rw [List.append_assoc, leads, leadsOn, List.append_assoc]

theorem Leads.exists_keys
    {answers : List Answer}
    {after : Controller (Tracked τ)}
    (leads : Leads place controller answers next after) :
    ∃ keys, transcript place keys controller = answers := by
  obtain ⟨keys, leads⟩ := leads
  refine ⟨keys, ?_⟩
  have whole := leads []
  rwa [List.append_nil, transcript, List.append_nil] at whole

/-- Behind these answers, one key gives another one, whatever it leads to. -/
theorem Leads.exists_keys_of_answer
    {answers : List Answer}
    {answer : Answer}
    {after : Controller (Tracked τ)}
    (leads : Leads place controller answers next after)
    (given : next.answer? after.state key = some answer) :
    ∃ keys, transcript place keys controller = answers ++ [answer] := by
  obtain ⟨keys, leads⟩ := leads
  have last : transcript next [key] after = [answer] := by
    rw [transcript, given]
    cases (press next key after).outcome with
    | done following => cases following <;> rfl
    | _ => rfl
  refine ⟨keys ++ [key], ?_⟩
  rw [leads, last]

/-- A key that answers a prompt and leads on. -/
theorem leads_of_moves
    {answer : Answer}
    {after : Controller (Tracked τ)}
    (given : place.answer? controller.state key = some answer)
    (moves : Moves (press place key controller) next)
    (left : (press place key controller).state = after) :
    Leads place controller [answer] next after := by
  refine ⟨[key], fun rest => ?_⟩
  rw [List.singleton_append, transcript_of_moves moves, given, left]
  rfl

/-- The cursor of a list is brought to any item. -/
theorem leads_to_item
    (choice : Choice)
    {cursor target : Nat}
    (here : cursor < choice.labels.length)
    (there : target < choice.labels.length)
    (controller : Controller (Tracked τ)) :
    Leads (.choosing choice cursor) controller [] (.choosing choice target) controller := by
  have downs : ∀ count cursor, cursor < choice.labels.length → ∀ rest,
      transcript (.choosing choice cursor) (List.replicate count .down ++ rest) controller =
        transcript (.choosing choice ((cursor + count) % choice.labels.length)) rest
          controller := by
    intro count
    induction count with
    | zero =>
        intro cursor here rest
        rw [Nat.add_zero, Nat.mod_eq_of_lt here]
        rfl
    | succ count inductionHypothesis =>
        intro cursor here rest
        have below : (cursor + 1) % choice.labels.length < choice.labels.length :=
          Nat.mod_lt _ (by omega)
        calc
          transcript (.choosing choice cursor) (.down :: (List.replicate count .down ++ rest))
              controller
            = transcript (.choosing choice ((cursor + 1) % choice.labels.length))
                (List.replicate count .down ++ rest) controller := rfl
          _ = _ := inductionHypothesis _ below rest
          _ = _ := by rw [Nat.mod_add_mod, Nat.add_assoc, Nat.add_comm 1 count]
  refine ⟨List.replicate (target + choice.labels.length - cursor) .down, fun rest => ?_⟩
  have around : cursor + (target + choice.labels.length - cursor) =
      target + choice.labels.length := by
    omega
  rw [downs _ _ here, around, Nat.add_mod_right, Nat.mod_eq_of_lt there]
  rfl

/-- Any text is typed. -/
theorem leads_to_line
    (field : Field)
    (text : List Char)
    (controller : Controller (Tracked τ)) :
    Leads (.typing field .empty) controller [] (.typing field ⟨text.reverse, []⟩) controller := by
  have letters : ∀ left rest,
      transcript (.typing field ⟨left, []⟩) (text.map .letter ++ rest) controller =
        transcript (.typing field ⟨text.reverse ++ left, []⟩) rest controller := by
    induction text with
    | nil => exact fun _ _ => rfl
    | cons letter text inductionHypothesis =>
        intro left rest
        calc
          transcript (.typing field ⟨left, []⟩) (.letter letter :: (text.map .letter ++ rest))
              controller
            = transcript (.typing field ⟨letter :: left, []⟩) (text.map .letter ++ rest)
                controller := rfl
          _ = _ := inductionHypothesis _ rest
          _ = _ := by rw [List.reverse_cons, List.append_assoc, List.singleton_append]
  refine ⟨text.map .letter, fun rest => ?_⟩
  have typed := letters [] rest
  rwa [List.append_nil] at typed

/-- Whether an answer is among those that a prompt can give: an item of the list, or the number on
some line. -/
def Stage.Admits (state : ControllerState) (answer : Answer) : Stage → Prop
  | .list choice => ∃ cursor, cursor < choice.labels.length ∧ choice.answer cursor = answer
  | .number field => ∃ line, field.answer? state line = some answer

/-- A prompt is brought to where one key gives an answer that it can give. -/
theorem exists_leads_of_admits
    {stage : Stage}
    {answer : Answer}
    (controller : Controller (Tracked τ))
    (admits : stage.Admits controller.state answer) :
    ∃ place : Place, place.stage = stage ∧
      Leads (stage.place controller.state) controller [] place controller ∧
      place.answer? controller.state .enter = some answer := by
  cases stage with
  | list choice =>
      obtain ⟨cursor, there, given⟩ := admits
      obtain ⟨start, place, here⟩ : ∃ start,
          (Stage.list choice).place controller.state = .choosing choice start ∧
            start < choice.labels.length := by
        cases choice with
        | menu => exact ⟨0, rfl, by decide⟩
        | phy => exact ⟨_, rfl, by cases controller.state.active <;> decide⟩
        | parameter phy => exact ⟨0, rfl, Nat.zero_lt_succ _⟩
      refine ⟨.choosing choice cursor, rfl, ?_, congrArg some given⟩
      rw [place]
      exact leads_to_item choice here there controller
  | number field =>
      obtain ⟨line, given⟩ := admits
      refine ⟨.typing field ⟨line.reverse, []⟩, rfl, leads_to_line field line controller, ?_⟩
      simpa [Place.answer?, Line.text] using given

end

theorem exists_cursor {items : List α} {item : α} (listed : item ∈ items) (default : α) :
    ∃ cursor, cursor < items.length ∧ items.getD cursor default = item := by
  obtain ⟨cursor, inside, found⟩ := List.getElem_of_mem listed
  refine ⟨cursor, inside, ?_⟩
  rw [List.getD_eq_getElem?_getD, List.getElem?_eq_getElem inside, found]
  rfl

namespace Stage

variable (state : ControllerState)

theorem admits_item (item : Item) : (list .menu).Admits state (.item item) := by
  have listed : item ∈ Item.all := by
    rcases item with (_ | _) | _ | _ | _ | _ | _ | _ <;> decide
  obtain ⟨cursor, inside, found⟩ := exists_cursor listed .quit
  exact ⟨cursor, by simpa [Choice.labels] using inside, congrArg Answer.item found⟩

theorem admits_phy (phy : Phy) : (list .phy).Admits state (.phy phy) := by
  have listed : phy ∈ Phy.all := by
    cases phy <;> decide
  obtain ⟨cursor, inside, found⟩ := exists_cursor listed .phy0
  exact ⟨cursor, by simpa [Choice.labels] using inside, congrArg Answer.phy found⟩

theorem admits_parameter (phy : Phy) (parameter : Parameter) :
    (list (.parameter phy)).Admits state (.parameter parameter) := by
  have listed : parameter ∈ Parameter.all := by
    cases parameter <;> decide
  obtain ⟨cursor, inside, found⟩ := exists_cursor listed .rxFrequency
  exact ⟨cursor, by simpa [Choice.labels] using inside, congrArg Answer.parameter found⟩

end Stage

theorem channelAnswer?_digitChars (current channel : UInt32) :
    channelAnswer? current (Decimal.digitChars channel.toNat) = some (.channel channel) := by
  have nonempty : Decimal.digitChars channel.toNat ≠ [] := Nat.toDigits_ne_nil
  have allDigits : (Decimal.digitChars channel.toNat).all Char.isDigit = true :=
    List.all_eq_true.mpr fun _ => Json.isDigit_of_mem_digitChars
  have unsigned : ∀ rest, Decimal.digitChars channel.toNat ≠ '+' :: rest := by
    intro rest start
    rw [start] at allDigits
    simp at allDigits
  have read : Decimal.natural? (Decimal.digitChars channel.toNat) = some channel.toNat := by
    unfold Decimal.natural?
    split
    case h_1 rest start => exact absurd start (unsigned rest)
    case h_2 => rw [Decimal.digits?, if_pos ⟨nonempty, allDigits⟩, Json.ofDigits_digitChars]
  have below : channel.toNat < UInt32.size := channel.toNat_lt_size
  simp [channelAnswer?, typedValue, nonempty, Decimal.naturalBelow?, read, below]

/-- Every channel can be typed, that of the receiver and that of the transmitter. -/
theorem Stage.admits_channel (state : ControllerState) (channel : UInt32) :
    (number .rxChannel).Admits state (.channel channel) ∧
      ∀ rx, (number (.txChannel rx)).Admits state (.channel channel) :=
  ⟨⟨_, channelAnswer?_digitChars _ channel⟩, fun _ => ⟨_, channelAnswer?_digitChars _ channel⟩⟩

end Console
end DualPhy
