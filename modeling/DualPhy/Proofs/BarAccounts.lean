import DualPhy.Proofs.Act
import DualPhy.Transport.Tracked
import Mathlib.Algebra.GroupWithZero.Nat
import Mathlib.Data.List.Induction

/-!
# What the bars add up to

The bars are shared by any number of transports that follow their calls with them, each with a bar
of its own or with the same one, and they can be opened, moved and closed directly. What counts for
a bar are the moves under its id that succeeded. One step lemma says what a move does to the
position of a bar; by induction the bar of an id is open if it was opened behind the last time that
it was closed, and then shows the sum of what it was moved by since.
-/

namespace DualPhy

/-! ## Marks -/

/-- What a move that succeeds means for a bar. -/
inductive Mark
  /-- The bar is opened. -/
  | opened
  /-- It is moved on by a number of steps. -/
  | moved (steps : UInt64)
  /-- It is closed. -/
  | closed
  deriving DecidableEq

namespace Mark

/-- By how much a bar is moved on. -/
def amount : Mark → Nat
  | .moved steps => steps.toNat
  | _ => 0

/-- The position of a bar behind a mark, if the bar is open. -/
def apply : Mark → Option UInt64 → Option UInt64
  | .opened, _ => some 0
  | .moved steps, position => position.map (· + steps)
  | .closed, _ => none

/-- The position of a bar behind marks, if the bar is open. -/
def replay (marks : List Mark) (position : Option UInt64) : Option UInt64 :=
  marks.foldl (fun position mark => mark.apply position) position

theorem replay_append (earlier later : List Mark) (position : Option UInt64) :
    replay (earlier ++ later) position = replay later (replay earlier position) :=
  List.foldl_append

/-- A bar that is neither opened nor closed is moved on. -/
theorem replay_moved
    {marks : List Mark}
    (unopened : .opened ∉ marks)
    (unclosed : .closed ∉ marks)
    (position : UInt64) :
    replay marks (some position) = some (position + .ofNat (marks.map amount).sum) := by
  induction marks generalizing position with
  | nil => exact congrArg some (UInt64.add_zero position).symm
  | cons mark marks inductionHypothesis =>
      obtain ⟨notOpened, restUnopened⟩ := List.ne_and_not_mem_of_not_mem_cons unopened
      obtain ⟨notClosed, restUnclosed⟩ := List.ne_and_not_mem_of_not_mem_cons unclosed
      cases mark with
      | opened => exact absurd rfl notOpened
      | closed => exact absurd rfl notClosed
      | moved steps =>
          have sum : UInt64.ofNat ((moved steps :: marks).map amount).sum =
              steps + .ofNat (marks.map amount).sum := by
            rw [List.map_cons, List.sum_cons, UInt64.ofNat_add, amount, UInt64.ofNat_toNat]
          rw [sum, ← UInt64.add_assoc]
          exact inductionHypothesis restUnopened restUnclosed (position + steps)

/-- A bar that is open behind marks was opened by the last of them that opened or closed it. -/
theorem exists_opened_of_replay
    {marks : List Mark}
    {position : UInt64}
    (isOpen : replay marks none = some position) :
    ∃ earlier later, marks = earlier ++ .opened :: later ∧ .opened ∉ later ∧ .closed ∉ later := by
  induction marks using List.reverseRecOn generalizing position with
  | nil => cases isOpen
  | append_singleton marks mark inductionHypothesis =>
      rw [replay_append] at isOpen
      cases mark with
      | opened => exact ⟨marks, [], rfl, List.not_mem_nil, List.not_mem_nil⟩
      | closed => cases isOpen
      | moved steps =>
          obtain ⟨before, wasOpen, -⟩ := Option.map_eq_some_iff.mp isOpen
          obtain ⟨earlier, later, rfl, unopened, unclosed⟩ := inductionHypothesis wasOpen
          refine ⟨earlier, later ++ [moved steps], by simp, ?_, ?_⟩
          · simpa using unopened
          · simpa using unclosed

/-- A bar that was opened and not closed since shows what it was moved by since. -/
theorem replay_opened
    {later : List Mark}
    (unopened : .opened ∉ later)
    (unclosed : .closed ∉ later)
    (earlier : List Mark) :
    replay (earlier ++ .opened :: later) none = some (.ofNat (later.map amount).sum) := by
  rw [replay_append]
  exact (replay_moved unopened unclosed 0).trans (congrArg some (UInt64.zero_add _))

end Mark

/-! ## Positions -/

namespace Bars

/-- How far the bar of an id has come, if it is open. -/
def position? (bars : Bars) (id : String) : Option UInt64 := (bars.find? id).map Bar.position

theorem isOpen_eq (bars : Bars) (id : String) : bars.isOpen id = (bars.position? id).isSome :=
  Option.isSome_map.symm

/-- A new bar starts at zero. -/
theorem position?_create
    {bars changed : Bars}
    {id template message : String}
    {total : UInt64}
    (created : bars.create id total template message = .ok changed)
    (read : String) :
    changed.position? read =
      if id = read then Mark.opened.apply (bars.position? read) else bars.position? read := by
  unfold create at created
  split at created
  case isTrue => cases created
  case isFalse =>
    split at created
    case h_1 => cases created
    case h_2 =>
      cases created
      rw [position?, find?_insert, apply_ite (Option.map Bar.position)]
      exact if_congr eq_comm rfl rfl

/-- A bar that is changed is moved as it is changed, and no other is. A change of a bar that is not
open moves none. -/
theorem position?_update
    (bars : Bars)
    (id : String)
    (change : Bar → Bar)
    (move : UInt64 → UInt64)
    (moves : ∀ bar, (change bar).position = move bar.position)
    (read : String) :
    (bars.orSame (bars.update id change)).position? read =
      if id = read then (bars.position? read).map move else bars.position? read := by
  unfold update
  by_cases same : id = read
  · subst same
    rw [if_pos rfl]
    cases found : bars.find? id with
    | none => simp [orSame, position?, found]
    | some bar => simp [orSame, position?, found, moves]
  · rw [if_neg same]
    cases found : bars.find? id with
    | none => rfl
    | some bar => simp [orSame, position?, Ne.symm same]

theorem position?_advance (bars : Bars) (id : String) (steps : UInt64) (read : String) :
    (bars.orSame (bars.advance id steps)).position? read =
      if id = read then (Mark.moved steps).apply (bars.position? read) else bars.position? read :=
  bars.position?_update id _ (· + steps) (fun _ => rfl) read

/-- A message moves no bar. -/
theorem position?_setMessage (bars : Bars) (id message read : String) :
    (bars.orSame (bars.setMessage id message)).position? read = bars.position? read := by
  have still := bars.position?_update id (fun bar => { bar with message })
    (fun position => position) (fun _ => rfl) read
  rwa [Option.map_id', ite_self] at still

theorem position?_close
    {bars changed : Bars}
    {id message : String}
    (closed : (bars.close id message).map Prod.snd = .ok changed)
    (read : String) :
    changed.position? read =
      if id = read then Mark.closed.apply (bars.position? read) else bars.position? read := by
  unfold close at closed
  split at closed
  case h_1 => cases closed
  case h_2 =>
    cases closed
    rw [position?, find?_erase, apply_ite (Option.map Bar.position)]
    exact if_congr eq_comm rfl rfl

/-- A call that is followed by a bar moves that bar if it is accepted, and no other. -/
theorem position?_call
    (bars : Bars)
    (followed read : String)
    (operation : Operation)
    (outcome : Outcome TransportError Unit) :
    ((bars.announce followed operation).count followed outcome).position? read =
      if outcome = .done () ∧ followed = read then (Mark.moved 1).apply (bars.position? read)
      else bars.position? read := by
  have announced : (bars.announce followed operation).position? read = bars.position? read :=
    bars.position?_setMessage followed operation.name read
  rw [← announced]
  cases outcome with
  | done value =>
      rw [if_congr (and_iff_right rfl) rfl rfl]
      exact position?_advance _ followed 1 read
  | failed error => rfl
  | crashed => rfl

end Bars

/-- The bar of an id is open if it was opened behind the last mark that closed it, and then shows
the sum of what it was moved by since, modulo `2 ^ 64`. -/
structure Accounted (marks : List Mark) (bars : Bars) (id : String) : Prop where
  /-- When it is open. -/
  isOpen_iff : bars.isOpen id = true ↔
    ∃ earlier later, marks = earlier ++ .opened :: later ∧ .opened ∉ later ∧ .closed ∉ later
  /-- What it shows. -/
  position : ∀ earlier later, marks = earlier ++ .opened :: later →
    .opened ∉ later → .closed ∉ later →
    ∃ shown, bars.position? id = some shown ∧
      shown.toNat = (later.map Mark.amount).sum % 2 ^ 64

/-- Marks that give the position of a bar that was not open account for it. -/
theorem accounted_of_replay
    {marks : List Mark}
    {bars : Bars}
    {id : String}
    (replayed : bars.position? id = Mark.replay marks none) :
    Accounted marks bars id := by
  constructor
  case isOpen_iff =>
    rw [bars.isOpen_eq, replayed, Option.isSome_iff_exists]
    constructor
    · rintro ⟨position, isOpen⟩
      exact Mark.exists_opened_of_replay isOpen
    · rintro ⟨earlier, later, rfl, unopened, unclosed⟩
      exact ⟨_, Mark.replay_opened unopened unclosed earlier⟩
  case position =>
    rintro earlier later rfl unopened unclosed
    exact ⟨_, replayed.trans (Mark.replay_opened unopened unclosed earlier), UInt64.toNat_ofNat'⟩

/-! ## Shared bars -/

/-- Transports that follow their calls with shared bars. -/
structure Panel {ι : Type} (σ : ι → Type) where
  /-- The open bars. -/
  bars : Bars
  /-- The transports. -/
  inner : ∀ index, σ index
  /-- The bars that follow their calls. -/
  barId : ι → String

/-- Something that is done with shared bars. -/
inductive Deed (ι : Type)
  /-- Open a bar. -/
  | create (id : String) (total : UInt64) (template message : String)
  /-- Move a bar on. -/
  | advance (id : String) (steps : UInt64)
  /-- Change the message of a bar. -/
  | setMessage (id message : String)
  /-- Take a bar away that is full. -/
  | finish (id message : String)
  /-- Take a bar away where it is. -/
  | abandon (id message : String)
  /-- Make a call. -/
  | call (index : ι) (url : String) (call : Call)
  /-- Fetch a document. -/
  | get (index : ι) (url : String)

/-- Why something that is done with shared bars failed. -/
inductive PanelError
  /-- An operation on a bar failed. -/
  | bar (error : BarError)
  /-- A request failed. -/
  | request (error : TransportError)
  deriving DecidableEq

namespace Panel

variable {ι : Type} {σ : ι → Type}

/-- Run an operation on the bars; a failure leaves them as they are. -/
def onBars (change : Bars → Except BarError Bars) : Act PanelError (Panel σ) Unit :=
  fun panel =>
    match change panel.bars with
    | .ok bars => ⟨.done (), { panel with bars }, []⟩
    | .error error => ⟨.failed (.bar error), panel, []⟩

/-- An operation on the bars succeeds if the bars can be changed. -/
theorem onBars_of_ok
    {change : Bars → Except BarError Bars}
    {panel : Panel σ}
    {bars : Bars}
    (changed : change panel.bars = .ok bars) :
    onBars change panel = ⟨.done (), { panel with bars }, []⟩ := by
  rw [onBars, changed]

theorem onBars_of_error
    {change : Bars → Except BarError Bars}
    {panel : Panel σ}
    {error : BarError}
    (refused : change panel.bars = .error error) :
    onBars change panel = ⟨.failed (.bar error), panel, []⟩ := by
  rw [onBars, refused]

/-- If a change that can be made means a mark for a bar, the position of the bar follows from the
mark, which counts only if the change can be made. -/
theorem position?_onBars
    {change : Bars → Except BarError Bars}
    {panel : Panel σ}
    {touched id : String}
    {mark : Mark}
    (effect : ∀ changed, change panel.bars = .ok changed →
      changed.position? id =
        if touched = id then mark.apply (panel.bars.position? id) else panel.bars.position? id) :
    (onBars change panel).state.bars.position? id =
      Mark.replay
        (if (onBars change panel).outcome = .done () ∧ touched = id then
          some mark else none).toList
        (panel.bars.position? id) := by
  cases result : change panel.bars with
  | ok changed =>
      rw [onBars_of_ok result, effect changed result]
      by_cases same : touched = id <;> simp [same, Mark.replay]
  | error error =>
      rw [onBars_of_error result]
      simp [Mark.replay]

/-- One of the transports, with the bars. -/
def tracked (panel : Panel σ) (index : ι) : Tracked (σ index) :=
  ⟨panel.inner index, panel.bars, panel.barId index⟩

/-- Run a request of one of the transports, which shares the bars. -/
def onTransport
    [DecidableEq ι]
    (index : ι)
    (request : Act TransportError (Tracked (σ index)) α) :
    Act PanelError (Panel σ) α :=
  (request.onPart (fun panel => panel.tracked index) fun left panel =>
    { panel with
      bars := left.bars
      inner := Function.update panel.inner index left.inner }).mapError .request

variable [DecidableEq ι] [∀ index, Transport (σ index)]

/-- Do something with the bars. -/
def run : Deed ι → Act PanelError (Panel σ) Unit
  | .create id total template message =>
      onBars fun bars => bars.create id total template message
  | .advance id steps => onBars fun bars => bars.advance id steps
  | .setMessage id message => onBars fun bars => bars.setMessage id message
  | .finish id message | .abandon id message =>
      onBars fun bars => (bars.close id message).map Prod.snd
  | .call index url call => onTransport index (Tracked.call url call)
  | .get index url => do
      let _ ← onTransport index (Tracked.get url)
      return ()

/-- What a deed means for the bar that it is about, if it succeeds. -/
def mark? (panel : Panel σ) : Deed ι → Option (String × Mark)
  | .create id _ _ _ => some (id, .opened)
  | .advance id steps => some (id, .moved steps)
  | .finish id _ | .abandon id _ => some (id, .closed)
  | .call index _ _ => some (panel.barId index, .moved 1)
  | .setMessage _ _ | .get _ _ => none

/-- What a deed means for the bar of an id: nothing, if it fails or is about another bar. -/
def markOf? (panel : Panel σ) (id : String) (deed : Deed ι) : Option Mark :=
  match panel.mark? deed with
  | some (touched, mark) =>
      if (run deed panel).outcome = .done () ∧ touched = id then some mark else none
  | none => none

/-- The panel after deeds. -/
def after : Panel σ → List (Deed ι) → Panel σ
  | panel, [] => panel
  | panel, deed :: deeds => after (run deed panel).state deeds

/-- What deeds mean for the bar of an id. -/
def marks (id : String) : Panel σ → List (Deed ι) → List Mark
  | _, [] => []
  | panel, deed :: deeds =>
      (panel.markOf? id deed).toList ++ marks id (run deed panel).state deeds

/-- The position of a bar behind a deed follows from its mark. -/
theorem position?_run (panel : Panel σ) (deed : Deed ι) (id : String) :
    (run deed panel).state.bars.position? id =
      Mark.replay (panel.markOf? id deed).toList (panel.bars.position? id) := by
  cases deed with
  | create created total template message =>
      exact position?_onBars fun changed success => Bars.position?_create success id
  | advance advanced steps =>
      refine position?_onBars fun changed success => ?_
      have moved := panel.bars.position?_advance advanced steps id
      rwa [success] at moved
  | setMessage told message =>
      change (onBars _ panel).state.bars.position? id = _
      cases result : panel.bars.setMessage told message with
      | ok changed =>
          have still := panel.bars.position?_setMessage told message id
          rw [result] at still
          rw [onBars_of_ok result]
          exact still
      | error error =>
          rw [onBars_of_error result]
          rfl
  | finish closed message =>
      exact position?_onBars fun changed success => Bars.position?_close success id
  | abandon closed message =>
      exact position?_onBars fun changed success => Bars.position?_close success id
  | call index url call =>
      let answered : Outcome TransportError Unit :=
        (Transport.call url call (panel.inner index)).outcome
      have counted := panel.bars.position?_call (panel.barId index) id call.operation answered
      have succeeds : (run (.call index url call) panel).outcome = .done () ↔
          answered = .done () :=
        Outcome.mapError_eq_done_iff _ _ _
      refine counted.trans ?_
      simp only [markOf?, mark?, succeeds]
      split <;> rfl
  | get index url =>
      have state := Act.state_bind_pure (onTransport index (Tracked.get url)) (fun _ => ()) panel
      exact (congrArg (fun left : Panel σ => left.bars.position? id) state).trans rfl

/-- The position of a bar behind deeds follows from their marks. -/
theorem position?_after (panel : Panel σ) (deeds : List (Deed ι)) (id : String) :
    (panel.after deeds).bars.position? id =
      Mark.replay (panel.marks id deeds) (panel.bars.position? id) := by
  induction deeds generalizing panel with
  | nil => rfl
  | cons deed deeds inductionHypothesis =>
      rw [after, inductionHypothesis, position?_run, marks, Mark.replay_append]

/-- If no bar was open before, the position of a bar behind deeds follows from their marks alone. -/
theorem position?_after_of_empty
    {panel : Panel σ}
    (fresh : panel.bars = .empty)
    (deeds : List (Deed ι))
    (id : String) :
    (panel.after deeds).bars.position? id = Mark.replay (panel.marks id deeds) none := by
  rw [position?_after, fresh]
  rfl

end Panel

/-! ## Refusals -/

namespace Bars

theorem create_eq_error_iff
    {bars : Bars}
    {id template message : String}
    {total : UInt64}
    {error : BarError} :
    bars.create id total template message = .error error ↔
      (if bars.isOpen id then some (.alreadyOpen id)
        else (Template.check template).map .badTemplate) = some error := by
  unfold create
  split
  · simp
  · cases Template.check template <;> simp

theorem update_eq_error_iff
    {bars : Bars}
    {id : String}
    {change : Bar → Bar}
    {error : BarError} :
    bars.update id change = .error error ↔
      (if bars.isOpen id then none else some (.notOpen id)) = some error := by
  unfold update isOpen
  cases bars.find? id <;> simp

theorem close_eq_error_iff
    {bars : Bars}
    {id message : String}
    {error : BarError} :
    (bars.close id message).map Prod.snd = .error error ↔
      (if bars.isOpen id then none else some (.notOpen id)) = some error := by
  unfold close isOpen
  cases bars.find? id <;> simp [Except.map]

end Bars

/-- Why a deed is refused, if it is: the bar is open already, its template is not one, or it is not
open. -/
def Deed.refusal? {ι : Type} (bars : Bars) : Deed ι → Option BarError
  | .create id _ template _ =>
      if bars.isOpen id then some (.alreadyOpen id)
      else (Template.check template).map .badTemplate
  | .advance id _ | .setMessage id _ | .finish id _ | .abandon id _ =>
      if bars.isOpen id then none else some (.notOpen id)
  | .call _ _ _ | .get _ _ => none

namespace Panel

variable {ι : Type} {σ : ι → Type}

/-- An operation on the bars fails if they cannot be changed, and then leaves all as it was. -/
theorem onBars_eq_failed_iff
    {change : Bars → Except BarError Bars}
    {panel : Panel σ}
    {error : BarError} :
    onBars change panel = ⟨.failed (.bar error), panel, []⟩ ↔ change panel.bars = .error error := by
  cases result : change panel.bars with
  | ok bars => simp [onBars_of_ok result]
  | error other => simp [onBars_of_error result]

variable [DecidableEq ι] [∀ index, Transport (σ index)]

/-- The failure of a request is never that of a bar. -/
theorem mapError_request_ne_bar (outcome : Outcome TransportError α) (error : BarError) :
    outcome.mapError PanelError.request ≠ .failed (.bar error) := by
  cases outcome <;> simp

/-- The deeds that are refused are these. They fail with the reason, and nothing has changed. -/
theorem run_eq_failed_iff (panel : Panel σ) (deed : Deed ι) (error : BarError) :
    run deed panel = ⟨.failed (.bar error), panel, []⟩ ↔
      deed.refusal? panel.bars = some error := by
  cases deed with
  | create id total template message =>
      rw [run, onBars_eq_failed_iff]
      exact Bars.create_eq_error_iff
  | advance id steps =>
      rw [run, onBars_eq_failed_iff]
      exact Bars.update_eq_error_iff
  | setMessage id message =>
      rw [run, onBars_eq_failed_iff]
      exact Bars.update_eq_error_iff
  | finish id message =>
      rw [run, onBars_eq_failed_iff]
      exact Bars.close_eq_error_iff
  | abandon id message =>
      rw [run, onBars_eq_failed_iff]
      exact Bars.close_eq_error_iff
  | call index url call =>
      have request := mapError_request_ne_bar
        (Tracked.call url call (panel.tracked index)).outcome error
      exact ⟨fun failed => absurd (congrArg Report.outcome failed) request, nofun⟩
  | get index url =>
      refine ⟨fun failed => absurd (congrArg Report.outcome failed) ?_, nofun⟩
      rw [run, Act.outcome_bind_pure]
      change Outcome.map _ ((Tracked.get url (panel.tracked index)).outcome.mapError _) ≠ _
      cases (Tracked.get url (panel.tracked index)).outcome <;> simp [Outcome.map]

end Panel
end DualPhy
