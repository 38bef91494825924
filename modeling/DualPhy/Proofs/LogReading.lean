import DualPhy.Controller
import DualPhy.Proofs.PayloadText
import DualPhy.Proofs.ProfileText

/-!
# Reading the log of a controller

Every line that a controller logs opens in one of finitely many ways, and no opening continues
another. So the opening of a line tells what the line is about, and what follows tells the rest:
the number of calls of a plan, or the number and the channel of a call.
-/

namespace DualPhy

/-! ## Texts with an opening -/

/-- Read a text that opens with one of several texts by what follows. -/
def readOpened?
    (openings : List κ)
    (opening : κ → List Char)
    (read : κ → List Char → Option α)
    (text : List Char) :
    Option α :=
  openings.findSome? fun key => (text.dropPrefix? (opening key)).bind (read key)

/-- If no opening continues another, a text is read by the one that it opens with. -/
theorem readOpened?_append
    {openings : List κ}
    {opening : κ → List Char}
    (apart : ∀ first ∈ openings, ∀ second ∈ openings,
      opening first <+: opening second → first = second)
    {key : κ}
    (listed : key ∈ openings)
    {read : κ → List Char → Option α}
    {rest : List Char}
    {value : α}
    (told : read key rest = some value) :
    readOpened? openings opening read (opening key ++ rest) = some value := by
  have here : ((opening key ++ rest).dropPrefix? (opening key)).bind (read key) = some value := by
    rw [List.dropPrefix?_append_of_beq _ BEq.rfl]
    exact told
  have only : ∀ other ∈ openings, ∀ found,
      ((opening key ++ rest).dropPrefix? (opening other)).bind (read other) = some found →
        found = value := by
    intro other otherListed found success
    obtain ⟨behind, dropped, -⟩ := Option.bind_eq_some_iff.mp success
    obtain ⟨front, whole, equal⟩ := List.dropPrefix?_eq_some_iff.mp dropped
    have opens : opening other <+: opening key ++ rest := by
      rw [whole, eq_of_beq equal]
      exact List.prefix_append _ _
    have same : other = key := by
      rcases List.prefix_or_prefix_of_prefix opens (List.prefix_append _ _) with shorter | longer
      · exact apart other otherListed key listed shorter
      · exact (apart key listed other otherListed longer).symm
    subst same
    exact Option.some.inj (success.symm.trans here)
  cases result : readOpened? openings opening read (opening key ++ rest) with
  | none =>
      have nothing := List.findSome?_eq_none_iff.mp result key listed
      rw [here] at nothing
      cases nothing
  | some found =>
      obtain ⟨other, otherListed, success⟩ := List.exists_of_findSome?_eq_some result
      rw [only other otherListed found success]

/-! ## Lines -/

/-- The line in front of the calls of a plan. -/
def applyingLine (target : Phy) (mode : TuningMode) (calls : Nat) : LogLine where
  topic := .controller
  level := .info
  message := "Applying " ++ target.name ++ " (" ++ mode.name ++ " mode, " ++ toString calls ++
    " calls)"

/-- The line in front of a call. -/
def callLine (call : Call) : LogLine where
  topic := .controller
  level := .debug
  message := call.operation.name ++ " <- " ++ call.payload.text

/-- The line behind the calls of a plan. -/
def activeLine (target : Phy) : LogLine where
  topic := .controller
  level := .info
  message := target.name ++ " active"

/-- The line of a parameter that is set. -/
def pendingLine (target : Phy) (parameter : Parameter) (value : Binary64) : LogLine where
  topic := .controller
  level := .debug
  message := "PHY " ++ toString target.index ++ " " ++ parameter.name ++ " = " ++ value.text ++
    " (pending)"

/-! ## Notes -/

/-- What a line of the log of a controller tells. -/
inductive Note
  /-- A plan of a number of calls is run through. -/
  | applying (target : Phy) (mode : TuningMode) (calls : Nat)
  /-- A number is sent to a handler, with a channel if it has one. -/
  | call (operation : Operation) (value : Int) (channel : Option UInt32)
  /-- A PHY is on air. -/
  | active (target : Phy)
  /-- A parameter is set. -/
  | pending (target : Phy) (parameter : Parameter)
  deriving DecidableEq

namespace Note

/-- The level of the lines that tell this. -/
def level : Note → Level
  | .applying .. | .active .. => .info
  | .call .. | .pending .. => .debug

/-- Whether a call is told. -/
def isCall : Note → Bool
  | .call .. => true
  | _ => false

/-- The PHY that is told to be on air. -/
def active? : Note → Option Phy
  | .active target => some target
  | _ => none

end Note

namespace Call

/-- What the line of a call tells. -/
def note (call : Call) : Note :=
  .call call.operation call.payload.wireValue call.payload.channel?

end Call

namespace CallRecord

/-- What the line of a recorded call tells. -/
def note (record : CallRecord) : Note := record.call.note

end CallRecord

/-- How a line of the log of a controller opens. -/
inductive Opening
  /-- As the line in front of the calls of a plan. -/
  | applying (target : Phy) (mode : TuningMode)
  /-- As the line in front of a call. -/
  | call (operation : Operation)
  /-- As the line behind the calls of a plan. -/
  | active (target : Phy)
  /-- As the line of a parameter that is set. -/
  | pending (target : Phy) (parameter : Parameter)
  deriving DecidableEq

namespace Opening

/-- All openings. -/
def all : List Opening :=
  Phy.all.flatMap (fun target =>
      [applying target .direct, applying target .centerOffset, active target] ++
        Parameter.all.map (pending target)) ++
    Operation.all.map call

/-- Every opening is listed. -/
theorem mem_all (opening : Opening) : opening ∈ all := by
  cases opening with
  | applying target mode => cases target <;> cases mode <;> decide
  | call operation =>
      exact List.mem_append_right _ (List.mem_map_of_mem operation.mem_all)
  | active target => cases target <;> decide
  | pending target parameter =>
      refine List.mem_append_left _ (List.mem_flatMap.mpr ⟨target, ?_, ?_⟩)
      · cases target <;> decide
      · exact List.mem_append_right _ (List.mem_map_of_mem parameter.mem_all)

/-- The text of an opening. -/
def text : Opening → String
  | .applying target mode => "Applying " ++ target.name ++ " (" ++ mode.name ++ " mode, "
  | .call operation => operation.name ++ " <- "
  | .active target => target.name ++ " active"
  | .pending target parameter =>
      "PHY " ++ toString target.index ++ " " ++ parameter.name ++ " = "

/-- No opening continues another. -/
theorem apart :
    ∀ first ∈ all, ∀ second ∈ all,
      first.text.toList <+: second.text.toList → first = second := by
  decide +kernel

/-- What a line with an opening tells, by what follows. -/
def read (opening : Opening) (rest : List Char) : Option Note :=
  match opening with
  | .applying target mode => do
      let digits ← rest.dropSuffix? " calls)".toList
      let calls ← Decimal.digits? digits
      return .applying target mode calls
  | .call operation =>
      (Payload.readMessage? rest).map fun sent => .call operation sent.1 sent.2
  | .active target => if rest = [] then some (.active target) else none
  | .pending target parameter =>
      (rest.dropSuffix? " (pending)".toList).map fun _ => .pending target parameter

end Opening

/-- Read a message of a controller. -/
def readNote? (message : String) : Option Note :=
  readOpened? Opening.all (fun opening => opening.text.toList) Opening.read message.toList

/-- A message is read by its opening. -/
theorem readNote?_eq_some
    {message : String}
    {opening : Opening}
    {rest : List Char}
    {note : Note}
    (opened : message.toList = opening.text.toList ++ rest)
    (told : opening.read rest = some note) :
    readNote? message = some note := by
  rw [readNote?, opened]
  exact readOpened?_append Opening.apart opening.mem_all told

namespace LogLine

/-- What a line tells, if it is a line of a controller. -/
def note? (line : LogLine) : Option Note :=
  (readNote? line.message).filter fun note =>
    decide (line.topic = .controller ∧ line.level = note.level)

end LogLine

theorem note?_applyingLine (target : Phy) (mode : TuningMode) (calls : Nat) :
    (applyingLine target mode calls).note? = some (.applying target mode calls) := by
  have told : (Opening.applying target mode).read
      (Decimal.digitChars calls ++ " calls)".toList) = some (.applying target mode calls) := by
    simp only [Opening.read, dropSuffix?_append, Payload.digits?_digitChars, bind, Option.bind]
    rfl
  have opened : (applyingLine target mode calls).message.toList =
      (Opening.applying target mode).text.toList ++
        (Decimal.digitChars calls ++ " calls)".toList) := by
    simp only [applyingLine, Opening.text, String.toList_append, Decimal.toList_toString,
      List.append_assoc]
  rw [LogLine.note?, readNote?_eq_some opened told]
  rfl

theorem note?_callLine (call : Call) : (callLine call).note? = some call.note := by
  have told : (Opening.call call.operation).read call.payload.text.toList = some call.note := by
    rw [Opening.read, Payload.readMessage?_text]
    rfl
  have opened : (callLine call).message.toList =
      (Opening.call call.operation).text.toList ++ call.payload.text.toList :=
    String.toList_append
  rw [LogLine.note?, readNote?_eq_some opened told]
  rfl

theorem note?_activeLine (target : Phy) :
    (activeLine target).note? = some (.active target) := by
  have told : (Opening.active target).read [] = some (.active target) := rfl
  have opened : (activeLine target).message.toList =
      (Opening.active target).text.toList ++ [] :=
    (List.append_nil _).symm
  rw [LogLine.note?, readNote?_eq_some opened told]
  rfl

theorem note?_pendingLine (target : Phy) (parameter : Parameter) (value : Binary64) :
    (pendingLine target parameter value).note? = some (.pending target parameter) := by
  have told : (Opening.pending target parameter).read
      (value.text.toList ++ " (pending)".toList) = some (.pending target parameter) := by
    rw [Opening.read, dropSuffix?_append]
    rfl
  have opened : (pendingLine target parameter value).message.toList =
      (Opening.pending target parameter).text.toList ++
        (value.text.toList ++ " (pending)".toList) := by
    simp only [pendingLine, Opening.text, String.toList_append, List.append_assoc]
  rw [LogLine.note?, readNote?_eq_some opened told]
  rfl

end DualPhy
