import DualPhy.Progress.Template

/-!
# Progress bars

Bars are open under an id. Each counts its position, modulo `2 ^ 64`, and shows
a message. Operations on an id that is not open fail and change nothing, and so
does opening an id twice.
-/

namespace DualPhy

/-- A progress bar. -/
structure Bar where
  /-- Where the bar is full. -/
  total : UInt64
  /-- How far it has come. -/
  position : UInt64
  /-- The message beside it. -/
  message : String
  deriving DecidableEq

/-- Why an operation on a bar failed. -/
inductive BarError
  /-- A bar of this id is open already. -/
  | alreadyOpen (id : String)
  /-- No bar of this id is open. -/
  | notOpen (id : String)
  /-- The template of a new bar is not one. -/
  | badTemplate (problem : Template.Problem)
  deriving DecidableEq

namespace BarError

/-- Wording of the error. -/
def message : BarError → String
  | .alreadyOpen id => "Progress bar '" ++ id ++ "' already exists"
  | .notOpen id => "Progress bar '" ++ id ++ "' not found"
  | .badTemplate problem => "Bad template: " ++ problem.message

end BarError

/-- The open bars. -/
structure Bars where
  /-- The bars with their ids, each id once. -/
  entries : List (String × Bar)
  deriving DecidableEq

namespace Bars

/-- No bar is open. -/
def empty : Bars := ⟨[]⟩

/-- The bar of an id, if it is open. -/
def find? (bars : Bars) (id : String) : Option Bar := bars.entries.lookup id

/-- Whether the bar of an id is open. -/
def isOpen (bars : Bars) (id : String) : Bool := (bars.find? id).isSome

/-- The bars without the one of an id. -/
def erase (bars : Bars) (id : String) : Bars :=
  ⟨bars.entries.filter fun entry => entry.1 != id⟩

/-- The bars with another bar under an id. -/
def insert (bars : Bars) (id : String) (bar : Bar) : Bars :=
  ⟨(id, bar) :: (bars.erase id).entries⟩

/-- Open a bar. An id that is taken is refused before the template is looked
at. -/
def create (bars : Bars) (id : String) (total : UInt64) (template message : String) :
    Except BarError Bars :=
  if bars.isOpen id then .error (.alreadyOpen id)
  else
    match Template.check template with
    | some problem => .error (.badTemplate problem)
    | none => .ok (bars.insert id { total, position := 0, message })

/-- Change an open bar. -/
def update (bars : Bars) (id : String) (change : Bar → Bar) : Except BarError Bars :=
  match bars.find? id with
  | none => .error (.notOpen id)
  | some bar => .ok (bars.insert id (change bar))

/-- Move an open bar on. -/
def advance (bars : Bars) (id : String) (steps : UInt64) : Except BarError Bars :=
  bars.update id fun bar => { bar with position := bar.position + steps }

/-- Change the message of an open bar. -/
def setMessage (bars : Bars) (id message : String) : Except BarError Bars :=
  bars.update id fun bar => { bar with message }

/-- Take an open bar away, with a last message. The bar stays as far as it has
come. -/
def close (bars : Bars) (id message : String) : Except BarError (Bar × Bars) :=
  match bars.find? id with
  | none => .error (.notOpen id)
  | some bar => .ok ({ bar with message }, bars.erase id)

@[simp] theorem find?_erase (bars : Bars) (erased read : String) :
    (bars.erase erased).find? read = if read = erased then none else bars.find? read := by
  obtain ⟨entries⟩ := bars
  induction entries with
  | nil => simp [erase, find?]
  | cons entry rest inductionHypothesis =>
      obtain ⟨id, bar⟩ := entry
      simp only [erase, find?] at inductionHypothesis ⊢
      by_cases kept : id = erased
      · subst kept
        by_cases same : read = id
        · subst same
          simpa using inductionHypothesis
        · simp [List.lookup_cons, same, beq_eq_false_iff_ne.mpr same, inductionHypothesis]
      · by_cases same : read = id
        · subst same
          simp [kept]
        · simp [List.lookup_cons, kept, beq_eq_false_iff_ne.mpr same, inductionHypothesis]

@[simp] theorem find?_insert (bars : Bars) (written read : String) (bar : Bar) :
    (bars.insert written bar).find? read =
      if read = written then some bar else bars.find? read := by
  by_cases same : read = written
  · subst same
    simp [insert, find?]
  · have other := find?_erase bars written read
    simp only [find?, same, if_false] at other
    simp [insert, find?, List.lookup_cons, beq_eq_false_iff_ne.mpr same, same, other]

end Bars
end DualPhy
