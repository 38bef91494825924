import DualPhy.Controller
import DualPhy.Transport.Tracked

/-!
# Operations behind a progress bar

A selection, a switch and an immediate call, each with a bar that is opened
before and closed after it, whatever it ends with. The bar only watches: a
failure to open or close it changes nothing about the operation.
-/

namespace DualPhy
namespace Controller

/-- The bar that follows the calls of the controller. -/
def barId : String := "apply"

/-- An activity of a controller whose calls are tracked. -/
abbrev GuidedRun (τ α : Type) := Run (Tracked τ) α

/-- Run an operation on the tracked transport and pass over its failure. -/
def tryOnBars (act : Act BarError (Tracked τ) Unit) : GuidedRun τ Unit := do
  let _ ← (act.attempt : Act ControllerError (Tracked τ) _).onPart transport
    fun transport controller => { controller with transport }

/-- Run an operation behind a bar. -/
def withBar
    (total : UInt64)
    (template label : String)
    (run : GuidedRun τ α) :
    GuidedRun τ α := do
  tryOnBars (Tracked.onBars fun bars => bars.create barId total template label)
  let result ← run.attempt
  let message :=
    match result with
    | .ok _ => label ++ " done"
    | .error error => error.message
  tryOnBars (Tracked.closeBar barId message)
  Act.ofExcept result

variable [Transport τ]

/-- The number of calls that put a PHY on air. -/
def planLength (target : Phy) (controller : Controller τ) : UInt64 :=
  .ofNat (controller.state.plan target).length

/-- Put a PHY on air behind a bar. -/
def selectWithBar (target : Phy) : GuidedRun τ Unit := do
  let controller ← Act.state
  withBar (planLength target controller) Template.apply target.name (selectPhy target)

/-- Put the other PHY on air behind a bar. -/
def switchWithBar : GuidedRun τ Phy := do
  let controller ← Act.state
  let target := controller.state.active.other
  withBar (planLength target controller) Template.apply target.name switch

/-- Run an operation that makes one call behind a bar. -/
def tuneWithBar (label : String) (run : GuidedRun τ α) : GuidedRun τ α :=
  withBar 1 Template.tune label run

end Controller
end DualPhy
