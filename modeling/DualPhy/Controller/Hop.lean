import DualPhy.Worker

/-!
# Hopping

A worker puts PHY 0 on air and then keeps switching, with a pause before every
switch, until it has switched a given number of times or a switch fails.
-/

namespace DualPhy
namespace Hop

/-- How a run of switches ended. -/
structure Finish where
  /-- Number of switches that succeeded. -/
  switches : Nat
  /-- The error of the switch that failed, if one did. -/
  error : Option ControllerError

/-- Switch once and say so. -/
def switchOnce [Transport τ] (interval : UInt64) (number : Nat) :
    Act ControllerError (Worker τ) Unit := do
  Act.emit (.pause interval)
  let result ← Worker.ask .switch
  match result with
  | .switched phy =>
      Act.log .program .info ("Hop " ++ toString number ++ ": " ++ phy.name ++ " active")
  | _ => return ()

/-- Switch up to `remaining` times, when `made` switches have been made. -/
def switches [Transport τ] (interval : UInt64) :
    (remaining made : Nat) → Act ControllerError (Worker τ) Finish
  | 0, made => .done ⟨made, none⟩
  | remaining + 1, made => do
      match ← (switchOnce interval (made + 1)).attempt with
      | .ok () => switches interval remaining (made + 1)
      | .error error => return ⟨made, some error⟩

/-- Put PHY 0 on air. If that fails, the worker is let go. -/
def start [Transport τ] : Act ControllerError (Worker τ) Unit := do
  Act.forEach Act.emit Worker.startEvents
  match ← (Worker.ask (.select Phy.phy0.index)).attempt with
  | .ok _ => return ()
  | .error error =>
      Worker.release
      Act.fail error

/-- Hop `count` times, and stop the worker. -/
def run [Transport τ] (interval : UInt64) (count : Nat) :
    Act ControllerError (Worker τ) (Controller τ) := do
  start
  let finish ← switches interval count 0
  let controller ← Worker.join
  Act.log .program .info ("Stopped after " ++ toString finish.switches ++ " switches, " ++
    controller.state.active.name ++ " active")
  match finish.error with
  | some error => Act.fail error
  | none => return controller

end Hop
end DualPhy
