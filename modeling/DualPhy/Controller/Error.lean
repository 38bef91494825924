import DualPhy.Phy
import DualPhy.Transport

/-!
# Errors of the controller
-/

namespace DualPhy

/-- Why an operation of the controller failed. -/
inductive ControllerError
  /-- Some roles have no block. -/
  | discoveryIncomplete (missing : List Role)
  /-- A number is not that of a PHY. -/
  | invalidIndex (index : Nat)
  /-- A remote call failed. -/
  | transportFailure (operation : Operation) (source : TransportError)
  /-- The discovery document could not be fetched or decoded. -/
  | discovery (source : TransportError)
  /-- A profile could not be read. -/
  | profile (path reason : String)
  /-- The worker that owns the controller has ended. -/
  | workerGone
  deriving DecidableEq

namespace ControllerError

/-- Wording of the error. -/
def message : ControllerError → String
  | .discoveryIncomplete missing =>
      "discovery incomplete, missing: " ++ ", ".intercalate (missing.map Role.name)
  | .invalidIndex index =>
      "invalid PHY index " ++ toString index ++ ", expected 0 or 1"
  | .transportFailure operation source =>
      operation.name ++ " failed: " ++ source.message
  | .discovery source => "discovery failed: " ++ source.message
  | .profile path reason => "profile " ++ path ++ ": " ++ reason
  | .workerGone => "controller worker has stopped"

end ControllerError

namespace Phy

/-- The PHY of a number that a caller gives. -/
def ofIndex (index : Nat) : Except ControllerError Phy :=
  match ofIndex? index with
  | some phy => .ok phy
  | none => .error (.invalidIndex index)

@[simp] theorem ofIndex_index (phy : Phy) : ofIndex phy.index = .ok phy := by
  cases phy <;> rfl

end Phy
end DualPhy
