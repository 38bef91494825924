import DualPhy.Act
import DualPhy.Remote.Call

/-!
# Transports

A transport reaches the flowgraph: it fetches the discovery document and makes
calls. It keeps a state of its own, so that its answers may depend on
everything that was asked before.
-/

namespace DualPhy

/-- Why a single request failed. -/
inductive TransportError
  /-- The block behind the call was not found during discovery. -/
  | unresolved (role : Role)
  /-- The request could not be made or was not answered. -/
  | request (reason : String)
  /-- The answer has a status other than success. -/
  | status (code : UInt16) (url : String)
  /-- The answer could not be decoded. -/
  | decode (reason : String)
  deriving DecidableEq

namespace TransportError

/-- Wording of the error. -/
def message : TransportError → String
  | .unresolved role => role.name ++ " was not resolved during discovery"
  | .request reason => "request failed: " ++ reason
  | .status code url => "HTTP " ++ toString code.toNat ++ " from " ++ url
  | .decode reason => "invalid response: " ++ reason

end TransportError

/-- A way to reach the flowgraph, over states of type `σ`. -/
class Transport (σ : Type) where
  /-- Fetch a document. -/
  get : String → Act TransportError σ Json
  /-- Make a call at an address. -/
  call : String → Call → Act TransportError σ Unit

end DualPhy
