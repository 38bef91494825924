import DualPhy.Json.Reader
import DualPhy.Transport

/-!
# Scripted transports

A transport whose answers are laid down beforehand: one answer to every fetch,
and rules for the calls that fail. A rule names a call by its number, counted
from one, or by its operation; the number goes first.
-/

namespace DualPhy

/-- How a scripted request fails. -/
inductive Fault
  /-- With a status other than success. -/
  | status (code : UInt16)
  /-- Without an answer. -/
  | request (reason : String)
  /-- With an answer that cannot be decoded. -/
  | decode (reason : String)
  /-- As if the block had not been found. -/
  | unresolved (role : Role)
  /-- The transport breaks down. -/
  | crash
  deriving DecidableEq

namespace Fault

/-- The outcome of a faulty request to an address. -/
def outcome (url : String) : Fault → Outcome TransportError α
  | .status code => .failed (.status code url)
  | .request reason => .failed (.request reason)
  | .decode reason => .failed (.decode reason)
  | .unresolved role => .failed (.unresolved role)
  | .crash => .crashed

end Fault

/-- Which calls fail. -/
structure FaultRules where
  /-- Faults by the number of the call. -/
  byNumber : List (Nat × Fault)
  /-- Faults by operation. -/
  byOperation : List (Operation × Fault)

namespace FaultRules

/-- No call fails. -/
def none : FaultRules := ⟨[], []⟩

/-- The fault of a call. -/
def fault? (rules : FaultRules) (number : Nat) (operation : Operation) : Option Fault :=
  (rules.byNumber.lookup number).or (rules.byOperation.lookup operation)

end FaultRules

/-- A transport with prepared answers. -/
structure Scripted where
  /-- The text that a fetch gives, or how it fails. -/
  document : Except Fault String
  /-- The calls that fail. -/
  rules : FaultRules
  /-- Number of calls made. -/
  made : Nat

namespace Scripted

/-- Answer a fetch. -/
def get (url : String) : Act TransportError Scripted Json := fun scripted =>
  match scripted.document with
  | .error fault => ⟨fault.outcome url, scripted, []⟩
  | .ok text =>
      match Json.parse text with
      | .ok value => ⟨.done value, scripted, []⟩
      | .error _ => ⟨.failed (.decode "body is not JSON"), scripted, []⟩

/-- Answer a call. -/
def call (url : String) (call : Call) : Act TransportError Scripted Unit := fun scripted =>
  let number := scripted.made + 1
  let outcome :=
    match scripted.rules.fault? number call.operation with
    | some fault => fault.outcome url
    | none => .done ()
  ⟨outcome, { scripted with made := number }, []⟩

instance : Transport Scripted where
  get := get
  call := call

end Scripted
end DualPhy
