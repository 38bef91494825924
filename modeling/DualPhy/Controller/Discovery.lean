import DualPhy.Block.Resolution
import DualPhy.Controller.Error

/-!
# Discovery

The flowgraph publishes its blocks in a document at its base address. From it
the block of every role is found. A role without a block is a warning; whether
it is also an error is decided afterwards.
-/

namespace DualPhy

/-- What discovery found. -/
structure Survey where
  /-- The blocks of the flowgraph. -/
  blocks : List Block
  /-- The blocks that play a role. -/
  resolution : Resolution

namespace Resolution

/-- Refuse a resolution in which a role has no block. -/
def requireComplete (resolution : Resolution) : Except ControllerError Resolution :=
  if resolution.isComplete then .ok resolution
  else .error (.discoveryIncomplete resolution.missing)

end Resolution

namespace Survey

variable [Transport τ]

/-- Decode a discovery document. -/
def decode (document : Json) : Except TransportError (List Block) :=
  match decodeBlocks document with
  | .ok blocks => .ok blocks
  | .error problem => .error (.decode problem.message)

/-- Log which block a role gets. -/
def logAssignment (assignment : Role × Block) : Act ε σ Unit :=
  .log .discovery .debug (assignment.1.name ++ " -> block " ++ assignment.2.id ++ " (" ++
    assignment.2.instanceName ++ ")")

/-- Warn of a role that has no block. -/
def warnMissing (base : String) (role : Role) : Act ε σ Unit :=
  .log .discovery .warn ("Cannot find " ++ role.name ++ " in flowgraph at " ++ base)

/-- Fetch the discovery document and find the block of every role. -/
def discover (base : String) (matchers : List Matcher) :
    Act ControllerError τ Survey := do
  let document ← (Transport.get base).mapError .discovery
  let blocks ← (Act.ofExcept (decode document)).mapError .discovery
  let resolution := Resolution.resolve blocks matchers
  Act.forEach logAssignment (assignments blocks [] matchers)
  Act.forEach (warnMissing base) resolution.missing
  return { blocks, resolution }

end Survey
end DualPhy
