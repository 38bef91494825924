/-!
# HTTP requests and replies
-/

namespace DualPhy

/-- A request. -/
structure Request where
  /-- The method. -/
  method : String
  /-- The whole address. -/
  url : String
  /-- What follows the host in the address. -/
  path : String
  /-- The body; empty for a request without one. -/
  body : String
  deriving DecidableEq

/-- What comes back for a request. -/
inductive Reply
  /-- An answer with a status and a body. -/
  | answer (status : UInt16) (body : String)
  /-- The connection is lost. -/
  | lost
  deriving DecidableEq

end DualPhy
