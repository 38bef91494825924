import DualPhy.Decimal.Whole

/-!
# Addresses

An address is a host, a port and a path. The port is 80 unless another one is
written behind the host.
-/

namespace DualPhy

/-- Where a request goes. -/
structure Address where
  /-- Name or number of the host. -/
  host : String
  /-- Port on the host. -/
  port : UInt16
  /-- What follows the host, never empty. -/
  path : String
  deriving DecidableEq

namespace Address

/-- What every address starts with. -/
def scheme : List Char := "http://".toList

/-- The port of a service when none is written. -/
def usualPort : UInt16 := 80

/-- The port behind a host: a colon and a number, or nothing. -/
def readPort? : List Char → Option UInt16
  | [] => some usualPort
  | ':' :: digits => (Decimal.digits? digits).bind fun port =>
      if port < UInt16.size then some (.ofNat port) else none
  | _ => none

/-- A path, which is a slash when nothing is written. -/
def pathText (path : List Char) : String :=
  if path = [] then "/" else String.ofList path

/-- Read an address. -/
def read? (url : String) : Option Address := do
  let rest ← List.isPrefixOf? scheme url.toList
  let (authority, path) := rest.span (· != '/')
  let (host, portText) := authority.span (· != ':')
  let port ← readPort? portText
  if host = [] then none
  else some { host := String.ofList host, port, path := pathText path }

end Address
end DualPhy
