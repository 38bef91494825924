import DualPhy.Http.Address
import DualPhy.Http.Message

/-!
# Requests and replies on the line

A request asks for version 1.0 of the protocol, so that the body of the reply
ends with the connection. A reply is a head, an empty line and a body; of the
head only the status counts.
-/

namespace DualPhy

namespace Request

/-- The text of a request to a host. -/
def text (request : Request) (host : String) : String :=
  let length := toString request.body.utf8ByteSize
  "\r\n".intercalate
    [ request.method ++ " " ++ request.path ++ " HTTP/1.0",
      "Host: " ++ host,
      "Accept: */*",
      "Content-Type: application/json",
      "Content-Length: " ++ length,
      "", request.body ]

end Request

namespace Reply

/-- The bytes before and after the first empty line. -/
def splitHead? : List UInt8 → Option (List UInt8 × List UInt8)
  | 13 :: 10 :: 13 :: 10 :: body => some ([], body)
  | byte :: rest => (splitHead? rest).map fun (head, body) => (byte :: head, body)
  | [] => none

/-- The status in the first line of a head: the number behind the first
space. -/
def status? (head : List UInt8) : Option UInt16 := do
  let letters := head.map fun byte => Char.ofNat byte.toNat
  let digits := ((letters.dropWhile (· != ' ')).drop 1).takeWhile Char.isDigit
  let status ← Decimal.digits? digits
  if status < 1000 then some (.ofNat status) else none

/-- Read a reply. Bytes that are no reply count as a lost connection, a body
that is not text in UTF-8 as an empty one. -/
def ofBytes (bytes : ByteArray) : Reply :=
  match splitHead? bytes.toList with
  | none => .lost
  | some (head, body) =>
      match status? head with
      | none => .lost
      | some status => .answer status ((String.fromUTF8? ⟨body.toArray⟩).getD "")

end Reply
end DualPhy
