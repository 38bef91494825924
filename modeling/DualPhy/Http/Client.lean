import DualPhy.Http.Address
import DualPhy.Http.Message
import DualPhy.Json.Reader
import DualPhy.Transport

/-!
# The HTTP transport

Discovery is a GET, a call is a POST of its body. A status from 200 to 299 is a
success. The client is given the replies to its requests beforehand, in their
order; without a reply for a request it breaks down.
-/

namespace DualPhy

/-- Where a request for an address goes. -/
inductive Route
  /-- To a host that answers, for a path on it. -/
  | host (path : String)
  /-- To a host that does not answer. -/
  | nowhere
  /-- The address is not one of this protocol. -/
  | unsupported

namespace Route

/-- Where requests go when a single origin answers. -/
def toOrigin (origin : String) (url : String) : Route :=
  match List.isPrefixOf? origin.toList url.toList with
  | some path => .host (Address.pathText path)
  | none => if Address.scheme.isPrefixOf url.toList then .nowhere else .unsupported

/-- Where requests go when every host may answer. -/
def toAnyHost (url : String) : Route :=
  match Address.read? url with
  | some address => .host address.path
  | none => .unsupported

end Route

/-- The HTTP transport. -/
structure HttpClient where
  /-- Where the requests go. -/
  route : String → Route
  /-- The replies to the requests still to come. -/
  replies : List Reply
  /-- The reply to all requests behind those. -/
  otherwise : Option Reply

namespace HttpClient

/-- Whether a status is a success. -/
def isSuccess (status : UInt16) : Bool := 200 ≤ status && status ≤ 299

/-- The status that comes without a body. -/
def noContent : UInt16 := 204

/-- The error of a request that gets no answer. -/
def lost (url : String) : TransportError :=
  .request ("error sending request for url (" ++ url ++ ")")

/-- Read a reply: the body of a success. -/
def readReply (url : String) : Reply → Except TransportError String
  | .lost => .error (lost url)
  | .answer status body =>
      if isSuccess status then .ok (if status = noContent then "" else body)
      else .error (.status status url)

/-- Make a request and give the body of its answer. -/
def send (method url body : String) : Act TransportError HttpClient String := fun client =>
  match client.route url with
  | .unsupported => ⟨.failed (.request "builder error"), client, []⟩
  | .nowhere => ⟨.failed (lost url), client, []⟩
  | .host path =>
      let events := [Event.request { method, url, path, body }]
      let (reply, replies) :=
        match client.replies with
        | [] => (client.otherwise, [])
        | reply :: replies => (some reply, replies)
      let client := { client with replies }
      match reply.map (readReply url) with
      | none => ⟨.crashed, client, events⟩
      | some (.error error) => ⟨.failed error, client, events⟩
      | some (.ok text) => ⟨.done text, client, events⟩

/-- Fetch a document. -/
def get (url : String) : Act TransportError HttpClient Json := do
  let body ← send "GET" url ""
  match Json.parse body with
  | .ok document => return document
  | .error _ => Act.fail (.decode "error decoding response body")

/-- Make a call. -/
def call (url : String) (call : Call) : Act TransportError HttpClient Unit := do
  Act.log .transport .debug ("POST " ++ url ++ " <- " ++ call.payload.text)
  let _ ← send "POST" url call.payload.bodyText

instance : Transport HttpClient where
  get := get
  call := call

end HttpClient
end DualPhy
