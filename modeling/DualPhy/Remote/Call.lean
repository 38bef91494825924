import DualPhy.Json.Printer
import DualPhy.Remote.Operation

/-!
# Remote calls

A call writes a payload to the handler of an operation. The flowgraph takes
whole numbers only: a binary64 value is truncated toward zero before it is
sent.
-/

namespace DualPhy

/-- What a call writes. -/
inductive Payload
  /-- A frequency, gain or rate. -/
  | real (value : Binary64)
  /-- A selector index. -/
  | index (value : UInt32)
  /-- A frequency for one channel of the frontend. -/
  | channelReal (value : Binary64) (channel : UInt32)
  deriving DecidableEq

namespace Payload

/-- The number that is sent. -/
def wireValue : Payload → Int
  | .real value => value.truncate
  | .index value => value.toNat
  | .channelReal value _ => value.truncate

/-- The channel that is sent with it. -/
def channel? : Payload → Option UInt32
  | .real _ | .index _ => none
  | .channelReal _ channel => some channel

/-- A number under the tag of its type. -/
def tagged (tag : String) (value : Int) : Json :=
  .object [(tag, .number (.whole value))]

/-- The body of the call. -/
def body : Payload → Json
  | .real value => tagged "F64" value.truncate
  | .index value => tagged "U32" value.toNat
  | .channelReal value channel =>
      .object
        [("VecPmt", .array [tagged "F64" value.truncate, tagged "U32" channel.toNat])]

/-- The body as it is sent. -/
def bodyText (payload : Payload) : String := payload.body.compact

/-- Text of a payload in messages. -/
def text (payload : Payload) : String :=
  match payload.channel? with
  | none => toString payload.wireValue
  | some channel => toString payload.wireValue ++ " @ ch" ++ toString channel.toNat

end Payload

/-- One call of a handler. -/
structure Call where
  /-- The operation whose handler is called. -/
  operation : Operation
  /-- What is written to it. -/
  payload : Payload
  deriving DecidableEq

end DualPhy
