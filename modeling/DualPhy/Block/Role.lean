/-!
# Roles of the remote blocks

The controller drives five blocks of the flowgraph: three selectors that route
traffic to a PHY, and the source and the sink of the RF frontend.
-/

namespace DualPhy

/-- What a remote block does for the controller. -/
inductive Role
  /-- The selector on the source side. -/
  | sourceSelector
  /-- The selector on the sink side. -/
  | sinkSelector
  /-- The selector of messages. -/
  | messageSelector
  /-- The receiving RF block. -/
  | rfSource
  /-- The transmitting RF block. -/
  | rfSink
  deriving DecidableEq

namespace Role

/-- All roles, in the order in which they are reported. -/
def all : List Role :=
  [.sourceSelector, .sinkSelector, .messageSelector, .rfSource, .rfSink]

/-- Every role is listed. -/
theorem mem_all (role : Role) : role ∈ all := by
  cases role <;> decide

/-- Name of a role in messages. -/
def name : Role → String
  | .sourceSelector => "source selector"
  | .sinkSelector => "sink selector"
  | .messageSelector => "message selector"
  | .rfSource => "RF source"
  | .rfSink => "RF sink"

/-- Name of a role as one word, as in the description of a matcher. -/
def identifier : Role → String
  | .sourceSelector => "SourceSelector"
  | .sinkSelector => "SinkSelector"
  | .messageSelector => "MessageSelector"
  | .rfSource => "RfSource"
  | .rfSink => "RfSink"

/-- Name of a role as a key of a document. -/
def key : Role → String
  | .sourceSelector => "source_selector"
  | .sinkSelector => "sink_selector"
  | .messageSelector => "message_selector"
  | .rfSource => "rf_source"
  | .rfSink => "rf_sink"

/-- Instance name that the stock flowgraph gives to the block of a role. -/
def stockInstance : Role → String
  | .sourceSelector => "Selector<2, 1>_0"
  | .sinkSelector => "Selector<1, 2>_0"
  | .messageSelector => "MessageSelector_0"
  | .rfSource => "SoapySource_0"
  | .rfSink => "SoapySink_0"

end Role

/-- A record with one entry for every role. -/
structure PerRole (α : Type) where
  /-- Entry of the source selector. -/
  sourceSelector : α
  /-- Entry of the sink selector. -/
  sinkSelector : α
  /-- Entry of the message selector. -/
  messageSelector : α
  /-- Entry of the RF source. -/
  rfSource : α
  /-- Entry of the RF sink. -/
  rfSink : α
  deriving DecidableEq

namespace PerRole

/-- The record whose entries a function gives. -/
def ofFn (entry : Role → α) : PerRole α where
  sourceSelector := entry .sourceSelector
  sinkSelector := entry .sinkSelector
  messageSelector := entry .messageSelector
  rfSource := entry .rfSource
  rfSink := entry .rfSink

/-- The entry of a role. -/
def get (record : PerRole α) : Role → α
  | .sourceSelector => record.sourceSelector
  | .sinkSelector => record.sinkSelector
  | .messageSelector => record.messageSelector
  | .rfSource => record.rfSource
  | .rfSink => record.rfSink

/-- The record with another entry for one role. -/
def set (record : PerRole α) (role : Role) (entry : α) : PerRole α :=
  match role with
  | .sourceSelector => { record with sourceSelector := entry }
  | .sinkSelector => { record with sinkSelector := entry }
  | .messageSelector => { record with messageSelector := entry }
  | .rfSource => { record with rfSource := entry }
  | .rfSink => { record with rfSink := entry }

@[simp] theorem get_ofFn (entry : Role → α) (role : Role) :
    (ofFn entry).get role = entry role := by
  cases role <;> rfl

@[simp] theorem get_set
    (record : PerRole α)
    (written read : Role)
    (entry : α) :
    (record.set written entry).get read =
      if read = written then entry else record.get read := by
  cases written <;> cases read <;> rfl

end PerRole
end DualPhy
