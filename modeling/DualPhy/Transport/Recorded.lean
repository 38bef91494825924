import DualPhy.Transport

/-!
# Recorded transports

A transport together with a record of everything that reached it.
-/

namespace DualPhy

/-- A call that reached a transport. -/
structure CallRecord where
  /-- The address called. -/
  url : String
  /-- The call. -/
  call : Call
  /-- How it ended. -/
  outcome : Outcome TransportError Unit
  deriving DecidableEq

/-- A transport and what reached it. -/
structure Recorded (σ : Type) where
  /-- The transport. -/
  inner : σ
  /-- The addresses fetched. -/
  fetches : List String
  /-- The calls made. -/
  calls : List CallRecord

namespace Recorded

/-- A transport that nothing has reached yet. -/
def fresh (inner : σ) : Recorded σ := ⟨inner, [], []⟩

/-- Fetch a document and record that. -/
def get [Transport σ] (url : String) : Act TransportError (Recorded σ) Json := fun recorded =>
  let report := (Transport.get url : Act TransportError σ Json) recorded.inner
  ⟨report.outcome,
    { recorded with inner := report.state, fetches := recorded.fetches ++ [url] },
    report.events⟩

/-- Make a call and record it. -/
def call [Transport σ] (url : String) (call : Call) :
    Act TransportError (Recorded σ) Unit := fun recorded =>
  let report := (Transport.call url call : Act TransportError σ Unit) recorded.inner
  ⟨report.outcome,
    { recorded with
      inner := report.state
      calls := recorded.calls ++ [⟨url, call, report.outcome⟩] },
    report.events⟩

instance [Transport σ] : Transport (Recorded σ) where
  get := get
  call := call

end Recorded
end DualPhy
