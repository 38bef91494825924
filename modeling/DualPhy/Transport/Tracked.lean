import DualPhy.Transport

/-!
# Tracked transports

A transport whose accepted calls move a progress bar on. The bar shows the name
of the operation that is being called. While the bar is not open, calls pass
through untouched.
-/

namespace DualPhy

/-- A transport together with the progress bars. -/
structure Tracked (σ : Type) where
  /-- The transport. -/
  inner : σ
  /-- The open bars. -/
  bars : Bars
  /-- The bar that follows the calls. -/
  barId : String

namespace Bars

/-- The bars after an operation, or as they were if it failed. -/
def orSame (bars : Bars) : Except BarError Bars → Bars
  | .ok changed => changed
  | .error _ => bars

/-- The bars while a call of an operation is made. -/
def announce (bars : Bars) (id : String) (operation : Operation) : Bars :=
  bars.orSame (bars.setMessage id operation.name)

/-- The bars after a call that ended in some way. -/
def count (bars : Bars) (id : String) : Outcome TransportError Unit → Bars
  | .done () => bars.orSame (bars.advance id 1)
  | _ => bars

end Bars

namespace Tracked

/-- A transport with no bar open. -/
def fresh (inner : σ) (barId : String) : Tracked σ := ⟨inner, .empty, barId⟩

/-- Fetch a document. -/
def get [Transport σ] (url : String) : Act TransportError (Tracked σ) Json :=
  (Transport.get url : Act TransportError σ Json).onPart inner fun inner tracked =>
    { tracked with inner }

/-- Make a call and count it if it is accepted. -/
def call [Transport σ] (url : String) (call : Call) :
    Act TransportError (Tracked σ) Unit := fun tracked =>
  let report := (Transport.call url call : Act TransportError σ Unit) tracked.inner
  let bars := tracked.bars.announce tracked.barId call.operation
  ⟨report.outcome,
    { tracked with
      inner := report.state
      bars := bars.count tracked.barId report.outcome },
    report.events⟩

instance [Transport σ] : Transport (Tracked σ) where
  get := get
  call := call

/-- Run an operation on the bars; a failure leaves them as they are. -/
def onBars (change : Bars → Except BarError Bars) : Act BarError (Tracked σ) Unit :=
  fun tracked =>
    match change tracked.bars with
    | .ok bars => ⟨.done (), { tracked with bars }, []⟩
    | .error error => ⟨.failed error, tracked, []⟩

/-- Close a bar with a last message. -/
def closeBar (id message : String) : Act BarError (Tracked σ) Unit := fun tracked =>
  match tracked.bars.close id message with
  | .ok (bar, bars) => ⟨.done (), { tracked with bars }, [.barClosed id bar]⟩
  | .error error => ⟨.failed error, tracked, []⟩

end Tracked
end DualPhy
