import DualPhy.Proofs.Uses
import DualPhy.Transport.Scripted
import Mathlib.Data.List.Forall2

/-!
# Transports that keep to a kind of answer

A transport may be known to answer every call from now on in a certain way: to accept it, not
to break down, not to call a block unresolved. Whatever is asked of such a transport, it stays
one; so what it never answers is no end of any use in any history.
-/

namespace DualPhy

/-! ## Kinds of answers -/

namespace Transport

variable [Transport τ]

/-- Every call from now on gets an answer of a certain kind, whatever is called before it. -/
def Always (kind : Outcome TransportError Unit → Prop) (transport : τ) : Prop :=
  ∀ earlier url call, kind (answer transport earlier url call)

/-- Every call from now on is accepted. -/
abbrev Accepting (transport : τ) : Prop :=
  Always (fun answer => answer = .done ()) transport

/-- No call from now on breaks the transport down. -/
abbrev Sound (transport : τ) : Prop :=
  Always (fun answer => answer ≠ .crashed) transport

/-- From now on the transport itself calls no block unresolved. -/
abbrev NeverUnresolved (transport : τ) : Prop :=
  Always (fun answer => ∀ role, answer ≠ .failed (.unresolved role)) transport

theorem after_append
    (transport : τ)
    (front back : List (String × Call)) :
    after transport (front ++ back) = after (after transport front) back := by
  induction front generalizing transport with
  | nil => rfl
  | cons request front inductionHypothesis => exact inductionHypothesis _

/-- What was asked does not change the kind of the answers to come. -/
theorem Always.after
    {kind : Outcome TransportError Unit → Prop}
    {transport : τ}
    (always : Always kind transport)
    (requests : List (String × Call)) :
    Always kind (Transport.after transport requests) := by
  intro earlier url call
  have answered := always (requests ++ earlier) url call
  rwa [answer, after_append] at answered

/-- A kind of answer that every call gets, as long as a property holds that calls keep. -/
theorem always_of_invariant
    {kind : Outcome TransportError Unit → Prop}
    (invariant : τ → Prop)
    (step : ∀ transport url call, invariant transport →
      kind (Transport.call url call transport).outcome ∧
        invariant (Transport.call url call transport).state)
    {transport : τ}
    (start : invariant transport) :
    Always kind transport := by
  have kept : ∀ requests, invariant (Transport.after transport requests) := by
    intro requests
    induction requests generalizing transport with
    | nil => exact start
    | cons request requests inductionHypothesis =>
        exact inductionHypothesis (step transport _ _ start).2
  intro earlier url call
  exact (step _ url call (kept earlier)).1

end Transport

/-- A record of its calls does not change how a transport answers. -/
theorem Recorded.always
    [Transport σ]
    {kind : Outcome TransportError Unit → Prop}
    {recorded : Recorded σ}
    (always : Transport.Always kind recorded.inner) :
    Transport.Always kind recorded := by
  refine Transport.always_of_invariant
    (fun recorded => Transport.Always kind recorded.inner) ?_ always
  intro recorded url call always
  exact ⟨always [] url call, always.after [(url, call)]⟩

/-- A fetch leaves a script as it is. -/
@[simp] theorem Scripted.state_get (url : String) (scripted : Scripted) :
    (Scripted.get url scripted).state = scripted := by
  unfold Scripted.get
  split
  case h_1 => rfl
  case h_2 => split <;> rfl

/-- A recorded script answers its calls after a fetch as it would have before. -/
theorem Recorded.always_get
    {kind : Outcome TransportError Unit → Prop}
    {recorded : Recorded Scripted}
    (always : Transport.Always kind recorded.inner)
    (url : String) :
    Transport.Always kind (Transport.get url recorded).state := by
  have kept : (Transport.get url recorded).state.inner = recorded.inner :=
    Scripted.state_get url recorded.inner
  refine Recorded.always ?_
  rwa [kept]

/-- A script answers every call as one of its faults says, or accepts it. -/
theorem Scripted.always
    {kind : Outcome TransportError Unit → Prop}
    {scripted : Scripted}
    (accepted : kind (.done ()))
    (byNumber : ∀ entry ∈ scripted.rules.byNumber, ∀ url, kind (entry.2.outcome url))
    (byOperation : ∀ entry ∈ scripted.rules.byOperation, ∀ url, kind (entry.2.outcome url)) :
    Transport.Always kind scripted := by
  refine Transport.always_of_invariant (fun other => other.rules = scripted.rules) ?_ rfl
  intro other url call same
  refine ⟨?_, same⟩
  simp only [Transport.call, Scripted.call, same]
  cases found : scripted.rules.fault? (other.made + 1) call.operation with
  | none => exact accepted
  | some fault =>
      rw [FaultRules.fault?, Option.or_eq_some_iff] at found
      rcases found with numbered | ⟨-, named⟩
      · obtain ⟨front, back, entries, -⟩ := List.lookup_eq_some_iff.mp numbered
        exact byNumber (other.made + 1, fault) (by simp [entries]) url
      · obtain ⟨front, back, entries, -⟩ := List.lookup_eq_some_iff.mp named
        exact byOperation (call.operation, fault) (by simp [entries]) url

/-- A script with a single fault answers as that, or accepts. -/
theorem Scripted.always_of_single
    {kind : Outcome TransportError Unit → Prop}
    {fault : Fault}
    (accepted : kind (.done ()))
    (faulty : ∀ url, kind (fault.outcome url))
    (document : Except Fault String)
    (number made : Nat) :
    Transport.Always kind (⟨document, ⟨[(number, fault)], []⟩, made⟩ : Scripted) := by
  refine Scripted.always accepted ?_ (List.forall_mem_nil _)
  intro entry member url
  obtain rfl := List.mem_singleton.mp member
  exact faulty url

/-- A script without faults accepts every call. -/
theorem Scripted.accepting (document : Except Fault String) (made : Nat) :
    Transport.Accepting (⟨document, .none, made⟩ : Scripted) :=
  Scripted.always rfl (List.forall_mem_nil _) (List.forall_mem_nil _)

namespace EndpointTable

/-- Requests are those of calls, one for one and in their order, each at the address of its
operation. -/
def Delivers (table : EndpointTable) (calls : List Call) (posts : List Post) : Prop :=
  List.Forall₂
    (fun call post => ∃ url, table.url? call.operation = some url ∧ post = call.post url)
    calls posts

/-- Calls that have an address are all requested. -/
theorem delivers_posts
    {table : EndpointTable}
    {calls : List Call}
    (addressed : ∀ call ∈ calls, (table.url? call.operation).isSome) :
    table.Delivers calls (table.posts calls) := by
  induction calls with
  | nil => exact .nil
  | cons first calls inductionHypothesis =>
      obtain ⟨head, tail⟩ := List.forall_mem_cons.mp addressed
      obtain ⟨url, found⟩ := Option.isSome_iff_exists.mp head
      rw [posts_cons_of_some found]
      exact .cons ⟨url, found, rfl⟩ (inductionHypothesis tail)

end EndpointTable

namespace Controller

variable [Transport τ] {kind : Outcome TransportError Unit → Prop}

/-! ## Calls and plans -/

/-- A call that has an address gets an answer of the kind. -/
theorem reply_of_always
    {controller : Controller τ}
    (always : Transport.Always kind controller.transport)
    {call : Call}
    (addressed : (controller.endpoints.url? call.operation).isSome)
    (earlier : List Call) :
    kind (controller.reply earlier call) := by
  obtain ⟨url, found⟩ := Option.isSome_iff_exists.mp addressed
  simpa only [reply, found] using always (controller.endpoints.requests earlier) url call

/-- A call that has no address is unresolved. -/
theorem reply_of_unaddressed
    {controller : Controller τ}
    {call : Call}
    (unaddressed : controller.endpoints.url? call.operation = none)
    (earlier : List Call) :
    controller.reply earlier call = .failed (.unresolved call.operation.role) := by
  simp [reply, unaddressed]

/-- A plan whose calls all have an address is accepted by a transport that accepts every
call. -/
theorem accepts_of_accepting
    {controller : Controller τ}
    (accepting : Transport.Accepting controller.transport)
    {plan : List Call}
    (addressed : ∀ call ∈ plan, (controller.endpoints.url? call.operation).isSome) :
    controller.Accepts plan := by
  intro position call found
  exact reply_of_always accepting (addressed call (List.mem_of_getElem? found)) _

/-! ## Uses and histories -/

/-- A use reaches the transport through calls only. -/
theorem Use.Effect.exists_transport
    {use : Use}
    {controller after : Controller τ}
    {outcome : Outcome ControllerError Unit}
    (effect : use.Effect controller outcome after) :
    ∃ calls, after.transport = (controller.asked calls).transport := by
  cases effect with
  | selection target =>
      rcases accepts_or_stopsAt controller (controller.state.plan target) with
        accepts | ⟨position, call, stops⟩
      · refine ⟨controller.state.plan target, ?_⟩
        rw [accepts.selectPhy.2]
        rfl
      · exact ⟨_, congrArg transport stops.selectPhy.2⟩
  | refusal index => exact ⟨[], rfl⟩
  | settings state => exact ⟨[], rfl⟩
  | immediate call => exact ⟨[call], rfl⟩

theorem always_run
    {controller : Controller τ}
    (always : Transport.Always kind controller.transport)
    (use : Use) :
    Transport.Always kind (use.run controller).state.transport := by
  obtain ⟨calls, left⟩ := (use.effect_run controller).exists_transport
  rw [left]
  exact always.after _

/-- No history changes the kind of the answers to come. -/
theorem always_afterUses
    {controller : Controller τ}
    (always : Transport.Always kind controller.transport)
    (uses : List Use) :
    Transport.Always kind (controller.afterUses uses).transport := by
  induction uses generalizing controller with
  | nil => exact always
  | cons use uses inductionHypothesis => exact inductionHypothesis (always_run always use)

/-- No history changes the addresses of the handlers. -/
theorem endpoints_afterUses (controller : Controller τ) (uses : List Use) :
    (controller.afterUses uses).endpoints = controller.endpoints :=
  congrArg (fun settled => settled.2.1) (site_afterUses controller uses)

/-- A history reaches the transport through calls only. -/
theorem exists_asked_afterUses (controller : Controller τ) (uses : List Use) :
    ∃ calls, (controller.afterUses uses).transport = (controller.asked calls).transport := by
  induction uses generalizing controller with
  | nil => exact ⟨[], rfl⟩
  | cons use uses inductionHypothesis =>
      have effect := use.effect_run controller
      obtain ⟨first, reached⟩ := effect.exists_transport
      obtain ⟨rest, later⟩ := inductionHypothesis (use.run controller).state
      have settled : (use.run controller).state.endpoints = controller.endpoints :=
        congrArg (fun site => site.2.1) effect.site
      refine ⟨first ++ rest, ?_⟩
      rw [afterUses, later, asked_append]
      simp only [asked, reached, settled]

/-- How a use that reaches the transport can end: as one of its calls does. -/
theorem Use.Effect.ends
    {use : Use}
    {controller after : Controller τ}
    {outcome : Outcome ControllerError Unit}
    (effect : use.Effect controller outcome after) :
    outcome = .done () ∨ (∃ index, outcome = .failed (.invalidIndex index)) ∨
      ∃ earlier call, outcome =
        (controller.reply earlier call).mapError (.transportFailure call.operation) := by
  cases effect with
  | selection target =>
      rcases accepts_or_stopsAt controller (controller.state.plan target) with
        accepts | ⟨position, call, stops⟩
      · exact .inl accepts.selectPhy.1
      · exact .inr (.inr ⟨_, call, stops.selectPhy.1⟩)
  | refusal index => exact .inr (.inl ⟨index, rfl⟩)
  | settings state => exact .inl rfl
  | immediate call => exact .inr (.inr ⟨[], call, rfl⟩)

/-- No use breaks down over a transport that does not. -/
theorem run_ne_crashed
    {controller : Controller τ}
    (sound : Transport.Sound controller.transport)
    (use : Use) :
    (use.run controller).outcome ≠ .crashed := by
  rcases (use.effect_run controller).ends with done | ⟨index, refused⟩ | ⟨earlier, call, ended⟩
  · simp [done]
  · simp [refused]
  · rw [ended, Ne, Outcome.mapError_eq_crashed_iff]
    cases found : controller.endpoints.url? call.operation with
    | none => simp [reply_of_unaddressed found]
    | some url => exact reply_of_always sound (by simp [found]) earlier

end Controller
end DualPhy
