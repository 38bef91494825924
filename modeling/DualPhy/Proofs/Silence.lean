import DualPhy.CommandLine.Run
import DualPhy.Http.Client
import DualPhy.Proofs.Act
import DualPhy.Transport.Recorded
import DualPhy.Transport.Scripted

/-!
# Acts that print nothing

Standard output belongs to what a subcommand has to say. Finding the blocks, loading a profile,
changing settings and making calls is seen in the log, at the flowgraph and at the progress
bars, and none of it prints; nor does a selection behind a bar, whatever it ends with.
-/

namespace DualPhy

namespace Event

@[simp] theorem printed_nil : printed [] = "" := rfl

@[simp] theorem printed_print (text : String) : printed [.print text] = text := by
  simp [printed, printed?]

@[simp] theorem printed_append (first second : List Event) :
    printed (first ++ second) = printed first ++ printed second := by
  rw [printed, List.filterMap_append, String.join_append]
  rfl

end Event

/-- Two reports say the same, but for events that print nothing. -/
structure Report.Alike (first second : Report ε σ α) : Prop where
  /-- They end in the same way. -/
  outcome : first.outcome = second.outcome
  /-- They leave the same state. -/
  state : first.state = second.state
  /-- They print the same. -/
  printed : Event.printed first.events = Event.printed second.events

theorem Report.Alike.trans
    {first second third : Report ε σ α}
    (front : Alike first second)
    (back : Alike second third) :
    Alike first third where
  outcome := front.outcome.trans back.outcome
  state := front.state.trans back.state
  printed := front.printed.trans back.printed

namespace Act

/-- An act writes nothing to standard output, from whatever state it starts. -/
def Silent (act : Act ε σ α) : Prop := ∀ start, Event.printed (act start).events = ""

/-- What is printed behind a silent act is what is printed in all. -/
theorem Silent.printed_bind
    {act : Act ε σ α}
    (silent : act.Silent)
    (next : α → Act ε σ β)
    (start : σ) :
    Event.printed ((act >>= next) start).events =
      match (act start).outcome with
      | .done value => Event.printed (next value (act start).state).events
      | _ => "" := by
  have nothing := silent start
  rw [events_bind]
  cases (act start).outcome with
  | done value => simp [nothing]
  | failed error => exact nothing
  | crashed => exact nothing

/-- A silent act that gives a value is as good as its value and the state that it leaves. -/
theorem Silent.bind_of_done
    {act : Act ε σ α}
    {start after : σ}
    {value : α}
    (silent : act.Silent)
    (ended : (act start).outcome = .done value)
    (left : (act start).state = after)
    (next : α → Act ε σ β) :
    Report.Alike ((act >>= next) start) (next value after) where
  outcome := by rw [outcome_bind, ended, left]
  state := by rw [state_bind, ended, left]
  printed := by rw [silent.printed_bind, ended, left]

/-- A silent act that fails is all there is. -/
theorem Silent.bind_of_failed
    {act : Act ε σ α}
    {start after : σ}
    {error : ε}
    (silent : act.Silent)
    (ended : (act start).outcome = .failed error)
    (left : (act start).state = after)
    (next : α → Act ε σ β) :
    Report.Alike ((act >>= next) start) ⟨.failed error, after, []⟩ where
  outcome := by rw [outcome_bind, ended]
  state := by rw [state_bind, ended, left]
  printed := by rw [silent.printed_bind, ended]; rfl

/-! ## Acts that are put together -/

theorem silent_pure (value : α) : (pure value : Act ε σ α).Silent := fun _ => rfl

theorem silent_fail (error : ε) : (fail error : Act ε σ α).Silent := fun _ => rfl

theorem silent_ofExcept (result : Except ε α) : (ofExcept result : Act ε σ α).Silent := by
  cases result with
  | ok value => exact silent_pure value
  | error error => exact silent_fail error

theorem silent_state : (state : Act ε σ σ).Silent := fun _ => rfl

theorem silent_modify (change : σ → σ) : (modify change : Act ε σ Unit).Silent := fun _ => rfl

theorem silent_log (topic : Topic) (level : Level) (message : String) :
    (log topic level message : Act ε σ Unit).Silent := fun _ => rfl

theorem Silent.bind
    {act : Act ε σ α}
    {next : α → Act ε σ β}
    (silent : act.Silent)
    (follow : ∀ value, (next value).Silent) :
    (act >>= next).Silent := by
  intro start
  rw [silent.printed_bind]
  cases (act start).outcome with
  | done value => exact follow value _
  | failed error => rfl
  | crashed => rfl

theorem Silent.attempt {act : Act ε σ α} (silent : act.Silent) :
    (act.attempt : Act δ σ (Except ε α)).Silent := silent

theorem Silent.mapError {act : Act ε σ α} (silent : act.Silent) (change : ε → δ) :
    (act.mapError change).Silent := silent

theorem Silent.onPart
    {act : Act ε τ α}
    (silent : act.Silent)
    (part : σ → τ)
    (replace : τ → σ → σ) :
    (act.onPart part replace).Silent := fun start => silent (part start)

theorem silent_forEach {act : α → Act ε σ Unit} (each : ∀ item, (act item).Silent)
    (items : List α) :
    (forEach act items).Silent := by
  induction items with
  | nil => exact silent_pure ()
  | cons item items inductionHypothesis => exact (each item).bind fun _ => inductionHypothesis

end Act

/-! ## Transports -/

/-- Requests through a transport print nothing. -/
structure Transport.Silent (σ : Type) [Transport σ] : Prop where
  /-- Fetching a document does not. -/
  get : ∀ url, (Transport.get url : Act TransportError σ Json).Silent
  /-- Nor does a call. -/
  call : ∀ url call, (Transport.call url call : Act TransportError σ Unit).Silent

namespace HttpClient

theorem silent_send (method url body : String) : (send method url body).Silent := by
  intro client
  unfold send
  cases client.route url with
  | unsupported => rfl
  | nowhere => rfl
  | host path =>
      simp only
      split <;> rfl

theorem silent : Transport.Silent HttpClient where
  get url := by
    refine (silent_send "GET" url "").bind fun body => ?_
    cases Json.parse body with
    | ok document => exact Act.silent_pure document
    | error problem => exact Act.silent_fail _
  call url call :=
    (Act.silent_log _ _ _).bind fun _ =>
      (silent_send "POST" url call.payload.bodyText).bind fun _ => Act.silent_pure ()

end HttpClient

theorem Scripted.silent : Transport.Silent Scripted where
  get url := by
    intro scripted
    change Event.printed (Scripted.get url scripted).events = ""
    unfold Scripted.get
    split
    case h_1 => rfl
    case h_2 => split <;> rfl
  call url call := fun scripted => rfl

theorem Recorded.silent [Transport σ] (inner : Transport.Silent σ) :
    Transport.Silent (Recorded σ) where
  get url := fun recorded => inner.get url recorded.inner
  call url call := fun recorded => inner.call url call recorded.inner

theorem Tracked.silent [Transport σ] (inner : Transport.Silent σ) :
    Transport.Silent (Tracked σ) where
  get url := (inner.get url).onPart _ _
  call url call := fun tracked => inner.call url call tracked.inner

namespace Tracked

theorem silent_onBars (change : Bars → Except BarError Bars) :
    (onBars change : Act BarError (Tracked σ) Unit).Silent := by
  intro tracked
  unfold onBars
  split <;> rfl

theorem silent_closeBar (id message : String) :
    (closeBar id message : Act BarError (Tracked σ) Unit).Silent := by
  intro tracked
  unfold closeBar
  split <;> rfl

end Tracked

/-! ## Operations of a controller -/

namespace Controller

theorem silent_setParameter (index : Nat) (parameter : Parameter) (value : Binary64) :
    (setParameter index parameter value : Run τ Unit).Silent :=
  (Act.silent_ofExcept _).bind fun _ => (Act.silent_modify _).bind fun _ => Act.silent_log _ _ _

section Calls

variable [Transport τ] (silent : Transport.Silent τ)
include silent

theorem silent_issue (call : Call) : (issue call : Run τ Unit).Silent := by
  refine Act.silent_state.bind fun controller => ?_
  cases controller.endpoints.url? call.operation with
  | none => exact Act.silent_fail _
  | some url =>
      exact (Act.silent_log _ _ _).bind fun _ => ((silent.call url call).onPart _ _).mapError _

theorem silent_selectPhy (target : Phy) : (selectPhy target : Run τ Unit).Silent := by
  refine Act.Silent.bind ?_ fun _ => Act.silent_modify _
  exact Act.silent_state.bind fun _ => (Act.silent_log _ _ _).bind fun _ =>
    (Act.silent_forEach (silent_issue silent) _).bind fun _ => Act.silent_log _ _ _

end Calls

theorem silent_tryOnBars {act : Act BarError (Tracked τ) Unit} (silent : act.Silent) :
    (tryOnBars act).Silent :=
  (silent.attempt.onPart _ _).bind fun _ => Act.silent_pure ()

theorem silent_withBar
    {run : GuidedRun τ α}
    (silent : run.Silent)
    (total : UInt64)
    (template label : String) :
    (withBar total template label run).Silent :=
  (silent_tryOnBars (Tracked.silent_onBars _)).bind fun _ => silent.attempt.bind fun _ =>
    (silent_tryOnBars (Tracked.silent_closeBar _ _)).bind fun _ => Act.silent_ofExcept _

theorem silent_selectWithBar [Transport τ] (silent : Transport.Silent τ) (target : Phy) :
    (selectWithBar target : GuidedRun τ Unit).Silent :=
  Act.silent_state.bind fun _ =>
    silent_withBar (silent_selectPhy (Tracked.silent silent) target) _ _ _

end Controller

/-! ## Finding the blocks -/

namespace Survey

theorem silent_discover
    [Transport τ]
    (silent : Transport.Silent τ)
    (base : String)
    (matchers : List Matcher) :
    (discover base matchers : Act ControllerError τ Survey).Silent :=
  ((silent.get base).mapError _).bind fun _ =>
    ((Act.silent_ofExcept _).mapError _).bind fun _ =>
      (Act.silent_forEach (fun _ => Act.silent_log _ _ _) _).bind fun _ =>
        (Act.silent_forEach (fun _ => Act.silent_log _ _ _) _).bind fun _ => Act.silent_pure _

end Survey

namespace CommandLine

theorem silent_chooseProfile (surroundings : Surroundings) (settings : Settings) :
    (chooseProfile surroundings settings : Act RunError σ Profile).Silent := by
  unfold chooseProfile
  cases settings.profile with
  | none => exact Act.silent_pure _
  | some path =>
      exact (Act.silent_log _ _ _).bind fun _ => (Act.silent_ofExcept _).mapError _

theorem silent_discover
    [Transport τ]
    (silent : Transport.Silent τ)
    (settings : Settings)
    (profile : Profile) :
    (discover settings profile : Act ControllerError τ Resolution).Silent := by
  refine (Survey.silent_discover silent _ _).bind fun survey => ?_
  refine (Act.silent_log _ _ _).bind fun _ => ?_
  cases settings.strict with
  | true => exact Act.silent_ofExcept _
  | false => exact Act.silent_pure _

end CommandLine
end DualPhy
