import DualPhy.Act

/-!
# Outcome and state of an act

How the outcome and the state of a composed act follow from those of its parts. Its
events are those of its parts, one after the other.
-/

namespace DualPhy
namespace Act

@[simp] theorem outcome_bind
    (act : Act ε σ α)
    (next : α → Act ε σ β)
    (start : σ) :
    ((act >>= next) start).outcome =
      match (act start).outcome with
      | .done value => (next value (act start).state).outcome
      | .failed error => .failed error
      | .crashed => .crashed := by
  change (andThen act next start).outcome = _
  unfold andThen
  rcases act start with ⟨_ | _ | _, _, _⟩ <;> rfl

@[simp] theorem state_bind
    (act : Act ε σ α)
    (next : α → Act ε σ β)
    (start : σ) :
    ((act >>= next) start).state =
      match (act start).outcome with
      | .done value => (next value (act start).state).state
      | _ => (act start).state := by
  change (andThen act next start).state = _
  unfold andThen
  rcases act start with ⟨_ | _ | _, _, _⟩ <;> rfl

theorem events_bind
    (act : Act ε σ α)
    (next : α → Act ε σ β)
    (start : σ) :
    ((act >>= next) start).events =
      match (act start).outcome with
      | .done value => (act start).events ++ (next value (act start).state).events
      | _ => (act start).events := by
  change (andThen act next start).events = _
  unfold andThen
  rcases act start with ⟨_ | _ | _, _, _⟩ <;> rfl

/-- What ends with a value did so in both parts, and shows the events of both. -/
theorem exists_of_bind_done
    {act : Act ε σ α}
    {next : α → Act ε σ β}
    {start : σ}
    {value : β}
    (done : ((act >>= next) start).outcome = .done value) :
    ∃ first, (act start).outcome = .done first ∧
      (next first (act start).state).outcome = .done value ∧
      ((act >>= next) start).events =
        (act start).events ++ (next first (act start).state).events := by
  rw [outcome_bind] at done
  rw [events_bind]
  cases ended : (act start).outcome with
  | done first =>
      rw [ended] at done
      exact ⟨first, rfl, done, rfl⟩
  | failed error =>
      rw [ended] at done
      cases done
  | crashed =>
      rw [ended] at done
      cases done

/-- What ends with a value is followed by the act for that. -/
theorem bind_of_done
    {act : Act ε σ α}
    {start after : σ}
    {value : α}
    {events : List Event}
    (done : act start = ⟨.done value, after, events⟩)
    (next : α → Act ε σ β) :
    (act >>= next) start =
      ⟨(next value after).outcome, (next value after).state,
        events ++ (next value after).events⟩ := by
  change andThen act next start = _
  rw [andThen, done]

/-- What does not end with a value is followed by nothing. -/
theorem bind_of_undone
    {act : Act ε σ α}
    {start : σ}
    (undone : ∀ value, (act start).outcome ≠ .done value)
    (next : α → Act ε σ β) :
    (∀ value, ((act >>= next) start).outcome ≠ .done value) ∧
      ((act >>= next) start).state = (act start).state ∧
      ((act >>= next) start).events = (act start).events := by
  rw [outcome_bind, state_bind, events_bind]
  cases ended : (act start).outcome with
  | done value => exact absurd ended (undone value)
  | failed error => exact ⟨nofun, rfl, rfl⟩
  | crashed => exact ⟨nofun, rfl, rfl⟩

/-- What is made of the value of an act changes its outcome by as much. -/
theorem outcome_bind_pure (act : Act ε σ α) (result : α → β) (start : σ) :
    ((act >>= fun value => pure (result value)) start).outcome =
      (act start).outcome.map result := by
  change (andThen act (fun value => done (result value)) start).outcome = _
  unfold andThen
  rcases act start with ⟨_ | _ | _, _, _⟩ <;> rfl

theorem state_bind_pure (act : Act ε σ α) (result : α → β) (start : σ) :
    ((act >>= fun value => pure (result value)) start).state = (act start).state := by
  change (andThen act (fun value => done (result value)) start).state = _
  unfold andThen
  rcases act start with ⟨_ | _ | _, _, _⟩ <;> rfl

theorem events_bind_pure (act : Act ε σ α) (result : α → β) (start : σ) :
    ((act >>= fun value => pure (result value)) start).events = (act start).events := by
  rw [events_bind]
  cases (act start).outcome with
  | done value => exact List.append_nil _
  | failed error => rfl
  | crashed => rfl

/-- Two acts that do the same from a state are followed by the same, if what follows agrees
where they lead. -/
theorem bind_congr
    {act first : Act ε σ α}
    {next other : α → Act ε σ β}
    {start : σ}
    (acts : act start = first start)
    (follow : ∀ value, (act start).outcome = .done value →
      next value (act start).state = other value (act start).state) :
    (act >>= next) start = (first >>= other) start := by
  change andThen act next start = andThen first other start
  unfold andThen
  rw [← acts]
  rcases report : act start with ⟨value | _ | _, after, events⟩
  · rw [report] at follow
    simp only [follow value rfl]
  · rfl
  · rfl

@[simp] theorem outcome_pure (value : α) (start : σ) :
    ((pure value : Act ε σ α) start).outcome = .done value := rfl

@[simp] theorem state_pure (value : α) (start : σ) :
    ((pure value : Act ε σ α) start).state = start := rfl

@[simp] theorem events_pure (value : α) (start : σ) :
    ((pure value : Act ε σ α) start).events = [] := rfl

@[simp] theorem outcome_done (value : α) (start : σ) :
    ((done value : Act ε σ α) start).outcome = .done value := rfl

@[simp] theorem state_done (value : α) (start : σ) :
    ((done value : Act ε σ α) start).state = start := rfl

@[simp] theorem outcome_fail (error : ε) (start : σ) :
    ((fail error : Act ε σ α) start).outcome = .failed error := rfl

@[simp] theorem state_fail (error : ε) (start : σ) :
    ((fail error : Act ε σ α) start).state = start := rfl

@[simp] theorem events_fail (error : ε) (start : σ) :
    ((fail error : Act ε σ α) start).events = [] := rfl

@[simp] theorem outcome_state (start : σ) :
    ((state : Act ε σ σ) start).outcome = .done start := rfl

@[simp] theorem state_state (start : σ) :
    ((state : Act ε σ σ) start).state = start := rfl

theorem state_bind_eq (next : σ → Act ε σ α) (start : σ) :
    (state >>= next) start = next start start := rfl

@[simp] theorem outcome_modify (change : σ → σ) (start : σ) :
    ((modify change : Act ε σ Unit) start).outcome = .done () := rfl

@[simp] theorem state_modify (change : σ → σ) (start : σ) :
    ((modify change : Act ε σ Unit) start).state = change start := rfl

@[simp] theorem outcome_emit (event : Event) (start : σ) :
    ((emit event : Act ε σ Unit) start).outcome = .done () := rfl

@[simp] theorem state_emit (event : Event) (start : σ) :
    ((emit event : Act ε σ Unit) start).state = start := rfl

@[simp] theorem outcome_log (topic : Topic) (level : Level) (message : String) (start : σ) :
    ((log topic level message : Act ε σ Unit) start).outcome = .done () := rfl

@[simp] theorem state_log (topic : Topic) (level : Level) (message : String) (start : σ) :
    ((log topic level message : Act ε σ Unit) start).state = start := rfl

@[simp] theorem events_log (topic : Topic) (level : Level) (message : String) (start : σ) :
    ((log topic level message : Act ε σ Unit) start).events =
      [.log { topic, level, message }] := rfl

/-- A line that is logged behind an act changes neither how it ends nor what it leaves. -/
theorem bind_log_eq
    (act : Act ε σ Unit)
    (topic : Topic)
    (level : Level)
    (message : String)
    (start : σ) :
    ((act >>= fun _ => log topic level message) start).outcome = (act start).outcome ∧
      ((act >>= fun _ => log topic level message) start).state = (act start).state := by
  rw [outcome_bind, state_bind]
  cases (act start).outcome <;> simp

@[simp] theorem outcome_ofExcept_ok (value : α) (start : σ) :
    ((ofExcept (.ok value) : Act ε σ α) start).outcome = .done value := rfl

@[simp] theorem outcome_ofExcept_error (error : ε) (start : σ) :
    ((ofExcept (.error error) : Act ε σ α) start).outcome = .failed error := rfl

@[simp] theorem state_ofExcept (result : Except ε α) (start : σ) :
    ((ofExcept result : Act ε σ α) start).state = start := by
  cases result <;> rfl

@[simp] theorem events_ofExcept (result : Except ε α) (start : σ) :
    ((ofExcept result : Act ε σ α) start).events = [] := by
  cases result <;> rfl

@[simp] theorem outcome_attempt (act : Act ε σ α) (start : σ) :
    ((act.attempt : Act δ σ (Except ε α)) start).outcome = (act start).outcome.attempt := rfl

@[simp] theorem state_attempt (act : Act ε σ α) (start : σ) :
    ((act.attempt : Act δ σ (Except ε α)) start).state = (act start).state := rfl

@[simp] theorem events_attempt (act : Act ε σ α) (start : σ) :
    ((act.attempt : Act δ σ (Except ε α)) start).events = (act start).events := rfl

@[simp] theorem outcome_mapError (change : ε → δ) (act : Act ε σ α) (start : σ) :
    (act.mapError change start).outcome = (act start).outcome.mapError change := rfl

@[simp] theorem state_mapError (change : ε → δ) (act : Act ε σ α) (start : σ) :
    (act.mapError change start).state = (act start).state := rfl

@[simp] theorem outcome_onPart
    (part : σ → τ)
    (replace : τ → σ → σ)
    (act : Act ε τ α)
    (start : σ) :
    (act.onPart part replace start).outcome = (act (part start)).outcome := rfl

@[simp] theorem state_onPart
    (part : σ → τ)
    (replace : τ → σ → σ)
    (act : Act ε τ α)
    (start : σ) :
    (act.onPart part replace start).state = replace (act (part start)).state start := rfl

/-- What does not break down can be taken as a value and given back as it was. -/
theorem exists_attempt
    {act : Act ε σ α}
    {start after : σ}
    {outcome : Outcome ε α}
    {events : List Event}
    (ran : act start = ⟨outcome, after, events⟩)
    (sound : outcome ≠ .crashed) :
    ∃ result : Except ε α,
      (act.attempt : Act δ σ (Except ε α)) start = ⟨.done result, after, events⟩ ∧
        ∀ state : σ, (ofExcept result : Act ε σ α) state = ⟨outcome, state, []⟩ := by
  rw [attempt, ran]
  cases outcome with
  | done value => exact ⟨.ok value, rfl, fun _ => rfl⟩
  | failed error => exact ⟨.error error, rfl, fun _ => rfl⟩
  | crashed => exact absurd rfl sound

end Act

namespace Outcome

@[simp] theorem mapError_done (change : ε → δ) (value : α) :
    (done value).mapError change = done value := rfl

@[simp] theorem mapError_failed (change : ε → δ) (error : ε) :
    (failed error : Outcome ε α).mapError change = failed (change error) := rfl

@[simp] theorem mapError_crashed (change : ε → δ) :
    (crashed : Outcome ε α).mapError change = crashed := rfl

theorem map_map (first : α → β) (second : β → γ) (outcome : Outcome ε α) :
    (outcome.map first).map second = outcome.map fun value => second (first value) := by
  cases outcome <;> rfl

@[simp] theorem map_unit (outcome : Outcome ε Unit) : outcome.map (fun _ => ()) = outcome := by
  cases outcome <;> rfl

theorem map_eq_done_iff (change : α → β) (outcome : Outcome ε α) (value : β) :
    outcome.map change = done value ↔ ∃ given, outcome = done given ∧ change given = value := by
  cases outcome <;> simp [map]

@[simp] theorem map_eq_crashed_iff (change : α → β) (outcome : Outcome ε α) :
    outcome.map change = crashed ↔ outcome = crashed := by
  cases outcome <;> simp [map]

@[simp] theorem mapError_eq_done_iff
    (change : ε → δ)
    (outcome : Outcome ε α)
    (value : α) :
    outcome.mapError change = done value ↔ outcome = done value := by
  cases outcome <;> simp

@[simp] theorem mapError_eq_crashed_iff
    (change : ε → δ)
    (outcome : Outcome ε α) :
    outcome.mapError change = crashed ↔ outcome = crashed := by
  cases outcome <;> simp

theorem attempt_eq_ok_iff (outcome : Outcome ε α) (value : α) :
    (outcome.attempt : Outcome δ (Except ε α)) = done (.ok value) ↔ outcome = done value := by
  cases outcome <;> simp [attempt]

end Outcome

theorem eq_ok_of_toOption
    {result : Except ε α}
    {value : α}
    (given : result.toOption = some value) :
    result = .ok value := by
  cases result with
  | ok other => exact congrArg Except.ok (Option.some.inj given)
  | error error => cases given

end DualPhy
