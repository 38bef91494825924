import DualPhy.Proofs.LogReading
import DualPhy.Proofs.Muting
import DualPhy.Transport.Scripted

/-!
# The log of a controller is a trace

Over a transport that shows nothing, all lines are the controller's own. Each of them is read as a
note. The notes of calls are those of the calls that reached the transport, in their order; a
selection notes its plan before and its target behind them, the latter only if it succeeds. One
case analysis of a use shows this, and by induction the notes of a history follow.
-/

namespace DualPhy

theorem Event.logLines_append (first second : List Event) :
    logLines (first ++ second) = logLines first ++ logLines second :=
  List.filterMap_append

/-- Every line is read as a note of its own. -/
def Notes (events : List Event) (notes : List Note) : Prop :=
  (Event.logLines events).map LogLine.note? = notes.map some

theorem Notes.append
    {events more : List Event}
    {notes others : List Note}
    (first : Notes events notes)
    (second : Notes more others) :
    Notes (events ++ more) (notes ++ others) := by
  rw [Notes, Event.logLines_append, List.map_append, List.map_append, first, second]

theorem notes_line {line : LogLine} {note : Note} (told : line.note? = some note) :
    Notes [.log line] [note] :=
  congrArg (· :: []) told

theorem filter_isCall_map_note (records : List CallRecord) :
    (records.map CallRecord.note).filter Note.isCall = records.map CallRecord.note :=
  List.filter_eq_self.mpr (List.forall_mem_map.mpr fun _ _ => rfl)

theorem filterMap_active?_map_note (records : List CallRecord) :
    (records.map CallRecord.note).filterMap Note.active? = [] :=
  List.filterMap_eq_nil_iff.mpr (List.forall_mem_map.mpr fun _ _ => rfl)

namespace Controller

/-- The notes of a selection that made calls. -/
def selectionNotes
    (state : ControllerState)
    (target : Phy)
    (outcome : Outcome ControllerError Unit)
    (records : List CallRecord) :
    List Note :=
  .applying target state.mode (state.plan target).length :: records.map CallRecord.note ++
    if outcome = .done () then [.active target] else []

/-! ## Acts -/

/-- The lines of a report are read as notes, and calls reached the transport meanwhile. -/
structure Tells
    (before : Controller (Muted (Recorded σ)))
    (report : Report ε (Controller (Muted (Recorded σ))) α)
    (notes : List Note)
    (records : List CallRecord) : Prop where
  /-- The lines. -/
  lines : Notes report.events notes
  /-- The calls. -/
  calls : report.state.transport.inner.calls = before.transport.inner.calls ++ records

section Acts

variable {before : Controller (Muted (Recorded σ))} {notes more : List Note}
  {records others : List CallRecord}

/-- An act that logs nothing and makes no call. -/
theorem Tells.nothing
    {report : Report ε (Controller (Muted (Recorded σ))) α}
    (silent : report.events = [])
    (same : report.state.transport = before.transport) :
    Tells before report [] [] where
  lines := by
    rw [silent]
    rfl
  calls := by rw [same, List.append_nil]

theorem tells_log
    {line : LogLine}
    {note : Note}
    (told : line.note? = some note) :
    Tells before (Act.log line.topic line.level line.message before :
      Report ε (Controller (Muted (Recorded σ))) Unit) [note] [] where
  lines := notes_line told
  calls := (List.append_nil _).symm

/-- A line in front of an act. -/
theorem Tells.behind_log
    {line : LogLine}
    {note : Note}
    (told : line.note? = some note)
    {act : Act ε (Controller (Muted (Recorded σ))) α}
    (tells : Tells before (act before) notes records) :
    Tells before ((Act.log line.topic line.level line.message >>= fun _ => act) before)
      (note :: notes) records where
  lines := (notes_line told).append tells.lines
  calls := tells.calls

/-- One act after another. -/
theorem Tells.bind
    {act : Act ε (Controller (Muted (Recorded σ))) α}
    {next : α → Act ε (Controller (Muted (Recorded σ))) β}
    {value : α}
    (first : Tells before (act before) notes records)
    (ended : (act before).outcome = .done value)
    (second : Tells (act before).state (next value (act before).state) more others) :
    Tells before ((act >>= next) before) (notes ++ more) (records ++ others) where
  lines := by
    rw [Act.events_bind, ended]
    exact first.lines.append second.lines
  calls := by
    rw [Act.state_bind, ended, ← List.append_assoc, ← first.calls]
    exact second.calls

/-- An act that does not succeed is followed by nothing. -/
theorem Tells.bind_undone
    {act : Act ε (Controller (Muted (Recorded σ))) α}
    {next : α → Act ε (Controller (Muted (Recorded σ))) β}
    (first : Tells before (act before) notes records)
    (undone : ∀ value, (act before).outcome ≠ .done value) :
    Tells before ((act >>= next) before) notes records := by
  obtain ⟨-, state, events⟩ := Act.bind_of_undone undone next
  constructor
  case lines =>
    rw [events]
    exact first.lines
  case calls =>
    rw [state]
    exact first.calls

/-- A line behind an act is logged if the act succeeds. -/
theorem Tells.before_log
    {line : LogLine}
    {note : Note}
    (told : line.note? = some note)
    {act : Run (Muted (Recorded σ)) Unit}
    (tells : Tells before (act before) notes records) :
    Tells before ((act >>= fun _ => Act.log line.topic line.level line.message) before)
      (notes ++ if (act before).outcome = .done () then [note] else []) records := by
  by_cases ended : (act before).outcome = .done ()
  · rw [if_pos ended, ← List.append_nil records]
    exact tells.bind ended (tells_log told)
  · rw [if_neg ended, List.append_nil]
    exact tells.bind_undone fun _ => ended

end Acts

section Runs

variable [Transport σ]

/-- A call that reaches the transport is told, and so is no other. -/
theorem exists_tells_issue (controller : Controller (Muted (Recorded σ))) (call : Call) :
    ∃ records, Tells controller (issue call controller) (records.map CallRecord.note) records := by
  cases found : controller.endpoints.url? call.operation with
  | none =>
      refine ⟨[], .nothing ?_ ?_⟩ <;>
        simp [issue, Act.state_bind_eq, found]
  | some url =>
      let answered := (Transport.call url call controller.transport.inner.inner :
        Report TransportError σ Unit).outcome
      refine ⟨[⟨url, call, answered⟩], ?_⟩
      rw [issue, Act.state_bind_eq, found]
      exact .behind_log (note?_callLine call) ⟨rfl, rfl⟩

/-- The notes of a plan are those of the calls that reached the transport. -/
theorem exists_tells_forEach_issue
    (controller : Controller (Muted (Recorded σ)))
    (plan : List Call) :
    ∃ records, Tells controller (Act.forEach issue plan controller)
      (records.map CallRecord.note) records := by
  induction plan generalizing controller with
  | nil => exact ⟨[], .nothing rfl rfl⟩
  | cons call plan inductionHypothesis =>
      obtain ⟨records, issued⟩ := exists_tells_issue controller call
      by_cases ended : (issue call controller).outcome = .done ()
      · obtain ⟨others, rest⟩ := inductionHypothesis (issue call controller).state
        refine ⟨records ++ others, ?_⟩
        rw [List.map_append]
        exact issued.bind ended rest
      · exact ⟨records, issued.bind_undone fun _ => ended⟩

/-- Running through a plan notes the plan, the calls, and the target if all of them are accepted. -/
theorem exists_tells_apply
    (controller : Controller (Muted (Recorded σ)))
    (target : Phy) :
    ∃ records, Tells controller (apply target controller)
      (selectionNotes controller.state target (apply target controller).outcome records)
      records := by
  let plan := controller.state.plan target
  obtain ⟨records, made⟩ := exists_tells_forEach_issue controller plan
  refine ⟨records, ?_⟩
  rw [selectionNotes, (apply_eq_forEach controller target).1]
  exact .behind_log (note?_applyingLine target controller.state.mode plan.length)
    (made.before_log (note?_activeLine target))

/-- A selection does too, and no more. -/
theorem exists_tells_selectPhy
    (controller : Controller (Muted (Recorded σ)))
    (target : Phy) :
    ∃ records, Tells controller (selectPhy target controller)
      (selectionNotes controller.state target (selectPhy target controller).outcome records)
      records := by
  obtain ⟨records, applied⟩ := exists_tells_apply controller target
  refine ⟨records, ?_⟩
  rw [(selectPhy_eq_apply controller target).1, selectPhy]
  by_cases ended : (apply target controller).outcome = .done ()
  · simpa using applied.bind ended (.nothing rfl rfl)
  · exact applied.bind_undone fun _ => ended

/-! ## Uses -/

/-- What a use tells, and the calls that it makes. -/
structure Narrates
    (controller : Controller (Muted (Recorded σ)))
    (use : Use)
    (notes : List Note)
    (records : List CallRecord) : Prop where
  /-- These are told and made. -/
  tells : Tells controller (use.run controller) notes records
  /-- The calls that are told are those that are made. -/
  calls : notes.filter Note.isCall = records.map CallRecord.note
  /-- A PHY is told to be on air if the use has put it there. -/
  active : notes.filterMap Note.active? = (Episode.selected?
    ⟨controller, use, (use.run controller).outcome, (use.run controller).state⟩).toList
  /-- A use with a target tells as much as a selection. -/
  selection : ∀ target, use.target? controller.state = some target →
    notes = selectionNotes controller.state target (use.run controller).outcome records

/-- A use without a target selects nothing. -/
theorem Narrates.of_targetless
    {controller : Controller (Muted (Recorded σ))}
    {use : Use}
    {notes : List Note}
    {records : List CallRecord}
    (targetless : use.target? controller.state = none)
    (tells : Tells controller (use.run controller) notes records)
    (calls : notes.filter Note.isCall = records.map CallRecord.note)
    (active : notes.filterMap Note.active? = []) :
    Narrates controller use notes records where
  tells := tells
  calls := calls
  active := by
    simp [active, Episode.selected?, targetless]
  selection target targets := by
    rw [targetless] at targets
    cases targets

theorem Narrates.of_nothing
    {controller : Controller (Muted (Recorded σ))}
    {use : Use}
    (targetless : use.target? controller.state = none)
    (silent : (use.run controller).events = [])
    (same : (use.run controller).state.transport = controller.transport) :
    Narrates controller use [] [] :=
  .of_targetless targetless (.nothing silent same) rfl rfl

/-- A selection has put its target on air if it succeeded. -/
theorem exists_narrates_of_target
    {controller : Controller (Muted (Recorded σ))}
    {use : Use}
    {target : Phy}
    (targets : use.target? controller.state = some target) :
    ∃ notes records, Narrates controller use notes records := by
  obtain ⟨records, lines, made⟩ := exists_tells_selectPhy controller target
  obtain ⟨outcome, state, events⟩ : (use.run controller).outcome =
        (selectPhy target controller).outcome ∧
      (use.run controller).state = (selectPhy target controller).state ∧
      (use.run controller).events = (selectPhy target controller).events := by
    cases use with
    | act action =>
        obtain ⟨outcome, state⟩ := Action.run_eq_selectPhy targets
        exact ⟨outcome, state, Action.events_run_eq_selectPhy targets⟩
    | _ => cases targets
  rw [← outcome, ← events] at lines
  rw [← state] at made
  refine ⟨_, records, ⟨⟨lines, made⟩, ?_, ?_, ?_⟩⟩
  · rw [selectionNotes, List.filter_append, List.filter_cons_of_neg Bool.false_ne_true,
      filter_isCall_map_note]
    split <;> simp [Note.isCall]
  · rw [selectionNotes, List.filterMap_append, List.filterMap_cons_none rfl,
      filterMap_active?_map_note, Episode.selected?]
    simp only [targets]
    split <;> rfl
  · intro other otherTargets
    rw [targets] at otherTargets
    rw [Option.some.inj otherTargets]

theorem exists_narrates_act
    (controller : Controller (Muted (Recorded σ)))
    (action : Action) :
    ∃ notes records, Narrates controller (.act action) notes records := by
  cases targets : action.target? controller.state with
  | some target => exact exists_narrates_of_target targets
  | none =>
      cases action with
      | setParameter index parameter value =>
          cases found : Phy.ofIndex? index with
          | none =>
              refine ⟨[], [], .of_nothing rfl ?_ ?_⟩ <;>
                simp [Use.run, Action.run, setter_eq, setParameter, Act.events_bind,
                  Phy.ofIndex_of_none found]
          | some phy =>
              obtain rfl := Phy.index_of_ofIndex? found
              have sets : (Use.act (.setParameter phy.index parameter value)).run controller =
                  setParameter phy.index parameter value controller :=
                congrFun (setter_eq parameter phy.index value) controller
              refine ⟨[.pending phy parameter], [], .of_targetless rfl ⟨?_, ?_⟩ rfl rfl⟩
              · rw [sets]
                cases phy <;> exact notes_line (note?_pendingLine _ parameter value)
              · rw [sets]
                cases phy <;> exact (List.append_nil _).symm
      | setChannels channels => exact ⟨[], [], .of_nothing rfl rfl rfl⟩
      | setMode mode => exact ⟨[], [], .of_nothing rfl rfl rfl⟩
      | configure table channels mode => exact ⟨[], [], .of_nothing rfl rfl rfl⟩
      | send parameter value channel =>
          obtain ⟨records, issued⟩ := exists_tells_issue controller (parameter.call value channel)
          exact ⟨_, records, .of_targetless rfl issued (filter_isCall_map_note records)
            (filterMap_active?_map_note records)⟩
      | select index =>
          refine ⟨[], [], .of_nothing targets ?_ ?_⟩ <;>
            simp [Use.run, Action.run, select, Act.events_bind, Phy.ofIndex_of_none targets]
      | selectPhy target => cases targets
      | switch => cases targets

/-- Every use tells what it does. -/
theorem exists_narrates
    (controller : Controller (Muted (Recorded σ)))
    (use : Use) :
    ∃ notes records, Narrates controller use notes records := by
  cases use with
  | act action => exact exists_narrates_act controller action
  | load profile => exact ⟨[], [], .of_nothing rfl rfl rfl⟩
  | parameters index =>
      refine ⟨[], [], .of_nothing rfl ?_ ?_⟩
      · exact (Act.events_bind_pure _ _ _).trans (Act.events_ofExcept _ _)
      · exact congrArg transport ((Act.state_bind_pure _ _ _).trans (Act.state_ofExcept _ _))
  | plan target => exact ⟨[], [], .of_nothing rfl rfl rfl⟩
  | look => exact ⟨[], [], .of_nothing rfl rfl rfl⟩

/-! ## Histories -/

/-- What a history of uses tells, and the calls that it makes. -/
structure Recounts
    (controller : Controller (Muted (Recorded σ)))
    (uses : List Use)
    (notes : List Note)
    (records : List CallRecord) : Prop where
  /-- Every line is read as a note. -/
  lines : Notes (controller.eventsOfUses uses) notes
  /-- These calls are made. -/
  made : (controller.afterUses uses).transport.inner.calls =
    controller.transport.inner.calls ++ records
  /-- The calls that are told are those that are made. -/
  calls : notes.filter Note.isCall = records.map CallRecord.note
  /-- The PHYs that are told to be on air are those that were put there. -/
  active : notes.filterMap Note.active? =
    (controller.episodes uses).filterMap Episode.selected?

theorem recounts_nil (controller : Controller (Muted (Recorded σ))) :
    Recounts controller [] [] [] :=
  ⟨rfl, (List.append_nil _).symm, rfl, rfl⟩

/-- A use in front of a history. -/
theorem Recounts.cons
    {controller : Controller (Muted (Recorded σ))}
    {use : Use}
    {uses : List Use}
    {first later : List Note}
    {records others : List CallRecord}
    (narrates : Narrates controller use first records)
    (recounts : Recounts (use.run controller).state uses later others) :
    Recounts controller (use :: uses) (first ++ later) (records ++ others) where
  lines := narrates.tells.lines.append recounts.lines
  made := by
    rw [afterUses, recounts.made, narrates.tells.calls, List.append_assoc]
  calls := by
    rw [List.filter_append, narrates.calls, recounts.calls, List.map_append]
  active := by
    rw [List.filterMap_append, narrates.active, recounts.active, episodes, List.filterMap_cons]
    cases Episode.selected? _ <;> rfl

theorem exists_recounts
    (controller : Controller (Muted (Recorded σ)))
    (uses : List Use) :
    ∃ notes records, Recounts controller uses notes records := by
  induction uses generalizing controller with
  | nil => exact ⟨[], [], recounts_nil controller⟩
  | cons use uses inductionHypothesis =>
      obtain ⟨first, records, narrates⟩ := exists_narrates controller use
      obtain ⟨later, others, recounts⟩ := inductionHypothesis (use.run controller).state
      exact ⟨_, _, recounts.cons narrates⟩

/-- The lines that a controller logs by itself in a history of uses. -/
def ownLines (controller : Controller (Recorded σ)) (uses : List Use) : List LogLine :=
  Event.logLines (controller.muted.eventsOfUses uses)

/-- The log of a controller is a trace of a history. -/
structure Traces
    (controller : Controller (Recorded σ))
    (uses : List Use)
    (notes : List Note)
    (records : List CallRecord) : Prop where
  /-- Every line is read as a note. -/
  lines : (controller.ownLines uses).map LogLine.note? = notes.map some
  /-- These calls reached the transport. -/
  made : (controller.afterUses uses).transport.calls = controller.transport.calls ++ records
  /-- The notes of calls are those of these calls. -/
  calls : notes.filter Note.isCall = records.map CallRecord.note
  /-- The last PHY that is noted to be on air is the active one. -/
  active : (controller.afterUses uses).state.active =
    (notes.filterMap Note.active?).getLast?.getD controller.state.active

/-- What is recounted over the muted transport is a trace over the transport. -/
theorem Recounts.traces
    {controller : Controller (Recorded σ)}
    {uses : List Use}
    {notes : List Note}
    {records : List CallRecord}
    (recounts : Recounts controller.muted uses notes records) :
    Traces controller uses notes records where
  lines := recounts.lines
  made := by
    have made := recounts.made
    rw [(mutes_afterUses controller uses).1] at made
    exact made
  calls := recounts.calls
  active := by
    rw [recounts.active, ← state_muted, ← (mutes_afterUses controller uses).1]
    exact active_afterUses controller.muted uses

/-- A use with a target tells its plan, its calls, and its target if it succeeds. -/
theorem exists_traces_of_target
    {controller : Controller (Recorded σ)}
    {use : Use}
    {target : Phy}
    (targets : use.target? controller.state = some target) :
    ∃ records, Traces controller [use]
      (selectionNotes controller.state target (use.run controller).outcome records) records := by
  obtain ⟨notes, records, narrates⟩ := exists_narrates controller.muted use
  have recounts := (recounts_nil _).cons narrates
  rw [List.append_nil, List.append_nil, narrates.selection target targets,
    (mutes_use use controller).outcome] at recounts
  exact ⟨records, recounts.traces⟩

theorem ownLines_append (controller : Controller (Recorded σ)) (earlier later : List Use) :
    controller.ownLines (earlier ++ later) =
      controller.ownLines earlier ++ (controller.afterUses earlier).ownLines later := by
  rw [ownLines, eventsOfUses_append, Event.logLines_append, (mutes_afterUses controller earlier).1]
  rfl

/-- The log of a controller is a faithful trace, whatever the transport does. The lines of the
controller are among those of a history, and each of them is read as a note. The notes of calls are
those of the calls that reached the transport, in their order, and tell operation, number and
channel. A selection notes its plan and the number of its calls, then the calls that it makes, and
then its target, but only if it succeeds. The last target that is noted is the active PHY. -/
theorem log_traces_calls (controller : Controller (Recorded σ)) (uses : List Use) :
    (controller.ownLines uses).Sublist (Event.logLines (controller.eventsOfUses uses)) ∧
      (∃ notes records, Traces controller uses notes records) ∧
      ∀ earlier use later target,
        uses = earlier ++ use :: later →
        use.target? (controller.afterUses earlier).state = some target →
        let before := controller.afterUses earlier
        let after := controller.afterUses (earlier ++ [use])
        controller.ownLines uses =
            controller.ownLines earlier ++ before.ownLines [use] ++ after.ownLines later ∧
          ∃ records, Traces before [use]
            (.applying target before.state.mode (before.state.plan target).length ::
              records.map CallRecord.note ++
              if (use.run before).outcome = .done () then [.active target] else [])
            records := by
  obtain ⟨notes, records, recounts⟩ := exists_recounts controller.muted uses
  refine ⟨(mutes_afterUses controller uses).2.filterMap _, ⟨notes, records, recounts.traces⟩, ?_⟩
  rintro earlier use later target rfl targets before after
  refine ⟨?_, exists_traces_of_target targets⟩
  rw [List.append_cons, ownLines_append, ownLines_append]

end Runs

/-- A controller without the block of the sink, whose third call is turned down. -/
def patchy : Controller (Recorded Scripted) :=
  fresh "http://flowgraph/" ⟨.ofFn fun role => if role = .rfSink then none else some role.key⟩
    (.fresh ⟨.error .crash, ⟨[(3, .status 503)], []⟩, 0⟩)

/-- Behind a gain that was sent at once, its switch notes a plan of eleven calls and those that it
makes, and no PHY that is on air. PHY 0 stays there. -/
theorem log_traces_calls_patchy :
    let sent := [Use.act (.send .rxGain (.ofNat 40) 0)]
    let before := patchy.afterUses sent
    (Use.act .switch).target? before.state = some .phy1 ∧
      (Use.run (.act .switch) before).outcome ≠ .done () ∧
      (∃ records, Traces before [.act .switch]
        (.applying .phy1 .centerOffset 11 :: records.map CallRecord.note) records) ∧
      ∃ notes records, Traces patchy (sent ++ [.act .switch]) notes records ∧
        .phy0 = (notes.filterMap Note.active?).getLast?.getD .phy0 := by
  intro sent before
  have targets : (Use.act .switch).target? before.state = some .phy1 := rfl
  have undone : (Use.run (.act .switch) before).outcome ≠ .done () := by decide +kernel
  obtain ⟨-, ⟨notes, records, traces⟩, selection⟩ :=
    log_traces_calls patchy (sent ++ [.act .switch])
  obtain ⟨-, made, switches⟩ := selection sent (.act .switch) [] .phy1 rfl targets
  rw [if_neg undone, List.append_nil] at switches
  exact ⟨targets, undone, ⟨made, switches⟩, notes, records, traces, traces.active⟩

end Controller
end DualPhy
