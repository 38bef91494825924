import DualPhy.Proofs.BarAccounts
import DualPhy.Proofs.Guidance

/-!
# What the bar of a selection shows

A selection behind a bar opens the bar with the length of its plan and closes it at the end. What
a call does to the bar and to the record of calls is said once, and by induction along the plan the
bar has been moved by the calls that were accepted. These are as many as the plan has exactly if
the selection succeeds.
-/

namespace DualPhy

/-- The number of recorded calls that were accepted. -/
def accepted (records : List CallRecord) : Nat :=
  records.countP fun record => decide (record.outcome = .done ())

theorem accepted_append (first second : List CallRecord) :
    accepted (first ++ second) = accepted first + accepted second :=
  List.countP_append

theorem length_plan_le (state : ControllerState) (target : Phy) :
    (state.plan target).length ≤ 11 := by
  rw [ControllerState.plan]
  cases state.mode <;> simp [ControllerState.routing, ControllerState.levels,
    ControllerState.tuning]

/-- A call that is followed by an open bar moves it on if it is accepted. -/
theorem Bars.find?_call
    {bars : Bars}
    {id : String}
    {bar : Bar}
    (found : bars.find? id = some bar)
    (operation : Operation)
    (outcome : Outcome TransportError Unit) :
    ((bars.announce id operation).count id outcome).find? id =
      some ⟨bar.total, bar.position + if outcome = .done () then 1 else 0, operation.name⟩ := by
  have announced : (bars.announce id operation).find? id =
      some { bar with message := operation.name } := by
    simp [announce, setMessage, update, found, orSame]
  cases outcome with
  | done value => simp [count, advance, update, announced, orSame]
  | failed error => simp [count, announced]
  | crashed => simp [count, announced]

namespace Controller

/-- Between two states of a controller these calls were recorded, and the bar that follows calls, if
it was open, was moved by those that were accepted. -/
structure Counts
    (before after : Controller (Tracked (Recorded τ)))
    (records : List CallRecord) : Prop where
  /-- The calls. -/
  calls : after.transport.inner.calls = before.transport.inner.calls ++ records
  /-- The bar that follows calls is the same. -/
  followed : after.transport.barId = before.transport.barId
  /-- It was moved. -/
  bar : ∀ bar, before.transport.bars.find? before.transport.barId = some bar →
    ∃ message, after.transport.bars.find? before.transport.barId =
      some ⟨bar.total, bar.position + .ofNat (accepted records), message⟩

section Calls

variable {before between after : Controller (Tracked (Recorded τ))}
  {records others : List CallRecord}

theorem Counts.refl (controller : Controller (Tracked (Recorded τ))) :
    Counts controller controller [] where
  calls := (List.append_nil _).symm
  followed := rfl
  bar bar found := ⟨bar.message, by simpa [accepted] using found⟩

theorem Counts.trans
    (first : Counts before between records)
    (second : Counts between after others) :
    Counts before after (records ++ others) where
  calls := by rw [second.calls, first.calls, List.append_assoc]
  followed := second.followed.trans first.followed
  bar bar found := by
    obtain ⟨_, moved⟩ := first.bar bar found
    rw [← first.followed] at moved
    obtain ⟨message, movedOn⟩ := second.bar _ moved
    refine ⟨message, ?_⟩
    rw [← first.followed, movedOn, accepted_append, UInt64.ofNat_add, UInt64.add_assoc]

variable [Transport τ]

/-- A call that is accepted counts as one, and any other does not count. -/
theorem exists_counts_issue (controller : Controller (Tracked (Recorded τ))) (call : Call) :
    ∃ records, Counts controller (issue call controller).state records ∧
      accepted records = if (issue call controller).outcome = .done () then 1 else 0 := by
  cases found : controller.endpoints.url? call.operation with
  | none =>
      refine ⟨[], ?_, ?_⟩
      · rw [issue, Act.state_bind_eq, found]
        exact .refl controller
      · rw [issue, Act.state_bind_eq, found]
        rfl
  | some url =>
      let answered := (Transport.call url call controller.transport.inner.inner :
        Report TransportError τ Unit).outcome
      have state : (issue call controller).state = (transmit url call controller).state := by
        rw [issue, Act.state_bind_eq, found]
        rfl
      have outcome : (issue call controller).outcome =
          answered.mapError (.transportFailure call.operation) := by
        rw [issue, Act.state_bind_eq, found]
        rfl
      have one : accepted [⟨url, call, answered⟩] = if answered = .done () then 1 else 0 := by
        simp [accepted, List.countP_cons]
      rw [state, outcome, if_congr (Outcome.mapError_eq_done_iff _ _ _) rfl rfl]
      refine ⟨[⟨url, call, answered⟩], ⟨rfl, rfl, fun bar isOpen =>
        ⟨call.operation.name, ?_⟩⟩, one⟩
      rw [one, apply_ite UInt64.ofNat]
      exact Bars.find?_call isOpen call.operation answered

/-- The calls of a plan that are accepted are as many as the plan has exactly if all are. -/
theorem exists_counts_forEach_issue
    (controller : Controller (Tracked (Recorded τ)))
    (plan : List Call) :
    ∃ records, Counts controller (Act.forEach issue plan controller).state records ∧
      accepted records ≤ plan.length ∧
      ((Act.forEach issue plan controller).outcome = .done () ↔
        accepted records = plan.length) := by
  induction plan generalizing controller with
  | nil => exact ⟨[], .refl controller, Nat.le_refl 0, iff_of_true rfl rfl⟩
  | cons call plan inductionHypothesis =>
      obtain ⟨records, issued, count⟩ := exists_counts_issue controller call
      by_cases ended : (issue call controller).outcome = .done ()
      · obtain ⟨others, rest, most, succeeds⟩ := inductionHypothesis (issue call controller).state
        rw [if_pos ended] at count
        rw [Act.forEach, Act.outcome_bind, Act.state_bind, ended]
        refine ⟨records ++ others, issued.trans rest, ?_, succeeds.trans ?_⟩ <;>
          rw [accepted_append, count, List.length_cons] <;> omega
      · obtain ⟨undone, state, -⟩ :=
          Act.bind_of_undone (fun _ => ended) fun _ => Act.forEach issue plan
        rw [if_neg ended] at count
        rw [Act.forEach, state]
        refine ⟨records, issued, ?_, iff_of_false (undone ()) ?_⟩ <;>
          rw [count, List.length_cons] <;> omega

/-- A selection does with the calls and the bar what the calls of its plan do. -/
theorem exists_counts_selectPhy
    (controller : Controller (Tracked (Recorded τ)))
    (target : Phy) :
    ∃ records, Counts controller (selectPhy target controller).state records ∧
      accepted records ≤ (controller.state.plan target).length ∧
      ((selectPhy target controller).outcome = .done () ↔
        accepted records = (controller.state.plan target).length) := by
  obtain ⟨records, ⟨calls, followed, bar⟩, most, succeeds⟩ :=
    exists_counts_forEach_issue controller (controller.state.plan target)
  obtain ⟨applied, after⟩ := apply_eq_forEach controller target
  obtain ⟨outcome, transport⟩ := selectPhy_eq_apply controller target
  rw [after] at transport
  refine ⟨records, ⟨?_, ?_, ?_⟩, most, ?_⟩
  · rw [transport, calls]
  · rw [transport, followed]
  · rw [transport]
    exact bar
  · rw [outcome, applied, succeeds]

end Calls

/-! ## Behind a bar -/

section Guards

variable {τ : Type}

/-- What succeeds on the bars is done when it is tried. -/
theorem tryOnBars_of_done
    {act : Act BarError (Tracked τ) Unit}
    {controller : Controller (Tracked τ)}
    {left : Tracked τ}
    {events : List Event}
    (done : act controller.transport = ⟨.done (), left, events⟩) :
    tryOnBars act controller = ⟨.done (), { controller with transport := left }, events⟩ := by
  change Act.andThen (act.attempt.onPart _ _) _ controller = _
  simp [Act.andThen, Act.onPart, Act.attempt, done, Outcome.attempt]

/-- A bar that is not open is opened at zero. -/
theorem tryOnBars_create_of_free
    {bars : Bars}
    {template : String}
    (free : bars.find? barId = none)
    (valid : Template.check template = none)
    (total : UInt64)
    (label : String)
    (controller : Controller τ) :
    tryOnBars (Tracked.onBars fun bars => bars.create barId total template label)
        (controller.tracked bars) =
      ⟨.done (), controller.tracked (bars.insert barId ⟨total, 0, label⟩), []⟩ := by
  have created : bars.create barId total template label =
      .ok (bars.insert barId ⟨total, 0, label⟩) := by
    simp [Bars.create, Bars.isOpen, free, valid]
  apply tryOnBars_of_done
  rw [Tracked.onBars, bars_tracked, created]
  rfl

/-- An open bar is closed where it is. -/
theorem tryOnBars_close_of_open
    {controller : Controller (Tracked τ)}
    {bar : Bar}
    (isOpen : controller.transport.bars.find? barId = some bar)
    (message : String) :
    tryOnBars (Tracked.closeBar barId message) controller =
      ⟨.done (),
        { controller with transport :=
          { controller.transport with bars := controller.transport.bars.erase barId } },
        [.barClosed barId { bar with message }]⟩ := by
  apply tryOnBars_of_done
  simp [Tracked.closeBar, Bars.close, isOpen]

/-- An operation behind a bar that was not open ends as it does with the bar open. The bar is closed
where it is then. -/
theorem withBar_of_free
    {run : GuidedRun τ α}
    {total : UInt64}
    {template label : String}
    {controller : Controller τ}
    {bars : Bars}
    {outcome : Outcome ControllerError α}
    {left : Controller (Tracked τ)}
    {events : List Event}
    {bar : Bar}
    (free : bars.find? barId = none)
    (valid : Template.check template = none)
    (ran : run (controller.tracked (bars.insert barId ⟨total, 0, label⟩)) = ⟨outcome, left, events⟩)
    (sound : outcome ≠ .crashed)
    (isOpen : left.transport.bars.find? barId = some bar) :
    ∃ message, withBar total template label run (controller.tracked bars) =
      ⟨outcome,
        { left with transport :=
          { left.transport with bars := left.transport.bars.erase barId } },
        events ++ [.barClosed barId { bar with message }]⟩ := by
  obtain ⟨result, attempted, again⟩ := Act.exists_attempt ran sound
  apply Exists.intro
  rw [Controller.withBar,
    Act.bind_of_done (tryOnBars_create_of_free free valid total label controller),
    Act.bind_of_done attempted, Act.bind_of_done (tryOnBars_close_of_open isOpen _), again]
  rfl

end Guards

/-- The last thing shown is that the bar for calls is closed. It stands where the calls that the
transport accepted have moved it, and at its end exactly if there was success. -/
def ClosesOnCount
    (controller : Controller (Recorded τ))
    (total : Nat)
    (report : Report ControllerError (Controller (Tracked (Recorded τ))) α) : Prop :=
  ∃ bar shown records,
    report.events = shown ++ [.barClosed barId bar] ∧
    report.state.transport.inner.calls = controller.transport.calls ++ records ∧
    bar.position.toNat = accepted records ∧
    bar.total.toNat = total ∧
    (bar.position = bar.total ↔ ∃ value, report.outcome = .done value)

/-- An operation whose calls are counted, and that succeeds exactly if the accepted ones are as many
as its bar is long, has its bar closed on the count. -/
theorem closesOnCount_withBar
    {run : GuidedRun (Recorded τ) α}
    {controller : Controller (Recorded τ)}
    {bars : Bars}
    {total : Nat}
    {label : String}
    {records : List CallRecord}
    (free : bars.find? barId = none)
    (small : total < UInt64.size)
    (sound : (run (controller.tracked (bars.insert barId ⟨.ofNat total, 0, label⟩))).outcome ≠
      .crashed)
    (counts : Counts (controller.tracked (bars.insert barId ⟨.ofNat total, 0, label⟩))
      (run (controller.tracked (bars.insert barId ⟨.ofNat total, 0, label⟩))).state records)
    (most : accepted records ≤ total)
    (succeeds : (∃ value, (run (controller.tracked
        (bars.insert barId ⟨.ofNat total, 0, label⟩))).outcome = .done value) ↔
      accepted records = total) :
    ClosesOnCount controller total
      (withBar (.ofNat total) Template.apply label run (controller.tracked bars)) := by
  obtain ⟨message, isOpen⟩ := counts.bar ⟨.ofNat total, 0, label⟩
    ((Bars.find?_insert _ _ _ _).trans (if_pos rfl))
  have calls := counts.calls
  have valid : Template.check Template.apply = none := by decide
  generalize ran : run (controller.tracked (bars.insert barId ⟨.ofNat total, 0, label⟩)) = report
    at sound isOpen calls succeeds
  obtain ⟨outcome, left, events⟩ := report
  obtain ⟨lastMessage, whole⟩ := withBar_of_free free valid ran sound isOpen
  have position : (0 + .ofNat (accepted records) : UInt64).toNat = accepted records := by
    rw [UInt64.zero_add, UInt64.toNat_ofNat_of_lt' (Nat.lt_of_le_of_lt most small)]
  have length : (UInt64.ofNat total).toNat = total := UInt64.toNat_ofNat_of_lt' small
  rw [whole]
  refine ⟨_, _, records, rfl, calls, position, length, ?_⟩
  rw [succeeds, ← UInt64.toNat_inj, position, length]

/-! ## Selections and switches -/

section Selections

variable [Transport τ]

theorem closesOnCount_selectWithBar
    {controller : Controller (Recorded τ)}
    {bars : Bars}
    {target : Phy}
    (free : bars.find? barId = none)
    (sound : (selectWithBar target (controller.tracked bars)).outcome ≠ .crashed) :
    ClosesOnCount controller (controller.state.plan target).length
      (selectWithBar target (controller.tracked bars)) := by
  let opened := bars.insert barId
    ⟨.ofNat (controller.state.plan target).length, 0, target.name⟩
  obtain ⟨records, counts, most, succeeds⟩ :=
    exists_counts_selectPhy (controller.tracked opened) target
  have inside : (selectPhy target (controller.tracked opened)).outcome ≠ .crashed := by
    rw [(mirrors_selectPhy target opened controller).outcome,
      ← (mirrors_selectWithBar target bars controller).outcome]
    exact sound
  have small := Nat.lt_of_le_of_lt (length_plan_le controller.state target)
    (by decide : 11 < UInt64.size)
  exact closesOnCount_withBar free small inside counts most
    ⟨fun ⟨_, done⟩ => succeeds.mp done, fun all => ⟨(), succeeds.mpr all⟩⟩

theorem closesOnCount_switchWithBar
    {controller : Controller (Recorded τ)}
    {bars : Bars}
    (free : bars.find? barId = none)
    (sound : (switchWithBar (controller.tracked bars)).outcome ≠ .crashed) :
    ClosesOnCount controller (controller.state.plan controller.state.active.other).length
      (switchWithBar (controller.tracked bars)) := by
  let target := controller.state.active.other
  let opened := bars.insert barId
    ⟨.ofNat (controller.state.plan target).length, 0, target.name⟩
  obtain ⟨records, counts, most, succeeds⟩ :=
    exists_counts_selectPhy (controller.tracked opened) target
  obtain ⟨outcome, state⟩ := switch_eq_selectPhy (controller.tracked opened)
  have inside : (switch (controller.tracked opened)).outcome ≠ .crashed := by
    rw [(mirrors_switch opened controller).outcome,
      ← (mirrors_switchWithBar bars controller).outcome]
    exact sound
  have small := Nat.lt_of_le_of_lt (length_plan_le controller.state target)
    (by decide : 11 < UInt64.size)
  have switches : (∃ value, (switch (controller.tracked opened)).outcome = .done value) ↔
      accepted records = (controller.state.plan target).length := by
    refine Iff.trans ?_ succeeds
    rw [outcome]
    constructor
    · rintro ⟨value, done⟩
      obtain ⟨_, selected, -⟩ := (Outcome.map_eq_done_iff _ _ _).mp done
      exact selected
    · intro selected
      exact ⟨target, (Outcome.map_eq_done_iff _ _ _).mpr ⟨(), selected, rfl⟩⟩
  exact closesOnCount_withBar free small inside (state ▸ counts) most switches

end Selections

end Controller

/-- The bars of transports that share them keep account. If none was open at first, the bar of an id
is open if it was opened behind the last success in closing it, and then it shows what it was moved
by since, with a step for every call that was accepted by a transport which it follows. Nothing else
counts, whatever the transports are and whatever is done with other bars. A deed is refused if it
opens a bar that is open or has no proper template, or if it is about a bar that is not open; it
fails, and nothing has changed. A selection and a switch behind a bar that was not open close it
where the accepted calls have moved it, at its end exactly if they succeed. -/
theorem bars_keep_accounts
    {ι : Type} [DecidableEq ι] {σ : ι → Type} [∀ index, Transport (σ index)]
    {κ : Type} [DecidableEq κ] {ρ : κ → Type} [∀ index, Transport (ρ index)]
    {τ : Type} [Transport τ]
    (panel : Panel σ)
    (deeds : List (Deed ι))
    (other : Panel ρ)
    (otherDeeds : List (Deed κ))
    (id : String)
    (controller : Controller (Recorded τ))
    (bars : Bars) :
    (panel.bars = .empty → Accounted (panel.marks id deeds) (panel.after deeds).bars id) ∧
      (panel.bars = .empty → other.bars = .empty →
        panel.marks id deeds = other.marks id otherDeeds →
        (panel.after deeds).bars.isOpen id = (other.after otherDeeds).bars.isOpen id ∧
          (panel.after deeds).bars.position? id = (other.after otherDeeds).bars.position? id) ∧
      (∀ deed error, Panel.run deed panel = ⟨.failed (.bar error), panel, []⟩ ↔
        deed.refusal? panel.bars = some error) ∧
      (bars.isOpen Controller.barId = false →
        (∀ target,
          (Controller.selectWithBar target (controller.tracked bars)).outcome ≠ .crashed →
          controller.ClosesOnCount (controller.state.plan target).length
            (Controller.selectWithBar target (controller.tracked bars))) ∧
        ((Controller.switchWithBar (controller.tracked bars)).outcome ≠ .crashed →
          controller.ClosesOnCount
            (controller.state.plan controller.state.active.other).length
            (Controller.switchWithBar (controller.tracked bars)))) := by
  refine ⟨fun fresh => ?_, fun fresh otherFresh same => ?_, panel.run_eq_failed_iff,
    fun closed => ?_⟩
  · exact accounted_of_replay (Panel.position?_after_of_empty fresh deeds id)
  · have positions : (panel.after deeds).bars.position? id =
        (other.after otherDeeds).bars.position? id := by
      rw [Panel.position?_after_of_empty fresh, same, Panel.position?_after_of_empty otherFresh]
    refine ⟨?_, positions⟩
    rw [Bars.isOpen_eq, positions, Bars.isOpen_eq]
  · have free : bars.find? Controller.barId = none := Option.not_isSome_iff_eq_none.mp
      (Bool.eq_false_iff.mp closed)
    exact ⟨fun _ => Controller.closesOnCount_selectWithBar free,
      Controller.closesOnCount_switchWithBar free⟩

/-- Two transports that are followed by the bar for calls; the first call of one is turned down. -/
def sharing : Panel fun _ : Bool => Scripted where
  bars := .empty
  inner patient := ⟨.error .crash, if patient then .none else ⟨[(1, .status 503)], []⟩, 0⟩
  barId _ := Controller.barId

/-- A gain that is sent through one of them. -/
def Deed.gain (patient : Bool) : Deed Bool :=
  .call patient "http://flowgraph/" ⟨.rfSinkGain, .real (.ofNat 40)⟩

/-- The bar is opened, moved by a call and closed, and opened again. Then it is moved almost all the
way round, and by two of three calls past zero. It shows the same if its length is another, if no
call is turned down and if another bar is moved between. A selection whose third call is turned down
closes its bar at two of eleven steps. -/
theorem bars_keep_accounts_overflowing :
    let id := Controller.barId
    let deeds : List (Deed Bool) :=
      [.create id 1 Template.tune "RxGain", .gain true, .finish id "done", .gain true,
        .create id 9 Template.apply "PHY 1", .advance id 18446744073709551615,
        .setMessage id "round", .gain false, .gain false, .gain true]
    let others : List (Deed Bool) :=
      [.create id 2 Template.apply "PHY 0", .gain true, .abandon id "failed", .gain true,
        .create id 4 Template.tune "TxGain", .create "scan" 7 Template.tune "",
        .advance id 18446744073709551615, .advance "scan" 3, .gain true, .gain true]
    let scanning : Bars := ⟨[("scan", ⟨10, 4, "scanning"⟩)]⟩
    (∃ shown, (sharing.after deeds).bars.position? id = some shown ∧ shown.toNat = 1) ∧
      (sharing.after deeds).bars.position? id = (sharing.after others).bars.position? id ∧
      Panel.run (.create id 3 "\x7b\x7d" "") sharing =
        ⟨.failed (.bar (.badTemplate ⟨'\x7d', .maybeOpen⟩)), sharing, []⟩ ∧
      Controller.overloaded.ClosesOnCount 11
        (Controller.selectWithBar .phy1 (Controller.overloaded.tracked scanning)) := by
  intro id deeds others scanning
  obtain ⟨accounted, independent, refused, closes⟩ := bars_keep_accounts sharing deeds sharing
    others id Controller.overloaded scanning
  have marks : sharing.marks id deeds =
      [.opened, .moved 1, .closed, .moved 1] ++
        .opened :: [.moved 18446744073709551615, .moved 1, .moved 1] := by
    decide +kernel
  have same : sharing.marks id deeds = sharing.marks id others := by decide +kernel
  have free : scanning.isOpen Controller.barId = false := by decide
  have sound : (Controller.selectWithBar .phy1 (Controller.overloaded.tracked scanning)).outcome ≠
      .crashed := by
    decide +kernel
  exact ⟨(accounted rfl).position _ _ marks (by decide) (by decide), (independent rfl rfl same).2,
    (refused _ _).mpr (by decide +kernel), (closes free).1 .phy1 sound⟩

end DualPhy
