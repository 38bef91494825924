import DualPhy.Proofs.Mailbox

/-!
# What becomes of the jobs of a log

Of the jobs that are posted to a worker, those before the first shutdown are run one
after the other until the transport breaks down during one of them. That one and all
jobs behind it or behind the shutdown are told that the worker has gone, and only those
that were run make calls or change the controller. A worker that has ended has
given every job its fate.
-/

namespace DualPhy

/-! ## Commands that break down -/

namespace Controller

section Sound

variable [Transport τ]

/-- None of a list of commands breaks down when they are run one after the other. -/
def Unbroken : Controller τ → List Command → Prop
  | _, [] => True
  | controller, command :: commands =>
      (command.run controller).outcome ≠ .crashed ∧
        Unbroken (command.run controller).state commands

theorem unbroken_concat_iff
    (controller : Controller τ)
    (commands : List Command)
    (last : Command) :
    controller.Unbroken (commands ++ [last]) ↔
      controller.Unbroken commands ∧
        (last.run (controller.afterAll commands)).outcome ≠ .crashed := by
  induction commands generalizing controller with
  | nil => simp [Unbroken, afterAll]
  | cons command commands inductionHypothesis =>
      simp only [List.cons_append, Unbroken, afterAll, inductionHypothesis, and_assoc]

end Sound

section Calls

variable [Transport σ]

/-- The calls of a plan that is accepted are recorded as accepted. -/
theorem Accepts.calls_asked
    {controller : Controller (Recorded σ)}
    {plan : List Call}
    (accepts : controller.Accepts plan) :
    ∃ records, (controller.asked plan).transport.calls = controller.transport.calls ++ records ∧
      ∀ record ∈ records, record.outcome = .done () := by
  induction plan generalizing controller with
  | nil => exact ⟨[], (List.append_nil _).symm, List.forall_mem_nil _⟩
  | cons first plan inductionHypothesis =>
      obtain ⟨head, tail⟩ := accepts_cons_iff.mp accepts
      obtain ⟨url, found⟩ := accepts.exists_url List.mem_cons_self
      obtain ⟨records, recorded, accepted⟩ := inductionHypothesis tail
      have once := calls_asked_concat controller [] found
      rw [List.nil_append, asked_nil, head] at once
      refine ⟨⟨url, first, .done ()⟩ :: records, ?_, ?_⟩
      · rw [asked_cons, recorded, once, List.append_assoc, List.singleton_append]
      · exact List.forall_mem_cons.mpr ⟨rfl, accepted⟩

/-- A selection that does not break down has met no call that does. -/
theorem calls_selectPhy_of_not_crashed
    {controller : Controller (Recorded σ)}
    {target : Phy}
    (sound : (selectPhy target controller).outcome ≠ .crashed) :
    ∃ records, (selectPhy target controller).state.transport.calls =
        controller.transport.calls ++ records ∧
      ∀ record ∈ records, record.outcome ≠ .crashed := by
  rcases accepts_or_stopsAt controller (controller.state.plan target) with
    accepts | ⟨position, call, stops⟩
  · obtain ⟨records, recorded, accepted⟩ := accepts.calls_asked
    refine ⟨records, by rw [accepts.selectPhy.2]; exact recorded, ?_⟩
    intro record member
    simp [accepted record member]
  · obtain ⟨records, recorded, accepted⟩ := stops.before.calls_asked
    obtain ⟨outcome, state⟩ := stops.selectPhy
    have answered :
        controller.reply ((controller.state.plan target).take position) call ≠ .crashed := by
      rwa [outcome, Ne, Outcome.mapError_eq_crashed_iff] at sound
    have earlier : ∀ record ∈ records, record.outcome ≠ .crashed := by
      intro record member
      simp [accepted record member]
    rw [state, List.take_add_one, stops.found, Option.toList_some]
    cases found : controller.endpoints.url? call.operation with
    | none =>
        have requests : ∀ calls, controller.endpoints.requests (calls ++ [call]) =
            controller.endpoints.requests calls := by
          simp [EndpointTable.requests, found]
        refine ⟨records, ?_, earlier⟩
        rw [← recorded, asked, asked, requests]
    | some url =>
        rw [calls_asked_concat controller _ found, recorded, List.append_assoc]
        refine ⟨_, rfl, List.forall_mem_append.mpr ⟨earlier, ?_⟩⟩
        intro record last
        rw [List.mem_singleton.mp last]
        exact answered

/-- A command does to the controller what a selection does, or makes no call. -/
theorem run_selects_or_quiet (command : Command) (controller : Controller (Recorded σ)) :
    (∃ target, (command.run controller).state = (selectPhy target controller).state ∧
        ((command.run controller).outcome = .crashed ↔
          (selectPhy target controller).outcome = .crashed)) ∨
      command.calls controller = [] := by
  cases command with
  | select index =>
      cases found : Phy.ofIndex index with
      | error problem => exact .inr (by simp [Command.calls, Command.run, select, found])
      | ok target =>
          refine .inl ⟨target, ?_⟩
          cases ended : (selectPhy target controller).outcome <;>
            simp [Command.run, select, found, ended]
  | switch =>
      obtain ⟨outcome, state⟩ := switch_eq_selectPhy controller
      refine .inl ⟨controller.state.active.other, ?_⟩
      cases ended : (selectPhy controller.state.active.other controller).outcome <;>
        simp [Command.run, outcome, state, ended, Outcome.map]
  | setMode mode => exact .inr List.drop_length
  | snapshot => exact .inr List.drop_length

/-- A command breaks down exactly when one of its calls does. -/
theorem crashed_run_iff (command : Command) (controller : Controller (Recorded σ)) :
    (command.run controller).outcome = .crashed ↔
      ∃ record ∈ command.calls controller, record.outcome = .crashed := by
  refine ⟨exists_crashed_of_run, ?_⟩
  rintro ⟨record, member, crashed⟩
  rcases run_selects_or_quiet command controller with ⟨target, state, outcome⟩ | quiet
  · rw [outcome]
    refine Classical.byContradiction fun sound => ?_
    obtain ⟨records, recorded, accepted⟩ := calls_selectPhy_of_not_crashed sound
    have made := calls_run command controller
    rw [state, recorded] at made
    rw [← List.append_cancel_left made] at member
    exact accepted record member crashed
  · rw [quiet] at member
    exact absurd member List.not_mem_nil

end Calls

end Controller

/-! ## Fates -/

/-- What becomes of a job. -/
inductive Fate
  /-- Its command is run and answered. -/
  | answered (answer : Answer)
  /-- The transport breaks down while its command is run. -/
  | fatal
  /-- Its command is not run. -/
  | refused

namespace Fate

/-- What the client of a job with this fate is told. -/
def answer : Fate → Answer
  | answered answer => answer
  | fatal | refused => .error .workerGone

/-- Whether the command of a job with this fate is run. -/
def isRun : Fate → Bool
  | answered _ | fatal => true
  | refused => false

end Fate

namespace Log

section Fates

variable [Transport τ]

/-- The fates of the jobs of a log, the first of which meets a controller. -/
def fates : Controller τ → Log ι → List (Job ι × Fate)
  | _, [] => []
  | _, .shutdown :: log => (jobs log).map fun job => (job, .refused)
  | controller, .job job :: log =>
      match (job.command.run controller).outcome with
      | .crashed => (job, .fatal) :: (jobs log).map fun job => (job, .refused)
      | _ =>
          (job, .answered (job.command.answer controller)) ::
            fates (job.command.run controller).state log

/-- What a log does to the life of a worker that takes it. -/
def life : Controller τ → Log ι → Life
  | _, [] => .running
  | _, .shutdown :: _ => .stopped
  | controller, .job job :: log =>
      match (job.command.run controller).outcome with
      | .crashed => .broken
      | _ => life (job.command.run controller).state log

/-- The commands of a log that are run. -/
def carriedOut (start : Controller τ) (log : Log ι) : List Command :=
  ((log.fates start).filter fun entry => entry.2.isRun).map fun entry => entry.1.command

/-- The replies that the fates of jobs lead to. -/
def told (start : Controller τ) (log : Log ι) : List (Job ι × Answer) :=
  (log.fates start).map fun entry => (entry.1, entry.2.answer)

/-- What is left to take back of the controller behind a log. -/
def remains (start : Controller τ) (log : Log ι) : Outcome ControllerError (Controller τ) :=
  match log.life start with
  | .broken => .failed .workerGone
  | _ => .done (start.afterAll log.commands)

/-- Every job has one fate. -/
theorem fates_map_fst (start : Controller τ) (log : Log ι) :
    (log.fates start).map Prod.fst = log.jobs := by
  induction log generalizing start with
  | nil => rfl
  | cons posting log inductionHypothesis =>
      cases posting with
      | shutdown => simp [fates, Function.comp_def]
      | job job =>
          cases ended : (job.command.run start).outcome with
          | crashed => simp [fates, ended, Function.comp_def]
          | _ => simp [fates, ended, inductionHypothesis]

theorem told_map_fst (start : Controller τ) (log : Log ι) :
    (log.told start).map Prod.fst = log.jobs := by
  rw [← fates_map_fst start, told, List.map_map]
  rfl

theorem carriedOut_job_of_crashed
    {start : Controller τ}
    {job : Job ι}
    (crashed : (job.command.run start).outcome = .crashed)
    (log : Log ι) :
    carriedOut start (.job job :: log) = [job.command] := by
  simp [carriedOut, fates, crashed, Fate.isRun, List.filter_map, Function.comp_def]

theorem carriedOut_job_of_sound
    {start : Controller τ}
    {job : Job ι}
    (sound : (job.command.run start).outcome ≠ .crashed)
    (log : Log ι) :
    carriedOut start (.job job :: log) =
      job.command :: log.carriedOut (job.command.run start).state := by
  cases ended : (job.command.run start).outcome with
  | crashed => exact absurd ended sound
  | _ => simp [carriedOut, fates, ended, Fate.isRun]

@[simp] theorem carriedOut_shutdown (start : Controller τ) (log : Log ι) :
    carriedOut start (.shutdown :: log) = [] := by
  simp [carriedOut, fates, Fate.isRun, List.filter_map, Function.comp_def]

theorem life_job_of_crashed
    {start : Controller τ}
    {job : Job ι}
    (crashed : (job.command.run start).outcome = .crashed)
    (log : Log ι) :
    life start (.job job :: log) = .broken := by
  simp [life, crashed]

theorem life_job_of_sound
    {start : Controller τ}
    {job : Job ι}
    (sound : (job.command.run start).outcome ≠ .crashed)
    (log : Log ι) :
    life start (.job job :: log) = log.life (job.command.run start).state := by
  cases ended : (job.command.run start).outcome with
  | crashed => exact absurd ended sound
  | _ => simp [life, ended]

/-- A log that leaves the worker running holds no shutdown. -/
theorem shutdown_not_mem_of_life
    {start : Controller τ}
    {log : Log ι}
    (running : log.life start = .running) :
    .shutdown ∉ log := by
  induction log generalizing start with
  | nil => exact List.not_mem_nil
  | cons posting log inductionHypothesis =>
      cases posting with
      | shutdown => cases running
      | job job =>
          by_cases crashed : (job.command.run start).outcome = .crashed
          · rw [life_job_of_crashed crashed] at running
            cases running
          · rw [life_job_of_sound crashed] at running
            simpa using inductionHypothesis running

/-- Without a breakdown, the commands before the first shutdown are run. -/
theorem carriedOut_of_life
    {start : Controller τ}
    {log : Log ι}
    (unbroken : log.life start ≠ .broken) :
    log.carriedOut start = log.commands := by
  induction log generalizing start with
  | nil => rfl
  | cons posting log inductionHypothesis =>
      cases posting with
      | shutdown => exact carriedOut_shutdown start log
      | job job =>
          by_cases crashed : (job.command.run start).outcome = .crashed
          · exact absurd (life_job_of_crashed crashed log) unbroken
          · rw [life_job_of_sound crashed] at unbroken
            rw [carriedOut_job_of_sound crashed, inductionHypothesis unbroken]
            rfl

/-- What is told of a first part of a log stays true of the whole. -/
theorem told_prefix (start : Controller τ) (front back : Log ι) :
    told start front <+: told start (front ++ back) := by
  induction front generalizing start with
  | nil => exact List.nil_prefix
  | cons posting front inductionHypothesis =>
      cases posting with
      | shutdown => simp [told, fates]
      | job job =>
          have later := inductionHypothesis (job.command.run start).state
          cases ended : (job.command.run start).outcome with
          | crashed => simp [told, fates, ended]
          | _ => simpa [told, fates, ended] using later

/-- Jobs that are run without a breakdown are answered. -/
theorem fates_append_of_unbroken
    {start : Controller τ}
    {front : Log ι}
    (unstopped : .shutdown ∉ front)
    (unbroken : start.Unbroken front.commands)
    (back : Log ι) :
    fates start (front ++ back) =
      (front.replies start).map (fun reply => (reply.1, .answered reply.2)) ++
        back.fates (start.afterAll front.commands) := by
  induction front generalizing start with
  | nil => rfl
  | cons posting front inductionHypothesis =>
      cases posting with
      | shutdown => simp at unstopped
      | job job =>
          obtain ⟨sound, later⟩ := unbroken
          have others := inductionHypothesis (by simpa using unstopped) later
          cases ended : (job.command.run start).outcome with
          | crashed => exact absurd ended sound
          | _ =>
              simp only [List.cons_append, fates, ended]
              exact congrArg (List.cons (job, .answered (job.command.answer start))) others

theorem life_append_of_unbroken
    {start : Controller τ}
    {front : Log ι}
    (unstopped : .shutdown ∉ front)
    (unbroken : start.Unbroken front.commands)
    (back : Log ι) :
    life start (front ++ back) = back.life (start.afterAll front.commands) := by
  induction front generalizing start with
  | nil => rfl
  | cons posting front inductionHypothesis =>
      cases posting with
      | shutdown => simp at unstopped
      | job job =>
          obtain ⟨sound, later⟩ := unbroken
          have others := inductionHypothesis (by simpa using unstopped) later
          rw [List.cons_append, life_job_of_sound sound]
          exact others

theorem carriedOut_append_of_unbroken
    {start : Controller τ}
    {front : Log ι}
    (unstopped : .shutdown ∉ front)
    (unbroken : start.Unbroken front.commands)
    (back : Log ι) :
    carriedOut start (front ++ back) =
      front.commands ++ back.carriedOut (start.afterAll front.commands) := by
  have served : (front.replies start).map (fun reply => reply.1.command) = front.commands := by
    rw [commands, ← List.append_nil front.served, ← refused_of_not_mem unstopped, ← jobs_eq,
      ← replies_map_fst start, List.map_map]
    rfl
  have all : ((front.replies start).map (fun reply => (reply.1, Fate.answered reply.2))).filter
      (fun entry => entry.2.isRun) =
        (front.replies start).map (fun reply => (reply.1, Fate.answered reply.2)) := by
    apply List.filter_eq_self.mpr
    intro entry member
    obtain ⟨reply, -, rfl⟩ := List.mem_map.mp member
    rfl
  rw [carriedOut, fates_append_of_unbroken unstopped unbroken, List.filter_append,
    List.map_append, all, List.map_map, ← served]
  rfl

theorem told_append_of_unbroken
    {start : Controller τ}
    {front : Log ι}
    (unstopped : .shutdown ∉ front)
    (unbroken : start.Unbroken front.commands)
    (back : Log ι) :
    told start (front ++ back) =
      front.replies start ++ back.told (start.afterAll front.commands) := by
  rw [told, fates_append_of_unbroken unstopped unbroken, List.map_append, List.map_map]
  simp [Function.comp_def, Fate.answer, told]

end Fates

/-- A worker breaks down exactly when one of the calls of its commands does. -/
theorem life_eq_broken_iff
    [Transport σ]
    (start : Controller (Recorded σ))
    (log : Log ι) :
    log.life start = .broken ↔
      ∃ record ∈ (start.blocks (log.carriedOut start)).flatten, record.outcome = .crashed := by
  induction log generalizing start with
  | nil => simp [life, carriedOut, fates, Controller.blocks]
  | cons posting log inductionHypothesis =>
      cases posting with
      | shutdown => simp [life, Controller.blocks]
      | job job =>
          have crash := Controller.crashed_run_iff job.command start
          by_cases crashed : (job.command.run start).outcome = .crashed
          · rw [life_job_of_crashed crashed, carriedOut_job_of_crashed crashed]
            simpa [Controller.blocks] using crash.mp crashed
          · rw [life_job_of_sound crashed, carriedOut_job_of_sound crashed,
              inductionHypothesis, Controller.blocks, List.flatten_cons]
            constructor
            · rintro ⟨record, member, broken⟩
              exact ⟨record, List.mem_append_right _ member, broken⟩
            · rintro ⟨record, member, broken⟩
              rcases List.mem_append.mp member with own | later
              · exact absurd (crash.mpr ⟨record, own, broken⟩) crashed
              · exact ⟨record, later, broken⟩

end Log

/-! ## The worker behind a log -/

namespace Mailbox

/-- The transport has broken down during a job. Those before it were run, those behind it
were not. -/
structure Wrecked
    [Transport τ]
    (start : Controller τ)
    (mailbox : Mailbox ι τ)
    (front : Log ι)
    (job : Job ι)
    (back : Log ι) : Prop where
  log : mailbox.log = front ++ .job job :: back
  unstopped : .shutdown ∉ front
  unbroken : start.Unbroken front.commands
  crashed : (job.command.run (start.afterAll front.commands)).outcome = .crashed
  life : mailbox.worker.life = .broken
  queue : mailbox.worker.queue = []
  controller : mailbox.worker.controller =
    (job.command.run (start.afterAll front.commands)).state
  delivered : mailbox.worker.delivered =
    (front.replies start ++
      (Log.jobs (.job job :: back)).map fun job =>
        (job, (.error .workerGone : Answer))).map Worker.delivery

/-- The worker does what its controller would do alone, until the transport breaks
down. -/
inductive Traced [Transport τ] (start : Controller τ) (mailbox : Mailbox ι τ) : Prop
  /-- The transport has not broken down. -/
  | sound (taken waiting : Log ι)
      (follows : Follows start mailbox taken waiting)
      (unbroken : start.Unbroken taken.commands)
  /-- It has. -/
  | wrecked (front : Log ι) (job : Job ι) (back : Log ι)
      (wrecked : Wrecked start mailbox front job back)

section Steps

variable [Transport τ]

theorem traced_opened (start : Controller τ) : Traced start (opened start : Mailbox ι τ) :=
  .sound [] [] (follows_opened start) trivial

theorem Wrecked.post
    {start : Controller τ}
    {mailbox : Mailbox ι τ}
    {front back : Log ι}
    {job : Job ι}
    (wrecked : Wrecked start mailbox front job back)
    (posting : Posting ι) :
    Wrecked start (mailbox.post posting) front job (back ++ [posting]) where
  log := by simp [Mailbox.post, wrecked.log]
  unstopped := wrecked.unstopped
  unbroken := wrecked.unbroken
  crashed := wrecked.crashed
  life := by simp [Mailbox.post, Worker.post, wrecked.life]
  queue := by simp [Mailbox.post, Worker.post, wrecked.life, wrecked.queue]
  controller := by simpa [Mailbox.post, Worker.post, wrecked.life] using wrecked.controller
  delivered := by
    have turned := Worker.turnedAway_map_message [posting]
    rw [List.map_singleton] at turned
    have later : (mailbox.post posting).worker.delivered =
        mailbox.worker.delivered ++ Worker.turnedAway [posting.message] := by
      simp [Mailbox.post, Worker.post, wrecked.life]
    rw [later, wrecked.delivered, turned, ← List.cons_append, Log.jobs_append]
    simp only [List.map_append, List.append_assoc]

/-- A job during which the transport breaks down ends the worker. -/
theorem Follows.wrecked_work
    {start : Controller τ}
    {mailbox : Mailbox ι τ}
    {taken waiting : Log ι}
    {job : Job ι}
    (follows : Follows start mailbox taken (.job job :: waiting))
    (unbroken : start.Unbroken taken.commands)
    (running : mailbox.worker.life = .running)
    (unstopped : .shutdown ∉ taken)
    (crashed : (job.command.run mailbox.worker.controller).outcome = .crashed) :
    Wrecked start mailbox.work taken job waiting := by
  have queue : mailbox.worker.queue =
      .request job.ticket job.command :: waiting.map Posting.message := follows.queue
  have step : mailbox.worker.step.1 =
      { controller := (job.command.run mailbox.worker.controller).state
        queue := []
        life := .broken
        delivered := mailbox.worker.delivered ++ [(job.ticket, .error .workerGone)] ++
          Worker.turnedAway (waiting.map Posting.message) } := by
    simp only [Worker.step, running, queue, Worker.serve, crashed, Worker.finish]
  constructor
  case log => exact follows.log
  case unstopped => exact unstopped
  case unbroken => exact unbroken
  case crashed => rwa [← follows.controller]
  case life => simp [Mailbox.work, step]
  case queue => simp [Mailbox.work, step]
  case controller => simp [Mailbox.work, step, ← follows.controller]
  case delivered =>
    rw [List.map_append, ← follows.delivered, Log.jobs_job, List.map_cons, List.map_cons,
      ← Worker.turnedAway_map_message]
    simp [Mailbox.work, step, Worker.delivery]

theorem Traced.post
    {start : Controller τ}
    {mailbox : Mailbox ι τ}
    (traced : Traced start mailbox)
    (posting : Posting ι) :
    Traced start (mailbox.post posting) := by
  cases traced with
  | sound taken waiting follows unbroken =>
      obtain ⟨after, later, follows, commands⟩ := follows.post posting
      exact .sound after later follows (by rwa [commands])
  | wrecked front job back wrecked => exact .wrecked front job _ (wrecked.post posting)

theorem Traced.work
    {start : Controller τ}
    {mailbox : Mailbox ι τ}
    (traced : Traced start mailbox) :
    Traced start mailbox.work := by
  cases traced with
  | wrecked front job back wrecked =>
      rw [work_of_idle (.inl (by simp [wrecked.life]))]
      exact .wrecked front job back wrecked
  | sound taken waiting follows unbroken =>
      rcases follows.life with ⟨running, unstopped⟩ | ⟨stopped, -, -⟩
      · rcases waiting with _ | ⟨job | _, waiting⟩
        case nil =>
          rw [work_of_idle (.inr follows.queue)]
          exact .sound taken [] follows unbroken
        case cons.job =>
          by_cases crashed : (job.command.run mailbox.worker.controller).outcome = .crashed
          · exact .wrecked taken job waiting
              (follows.wrecked_work unbroken running unstopped crashed)
          · refine .sound _ _ (follows.work_job running unstopped crashed) ?_
            rw [Log.commands_concat_job unstopped, Controller.unbroken_concat_iff,
              ← follows.controller]
            exact ⟨unbroken, crashed⟩
        case cons.shutdown =>
          refine .sound _ _ (follows.work_shutdown running unstopped) ?_
          rwa [Log.commands, Log.served_append_of_not_mem unstopped, Log.served,
            List.append_nil]
      · rw [work_of_idle (.inl (by simp [stopped]))]
        exact .sound taken waiting follows unbroken

end Steps

section Courses

variable [Transport σ]

/-- The worker has taken a first part of the log. The jobs in it have had their fates, and
nothing else has happened. -/
structure Course
    (start : Controller (Recorded σ))
    (mailbox : Mailbox ι (Recorded σ))
    (taken waiting : Log ι) : Prop where
  /-- What was posted was taken or waits, in its order. -/
  log : mailbox.log = taken ++ waiting
  /-- What waits is in the queue. -/
  queue : mailbox.worker.queue = waiting.map Posting.message
  /-- The worker runs until it has taken a shutdown or the transport has broken down. -/
  life : mailbox.worker.life = taken.life start
  /-- Nothing waits for a worker that has ended. -/
  ended : mailbox.worker.life ≠ .running → waiting = []
  /-- The controller is the one behind the commands that were run. -/
  controller : mailbox.worker.controller = start.afterAll (taken.carriedOut start)
  /-- The calls are those of the commands that were run, one after the other. -/
  calls : mailbox.calls start = (start.blocks (taken.carriedOut start)).flatten
  /-- Every job was answered once, under its ticket, as its fate demands. -/
  delivered : mailbox.worker.delivered = (taken.told start).map Worker.delivery

theorem calls_of_controller
    {start : Controller (Recorded σ)}
    {mailbox : Mailbox ι (Recorded σ)}
    {commands : List Command}
    (controller : mailbox.worker.controller = start.afterAll commands) :
    mailbox.calls start = (start.blocks commands).flatten := by
  rw [Mailbox.calls, controller, Controller.calls_afterAll, List.drop_left]

/-- A worker that has taken no shutdown is on its course. -/
theorem Follows.course_of_not_mem
    {start : Controller (Recorded σ)}
    {mailbox : Mailbox ι (Recorded σ)}
    {taken waiting : Log ι}
    (follows : Follows start mailbox taken waiting)
    (unbroken : start.Unbroken taken.commands)
    (running : mailbox.worker.life = .running)
    (unstopped : .shutdown ∉ taken) :
    Course start mailbox taken waiting := by
  have life := Log.life_append_of_unbroken unstopped unbroken []
  have run := Log.carriedOut_append_of_unbroken unstopped unbroken []
  have told := Log.told_append_of_unbroken unstopped unbroken []
  rw [List.append_nil] at life run told
  have commands : taken.carriedOut start = taken.commands := by
    rw [run]
    exact List.append_nil _
  constructor
  case log => exact follows.log
  case queue => exact follows.queue
  case life =>
    rw [life, running]
    rfl
  case ended => exact fun ended => absurd running ended
  case controller => rw [commands, follows.controller]
  case calls => rw [commands, follows.calls]
  case delivered =>
    rw [told, follows.delivered]
    simp [Log.told, Log.fates]

/-- A worker that has taken a shutdown has ended on its course. -/
theorem Follows.course_of_mem
    {start : Controller (Recorded σ)}
    {mailbox : Mailbox ι (Recorded σ)}
    {taken : Log ι}
    (follows : Follows start mailbox taken [])
    (unbroken : start.Unbroken taken.commands)
    (stopped : mailbox.worker.life = .stopped)
    (shut : .shutdown ∈ taken) :
    Course start mailbox taken [] := by
  obtain ⟨front, back, rfl, unstopped⟩ := List.eq_append_cons_of_mem shut
  have commands : Log.commands (front ++ .shutdown :: back) = Log.commands front := by
    rw [Log.commands, Log.served_append_of_not_mem unstopped, Log.served, List.append_nil,
      Log.commands]
  rw [commands] at unbroken
  have run : Log.carriedOut start (front ++ .shutdown :: back) = Log.commands front := by
    rw [Log.carriedOut_append_of_unbroken unstopped unbroken, Log.carriedOut_shutdown,
      List.append_nil]
  have told : Log.told start (front ++ .shutdown :: back) =
      Log.replies start (front ++ .shutdown :: back) := by
    have regrouped : front ++ .shutdown :: back = (front ++ [.shutdown]) ++ back := by simp
    rw [Log.told_append_of_unbroken unstopped unbroken, regrouped,
      Log.replies_append_of_mem start List.mem_concat_self,
      Log.replies_concat_shutdown start unstopped]
    simp [Log.told, Log.fates, Fate.answer, Function.comp_def]
  constructor
  case log => exact follows.log
  case queue => exact follows.queue
  case life =>
    rw [Log.life_append_of_unbroken unstopped unbroken, stopped]
    rfl
  case ended => exact fun _ => rfl
  case controller => rw [run, follows.controller, commands]
  case calls => rw [run, follows.calls, commands]
  case delivered => rw [told, follows.delivered]

/-- A worker whose transport has broken down has ended on its course. -/
theorem Wrecked.course
    {start : Controller (Recorded σ)}
    {mailbox : Mailbox ι (Recorded σ)}
    {front back : Log ι}
    {job : Job ι}
    (wrecked : Wrecked start mailbox front job back) :
    Course start mailbox (front ++ .job job :: back) [] := by
  have crashed := wrecked.crashed
  have run : Log.carriedOut start (front ++ .job job :: back) =
      front.commands ++ [job.command] := by
    rw [Log.carriedOut_append_of_unbroken wrecked.unstopped wrecked.unbroken,
      Log.carriedOut_job_of_crashed crashed]
  have told : Log.told start (front ++ .job job :: back) =
      front.replies start ++
        (Log.jobs (.job job :: back)).map fun job => (job, (.error .workerGone : Answer)) := by
    rw [Log.told_append_of_unbroken wrecked.unstopped wrecked.unbroken]
    simp [Log.told, Log.fates, crashed, Fate.answer, Function.comp_def]
  have controller : mailbox.worker.controller =
      start.afterAll (front.commands ++ [job.command]) := by
    rw [Controller.afterAll_concat, wrecked.controller]
  constructor
  case log => rw [wrecked.log, List.append_nil]
  case queue => exact wrecked.queue
  case life =>
    rw [Log.life_append_of_unbroken wrecked.unstopped wrecked.unbroken,
      Log.life_job_of_crashed crashed, wrecked.life]
  case ended => exact fun _ => rfl
  case controller => rw [run, controller]
  case calls => rw [run, calls_of_controller controller]
  case delivered => rw [told, wrecked.delivered]

/-- Whatever happens, the worker is on its course. -/
theorem Traced.exists_course
    {start : Controller (Recorded σ)}
    {mailbox : Mailbox ι (Recorded σ)}
    (traced : Traced start mailbox) :
    ∃ taken waiting, Course start mailbox taken waiting := by
  cases traced with
  | sound taken waiting follows unbroken =>
      rcases follows.life with ⟨running, unstopped⟩ | ⟨stopped, shut, rfl⟩
      · exact ⟨taken, waiting, follows.course_of_not_mem unbroken running unstopped⟩
      · exact ⟨taken, [], follows.course_of_mem unbroken stopped shut⟩
  | wrecked front job back wrecked => exact ⟨_, [], wrecked.course⟩

end Courses

end Mailbox
end DualPhy
