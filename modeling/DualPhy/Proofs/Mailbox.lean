import DualPhy.Proofs.Serial

/-!
# A worker and its mailbox

Everything that is posted to a worker is put on a log. The worker takes it from
there in order: what it has taken is a first part of the log, what it has queued
is the rest. The main statement is that, however posting and working alternate,
the worker has then done what its controller does when it runs the jobs
before the first shutdown one after the other.
-/

namespace DualPhy

/-- A command of a client. -/
structure Job (ι : Type) where
  /-- Who makes it. -/
  client : ι
  /-- The ticket for the reply. -/
  ticket : Nat
  /-- What is asked. -/
  command : Command
  deriving DecidableEq

/-- What is posted to a worker. -/
inductive Posting (ι : Type)
  /-- A job. -/
  | job (job : Job ι)
  /-- A shutdown, whoever wishes it. -/
  | shutdown
  deriving DecidableEq

namespace Posting

/-- The message that the worker finds in its queue. -/
def message : Posting ι → Message
  | .job item => .request item.ticket item.command
  | .shutdown => .shutdown

/-- The job, if it is one. -/
def job? : Posting ι → Option (Job ι)
  | .job item => some item
  | .shutdown => none

end Posting

/-- What was posted, the earliest first. -/
abbrev Log (ι : Type) := List (Posting ι)

namespace Log

/-- The jobs of a log. -/
def jobs (log : Log ι) : List (Job ι) := log.filterMap Posting.job?

/-- The jobs before the first shutdown. -/
def served : Log ι → List (Job ι)
  | [] => []
  | .job job :: log => job :: served log
  | .shutdown :: _ => []

/-- The jobs behind the first shutdown. -/
def refused : Log ι → List (Job ι)
  | [] => []
  | .job _ :: log => refused log
  | .shutdown :: log => jobs log

/-- The commands that are run for a log. -/
def commands (log : Log ι) : List Command := log.served.map Job.command

/-- The reply to every job of a log: what the controller answers that runs
the commands one after the other, or that the worker has gone. -/
def replies [Transport τ] (start : Controller τ) (log : Log ι) : List (Job ι × Answer) :=
  log.served.zip (start.answers log.commands) ++
    log.refused.map fun job => (job, .error .workerGone)

@[simp] theorem jobs_nil : jobs ([] : Log ι) = [] := rfl

@[simp] theorem jobs_append (front back : Log ι) :
    jobs (front ++ back) = front.jobs ++ back.jobs := by
  simp [jobs]

@[simp] theorem jobs_job (job : Job ι) (log : Log ι) :
    jobs (.job job :: log) = job :: jobs log := rfl

@[simp] theorem jobs_shutdown (log : Log ι) :
    jobs (.shutdown :: log) = jobs log := rfl

/-- Every job is served or refused. -/
theorem jobs_eq (log : Log ι) : log.jobs = log.served ++ log.refused := by
  induction log with
  | nil => rfl
  | cons posting log inductionHypothesis =>
      cases posting with
      | job job =>
          exact congrArg (List.cons job) inductionHypothesis
      | shutdown => rfl

theorem served_append_of_mem
    {front : Log ι}
    (stopped : .shutdown ∈ front)
    (back : Log ι) :
    served (front ++ back) = front.served := by
  induction front with
  | nil => cases stopped
  | cons posting front inductionHypothesis =>
      cases posting with
      | job job =>
          have later : .shutdown ∈ front := by simpa using stopped
          exact congrArg (List.cons job) (inductionHypothesis later)
      | shutdown => rfl

theorem refused_append_of_mem
    {front : Log ι}
    (stopped : .shutdown ∈ front)
    (back : Log ι) :
    refused (front ++ back) = front.refused ++ back.jobs := by
  induction front with
  | nil => cases stopped
  | cons posting front inductionHypothesis =>
      cases posting with
      | job job =>
          have later : .shutdown ∈ front := by simpa using stopped
          exact inductionHypothesis later
      | shutdown => exact jobs_append front back

theorem served_append_of_not_mem
    {front : Log ι}
    (running : .shutdown ∉ front)
    (back : Log ι) :
    served (front ++ back) = front.served ++ back.served := by
  induction front with
  | nil => rfl
  | cons posting front inductionHypothesis =>
      cases posting with
      | job job =>
          have later : .shutdown ∉ front := by simpa using running
          exact congrArg (List.cons job) (inductionHypothesis later)
      | shutdown => simp at running

theorem refused_append_of_not_mem
    {front : Log ι}
    (running : .shutdown ∉ front)
    (back : Log ι) :
    refused (front ++ back) = back.refused := by
  induction front with
  | nil => rfl
  | cons posting front inductionHypothesis =>
      cases posting with
      | job job =>
          have later : .shutdown ∉ front := by simpa using running
          exact inductionHypothesis later
      | shutdown => simp at running

theorem served_concat_job
    {log : Log ι}
    (running : .shutdown ∉ log)
    (job : Job ι) :
    served (log ++ [.job job]) = log.served ++ [job] :=
  served_append_of_not_mem running _

theorem commands_concat_job
    {log : Log ι}
    (running : .shutdown ∉ log)
    (job : Job ι) :
    commands (log ++ [.job job]) = log.commands ++ [job.command] := by
  simp [commands, served_concat_job running]

/-- Nothing is refused before a shutdown. -/
theorem refused_of_not_mem {log : Log ι} (running : .shutdown ∉ log) : log.refused = [] := by
  simpa [refused] using refused_append_of_not_mem running []

section Replies

variable [Transport τ]

/-- The replies follow the order of the jobs. -/
theorem replies_map_fst (start : Controller τ) (log : Log ι) :
    (log.replies start).map Prod.fst = log.jobs := by
  have served : (log.served.zip (start.answers log.commands)).map Prod.fst = log.served := by
    apply List.map_fst_zip
    simp [commands]
  rw [replies, List.map_append, served, jobs_eq]
  simp [Function.comp_def]

/-- A job that is served next is answered by the controller behind those
before it. -/
theorem replies_concat_job
    (start : Controller τ)
    {log : Log ι}
    (running : .shutdown ∉ log)
    (job : Job ι) :
    replies start (log ++ [.job job]) =
      log.replies start ++
        [(job, job.command.answer (start.afterAll log.commands))] := by
  have lengths : log.served.length = (start.answers log.commands).length := by
    simp [commands]
  rw [replies, served_concat_job running, commands_concat_job running,
    refused_append_of_not_mem running, Controller.answers_concat, List.zip_append lengths,
    replies, refused_of_not_mem running]
  simp [refused]

/-- Behind a shutdown, clients are told that the worker has gone. -/
theorem replies_append_of_mem
    (start : Controller τ)
    {front : Log ι}
    (stopped : .shutdown ∈ front)
    (back : Log ι) :
    replies start (front ++ back) =
      front.replies start ++ back.jobs.map fun job => (job, .error .workerGone) := by
  simp [replies, commands, served_append_of_mem stopped, refused_append_of_mem stopped]

/-- The first shutdown answers nothing by itself. -/
theorem replies_concat_shutdown
    (start : Controller τ)
    {log : Log ι}
    (running : .shutdown ∉ log) :
    replies start (log ++ [.shutdown]) = log.replies start := by
  have served : served (log ++ [.shutdown]) = log.served := by
    rw [served_append_of_not_mem running]
    exact List.append_nil _
  have refused : refused (log ++ [.shutdown]) = log.refused := by
    rw [refused_append_of_not_mem running, refused_of_not_mem running]
    rfl
  simp only [replies, commands, served, refused]

end Replies

end Log

/-! ## The worker behind a log -/

namespace Worker

/-- A reply as the worker delivers it. -/
def delivery (reply : Job ι × Answer) : Nat × Answer := (reply.1.ticket, reply.2)

theorem turnedAway_map_message (log : Log ι) :
    turnedAway (log.map Posting.message) =
      (log.jobs.map fun job => (job, .error .workerGone)).map delivery := by
  induction log with
  | nil => rfl
  | cons posting log inductionHypothesis =>
      cases posting with
      | job job => exact congrArg (List.cons (job.ticket, .error .workerGone)) inductionHypothesis
      | shutdown => exact inductionHypothesis

/-- Serving a command that does not break down. -/
theorem serve_of_not_crashed
    [Transport τ]
    (ticket : Nat)
    {command : Command}
    (worker : Worker τ)
    (sound : (command.run worker.controller).outcome ≠ .crashed) :
    (serve ticket command worker).1 =
      { worker with
        controller := (command.run worker.controller).state
        delivered := worker.delivered ++ [(ticket, command.answer worker.controller)] } := by
  cases ended : (command.run worker.controller).outcome with
  | done result => simp [serve, Command.answer, ended]
  | failed error => simp [serve, Command.answer, ended]
  | crashed => exact absurd ended sound

end Worker

/-- A worker, the log of what was posted to it, and the states of its controller
behind the commands that it has run. -/
structure Mailbox (ι τ : Type) where
  /-- The worker. -/
  worker : Worker τ
  /-- Everything that was posted. -/
  log : Log ι
  /-- The states of the controller, the earliest first. -/
  visited : List ControllerState

namespace Mailbox

/-- The mailbox of a worker that has just started. -/
def opened (controller : Controller τ) : Mailbox ι τ := ⟨.spawn controller, [], []⟩

/-- Post something. -/
def post (posting : Posting ι) (mailbox : Mailbox ι τ) : Mailbox ι τ :=
  { mailbox with
    worker := mailbox.worker.post posting.message
    log := mailbox.log ++ [posting] }

/-- Let the worker do the next thing. -/
def work [Transport τ] (mailbox : Mailbox ι τ) : Mailbox ι τ :=
  { mailbox with
    worker := mailbox.worker.step.1
    visited :=
      match mailbox.worker.life, mailbox.worker.queue with
      | .running, .request _ _ :: _ =>
          mailbox.visited ++ [mailbox.worker.step.1.controller.state]
      | _, _ => mailbox.visited }

/-- The calls that have been made since a controller was handed over. -/
def calls (start : Controller (Recorded σ)) (mailbox : Mailbox ι (Recorded σ)) :
    List CallRecord :=
  mailbox.worker.controller.transport.calls.drop start.transport.calls.length

/-- The worker has taken a first part of the log, has run it as the controller
alone would have done, and has queued the rest. -/
structure Follows
    [Transport τ]
    (start : Controller τ)
    (mailbox : Mailbox ι τ)
    (taken waiting : Log ι) : Prop where
  /-- What was posted was taken or waits, in its order. -/
  log : mailbox.log = taken ++ waiting
  /-- What waits is in the queue. -/
  queue : mailbox.worker.queue = waiting.map Posting.message
  /-- The worker runs until it has taken a shutdown. -/
  life :
    mailbox.worker.life = .running ∧ .shutdown ∉ taken ∨
      mailbox.worker.life = .stopped ∧ .shutdown ∈ taken ∧ waiting = []
  /-- The controller is the one behind the commands. -/
  controller : mailbox.worker.controller = start.afterAll taken.commands
  /-- Its states were those behind each of them. -/
  visited : mailbox.visited = start.states taken.commands
  /-- Their answers were delivered, each under its ticket. -/
  delivered : mailbox.worker.delivered = (taken.replies start).map Worker.delivery

/-- The worker has broken down because the transport has. -/
structure BrokenDown
    (start : Controller (Recorded σ))
    (mailbox : Mailbox ι (Recorded σ)) : Prop where
  /-- The worker has ended. -/
  life : mailbox.worker.life = .broken
  /-- A call has broken down. -/
  crashed : ∃ record ∈ mailbox.calls start, record.outcome = .crashed

theorem follows_opened [Transport τ] (start : Controller τ) :
    Follows start (opened start : Mailbox ι τ) [] [] where
  log := rfl
  queue := rfl
  life := .inl ⟨rfl, List.not_mem_nil⟩
  controller := rfl
  visited := rfl
  delivered := rfl

/-- What is posted waits, or is turned away at once. -/
theorem Follows.post
    [Transport τ]
    {start : Controller τ}
    {mailbox : Mailbox ι τ}
    {taken waiting : Log ι}
    (follows : Follows start mailbox taken waiting)
    (posting : Posting ι) :
    ∃ after waiting, Follows start (mailbox.post posting) after waiting ∧
      after.commands = taken.commands := by
  rcases follows.life with ⟨running, unstopped⟩ | ⟨stopped, shut, rfl⟩
  · refine ⟨taken, waiting ++ [posting], ?_, rfl⟩
    constructor
    case log => simp [Mailbox.post, follows.log]
    case queue => simp [Mailbox.post, Worker.post, running, follows.queue]
    case life => exact .inl ⟨by simp [Mailbox.post, Worker.post, running], unstopped⟩
    case controller => simpa [Mailbox.post, Worker.post, running] using follows.controller
    case visited => exact follows.visited
    case delivered => simpa [Mailbox.post, Worker.post, running] using follows.delivered
  · have commands : Log.commands (taken ++ [posting]) = taken.commands := by
      rw [Log.commands, Log.served_append_of_mem shut, Log.commands]
    refine ⟨taken ++ [posting], [], ?_, commands⟩
    constructor
    case log => simp [Mailbox.post, follows.log]
    case queue => simpa [Mailbox.post, Worker.post, stopped] using follows.queue
    case life =>
      refine .inr ⟨?_, List.mem_append_left _ shut, rfl⟩
      simp [Mailbox.post, Worker.post, stopped]
    case controller =>
      rw [commands]
      simpa [Mailbox.post, Worker.post, stopped] using follows.controller
    case visited =>
      rw [commands]
      exact follows.visited
    case delivered =>
      have turned := Worker.turnedAway_map_message [posting]
      rw [List.map_singleton] at turned
      rw [Log.replies_append_of_mem start shut, List.map_append, ← turned, ← follows.delivered]
      simp [Mailbox.post, Worker.post, stopped]

/-- The worker takes a job that does not break it down. -/
theorem Follows.work_job
    [Transport τ]
    {start : Controller τ}
    {mailbox : Mailbox ι τ}
    {taken waiting : Log ι}
    {job : Job ι}
    (follows : Follows start mailbox taken (.job job :: waiting))
    (running : mailbox.worker.life = .running)
    (unstopped : .shutdown ∉ taken)
    (sound : (job.command.run mailbox.worker.controller).outcome ≠ .crashed) :
    Follows start mailbox.work (taken ++ [.job job]) waiting := by
  have queue : mailbox.worker.queue =
      .request job.ticket job.command :: waiting.map Posting.message := follows.queue
  have step : mailbox.worker.step.1 =
      { mailbox.worker with
        queue := waiting.map Posting.message
        controller := (job.command.run mailbox.worker.controller).state
        delivered := mailbox.worker.delivered ++
          [(job.ticket, job.command.answer mailbox.worker.controller)] } := by
    simp only [Worker.step, running, queue]
    exact Worker.serve_of_not_crashed job.ticket
      { mailbox.worker with queue := waiting.map Posting.message, life := .running } sound
  constructor
  case log => simp [Mailbox.work, follows.log]
  case queue => simp [Mailbox.work, step]
  case life => exact .inl ⟨by simp [Mailbox.work, step, running], by simpa using unstopped⟩
  case controller =>
    rw [Log.commands_concat_job unstopped, Controller.afterAll_concat, ← follows.controller]
    simp [Mailbox.work, step]
  case visited =>
    rw [Log.commands_concat_job unstopped, Controller.states_concat, ← follows.controller,
      ← follows.visited]
    simp [Mailbox.work, running, queue, step]
  case delivered =>
    rw [Log.replies_concat_job start unstopped, List.map_append, ← follows.delivered,
      ← follows.controller]
    simp [Mailbox.work, step, Worker.delivery]

/-- The worker takes a shutdown, and with it everything that waits behind. -/
theorem Follows.work_shutdown
    [Transport τ]
    {start : Controller τ}
    {mailbox : Mailbox ι τ}
    {taken waiting : Log ι}
    (follows : Follows start mailbox taken (.shutdown :: waiting))
    (running : mailbox.worker.life = .running)
    (unstopped : .shutdown ∉ taken) :
    Follows start mailbox.work (taken ++ .shutdown :: waiting) [] := by
  have queue : mailbox.worker.queue = .shutdown :: waiting.map Posting.message := follows.queue
  have step : mailbox.worker.step.1 =
      { mailbox.worker with
        queue := []
        life := .stopped
        delivered := mailbox.worker.delivered ++
          Worker.turnedAway (waiting.map Posting.message) } := by
    simp only [Worker.step, running, queue, Worker.finish]
  have shut : Posting.shutdown ∈ taken ++ [Posting.shutdown] := List.mem_concat_self
  have regrouped : taken ++ .shutdown :: waiting = (taken ++ [.shutdown]) ++ waiting := by simp
  have commands : Log.commands (taken ++ .shutdown :: waiting) = taken.commands := by
    rw [Log.commands, Log.served_append_of_not_mem unstopped]
    simp [Log.served, Log.commands]
  constructor
  case log => simp [Mailbox.work, follows.log]
  case queue => simp [Mailbox.work, step]
  case life => exact .inr ⟨by simp [Mailbox.work, step], by simp, rfl⟩
  case controller =>
    rw [commands, ← follows.controller]
    simp [Mailbox.work, step]
  case visited =>
    rw [commands, ← follows.visited]
    simp [Mailbox.work, running, queue]
  case delivered =>
    rw [regrouped, Log.replies_append_of_mem start shut, Log.replies_concat_shutdown start unstopped,
      List.map_append, ← Worker.turnedAway_map_message, ← follows.delivered]
    simp [Mailbox.work, step]

/-- A worker without anything to do stays as it is. -/
theorem work_of_idle
    [Transport τ]
    {mailbox : Mailbox ι τ}
    (idle : mailbox.worker.life ≠ .running ∨ mailbox.worker.queue = []) :
    mailbox.work = mailbox := by
  obtain ⟨⟨controller, queue, life, delivered⟩, log, visited⟩ := mailbox
  cases life with
  | running =>
      have empty : queue = [] := by simpa using idle
      subst empty
      rfl
  | stopped => rfl
  | broken => rfl

theorem BrokenDown.post
    {start : Controller (Recorded σ)}
    {mailbox : Mailbox ι (Recorded σ)}
    (brokenDown : BrokenDown start mailbox)
    (posting : Posting ι) :
    BrokenDown start (mailbox.post posting) where
  life := by simp [Mailbox.post, Worker.post, brokenDown.life]
  crashed := by
    simpa [Mailbox.calls, Mailbox.post, Worker.post, brokenDown.life] using brokenDown.crashed

section Recording

variable [Transport σ]

/-- The calls are those of the commands, one command after the other. -/
theorem Follows.calls
    {start : Controller (Recorded σ)}
    {mailbox : Mailbox ι (Recorded σ)}
    {taken waiting : Log ι}
    (follows : Follows start mailbox taken waiting) :
    mailbox.calls start = (start.blocks taken.commands).flatten := by
  rw [Mailbox.calls, follows.controller, Controller.calls_afterAll, List.drop_left]

/-- A job during which the transport breaks down breaks down the worker. -/
theorem Follows.brokenDown_work
    {start : Controller (Recorded σ)}
    {mailbox : Mailbox ι (Recorded σ)}
    {taken waiting : Log ι}
    {job : Job ι}
    (follows : Follows start mailbox taken (.job job :: waiting))
    (running : mailbox.worker.life = .running)
    (crashed : (job.command.run mailbox.worker.controller).outcome = .crashed) :
    BrokenDown start mailbox.work := by
  have queue : mailbox.worker.queue =
      .request job.ticket job.command :: waiting.map Posting.message := follows.queue
  have controller : mailbox.work.worker.controller =
      (job.command.run mailbox.worker.controller).state := by
    simp [Mailbox.work, Worker.step, running, queue, Worker.serve, crashed, Worker.finish]
  have made : mailbox.work.calls start =
      (start.blocks taken.commands).flatten ++ job.command.calls mailbox.worker.controller := by
    have earlier : mailbox.worker.controller.transport.calls =
        start.transport.calls ++ (start.blocks taken.commands).flatten := by
      rw [follows.controller, Controller.calls_afterAll]
    rw [Mailbox.calls, controller, Controller.calls_run, earlier, List.append_assoc,
      List.drop_left]
  obtain ⟨record, member, recordCrashed⟩ := Controller.exists_crashed_of_run crashed
  constructor
  case life =>
    simp [Mailbox.work, Worker.step, running, queue, Worker.serve, crashed, Worker.finish]
  case crashed =>
    refine ⟨record, ?_, recordCrashed⟩
    rw [made]
    exact List.mem_append_right _ member

/-- Unless the transport breaks down, the worker goes on as the controller alone
would. -/
theorem Follows.work
    {start : Controller (Recorded σ)}
    {mailbox : Mailbox ι (Recorded σ)}
    {taken waiting : Log ι}
    (follows : Follows start mailbox taken waiting) :
    (∃ taken waiting, Follows start mailbox.work taken waiting) ∨
      BrokenDown start mailbox.work := by
  rcases follows.life with ⟨running, unstopped⟩ | ⟨stopped, -, -⟩
  · cases waiting with
    | nil =>
        rw [work_of_idle (.inr follows.queue)]
        exact .inl ⟨taken, [], follows⟩
    | cons posting waiting =>
        cases posting with
        | job job =>
            by_cases crashed : (job.command.run mailbox.worker.controller).outcome = .crashed
            · exact .inr (follows.brokenDown_work running crashed)
            · exact .inl ⟨_, _, follows.work_job running unstopped crashed⟩
        | shutdown => exact .inl ⟨_, _, follows.work_shutdown running unstopped⟩
  · rw [work_of_idle (.inl (by simp [stopped]))]
    exact .inl ⟨taken, waiting, follows⟩

theorem BrokenDown.work
    {start : Controller (Recorded σ)}
    {mailbox : Mailbox ι (Recorded σ)}
    (brokenDown : BrokenDown start mailbox) :
    BrokenDown start mailbox.work := by
  rwa [work_of_idle (.inl (by simp [brokenDown.life]))]

/-- The worker does what its controller would do alone, or has broken down. -/
def Accounted (start : Controller (Recorded σ)) (mailbox : Mailbox ι (Recorded σ)) : Prop :=
  (∃ taken waiting, Follows start mailbox taken waiting) ∨ BrokenDown start mailbox

theorem Accounted.post
    {start : Controller (Recorded σ)}
    {mailbox : Mailbox ι (Recorded σ)}
    (accounted : Accounted start mailbox)
    (posting : Posting ι) :
    Accounted start (mailbox.post posting) := by
  rcases accounted with ⟨taken, waiting, follows⟩ | brokenDown
  · obtain ⟨after, later, follows, -⟩ := follows.post posting
    exact .inl ⟨after, later, follows⟩
  · exact .inr (brokenDown.post posting)

theorem Accounted.work
    {start : Controller (Recorded σ)}
    {mailbox : Mailbox ι (Recorded σ)}
    (accounted : Accounted start mailbox) :
    Accounted start mailbox.work := by
  rcases accounted with ⟨taken, waiting, follows⟩ | brokenDown
  · exact follows.work
  · exact .inr brokenDown.work

end Recording

end Mailbox
end DualPhy
