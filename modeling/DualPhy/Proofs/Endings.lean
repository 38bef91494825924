import DualPhy.Proofs.Clients
import DualPhy.Proofs.Fates

/-!
# How a worker ends

A worker ends with the first shutdown that it takes, or when the transport breaks down
during a command. The main statement is about every schedule: each job gets the one
reply that its fate demands, only the commands that are run make calls or change the
controller, nobody waits for a worker that has ended, a worker with a shutdown in its
queue does end, and who joins it takes back the controller behind the commands before
the first shutdown, or is told that the worker has gone if the transport broke down.
-/

namespace DualPhy

namespace Worker

/-- What is left to take back of the controller of a worker, once it has ended. -/
def remains? (worker : Worker τ) : Option (Outcome ControllerError (Controller τ)) :=
  match worker.life with
  | .running => none
  | .stopped => some (.done worker.controller)
  | .broken => some (.failed .workerGone)

/-- Who joins a worker takes back what is left when it has done all that is queued. -/
theorem outcome_join_of_remains
    [Transport τ]
    {worker : Worker τ}
    {outcome : Outcome ControllerError (Controller τ)}
    (remains : (worker.post .shutdown).drain.1.remains? = some outcome) :
    (join worker).outcome = outcome := by
  unfold remains? at remains
  unfold join
  cases life : (worker.post .shutdown).drain.1.life with
  | running => simp [life] at remains
  | stopped => simpa [life] using remains
  | broken => simpa [life] using remains

end Worker

namespace Mailbox

/-- What is left of the controller is what the log leaves. -/
theorem Course.remains
    [Transport σ]
    {start : Controller (Recorded σ)}
    {mailbox : Mailbox ι (Recorded σ)}
    {taken : Log ι}
    (course : Course start mailbox taken [])
    (ended : mailbox.worker.life ≠ .running) :
    mailbox.worker.remains? = some (taken.remains start) := by
  have life := course.life
  unfold Worker.remains? Log.remains
  cases state : taken.life start with
  | running => exact absurd (life.trans state) ended
  | stopped =>
      rw [life, state, course.controller, Log.carriedOut_of_life (by simp [state])]
  | broken => rw [life, state]

/-! ## Working off the queue -/

section Due

variable [Transport τ]

/-- The worker has ended, or it finds a shutdown among the next things in its queue. -/
def Due (count : Nat) (mailbox : Mailbox ι τ) : Prop :=
  mailbox.worker.life ≠ .running ∨
    ∃ front back, mailbox.worker.queue = front ++ .shutdown :: back ∧ front.length < count

omit [Transport τ] in
theorem Due.post
    {count : Nat}
    {mailbox : Mailbox ι τ}
    (due : mailbox.Due count)
    (posting : Posting ι) :
    (mailbox.post posting).Due count := by
  cases life : mailbox.worker.life with
  | running =>
      obtain ended | ⟨front, back, queue, near⟩ := due
      · exact absurd life ended
      · refine .inr ⟨front, back ++ [posting.message], ?_, near⟩
        simp [Mailbox.post, Worker.post, life, queue]
  | _ => exact .inl (by simp [Mailbox.post, Worker.post, life])

/-- A worker that has ended does nothing more. -/
theorem life_work_of_ended
    {mailbox : Mailbox ι τ}
    (ended : mailbox.worker.life ≠ .running) :
    mailbox.work.worker.life ≠ .running := by
  rwa [work_of_idle (.inl ended)]

theorem Due.work
    {count : Nat}
    {mailbox : Mailbox ι τ}
    (due : mailbox.Due (count + 1)) :
    mailbox.work.Due count := by
  by_cases running : mailbox.worker.life = .running
  case neg => exact .inl (life_work_of_ended running)
  obtain ended | ⟨front, back, queue, near⟩ := due
  · exact absurd running ended
  rcases front with _ | ⟨message, front⟩
  · exact .inl (by simp [Mailbox.work, Worker.step, running, queue, Worker.finish])
  cases message with
  | shutdown => exact .inl (by simp [Mailbox.work, Worker.step, running, queue, Worker.finish])
  | request ticket command =>
      by_cases crashed : (command.run mailbox.worker.controller).outcome = .crashed
      · refine .inl ?_
        simp [Mailbox.work, Worker.step, running, queue, Worker.serve, crashed, Worker.finish]
      · refine .inr ⟨front, back, ?_, Nat.lt_of_succ_lt_succ near⟩
        simp only [Mailbox.work, Worker.step, running, queue, List.cons_append]
        have served := Worker.serve_of_not_crashed ticket
          ⟨mailbox.worker.controller, front ++ .shutdown :: back, .running,
            mailbox.worker.delivered⟩ crashed
        exact congrArg Worker.queue served

omit [Transport τ] in
theorem Due.mono
    {count larger : Nat}
    {mailbox : Mailbox ι τ}
    (due : mailbox.Due count)
    (le : count ≤ larger) :
    mailbox.Due larger := by
  obtain ended | ⟨front, back, queue, near⟩ := due
  · exact .inl ended
  · exact .inr ⟨front, back, queue, Nat.lt_of_lt_of_le near le⟩

omit [Transport τ] in
theorem Due.ended {mailbox : Mailbox ι τ} (due : mailbox.Due 0) :
    mailbox.worker.life ≠ .running := by
  obtain ended | ⟨front, back, queue, near⟩ := due
  · exact ended
  · exact absurd near (Nat.not_lt_zero _)

/-- A shutdown that was posted is in the queue of a worker that still runs. -/
theorem Course.due
    [Transport σ]
    {start : Controller (Recorded σ)}
    {mailbox : Mailbox ι (Recorded σ)}
    {taken waiting : Log ι}
    (course : Course start mailbox taken waiting)
    (posted : .shutdown ∈ mailbox.log) :
    mailbox.Due mailbox.worker.queue.length := by
  by_cases running : mailbox.worker.life = .running
  case neg => exact .inl running
  have untaken := Log.shutdown_not_mem_of_life (course.life.symm.trans running)
  rw [course.log] at posted
  obtain taken | waits := List.mem_append.mp posted
  · exact absurd taken untaken
  have queued : Message.shutdown ∈ mailbox.worker.queue := by
    rw [course.queue]
    exact List.mem_map_of_mem waits
  obtain ⟨front, back, split⟩ := List.append_of_mem queued
  refine .inr ⟨front, back, split, ?_⟩
  simp [split]

/-- Let the worker do a number of things. -/
def works : (count : Nat) → Mailbox ι τ → Mailbox ι τ
  | 0, mailbox => mailbox
  | count + 1, mailbox => works count mailbox.work

theorem worker_works (count : Nat) (mailbox : Mailbox ι τ) :
    (mailbox.works count).worker = (mailbox.worker.steps count).1 := by
  induction count generalizing mailbox with
  | zero => rfl
  | succ count inductionHypothesis => exact inductionHypothesis mailbox.work

theorem log_works (count : Nat) (mailbox : Mailbox ι τ) :
    (mailbox.works count).log = mailbox.log := by
  induction count generalizing mailbox with
  | zero => rfl
  | succ count inductionHypothesis => exact inductionHypothesis mailbox.work

theorem Traced.works
    {start : Controller τ}
    {mailbox : Mailbox ι τ}
    (traced : Traced start mailbox)
    (count : Nat) :
    Traced start (mailbox.works count) := by
  induction count generalizing mailbox with
  | zero => exact traced
  | succ count inductionHypothesis => exact inductionHypothesis traced.work

theorem Due.works
    {count : Nat}
    {mailbox : Mailbox ι τ}
    (due : mailbox.Due count) :
    (mailbox.works count).worker.life ≠ .running := by
  induction count generalizing mailbox with
  | zero => exact due.ended
  | succ count inductionHypothesis => exact inductionHypothesis due.work

end Due

/-- Who joins the worker takes back what is left of the controller behind all that was
posted before. -/
theorem Traced.outcome_join
    [Transport σ]
    {start : Controller (Recorded σ)}
    {mailbox : Mailbox ι (Recorded σ)}
    (traced : Traced start mailbox) :
    (Worker.join mailbox.worker).outcome = Log.remains start (mailbox.log ++ [.shutdown]) := by
  have posted := traced.post .shutdown
  obtain ⟨before, behind, joining⟩ := posted.exists_course
  have due := joining.due List.mem_concat_self
  have drained := posted.works (mailbox.post .shutdown).worker.queue.length
  obtain ⟨taken, waiting, course⟩ := drained.exists_course
  have ended := due.works
  obtain rfl := course.ended ended
  have log : mailbox.log ++ [.shutdown] = taken := by
    rw [← List.append_nil taken, ← course.log, log_works]
    rfl
  have remains := course.remains ended
  rw [worker_works] at remains
  rw [log]
  exact Worker.outcome_join_of_remains remains

end Mailbox

/-! ## Schedules -/

namespace Move

/-- Whether the worker does something. -/
def isWork : Move ι → Bool
  | .work => true
  | _ => false

end Move

namespace System

section Steps

variable [Transport τ] [DecidableEq ι]

/-- A move lets the worker work, or posts at most one thing. -/
theorem mailbox_step (system : System ι τ) (move : Move ι) :
    move.isWork = true ∧ (system.step move).mailbox = system.mailbox.work ∨
      move.isWork = false ∧
        ((system.step move).mailbox = system.mailbox ∨
          ∃ posting, (system.step move).mailbox = system.mailbox.post posting) := by
  cases move with
  | send client =>
      refine .inr ⟨rfl, ?_⟩
      rcases state : system.clients client with ⟨_ | ⟨command, pending⟩, _ | ticket, received⟩
      case cons.none =>
        exact .inr ⟨.job ⟨client, system.mailbox.log.length, command⟩, by
          simp only [step, state]⟩
      all_goals exact .inl (by simp only [step, state])
  | shutdown => exact .inr ⟨rfl, .inr ⟨.shutdown, rfl⟩⟩
  | work => exact .inl ⟨rfl, rfl⟩
  | receive client =>
      refine .inr ⟨rfl, .inl ?_⟩
      rcases state : system.clients client with ⟨pending, _ | ticket, received⟩
      · simp only [step, state]
      · cases found : system.mailbox.worker.delivered.lookup ticket <;>
          simp only [step, state, found]

theorem traced_run
    {start : Controller τ}
    {system : System ι τ}
    (traced : system.mailbox.Traced start)
    (schedule : List (Move ι)) :
    (system.run schedule).mailbox.Traced start := by
  induction schedule generalizing system with
  | nil => exact traced
  | cons move schedule inductionHypothesis =>
      apply inductionHypothesis
      rcases mailbox_step system move with ⟨-, work⟩ | ⟨-, same | ⟨posting, post⟩⟩
      · rw [work]
        exact traced.work
      · rwa [same]
      · rw [post]
        exact traced.post posting

/-- Every time the worker works, a shutdown in its queue comes nearer. -/
theorem due_run
    {count : Nat}
    {system : System ι τ}
    (due : system.mailbox.Due count)
    (schedule : List (Move ι)) :
    (system.run schedule).mailbox.Due (count - schedule.countP Move.isWork) := by
  induction schedule generalizing system count with
  | nil => exact due
  | cons move schedule inductionHypothesis =>
      rw [List.countP_cons, run]
      rcases mailbox_step system move with ⟨working, work⟩ | ⟨idle, same | ⟨posting, post⟩⟩
      · have nearer : (system.step move).mailbox.Due (count - 1) := by
          rw [work]
          exact (due.mono (by omega)).work
        rw [if_pos working, Nat.add_comm, ← Nat.sub_sub]
        exact inductionHypothesis nearer
      · rw [if_neg (by simp [idle]), Nat.add_zero]
        exact inductionHypothesis (by rwa [same])
      · rw [if_neg (by simp [idle]), Nat.add_zero]
        exact inductionHypothesis (by rw [post]; exact due.post posting)

end Steps

section Conclusions

variable [Transport σ] [DecidableEq ι]

/-- What a worker and its clients have come to, whatever has happened. -/
structure Concludes
    (start : Controller (Recorded σ))
    (programs : ι → List Command)
    (system : System ι (Recorded σ)) : Prop where
  /-- The jobs that the worker has taken have had their fates, and the others wait. -/
  course : ∃ taken waiting, system.mailbox.Course start taken waiting
  /-- The worker has broken down exactly if a call has. -/
  broken_iff : system.mailbox.worker.life = .broken ↔
    ∃ record ∈ system.mailbox.calls start, record.outcome = .crashed
  /-- No two jobs share a ticket. -/
  distinct : (system.mailbox.log.jobs.map Job.ticket).Nodup
  /-- The jobs of a client follow its program. -/
  programs : ∀ client,
    (system.mailbox.log.jobsOf client).map Job.command ++ (system.clients client).pending =
      programs client
  /-- A client has received, in order, what the fates of its own jobs demand, but for the
  one that it waits for. -/
  received : ∀ client, ∃ (answered : List (Job ι × Answer)) (awaited : List (Job ι)),
    answered.map Prod.fst ++ awaited = system.mailbox.log.jobsOf client ∧
      awaited.map Job.ticket = (system.clients client).waiting.toList ∧
      answered.map Prod.snd = (system.clients client).received ∧
      ∀ reply ∈ answered, reply ∈ system.mailbox.log.told start
  /-- A worker that has ended has given every job of the log its fate. -/
  ended : system.mailbox.worker.life ≠ .running →
    system.mailbox.Course start system.mailbox.log []
  /-- Nobody waits in vain for a worker that has ended. -/
  closed : system.mailbox.worker.life ≠ .running →
    ∀ client ticket, (system.clients client).waiting = some ticket →
      ∃ answer, system.mailbox.worker.delivered.lookup ticket = some answer
  /-- A worker that has ended leaves the controller that the log leaves. -/
  remains : system.mailbox.worker.life ≠ .running →
    system.mailbox.worker.remains? = some (system.mailbox.log.remains start)
  /-- A worker to which a shutdown was posted ends when it has worked off its queue, whatever
  happens meanwhile. -/
  ends : .shutdown ∈ system.mailbox.log → ∀ later : List (Move ι),
    system.mailbox.worker.queue.length ≤ later.countP Move.isWork →
      (system.run later).mailbox.worker.life ≠ .running
  /-- Who joins the worker takes back what the log leaves of the controller. -/
  join : (Worker.join system.mailbox.worker).outcome =
    Log.remains start (system.mailbox.log ++ [.shutdown])

/-- Every schedule, with shutdowns and breakdowns of the transport anywhere, leads to such a
conclusion. -/
theorem run_concludes
    (start : Controller (Recorded σ))
    (programs : ι → List Command)
    (schedule : List (Move ι)) :
    Concludes start programs ((opened start programs).run schedule) := by
  have keeps := (keeps_opened start programs).run schedule
  have traced : ((opened start programs).run schedule).mailbox.Traced start :=
    traced_run (Mailbox.traced_opened start) schedule
  generalize (opened start programs).run schedule = system at *
  obtain ⟨taken, waiting, course⟩ := traced.exists_course
  have ended : system.mailbox.worker.life ≠ .running →
      system.mailbox.Course start system.mailbox.log [] := by
    intro ended
    obtain rfl := course.ended ended
    have whole := course.log
    rw [List.append_nil] at whole
    rwa [whole]
  constructor
  case course => exact ⟨taken, waiting, course⟩
  case broken_iff => rw [course.life, course.calls, Log.life_eq_broken_iff]
  case distinct => exact keeps.numbered.distinct
  case programs => exact fun client => (keeps.clients client).program
  case received =>
    intro client
    obtain ⟨answered, awaited, split, waits, received, replies⟩ :=
      (keeps.clients client).received
    refine ⟨answered, awaited, split, waits, received, ?_⟩
    rintro ⟨job, answer⟩ member
    have own : job ∈ system.mailbox.log.jobsOf client := by
      rw [← split]
      exact List.mem_append_left _ (List.mem_map_of_mem member)
    have known : ∀ reply ∈ taken.told start, reply.1 ∈ system.mailbox.log.jobs := by
      intro reply present
      rw [course.log, Log.jobs_append, ← Log.told_map_fst start taken]
      exact List.mem_append_left _ (List.mem_map_of_mem present)
    have given := mem_of_lookup keeps.numbered course.delivered known
      (List.mem_of_mem_filter own) (replies _ member)
    rw [course.log]
    exact (Log.told_prefix start taken waiting).subset given
  case ended => exact ended
  case closed =>
    intro stopped client ticket waits
    obtain ⟨answered, awaited, split, tickets, -, -⟩ := (keeps.clients client).received
    rw [waits, Option.toList_some] at tickets
    obtain ⟨job, rfl, rfl⟩ := List.map_eq_singleton_iff.mp tickets
    have posted : job ∈ system.mailbox.log.jobs := by
      have own : job ∈ system.mailbox.log.jobsOf client := by
        rw [← split]
        exact List.mem_concat_self
      exact List.mem_of_mem_filter own
    rw [← Log.told_map_fst start] at posted
    obtain ⟨⟨told, answer⟩, member, rfl⟩ := List.mem_map.mp posted
    have delivered : Worker.delivery (told, answer) ∈
        (system.mailbox.log.told start).map Worker.delivery := List.mem_map_of_mem member
    rw [(ended stopped).delivered, ← Option.isSome_iff_exists, List.lookup_isSome_iff]
    exact ⟨_, delivered, beq_self_eq_true _⟩
  case remains => exact fun stopped => (ended stopped).remains stopped
  case ends =>
    intro posted later enough
    have due := due_run (course.due posted) later
    rw [Nat.sub_eq_zero_of_le enough] at due
    exact due.ended
  case join => exact traced.outcome_join

end Conclusions

end System
end DualPhy
