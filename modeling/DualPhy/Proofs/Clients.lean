import DualPhy.Proofs.Mailbox
import DualPhy.Transport.Scripted
import Mathlib.Data.List.Nodup

/-!
# Many clients of one worker

Clients run programs of commands. Each posts a command, waits for its reply, and
goes on with the next one. A schedule lets clients post, the worker work and
clients receive, in any order, with shutdowns anywhere. The main statement is
that every schedule comes to the same as running the commands that were posted
before the first shutdown one after the other, with every reply going to the
client that made the request.
-/

namespace DualPhy

/-- A client. -/
structure Client where
  /-- The commands that it has still to post. -/
  pending : List Command
  /-- The ticket of the reply that it waits for. -/
  waiting : Option Nat
  /-- The replies that it has received, the earliest first. -/
  received : List Answer

/-- A worker and its clients. -/
structure System (ι τ : Type) where
  /-- The worker with its mailbox. -/
  mailbox : Mailbox ι τ
  /-- The clients. -/
  clients : ι → Client

/-- What can happen next. -/
inductive Move (ι : Type)
  /-- A client that does not wait posts its next command. -/
  | send (client : ι)
  /-- Somebody posts a shutdown. -/
  | shutdown
  /-- The worker does the next thing in its queue. -/
  | work
  /-- A client whose reply was delivered receives it. -/
  | receive (client : ι)

namespace System

/-- A worker that has just started, and clients with programs. -/
def opened (start : Controller τ) (programs : ι → List Command) : System ι τ where
  mailbox := .opened start
  clients client := ⟨programs client, none, []⟩

section Steps

variable [Transport τ] [DecidableEq ι]

/-- Make a move. A move that cannot be made changes nothing. -/
def step (system : System ι τ) : Move ι → System ι τ
  | .send client =>
      match system.clients client with
      | ⟨command :: pending, none, received⟩ =>
          let ticket := system.mailbox.log.length
          { mailbox := system.mailbox.post (.job ⟨client, ticket, command⟩)
            clients :=
              Function.update system.clients client ⟨pending, some ticket, received⟩ }
      | _ => system
  | .shutdown => { system with mailbox := system.mailbox.post .shutdown }
  | .work => { system with mailbox := system.mailbox.work }
  | .receive client =>
      match system.clients client with
      | ⟨pending, some ticket, received⟩ =>
          match system.mailbox.worker.delivered.lookup ticket with
          | some answer =>
              { system with
                clients :=
                  Function.update system.clients client
                    ⟨pending, none, received ++ [answer]⟩ }
          | none => system
      | _ => system

/-- Make the moves of a schedule. -/
def run : System ι τ → List (Move ι) → System ι τ
  | system, [] => system
  | system, move :: schedule => run (system.step move) schedule

end Steps

end System

/-! ## Tickets -/

namespace Log

/-- Jobs have different tickets, all smaller than the length of the log. -/
structure Numbered (log : Log ι) : Prop where
  distinct : (log.jobs.map Job.ticket).Nodup
  bounded : ∀ job ∈ log.jobs, job.ticket < log.length

theorem Numbered.concat_job
    {log : Log ι}
    (numbered : log.Numbered)
    (client : ι)
    (command : Command) :
    Numbered (log ++ [.job ⟨client, log.length, command⟩]) := by
  constructor
  case distinct =>
    have fresh : log.length ∉ log.jobs.map Job.ticket := by
      intro member
      obtain ⟨job, present, ticket⟩ := List.mem_map.mp member
      have bound := numbered.bounded job present
      omega
    simpa [List.nodup_append, numbered.distinct] using fun job present same =>
      fresh (List.mem_map.mpr ⟨job, present, same⟩)
  case bounded =>
    intro job member
    simp only [jobs_append, jobs_job, jobs_nil, List.mem_append, List.mem_singleton] at member
    rw [List.length_append, List.length_singleton]
    rcases member with earlier | rfl
    · have bound := numbered.bounded job earlier
      omega
    · exact Nat.lt_succ_self _

theorem Numbered.concat_shutdown {log : Log ι} (numbered : log.Numbered) :
    Numbered (log ++ [.shutdown]) := by
  constructor
  case distinct => simpa using numbered.distinct
  case bounded =>
    intro job member
    have bound := numbered.bounded job (by simpa using member)
    rw [List.length_append]
    omega

/-- Two jobs with the same ticket are the same. -/
theorem Numbered.eq_of_ticket_eq
    {log : Log ι}
    (numbered : log.Numbered)
    {first second : Job ι}
    (firstMember : first ∈ log.jobs)
    (secondMember : second ∈ log.jobs)
    (same : first.ticket = second.ticket) :
    first = second :=
  List.inj_on_of_nodup_map numbered.distinct firstMember secondMember same

/-- The jobs of a client. -/
def jobsOf [DecidableEq ι] (client : ι) (log : Log ι) : List (Job ι) :=
  log.jobs.filter fun job => job.client = client

end Log

/-! ## What a client knows -/

/-- A client has posted a first part of its program and has received the replies
to its own jobs, but for the last one while it waits. -/
structure Client.Keeps
    (program : List Command)
    (own : List (Job ι))
    (delivered : List (Nat × Answer))
    (client : Client) : Prop where
  program : own.map Job.command ++ client.pending = program
  received : ∃ (answered : List (Job ι × Answer)) (awaited : List (Job ι)),
    answered.map Prod.fst ++ awaited = own ∧
      awaited.map Job.ticket = client.waiting.toList ∧
      answered.map Prod.snd = client.received ∧
      ∀ reply ∈ answered, delivered.lookup reply.1.ticket = some reply.2

namespace Client.Keeps

variable {program : List Command} {own : List (Job ι)} {delivered : List (Nat × Answer)}

/-- What was delivered stays delivered. -/
theorem delivered_append
    {client : Client}
    (keeps : client.Keeps program own delivered)
    (later : List (Nat × Answer)) :
    client.Keeps program own (delivered ++ later) := by
  obtain ⟨program, answered, awaited, split, waiting, received, replies⟩ := keeps
  refine ⟨program, answered, awaited, split, waiting, received, ?_⟩
  intro reply member
  rw [List.lookup_append, replies reply member, Option.some_or]

/-- A client that does not wait posts its next command. -/
theorem send
    {command : Command}
    {pending : List Command}
    {received : List Answer}
    (keeps : Client.Keeps program own delivered ⟨command :: pending, none, received⟩)
    (client : ι)
    (ticket : Nat) :
    Client.Keeps program (own ++ [⟨client, ticket, command⟩]) delivered
      ⟨pending, some ticket, received⟩ := by
  obtain ⟨program, answered, awaited, split, waiting, received, replies⟩ := keeps
  have empty : awaited = [] := by simpa using waiting
  subst empty
  rw [List.append_nil] at split
  subst split
  exact ⟨by simpa using program, answered, [⟨client, ticket, command⟩], rfl, rfl, received,
    replies⟩

/-- A client receives the reply that it waits for. -/
theorem receive
    {pending : List Command}
    {ticket : Nat}
    {received : List Answer}
    {answer : Answer}
    (keeps : Client.Keeps program own delivered ⟨pending, some ticket, received⟩)
    (found : delivered.lookup ticket = some answer) :
    Client.Keeps program own delivered ⟨pending, none, received ++ [answer]⟩ := by
  obtain ⟨program, answered, awaited, split, waiting, received, replies⟩ := keeps
  obtain ⟨job, rfl, rfl⟩ : ∃ job, awaited = [job] ∧ job.ticket = ticket := by
    simpa [List.map_eq_singleton_iff] using waiting
  refine ⟨program, answered ++ [(job, answer)], [], by simpa using split, rfl, by simpa, ?_⟩
  intro reply member
  rcases List.mem_append.mp member with earlier | last
  · exact replies reply earlier
  · obtain rfl := List.mem_singleton.mp last
    exact found

end Client.Keeps

namespace Mailbox

theorem delivered_prefix_post (mailbox : Mailbox ι τ) (posting : Posting ι) :
    mailbox.worker.delivered <+: (mailbox.post posting).worker.delivered := by
  cases life : mailbox.worker.life <;> simp [post, Worker.post, life]

theorem delivered_prefix_work [Transport τ] (mailbox : Mailbox ι τ) :
    mailbox.worker.delivered <+: mailbox.work.worker.delivered := by
  by_cases idle : mailbox.worker.life ≠ .running ∨ mailbox.worker.queue = []
  · simp [work_of_idle idle]
  · obtain ⟨⟨controller, queue, life, delivered⟩, log, visited⟩ := mailbox
    obtain ⟨rfl, busy⟩ : life = .running ∧ queue ≠ [] := by simpa using idle
    cases queue with
    | nil => exact absurd rfl busy
    | cons message rest =>
        cases message with
        | shutdown => exact List.prefix_append _ _
        | request ticket command =>
            cases ended : (command.run controller).outcome <;>
              simp [work, Worker.step, Worker.serve, Worker.finish, ended]

end Mailbox

namespace System

section Invariants

variable [DecidableEq ι]

/-- What holds of the tickets and the clients of a system. -/
structure Keeps (programs : ι → List Command) (system : System ι τ) : Prop where
  numbered : system.mailbox.log.Numbered
  clients : ∀ client,
    (system.clients client).Keeps (programs client) (system.mailbox.log.jobsOf client)
      system.mailbox.worker.delivered

theorem keeps_opened (start : Controller τ) (programs : ι → List Command) :
    Keeps programs (opened start programs : System ι τ) where
  numbered := ⟨List.nodup_nil, fun _ member => absurd member List.not_mem_nil⟩
  clients _ := ⟨rfl, [], [], rfl, rfl, rfl, fun _ member => absurd member List.not_mem_nil⟩

theorem Keeps.send
    {programs : ι → List Command}
    {system : System ι τ}
    {client : ι}
    {command : Command}
    {pending : List Command}
    {received : List Answer}
    (keeps : Keeps programs system)
    (ready : system.clients client = ⟨command :: pending, none, received⟩) :
    Keeps programs
      { mailbox := system.mailbox.post (.job ⟨client, system.mailbox.log.length, command⟩)
        clients :=
          Function.update system.clients client
            ⟨pending, some system.mailbox.log.length, received⟩ } where
  numbered := keeps.numbered.concat_job client command
  clients other := by
    obtain ⟨later, grows⟩ := system.mailbox.delivered_prefix_post
      (.job ⟨client, system.mailbox.log.length, command⟩)
    rw [← grows]
    apply Client.Keeps.delivered_append
    by_cases same : other = client
    · subst same
      have before := keeps.clients other
      rw [ready] at before
      simpa [Mailbox.post, Log.jobsOf] using before.send other system.mailbox.log.length
    · have jobs : Log.jobsOf other (system.mailbox.log ++
          [.job ⟨client, system.mailbox.log.length, command⟩]) =
            system.mailbox.log.jobsOf other := by
        simp [Log.jobsOf, Ne.symm same]
      simpa [Mailbox.post, jobs, Function.update_of_ne same] using keeps.clients other

theorem Keeps.receive
    {programs : ι → List Command}
    {system : System ι τ}
    {client : ι}
    {ticket : Nat}
    {pending : List Command}
    {received : List Answer}
    {answer : Answer}
    (keeps : Keeps programs system)
    (waits : system.clients client = ⟨pending, some ticket, received⟩)
    (found : system.mailbox.worker.delivered.lookup ticket = some answer) :
    Keeps programs
      { system with
        clients :=
          Function.update system.clients client ⟨pending, none, received ++ [answer]⟩ } where
  numbered := keeps.numbered
  clients other := by
    by_cases same : other = client
    · subst same
      have before := keeps.clients other
      rw [waits] at before
      simpa using before.receive found
    · simpa [Function.update_of_ne same] using keeps.clients other

/-- Every move keeps the tickets and the clients in order. -/
theorem Keeps.step
    [Transport τ]
    {programs : ι → List Command}
    {system : System ι τ}
    (keeps : Keeps programs system)
    (move : Move ι) :
    Keeps programs (system.step move) := by
  cases move with
  | send client =>
      rcases state : system.clients client with ⟨_ | ⟨command, pending⟩, _ | ticket, received⟩
      case cons.none =>
        simp only [System.step, state]
        exact keeps.send state
      all_goals simpa only [System.step, state] using keeps
  | shutdown =>
      refine ⟨keeps.numbered.concat_shutdown, ?_⟩
      intro client
      obtain ⟨later, grows⟩ := system.mailbox.delivered_prefix_post .shutdown
      simp only [System.step]
      rw [← grows]
      apply Client.Keeps.delivered_append
      simpa [Mailbox.post, Log.jobsOf] using keeps.clients client
  | work =>
      refine ⟨keeps.numbered, ?_⟩
      intro client
      obtain ⟨later, grows⟩ := system.mailbox.delivered_prefix_work
      simp only [System.step]
      rw [← grows]
      exact (keeps.clients client).delivered_append later
  | receive client =>
      rcases state : system.clients client with ⟨pending, _ | ticket, received⟩
      · simpa only [System.step, state] using keeps
      · cases found : system.mailbox.worker.delivered.lookup ticket with
        | none => simpa only [System.step, state, found] using keeps
        | some answer =>
            simp only [System.step, state, found]
            exact keeps.receive state found

theorem Keeps.run
    [Transport τ]
    {programs : ι → List Command}
    {system : System ι τ}
    (keeps : Keeps programs system)
    (schedule : List (Move ι)) :
    Keeps programs (system.run schedule) := by
  induction schedule generalizing system with
  | nil => exact keeps
  | cons move schedule inductionHypothesis => exact inductionHypothesis (keeps.step move)

end Invariants

/-! ## Schedules -/

section Schedules

variable [Transport σ] [DecidableEq ι]

omit [Transport σ] [DecidableEq ι] in
/-- If replies were delivered under the tickets of their jobs, then what is found under the
ticket of a job is the reply to that job. -/
theorem mem_of_lookup
    {log : Log ι}
    (numbered : log.Numbered)
    {delivered : List (Nat × Answer)}
    {replies : List (Job ι × Answer)}
    (under : delivered = replies.map Worker.delivery)
    (known : ∀ reply ∈ replies, reply.1 ∈ log.jobs)
    {job : Job ι}
    {answer : Answer}
    (member : job ∈ log.jobs)
    (found : delivered.lookup job.ticket = some answer) :
    (job, answer) ∈ replies := by
  have delivery : (job.ticket, answer) ∈ replies.map Worker.delivery := by
    rw [← under]
    obtain ⟨front, back, split, -⟩ := List.lookup_eq_some_iff.mp found
    rw [split]
    exact List.mem_append_right _ List.mem_cons_self
  obtain ⟨⟨other, given⟩, present, same⟩ := List.mem_map.mp delivery
  obtain ⟨ticket, rfl⟩ : other.ticket = job.ticket ∧ given = answer := by
    simpa [Worker.delivery] using same
  rw [← numbered.eq_of_ticket_eq (known _ present) member ticket]
  exact present

end Schedules

end System
end DualPhy
