import Gatehouse.TaskQueue

/-!
# Task queues in simulated time

Jobs that write their tag and the time into a log, and a queue of them with a clock that only moves
when it is told to.
-/

namespace Gatehouse.Simulation

inductive Job (α : Type) where
  | log (tag : α)
  /-- Logs a tag and then posts a job that logs another. -/
  | chain (tag next : α)

/-- The latest entry of the log stands first. -/
def Job.run {α : Type} (now : Nat) (job : Job α) (log : List (α × Nat)) :
    List (Job α) × List (α × Nat) :=
  match job with
  | .log tag => ([], (tag, now) :: log)
  | .chain tag next => ([.log next], (tag, now) :: log)

structure Agenda (α : Type) where
  queue : TaskQueue (Job α)
  now : Nat
  log : List (α × Nat)

namespace Agenda

variable {α : Type}

def empty : Agenda α :=
  { queue := .empty, now := 0, log := [] }

def post (a : Agenda α) (job : Job α) : Bool × Agenda α :=
  let (posted, queue) := a.queue.post job
  (posted, { a with queue })

def schedule (a : Agenda α) (delay : Nat) (job : Job α) : Agenda α :=
  { a with queue := a.queue.schedule (a.now + delay) job }

def stop (a : Agenda α) : Agenda α :=
  { a with queue := a.queue.stop }

/-- More jobs than any agenda runs. -/
def patience : Nat := 1000000000

def advance (a : Agenda α) (ms : Nat) : Agenda α :=
  let (queue, log) := TaskQueue.drain (Job.run a.now) patience (a.queue.release a.now) a.log
  let (queue, log) := TaskQueue.advance Job.run patience (a.now + ms) patience queue log
  { queue, log, now := a.now + ms }

end Agenda

end Gatehouse.Simulation
