/-!
# Task queues

Tasks that run one at a time in the order in which they were posted, and tasks that are posted after
a delay. Times are in milliseconds.
-/

namespace Gatehouse

structure Delayed (τ : Type) where
  due : Nat
  task : τ

structure TaskQueue (τ : Type) where
  ready : List τ
  /-- In the order of their scheduling. -/
  delayed : List (Delayed τ)
  scheduled : Nat
  stopped : Bool

namespace TaskQueue

variable {τ : Type}

def empty : TaskQueue τ :=
  { ready := [], delayed := [], scheduled := 0, stopped := false }

instance : Inhabited (TaskQueue τ) := ⟨empty⟩

/-- Adds a task, unless the queue has stopped. -/
def post (q : TaskQueue τ) (task : τ) : Bool × TaskQueue τ :=
  if q.stopped then (false, q) else (true, { q with ready := q.ready ++ [task] })

def schedule (q : TaskQueue τ) (due : Nat) (task : τ) : TaskQueue τ :=
  { q with delayed := q.delayed ++ [{ due, task }], scheduled := q.scheduled + 1 }

def take? (q : TaskQueue τ) : Option (τ × TaskQueue τ) :=
  match q.ready with
  | [] => none
  | task :: ready => some (task, { q with ready })

def splitDue (now : Nat) : List (Delayed τ) → Option (τ × List (Delayed τ))
  | [] => none
  | d :: rest =>
    if d.due ≤ now then some (d.task, rest)
    else (splitDue now rest).map fun (task, rest) => (task, d :: rest)

def takeDue? (q : TaskQueue τ) (now : Nat) : Option (τ × TaskQueue τ) :=
  (splitDue now q.delayed).map fun (task, delayed) => (task, { q with delayed })

/-- Posts the tasks that are due, in the order of their scheduling. -/
def release (q : TaskQueue τ) (now : Nat) : TaskQueue τ :=
  let (due, later) := q.delayed.partition (·.due ≤ now)
  let q := { q with delayed := later }
  if q.stopped then q else { q with ready := q.ready ++ due.map (·.task) }

def nextDue? (q : TaskQueue τ) : Option Nat :=
  (q.delayed.map (·.due)).min?

/-- Drops the tasks that are ready and refuses further ones. -/
def stop (q : TaskQueue τ) : TaskQueue τ :=
  { q with ready := [], stopped := true }

/-- Runs tasks that are ready, and those that they post, as long as the fuel lasts. -/
def drain {σ : Type} (exec : τ → σ → List τ × σ) :
    (fuel : Nat) → TaskQueue τ → σ → TaskQueue τ × σ
  | 0, q, s => (q, s)
  | fuel + 1, q, s =>
    match q.take? with
    | none => (q, s)
    | some (task, q) =>
      let (posted, s) := exec task s
      let q := posted.foldl (fun q task => (q.post task).2) q
      drain exec fuel q s

/-- Lets time pass up to `target`: again and again the clock is set to the next time at which a task
is due, and what is ready then runs. -/
def advance {σ : Type} (exec : (now : Nat) → τ → σ → List τ × σ) (work target : Nat) :
    (fuel : Nat) → TaskQueue τ → σ → TaskQueue τ × σ
  | 0, q, s => (q, s)
  | fuel + 1, q, s =>
    match q.nextDue? with
    | none => (q, s)
    | some due =>
      if target < due then (q, s)
      else
        let (q, s) := drain (exec due) work (q.release due) s
        advance exec work target fuel q s

end TaskQueue

end Gatehouse
