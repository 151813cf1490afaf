import Gatehouse.Session.Basic

/-!
# The flush roster

The connections whose gathered messages are sent with the next tick. The ticking stops while there
are none, so the first one to come wakes it.
-/

namespace Gatehouse

structure Roster where
  members : List ConnectionId
  /-- Whether the ticking has been woken since it last looked. -/
  wake : Bool
  ticks : Nat
  deriving DecidableEq, Repr

namespace Roster

def empty : Roster :=
  { members := [], wake := false, ticks := 0 }

instance : Inhabited Roster := ⟨empty⟩

def isEmpty (r : Roster) : Bool :=
  r.members.isEmpty

def length (r : Roster) : Nat :=
  r.members.length

def insert (r : Roster) (id : ConnectionId) : Bool × Roster :=
  (r.isEmpty,
    { r with members := if r.members.contains id then r.members else r.members ++ [id] })

def notify (r : Roster) : Roster :=
  { r with wake := true }

def add (r : Roster) (id : ConnectionId) : Roster :=
  let (wasEmpty, r) := r.insert id
  if wasEmpty then r.notify else r

def remove (r : Roster) (id : ConnectionId) : Roster :=
  { r with members := r.members.filter (· != id) }

/-- Counts a tick and keeps the connections that are open. -/
def tick (r : Roster) (isOpen : ConnectionId → Bool) : Roster :=
  { r with members := r.members.filter isOpen, ticks := r.ticks + 1 }

end Roster

inductive TickerPhase where
  | testing
  | parked
  | sleeping (deadline : Nat)
  | finished
  deriving DecidableEq, Repr

def TickerPhase.deadline? : TickerPhase → Option Nat
  | .sleeping deadline => some deadline
  | .testing | .parked | .finished => none

def TickerPhase.test (r : Roster) (now interval : Nat) : TickerPhase :=
  if r.isEmpty then .parked else .sleeping (now + interval)

end Gatehouse
