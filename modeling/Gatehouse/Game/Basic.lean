import Gatehouse.Config.Basic
import Gatehouse.Login.Rejection
import Gatehouse.Session.Registry
import Gatehouse.WaitingList
import Gatehouse.World

/-!
# The game

The state that game tasks own, the requests of connections for a character, and the tasks.
-/

namespace Gatehouse

structure Game where
  sessions : SessionRegistry
  world : World
  waiting : WaitingList

namespace Game

def empty : Game :=
  { sessions := .empty, world := .empty, waiting := .empty }

instance : Inhabited Game := ⟨empty⟩

end Game

structure AttachRequest where
  connection : ConnectionId
  accountId : AccountId
  characterId : CharacterId
  system : UInt16
  /-- Nothing if the character could not be loaded. -/
  character? : Option Character
  namelocked : Bool
  accountBan? : Option Ban
  deriving DecidableEq, Repr

inductive AttachOutcome where
  | attached (session : SessionHandle)
  | waiting (slot retrySeconds : Nat)
  | rejected (reason : Login.Rejection)
  /-- The connection closed while the request was under way. -/
  | abandoned
  deriving DecidableEq, Repr

/-- Who waits for the result of a task. -/
inductive Caller where
  | connection (id : ConnectionId)
  | console (number : Nat)
  deriving DecidableEq, Repr

inductive Reply where
  | outcome (o : AttachOutcome)
  | found (found : Bool)
  /-- The game has stopped, and no result comes. -/
  | stopped
  deriving DecidableEq, Repr

inductive GameTask where
  | attach (request : AttachRequest) (caller : Caller)
  /-- Takes over a session whose connection was closed for this request. -/
  | reattach (session : SessionId) (request : AttachRequest) (caller : Caller)
  | detach (session : SessionId) (connection : ConnectionId)
  | logout (session : SessionId) (character : CharacterId)
  | setDead (session : SessionId) (dead : Bool) (caller? : Option Caller)
  | removeSession (session : SessionId) (caller? : Option Caller)
  deriving DecidableEq, Repr

def GameTask.caller? : GameTask → Option Caller
  | attach _ caller | reattach _ _ caller => some caller
  | setDead _ _ caller? | removeSession _ caller? => caller?
  | detach .. | logout .. => none

end Gatehouse
