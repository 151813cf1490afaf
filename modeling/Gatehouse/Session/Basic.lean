import Gatehouse.Account.Basic

/-!
# Sessions

A character in the world. A session refers to its connection by number and a connection refers to
its session by a handle; neither keeps the other alive.
-/

namespace Gatehouse

abbrev SessionId := UInt32

abbrev ConnectionId := Nat

structure Session where
  id : SessionId
  /-- How many sessions were made before this one. Unlike the id it never comes back. -/
  serial : Nat
  character : Character
  system : UInt16
  connection? : Option ConnectionId
  /-- Whether a login waits to take this session over. -/
  reconnectPending : Bool
  dead : Bool
  deriving DecidableEq, Repr

/-- What a connection keeps of its session. -/
structure SessionHandle where
  id : SessionId
  characterId : CharacterId
  serial : Nat
  deriving DecidableEq, Repr

namespace Session

def handle (s : Session) : SessionHandle :=
  { id := s.id, characterId := s.character.id, serial := s.serial }

/-- The connection of a session, if it is still open. -/
def liveConnection? (s : Session) (isOpen : ConnectionId → Bool) : Option ConnectionId :=
  s.connection?.filter isOpen

def attach (s : Session) (connection : ConnectionId) (system : UInt16) : Session :=
  { s with connection? := some connection, system }

/-- Forgets the connection, if it is this one. -/
def detach (s : Session) (connection : ConnectionId) : Session :=
  if s.connection? = some connection then { s with connection? := none } else s

end Session

end Gatehouse
