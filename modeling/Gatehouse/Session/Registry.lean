import Gatehouse.Session.Basic

/-!
# The session registry

The sessions of the world by id. Ids are counted in 32 bits and pass over zero.
-/

namespace Gatehouse

structure SessionRegistry where
  sessions : List Session
  nextId : SessionId
  created : Nat

namespace SessionRegistry

def empty : SessionRegistry :=
  { sessions := [], nextId := 1, created := 0 }

instance : Inhabited SessionRegistry := ⟨empty⟩

def get? (r : SessionRegistry) (id : SessionId) : Option Session :=
  r.sessions.find? (·.id == id)

def contains (r : SessionRegistry) (id : SessionId) : Bool :=
  (r.get? id).isSome

def modify (r : SessionRegistry) (id : SessionId) (f : Session → Session) : SessionRegistry :=
  { r with sessions := r.sessions.map fun s => if s.id == id then f s else s }

def length (r : SessionRegistry) : Nat :=
  r.sessions.length

def freshId (r : SessionRegistry) : SessionId :=
  max r.nextId 1

/-- A new session takes the place of one that has the same id. -/
def insert (r : SessionRegistry) (character : Character) (system : UInt16)
    (connection : ConnectionId) : SessionHandle × SessionRegistry :=
  let id := r.freshId
  let session : Session :=
    { id, serial := r.created, character, system, connection? := some connection
      reconnectPending := false, dead := false }
  (session.handle,
    { sessions := r.sessions.filter (·.id != id) ++ [session]
      nextId := id + 1
      created := r.created + 1 })

def findByCharacter (r : SessionRegistry) (id : CharacterId) : Option SessionId :=
  (r.sessions.find? (·.character.id == id)).map (·.id)

def findByAccount (r : SessionRegistry) (id : AccountId) : Option SessionId :=
  (r.sessions.find? (·.character.accountId == id)).map (·.id)

def remove (r : SessionRegistry) (id : SessionId) : Option Session × SessionRegistry :=
  (r.get? id, { r with sessions := r.sessions.filter (·.id != id) })

def detach (r : SessionRegistry) (id : SessionId) (connection : ConnectionId) : SessionRegistry :=
  r.modify id (·.detach connection)

def setPending (r : SessionRegistry) (id : SessionId) (pending : Bool) : SessionRegistry :=
  r.modify id fun s => { s with reconnectPending := pending }

def setDead (r : SessionRegistry) (id : SessionId) (dead : Bool) : SessionRegistry :=
  r.modify id fun s => { s with dead }

/-- Whether the session of a handle is dead or gone. -/
def isInactive (r : SessionRegistry) (handle : SessionHandle) : Bool :=
  !r.sessions.any fun s => s.serial == handle.serial && !s.dead

def clear (r : SessionRegistry) : SessionRegistry :=
  { r with sessions := [] }

end SessionRegistry

end Gatehouse
