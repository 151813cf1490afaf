import Gatehouse.Game.Basic

/-!
# Attaching connections to characters

A request passes a row of gates and gets a new session, or it takes over the session that its
character has. The game offers the session to the connection; the connection may have closed in the
meantime, and then the offer is withdrawn and leaves no trace.

Connections close at any time, so these functions ask `isOpen` at the moment they run.
-/

namespace Gatehouse.Game

/-- A session that a connection has yet to accept. -/
structure Offer where
  handle : SessionHandle
  connection : ConnectionId
  isNew : Bool
  deriving DecidableEq, Repr

inductive AttachStep where
  | done (outcome : AttachOutcome)
  | offered (offer : Offer)
  /-- The old connection has to close; the request comes back after a delay. -/
  | kicked (old : ConnectionId) (session : SessionId)
  deriving DecidableEq, Repr

def reject (reason : Login.Rejection) : AttachStep :=
  .done (.rejected reason)

/-- Places a new character where it logged out or, failing that, at its temple by force. -/
def enter? (world : World) (c : Character) : Option World :=
  match world.place? c.id c.login false with
  | some world => some world
  | none => world.place? c.id c.temple true

def closedFor (state : WorldState) : Option Login.Rejection :=
  match state with
  | .closing => some .goingDown
  | .closed => some .serverClosed
  | .startup | .running | .maintain => none

def obstacle (config : Config) (state : WorldState) (g : Game) (request : AttachRequest)
    (c : Character) : Option Login.Rejection :=
  if request.namelocked then some .namelocked
  else
    match if c.canAlwaysLogin then none else closedFor state with
    | some reason => some reason
    | none =>
      if config.onePerAccount ∧ ¬ c.isGamemaster ∧
          (g.sessions.findByAccount request.accountId).isSome then
        some .oneCharacterPerAccount
      else if c.cannotBeBanned then none
      else request.accountBan?.map .ofAccountBan

def create (config : Config) (state : WorldState) (isOpen : ConnectionId → Bool) (now : Nat)
    (request : AttachRequest) (g : Game) : AttachStep × Game :=
  if ¬ isOpen request.connection then (.done .abandoned, g)
  else
    match request.character? with
    | none => (reject .characterNotLoaded, g)
    | some c =>
      match obstacle config state g request c with
      | some reason => (reject reason, g)
      | none =>
        let (slot, waiting) := g.waiting.login c g.sessions.length config.maxPlayers now
        let g := { g with waiting }
        if 0 < slot then (.done (.waiting slot (WaitingList.retryTime slot)), g)
        else
          match enter? g.world c with
          | none => (reject .templePositionWrong, g)
          | some world =>
            let (handle, sessions) := g.sessions.insert c request.system request.connection
            (.offered { handle, connection := request.connection, isNew := true },
              { g with world, sessions })

def reattach (isOpen : ConnectionId → Bool) (existing : SessionId) (request : AttachRequest)
    (g : Game) : AttachStep × Game :=
  match g.sessions.get? existing with
  | none => (reject .alreadyLoggedIn, g)
  | some session =>
    let g := { g with sessions := g.sessions.setPending existing false }
    if ¬ isOpen request.connection then (.done .abandoned, g)
    else if (session.liveConnection? isOpen).isSome then (reject .alreadyLoggedIn, g)
    else
      let sessions := g.sessions.modify existing (·.attach request.connection request.system)
      (.offered { handle := session.handle, connection := request.connection, isNew := false },
        { g with sessions })

def kickOrReattach (config : Config) (isOpen : ConnectionId → Bool) (existing : SessionId)
    (request : AttachRequest) (g : Game) : AttachStep × Game :=
  match g.sessions.get? existing with
  | none => (reject .alreadyLoggedIn, g)
  | some session =>
    if session.reconnectPending ∨ ¬ config.replaceOnLogin then (reject .alreadyLoggedIn, g)
    else
      match session.liveConnection? isOpen with
      | none => reattach isOpen existing request g
      | some old =>
        (.kicked old existing, { g with sessions := g.sessions.setPending existing true })

def attach (config : Config) (state : WorldState) (isOpen : ConnectionId → Bool) (now : Nat)
    (request : AttachRequest) (g : Game) : AttachStep × Game :=
  let existing? := if config.allowClones then none
    else g.sessions.findByCharacter request.characterId
  match existing? with
  | some existing => kickOrReattach config isOpen existing request g
  | none => create config state isOpen now request g

def withdraw (offer : Offer) (g : Game) : Game :=
  if offer.isNew then
    { g with
      sessions := (g.sessions.remove offer.handle.id).2
      world := g.world.remove offer.handle.characterId }
  else { g with sessions := g.sessions.detach offer.handle.id offer.connection }

def detach (session : SessionId) (connection : ConnectionId) (g : Game) : Game :=
  { g with sessions := g.sessions.detach session connection }

def logout (session : SessionId) (character : CharacterId) (g : Game) : Game :=
  match g.sessions.remove session with
  | (none, _) => g
  | (some _, sessions) => { g with sessions, world := g.world.remove character }

end Gatehouse.Game
