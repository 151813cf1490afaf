import Gatehouse.Server.Tasks

/-!
# The handshake

Greeting, challenge, login request and the gates behind it, as steps between which the reader waits
for bytes or for the game. A step fails with the reason for which the reader stops.
-/

namespace Gatehouse

inductive Halt where
  | transport
  /-- A timeout, or a game that has stopped. -/
  | abort
  | violation (v : Login.Violation)
  | rejected (r : Login.Rejection)
  | closed
  /-- The length of a frame was out of bounds, and nothing more is read. -/
  | stalled
  deriving DecidableEq, Repr

structure Talk where
  server : Server
  frame : Wire.FrameReader

/-- A step of a reader, which keeps what it has done even if it fails. -/
abbrev Talking := ExceptT Halt (StateM Talk)

namespace Talking

def onServer (f : Server → α × Server) : Talking α := do
  let t ← get
  let (result, server) := f t.server
  set { t with server }
  return result

def changeServer (f : Server → Server) : Talking Unit :=
  modify fun t => { t with server := f t.server }

def changeFrame (f : Wire.FrameReader → Wire.FrameReader) : Talking Unit :=
  modify fun t => { t with frame := f t.frame }

def server : Talking Server := do
  return (← get).server

def frame : Talking Wire.FrameReader := do
  return (← get).frame

def reading (cause : ε → Halt) (read : ExceptT ε Wire.Read α) : Talking α := do
  let t ← get
  let (result, frame) := read.run t.frame
  set { t with frame }
  match result with
  | .ok a => return a
  | .error e => throw (cause e)

def ensureOpen (id : ConnectionId) : Talking Unit := do
  if ¬ (← server).isOpen id then throw .closed

def send (id : ConnectionId) (message : Wire.ServerMessage) : Talking Unit :=
  changeServer fun s => (s.enqueue id message.encode).2

def flush (id : ConnectionId) : Talking Unit :=
  changeServer fun s => (s.flush id).2

end Talking

namespace Handshake

open Talking

def greet (id : ConnectionId) (challenge : Login.Challenge) (n : Nat) : Talking Unit := do
  ensureOpen id
  let _ ← reading .violation (Login.readGreeting n)
  changeServer fun s => s.modify id fun c => { c with challenge? := some challenge }
  send id (.challenge challenge.timestamp challenge.random)
  flush id
  changeFrame (·.reset)

def declareLogin (id : ConnectionId) : Talking Unit := do
  ensureOpen id
  let n := (← frame).headerValue
  if n = 0 ∨ Wire.maxLoginBody < n.toNat then throw (.violation (.loginLength n))
  changeFrame (·.truncate n.toNat)

def openRequest (id : ConnectionId) : Talking Login.Prelude := do
  let s ← server
  let config := s.config
  let prelude ← reading .violation (Login.readPrelude s.key)
  let mode := config.checksum.modeFor prelude.system prelude.version
  changeServer fun s => s.modify id fun c => c.installKey (.ofWords prelude.key) mode
  if config.checksum.isExtended prelude.system then send id .extendedAnnouncement
  if ¬ config.acceptsVersion prelude.version then
    throw (.rejected (.unsupportedVersion config.versionLabel))
  return prelude

/-- Takes the challenge that was issued; it serves once. -/
def takeChallenge (id : ConnectionId) : Talking (Option Login.Challenge) := do
  let issued := ((← server).connection? id).bind (·.challenge?)
  changeServer fun s => s.modify id fun c => { c with challenge? := none }
  return issued

def closedWorld (state : WorldState) : Option Login.Rejection :=
  match state with
  | .startup => some .startingUp
  | .maintain => some .maintenance
  | .running | .closing | .closed => none

/-- Finds the account of a login. It has to allow the address of the client. -/
def authenticate (ip : IpAddress) (credentials : Login.Credentials) : Talking SessionRecord := do
  let s ← server
  match closedWorld s.state with
  | some reason => throw (.rejected reason)
  | none => pure ()
  match s.store.ipBan ip with
  | some ban => throw (.rejected (.ofIpBan ban))
  | none => pure ()
  let record? ← onServer fun s =>
    let (record?, store) := s.store.resolveSession credentials.token credentials.characterName
    (record?, { s with store })
  match record?.filter (·.accountId != 0) with
  | none => throw (.rejected .invalidCredentials)
  | some record =>
    if ¬ record.authorizedIp.isLoopback ∧ record.authorizedIp ≠ ip then
      throw (.rejected .sessionIpMismatch)
    return record

/-- The body of the login request has come; what passes its gates is a request for a character. -/
def judge (id : ConnectionId) (peer : SocketAddress) : Talking AttachRequest := do
  ensureOpen id
  let prelude ← openRequest id
  let credentials ← reading .rejected (Login.readCredentials prelude.system)
  if (← takeChallenge id) ≠ some credentials.challenge then throw (.violation .challengeMismatch)
  let record ← authenticate peer.ip credentials
  let store := (← server).store
  return {
    connection := id
    accountId := record.accountId
    characterId := record.characterId
    system := prelude.system
    character? := store.loadCharacter record.characterId
    namelocked := store.isNamelocked record.characterId
    accountBan? := store.accountBan record.accountId }

def enter (id : ConnectionId) (r : Reply) : Talking Unit := do
  match r with
  | .outcome (.attached _) => pure ()
  | .outcome (.waiting slot retrySeconds) =>
    send id (.waitingPlace slot (UInt8.ofNat retrySeconds))
    changeServer (·.close id)
    throw .closed
  | .outcome (.rejected reason) => throw (.rejected reason)
  | .outcome .abandoned => throw .closed
  | .found _ | .stopped => throw .abort
  ensureOpen id
  send id .enterWorld
  flush id
  changeServer fun s => { s with roster := s.roster.add id }

end Handshake

end Gatehouse
