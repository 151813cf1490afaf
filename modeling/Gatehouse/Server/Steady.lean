import Gatehouse.Server.Handshake

/-!
# Steady state

Frames of a client that has entered the world. Malformed frames are dropped; the rest is decrypted
and given to the handler of its opcode.
-/

namespace Gatehouse.Steady

open Talking

def declare (id : ConnectionId) : Talking Unit := do
  ensureOpen id
  let n := (← frame).headerValue
  if n = 0 ∨ Wire.maxBody < n.toNat then
    match (← server).config.oversize with
    | .drop => throw .stalled
    | .close => throw (.violation (.frameLength n))
  changeFrame (·.truncate n.toNat)

/-- Opcodes that a dead or removed session may still use. -/
def inactiveOpcodes : List UInt8 :=
  [Wire.ClientOpcode.logout, Wire.ClientOpcode.pingBack]

inductive Verdict where
  | ignored
  | disconnect
  | dispatched (opcode : UInt8) (session : SessionHandle)
  deriving DecidableEq, Repr

/-- Decides by opcode and session. Without an active session, a client can still disconnect. -/
def decide (sessions : SessionRegistry) (session? : Option SessionHandle) (opcode : UInt8) :
    Verdict :=
  match session? with
  | none => if opcode = Wire.ClientOpcode.disconnect then .disconnect else .ignored
  | some session =>
    if sessions.isInactive session then
      if opcode = Wire.ClientOpcode.disconnect then .disconnect
      else if inactiveOpcodes.contains opcode then .dispatched opcode session
      else .ignored
    else .dispatched opcode session

/-- Decrypts the frame at hand. A malformed one has no verdict but to be ignored. -/
def read (c : Connection) (sessions : SessionRegistry) : Wire.Read Verdict := do
  let sum ← Wire.Read.u32
  if sum = 0 ∧ c.mode.requiresNonzero then return .ignored
  match c.key? with
  | none => return .ignored
  | some key =>
    if ← modifyGet (Wire.FrameReader.decrypt key) then
      return decide sessions c.session? (← Wire.Read.u8)
    else return .ignored

def dispatch (id : ConnectionId) (opcode : UInt8) (session : SessionHandle) : Talking Unit := do
  let t ← get
  match t.server.handlers.handler? opcode with
  | none => pure ()
  | some handler =>
    let call : HandlerCall := { connection := id, opcode, session, rest := t.frame.unread }
    let (frame, effects) := handler session t.frame
    let server := { t.server with calls := call :: t.server.calls }
    set { t with server := server.performAll id effects, frame }

def handle (id : ConnectionId) : Talking Unit := do
  ensureOpen id
  let t ← get
  match t.server.connection? id with
  | none => throw .closed
  | some c =>
    let (verdict, frame) := (read c t.server.game.sessions).run t.frame
    set { t with frame }
    match verdict with
    | .ignored => pure ()
    | .disconnect =>
      changeServer (·.close id)
      throw .closed
    | .dispatched opcode session =>
      dispatch id opcode session
      ensureOpen id

end Gatehouse.Steady
