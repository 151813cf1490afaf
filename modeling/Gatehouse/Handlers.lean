import Gatehouse.Game.Basic
import Gatehouse.Wire.ServerMessage

/-!
# Opcode handlers

What a message of a client means. A handler reads the rest of the message and says what has to happen
to its connection and to the game.
-/

namespace Gatehouse

inductive Effect where
  | send (message : Octets)
  | close
  | closeWith (text : String)
  /-- Closes without waiting for queued frames. -/
  | abort
  | post (task : GameTask)
  deriving DecidableEq, Repr

/-- The cursor stands behind the opcode. -/
abbrev Handler := SessionHandle → Wire.FrameReader → Wire.FrameReader × List Effect

namespace Handler

open Wire

def ping : Handler := fun _ r => (r, [.send ServerMessage.pingBack.encode])

def pingBack : Handler := fun _ r => (r, [])

def logout : Handler := fun session r =>
  (r, [.post (.logout session.id session.characterId), .close])

def disconnect : Handler := fun _ r => (r, [.close])

end Handler

structure HandlerTable where
  handler? : UInt8 → Option Handler

namespace HandlerTable

def empty : HandlerTable := ⟨fun _ => none⟩

def register (table : HandlerTable) (opcode : UInt8) (handler : Handler) : Bool × HandlerTable :=
  ((table.handler? opcode).isSome,
    ⟨fun code => if code = opcode then some handler else table.handler? code⟩)

def contains (table : HandlerTable) (opcode : UInt8) : Bool :=
  (table.handler? opcode).isSome

def opcodes (table : HandlerTable) : List UInt8 :=
  ((List.range 256).map UInt8.ofNat).filter table.contains

def defaults : HandlerTable :=
  ⟨fun code =>
    if code = Wire.ClientOpcode.ping then some Handler.ping
    else if code = Wire.ClientOpcode.pingBack then some Handler.pingBack
    else if code = Wire.ClientOpcode.logout then some Handler.logout
    else if code = Wire.ClientOpcode.disconnect then some Handler.disconnect
    else none⟩

end HandlerTable

end Gatehouse
