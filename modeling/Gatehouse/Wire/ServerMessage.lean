import Gatehouse.Wire.Opcode
import Gatehouse.Wire.Read

/-!
# Messages of the server

Their bytes, and the reading of all messages that a frame has left. A message with an unknown opcode
has no known length, so it ends the reading.
-/

namespace Gatehouse.Wire

inductive ServerMessage where
  | challenge (timestamp : UInt32) (random : UInt8)
  | loginError (text : String)
  | waitingList (text : String) (retrySeconds : UInt8)
  | extended (opcode : UInt8) (text : String)
  | enterWorld
  | ping
  | pingBack
  | unknown (opcode : UInt8)
  deriving DecidableEq, Repr

namespace ServerMessage

def encode : ServerMessage → Octets
  | challenge timestamp random =>
    ServerOpcode.challenge :: Field.encodeAll [.u32 timestamp, .u8 random]
  | loginError text => ServerOpcode.loginError :: encodeText text
  | waitingList text retrySeconds =>
    ServerOpcode.waitingList :: Field.encodeAll [.text text, .u8 retrySeconds]
  | extended opcode text => ServerOpcode.extended :: Field.encodeAll [.u8 opcode, .text text]
  | enterWorld => [ServerOpcode.enterWorld]
  | ping => [ServerOpcode.ping]
  | pingBack => [ServerOpcode.pingBack]
  | unknown opcode => [opcode]

/-- Tells a client its place on the waiting list, and when to come back. -/
def waitingPlace (slot : Nat) (retrySeconds : UInt8) : ServerMessage :=
  waitingList
    s!"Too many players online.\nYou are at place {slot} on the waiting list." retrySeconds

/-- Tells a client that the extended opcode is available. -/
def extendedAnnouncement : ServerMessage :=
  extended 0 ""

def readBody (opcode : UInt8) : Read ServerMessage := do
  if opcode = ServerOpcode.challenge then
    let timestamp ← Read.u32
    let random ← Read.u8
    return challenge timestamp random
  else if opcode = ServerOpcode.loginError then
    return loginError (← Read.text)
  else if opcode = ServerOpcode.waitingList then
    let text ← Read.text
    let retrySeconds ← Read.u8
    return waitingList text retrySeconds
  else if opcode = ServerOpcode.extended then
    let extendedOpcode ← Read.u8
    let text ← Read.text
    return extended extendedOpcode text
  else if opcode = ServerOpcode.enterWorld then
    return enterWorld
  else if opcode = ServerOpcode.ping then
    return ping
  else if opcode = ServerOpcode.pingBack then
    return pingBack
  else
    return unknown opcode

def isUnknown : ServerMessage → Bool
  | unknown _ => true
  | _ => false

theorem remaining_readBody_le (opcode : UInt8) (r : FrameReader) :
    (readBody opcode r).2.remaining ≤ r.remaining := by
  simp only [readBody]
  repeat' split
  · exact Nat.le_trans (Read.remaining_u8_le _) (Read.remaining_u32_le r)
  · exact Read.remaining_text_le r
  · exact Nat.le_trans (Read.remaining_u8_le _) (Read.remaining_text_le r)
  · exact Nat.le_trans (Read.remaining_text_le _) (Read.remaining_u8_le r)
  all_goals exact Nat.le_refl _

def readAll (r : FrameReader) : List ServerMessage × FrameReader :=
  if _h : 0 < r.remaining then
    let afterOpcode := (Read.u8 r).2
    let body := readBody (Read.u8 r).1 afterOpcode
    if body.1.isUnknown then ([body.1], body.2)
    else
      let rest := readAll body.2
      (body.1 :: rest.1, rest.2)
  else ([], r)
termination_by r.remaining
decreasing_by
  exact Nat.lt_of_le_of_lt (remaining_readBody_le _ _) (Read.remaining_u8_lt _h)

end ServerMessage

end Gatehouse.Wire
