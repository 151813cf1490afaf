import Gatehouse.Login.Rejection
import Gatehouse.Rsa.Key
import Gatehouse.Text.Base64
import Gatehouse.Wire.Opcode
import Gatehouse.Wire.Read

/-!
# The login request

What a client sends before its key is known: a greeting with the name of the world, and a request
whose second half is sealed with the public key of the server. Reading is in two parts, up to the
cipher key and after it, since the answer to a fault differs.
-/

namespace Gatehouse.Login

/-- Breaches of the protocol, about which the client is told nothing. -/
inductive Violation where
  | emptyGreeting
  | loginLength (n : UInt16)
  | frameLength (n : UInt16)
  | loginChecksum (sum : UInt32)
  | unexpectedRequest (id : UInt8)
  | truncatedRsaBlock
  | rsa (cause : Rsa.Error)
  | rsaPadding
  | challengeMismatch
  deriving DecidableEq, Repr

def Violation.message : Violation → String
  | emptyGreeting => "empty greeting"
  | loginLength n => s!"login frame length {n.toNat} out of bounds"
  | frameLength n => s!"frame length {n.toNat} out of bounds"
  | loginChecksum sum => s!"login checksum is 0x{Numeral.hex 8 sum.toNat}, expected zero"
  | unexpectedRequest id => s!"unexpected request 0x{Numeral.hex 2 id.toNat}"
  | truncatedRsaBlock => "login request too short for the RSA block"
  | rsa cause => "RSA decryption failed: " ++ cause.message
  | rsaPadding => "RSA block does not start with zero"
  | challengeMismatch => "challenge mismatch"

/-- What the server sends with its first message, to be echoed in the login request. -/
structure Challenge where
  timestamp : UInt32
  random : UInt8
  deriving DecidableEq, Repr

open Wire

/-- The greeting in the `n` bytes at the start of the body. It has no frame header. -/
def readGreeting (n : Nat) : ExceptT Violation Read String := do
  modify (·.declare (UInt16.ofNat n))
  let world ← Read.text
  if world.isEmpty then throw .emptyGreeting
  return world

structure Prelude where
  system : UInt16
  version : UInt16
  key : Xtea.Words
  deriving DecidableEq, Repr

def openBlock (key : Rsa.Key) : ExceptT Violation Read Unit := do
  let r ← get
  match key.apply (r.unread.take key.blockLength) with
  | .ok plain => set (r.write r.position plain)
  | .error cause => throw (.rsa cause)

/-- A request that carries its version as a text leaves more than the sealed block and the four
bytes of revision and preview. -/
def readPrelude (key : Rsa.Key) : ExceptT Violation Read Prelude := do
  let sum ← Read.u32
  if sum ≠ 0 then throw (.loginChecksum sum)
  let id ← Read.u8
  if id ≠ loginRequest then throw (.unexpectedRequest id)
  let system ← Read.u16
  let version ← Read.u16
  Read.advance 4
  if key.blockLength + 4 < (← Read.remaining) then
    let _ ← Read.text
  Read.advance 3
  if (← Read.remaining) < key.blockLength then throw .truncatedRsaBlock
  openBlock key
  if (← Read.u8) ≠ 0 then throw .rsaPadding
  return { system, version, key := ← Read.words }

structure Credentials where
  token : Octets
  characterName : String
  challenge : Challenge
  deriving DecidableEq, Repr

def decodeToken? (text : String) : Option Octets := do
  let token ← Base64.decode text.toList
  if token.isEmpty then none else some token

def readCredentials (system : UInt16) : ExceptT Rejection Read Credentials := do
  Read.advance 1
  match decodeToken? (← Read.text) with
  | none => throw .malformedSessionKey
  | some token =>
    if system = ClientSystem.qtLinux then
      let _ ← Read.text
      let _ ← Read.text
    let characterName ← Read.text
    let timestamp ← Read.u32
    let random ← Read.u8
    return { token, characterName, challenge := { timestamp, random } }

end Gatehouse.Login
