import Gatehouse.Login.Request

/-!
# Login attempts

A login request of any shape, as a client may send it: with every part as it should be, or with some
of them wrong, missing or too long.
-/

namespace Gatehouse.Simulation

open Wire

structure Attempt where
  /-- The first byte of the sealed block, zero if all is well. -/
  lead : UInt8
  key : Xtea.Words
  /-- In base64. -/
  token : String
  /-- Texts between the token and the name. -/
  extras : List String
  name : String
  /-- What is added to the challenge before it is sent back. -/
  timestampShift : UInt32
  randomShift : UInt8
  checksum : UInt32
  requestId : UInt8
  system : UInt16
  version : UInt16
  versionText? : Option String
  /-- What stands in place of the sealed block. -/
  sealed? : Option Octets
  tail : Octets
  /-- How many bytes are missing at the end. -/
  missing : Nat
  /-- The length in the header, if it is not that of the body. -/
  length? : Option Nat

namespace Attempt

def block (a : Attempt) (challenge : Login.Challenge) : Octets :=
  Field.encodeAll <|
    [.u8 a.lead] ++ a.key.toList.map Field.u32 ++ [.u8 0, .text a.token] ++
      a.extras.map Field.text ++
      [.text a.name, .u32 (challenge.timestamp + a.timestampShift),
        .u8 (challenge.random + a.randomShift)]

/-- The block, brought to the length of the key and sealed. One out of range stays open. -/
def sealBlock (a : Attempt) (publicKey : Rsa.Key) (challenge : Login.Challenge) : Octets :=
  let n := publicKey.blockLength
  let block := a.block challenge
  let block := (block ++ Octets.zeros (n - block.length)).take n
  match a.sealed? with
  | some bs => bs
  | none => (publicKey.apply block).toOption.getD block

def body (a : Attempt) (publicKey : Rsa.Key) (challenge : Login.Challenge) : Octets :=
  let head := Field.encodeAll <|
    [.u32 a.checksum, .u8 a.requestId, .u16 a.system, .u16 a.version,
        .u32 a.version.toUInt32] ++
      (a.versionText?.map Field.text).toList ++ [.u16 0, .u8 0]
  let body := head ++ a.sealBlock publicKey challenge ++ a.tail
  body.take (body.length - a.missing)

def frame (a : Attempt) (publicKey : Rsa.Key) (challenge : Login.Challenge) : Octets :=
  let body := a.body publicKey challenge
  Octets.littleEndian headerLength (a.length?.getD body.length) ++ body

end Attempt

end Gatehouse.Simulation
