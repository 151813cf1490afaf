import Gatehouse.Login.Request

/-!
# Filling in a login request

The frame that an honest client answers the challenge with. Its second half is sealed with the
public key of the server, of which the block has to be long enough.
-/

namespace Gatehouse

inductive Client.Error where
  | rsa (cause : Rsa.Error)
  | noChallenge
  | noKey
  | payloadTooLong (n : Nat)
  | frameLength (n : Nat)
  | undecryptable
  | loginTooLong (n : Nat)
  | closed
  deriving DecidableEq, Repr

def Client.Error.message : Client.Error → String
  | rsa cause => "RSA error: " ++ cause.message
  | noChallenge => "protocol error: expected a challenge"
  | noKey => "protocol error: no key before login"
  | payloadTooLong n => s!"protocol error: payload of {n} bytes too large"
  | frameLength n => s!"protocol error: frame length {n} out of bounds"
  | undecryptable => "protocol error: undecryptable frame"
  | loginTooLong n => s!"login block needs {n} bytes, more than one RSA block"
  | closed => "connection closed by server"

open Wire

structure LoginForm where
  system : UInt16
  version : UInt16
  /-- Sent by newer clients behind the version number. -/
  versionText? : Option String
  /-- Goes over the wire in base64. -/
  token : Octets
  characterName : String
  key : Xtea.Words
  deriving DecidableEq, Repr

namespace LoginForm

/-- What a client tells about its platform, if its system is one that does. -/
def platform (system : UInt16) : List String :=
  if system = ClientSystem.qtLinux then ["linux", "1.0"] else []

def block (form : LoginForm) (challenge : Login.Challenge) : Octets :=
  Field.encodeAll <|
    [.u8 0] ++ form.key.toList.map Field.u32 ++
      [.u8 0, .text (String.ofList (Base64.encode form.token))] ++
      (platform form.system).map Field.text ++
      [.text form.characterName, .u32 challenge.timestamp, .u8 challenge.random]

def sealBlock (form : LoginForm) (publicKey : Rsa.Key) (challenge : Login.Challenge) :
    Except Client.Error Octets :=
  let block := form.block challenge
  if publicKey.blockLength < block.length then .error (.loginTooLong block.length)
  else
    let padded := block ++ Octets.zeros (publicKey.blockLength - block.length)
    (publicKey.apply padded).mapError .rsa

def openHalf (form : LoginForm) : Octets :=
  Field.encodeAll <|
    [.u32 0, .u8 loginRequest, .u16 form.system, .u16 form.version,
        .u32 form.version.toUInt32] ++
      (form.versionText?.map Field.text).toList ++ [.u16 0, .u8 0]

def frame (form : LoginForm) (publicKey : Rsa.Key) (challenge : Login.Challenge) :
    Except Client.Error Octets := do
  let sealedHalf ← form.sealBlock publicKey challenge
  let body := form.openHalf ++ sealedHalf
  if maxLoginBody < body.length then throw (.loginTooLong body.length)
  return Octets.littleEndian headerLength body.length ++ body

end LoginForm

end Gatehouse
