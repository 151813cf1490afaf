import Gatehouse.Client.LoginForm
import Gatehouse.Wire.FrameBuffer
import Gatehouse.Wire.ServerMessage

/-!
# The client

The other end of a connection. What the server sends is a byte string that is read from the front;
where it ends, the server has closed its side. A frame that is read uses up at least its header, so
the search for a message ends.
-/

namespace Gatehouse

structure Client where
  publicKey : Rsa.Key
  /-- Comes with the login. Frames are plain before it. -/
  key? : Option Xtea.Key
  mode : ChecksumMode
  sendSequence : UInt32
  inbox : Octets
  sent : Octets

namespace Client

open Wire

def new (publicKey : Rsa.Key) (mode : ChecksumMode) (inbox : Octets) : Client :=
  { publicKey, key? := none, mode, sendSequence := 0, inbox, sent := [] }

abbrev Action := ExceptT Error (StateM Client)

/-! ## Sending -/

def write (bs : Octets) : Action Unit :=
  modify fun c => { c with sent := c.sent ++ bs }

def greet (world : String) : Action Unit :=
  write (encodeText world)

def login (form : LoginForm) (challenge : Login.Challenge) : Action Unit := do
  write (← form.frame (← get).publicKey challenge)
  modify fun c => { c with key? := some (.ofWords form.key) }

def bufferOf? (opcode : UInt8) (payload : Octets) : Option FrameBuffer := do
  let b ← FrameBuffer.empty.append? [opcode]
  b.append? payload

/-- Sends a message in a frame of its own. Frames are counted from one; a message that does not fit
is not counted. -/
def send (opcode : UInt8) (payload : Octets) : Action Unit := do
  match (← get).key? with
  | none => throw .noKey
  | some key =>
    match bufferOf? opcode payload with
    | none => throw (.payloadTooLong payload.length)
    | some b =>
      modify fun c => { c with sendSequence := c.sendSequence + 1 }
      let c ← get
      write (b.sealEncrypted key c.mode c.sendSequence).1

/-! ## Reading -/

/-- The next frame, header included, and what follows it. A length out of bounds uses up the header
alone, and a frame that is not whole is lost. -/
def nextFrame (inbox : Octets) : Except Error Octets × Octets :=
  match inbox.split? headerLength with
  | none => (.error .closed, [])
  | some (header, rest) =>
    let n := Octets.ofLittleEndian header
    if n = 0 ∨ maxBody < n then (.error (.frameLength n), rest)
    else
      match rest.split? n with
      | none => (.error .closed, [])
      | some (body, rest) => (.ok (header ++ body), rest)

theorem length_nextFrame_lt {inbox frame rest : Octets} (h : nextFrame inbox = (.ok frame, rest)) :
    rest.length < inbox.length := by
  simp only [nextFrame] at h
  split at h
  case h_1 => cases h
  case h_2 header behind split =>
    have header : behind.length + 2 = inbox.length := by
      rw [Octets.split?_eq, headerLength] at split
      split at split <;> cases split
      rw [List.length_drop]
      omega
    split at h
    case isTrue => cases h
    case isFalse =>
      split at h
      case h_1 => cases h
      case h_2 body left split =>
        rw [Octets.split?_eq] at split
        split at split <;> cases split
        cases h
        rw [List.length_drop]
        omega

/-- The messages of a frame, which is encrypted if there is a key. A plain frame has a checksum slot
that is not looked at. -/
def openFrame (key? : Option Xtea.Key) (frame : Octets) : Except Error (List ServerMessage) :=
  let r := FrameReader.ofFrame frame
  match key? with
  | none => .ok (ServerMessage.readAll (r.seek FrameReader.cipherStart)).1
  | some key =>
    match r.decrypt key with
    | (true, r) => .ok (ServerMessage.readAll r).1
    | (false, _) => .error .undecryptable

def readFrame : Action (List ServerMessage) := fun c =>
  let (frame, inbox) := nextFrame c.inbox
  (frame.bind (openFrame c.key?), { c with inbox })

theorem length_inbox_readFrame_lt {c c' : Client} {messages : List ServerMessage}
    (h : readFrame c = (.ok messages, c')) : c'.inbox.length < c.inbox.length := by
  rcases frame : nextFrame c.inbox with ⟨_ | _, inbox⟩ <;> rw [readFrame, frame] at h
  · cases h
  · obtain ⟨-, rfl⟩ := Prod.mk.inj h
    exact length_nextFrame_lt frame

/-- Reads frames up to one with a message that is wanted. What else is in that frame is lost. -/
def readUntil (wanted : ServerMessage → Bool) (c : Client) : Except Error ServerMessage × Client :=
  match _h : readFrame c with
  | (.error e, c) => (.error e, c)
  | (.ok messages, c) =>
    match messages.find? wanted with
    | some message => (.ok message, c)
    | none => readUntil wanted c
termination_by c.inbox.length
decreasing_by exact length_inbox_readFrame_lt _h

def challenge? : ServerMessage → Option Login.Challenge
  | .challenge timestamp random => some { timestamp, random }
  | _ => none

def readChallenge : Action Login.Challenge := do
  match (← readFrame).findSome? challenge? with
  | some challenge => return challenge
  | none => throw .noChallenge

def handshake (world : String) (form : LoginForm) : Action (List ServerMessage) := do
  greet world
  login form (← readChallenge)
  readFrame

end Client

end Gatehouse
