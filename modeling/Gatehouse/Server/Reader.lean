import Gatehouse.Server.Steady

/-!
# The reader of a connection

It waits for the greeting, for the bytes of a header or body, for the game, or for the end of a
stalled connection. Waiting phases carry their deadlines.
-/

namespace Gatehouse

inductive Stage where
  | login
  | steady
  deriving DecidableEq, Repr

inductive Part where
  | header
  | body
  deriving DecidableEq, Repr

inductive ReaderPhase where
  | greeting
  /-- Fills the store of the frame from `start` up to `stop`. -/
  | filling (stage : Stage) (part : Part) (start stop : Nat) (deadline? : Option Nat)
  | attaching
  | stalled (deadline : Nat)
  | ended
  deriving DecidableEq, Repr

structure Reader where
  phase : ReaderPhase
  frame : Wire.FrameReader

namespace Reader

def start : Reader :=
  { phase := .greeting, frame := .empty }

instance : Inhabited Reader := ⟨start⟩

def fillHeader (stage : Stage) (deadline? : Option Nat) : ReaderPhase :=
  .filling stage .header 0 Wire.headerLength deadline?

def fillBody (stage : Stage) (frame : Wire.FrameReader) (deadline : Nat) : ReaderPhase :=
  .filling stage .body Wire.headerLength frame.length (some deadline)

/-- In milliseconds, as the read timeout. -/
def loginTimeout (config : Config) : Nat := 1000 * config.loginTimeout

def readTimeout (config : Config) : Nat := 1000 * config.readTimeout

def deadline? (r : Reader) : Option Nat :=
  match r.phase with
  | .filling _ _ _ _ deadline? => deadline?
  | .stalled deadline => some deadline
  | .greeting | .attaching | .ended => none

def demand (r : Reader) : Nat :=
  match r.phase with
  | .greeting => Wire.greetingLength
  | .filling _ _ start stop _ => stop - start
  | .attaching | .stalled _ | .ended => 0

def complete (id : ConnectionId) (now : Nat) (stage : Stage) (part : Part) :
    Talking ReaderPhase := do
  let config := (← Talking.server).config
  match stage, part with
  | .login, .header =>
    Handshake.declareLogin id
    return fillBody .login (← Talking.frame) (now + loginTimeout config)
  | .login, .body =>
    match (← Talking.server).connection? id with
    | none => throw .closed
    | some c =>
      let request ← Handshake.judge id c.peer
      if ← Talking.onServer (·.post (.attach request (.connection id))) then return .attaching
      else throw .abort
  | .steady, .header =>
    Steady.declare id
    return fillBody .steady (← Talking.frame) (now + readTimeout config)
  | .steady, .body =>
    Steady.handle id
    Talking.changeFrame (·.reset)
    return fillHeader .steady (some (now + readTimeout config))

/-- Bytes have come, at least one and at most as many as the reader would take. -/
def receive (id : ConnectionId) (now : Nat) (challenge : Login.Challenge) (phase : ReaderPhase)
    (bs : Octets) : Talking ReaderPhase := do
  match phase with
  | .greeting =>
    Talking.changeFrame (·.writeBody bs)
    Handshake.greet id challenge bs.length
    return fillHeader .login none
  | .filling stage part start stop deadline? =>
    Talking.changeFrame (·.write start bs)
    if start + bs.length < stop then
      return .filling stage part (start + bs.length) stop deadline?
    else complete id now stage part
  | .attaching | .stalled _ | .ended => return phase

def answered (id : ConnectionId) (now : Nat) (r : Reply) : Talking ReaderPhase := do
  Talking.changeServer (·.takeReply (.connection id))
  Handshake.enter id r
  Talking.changeFrame (·.reset)
  return fillHeader .steady (some (now + readTimeout (← Talking.server).config))

/-- What a reader that stops does to its connection. A stalled one waits first. -/
def finish (id : ConnectionId) (now : Nat) (halt : Halt) (s : Server) : ReaderPhase × Server :=
  match halt with
  | .transport | .abort | .violation _ => (.ended, s.abort id)
  | .rejected reason => (.ended, s.closeWith id reason.message)
  | .closed => (.ended, s.close id)
  | .stalled => (.stalled (now + readTimeout s.config), s)

def run (id : ConnectionId) (now : Nat) (step : Talking ReaderPhase) (r : Reader) (s : Server) :
    Reader × Server :=
  let (result, t) := (ExceptT.run step).run { server := s, frame := r.frame }
  let (phase, server) := match result with
    | .ok phase => (phase, t.server)
    | .error halt => finish id now halt t.server
  ({ phase, frame := t.frame }, server)

end Reader

inductive WriterPhase where
  | looking
  | parked
  | writing (frame rest : Octets) (deadline : Nat)
  | finishing
  | ended
  deriving DecidableEq, Repr

def WriterPhase.deadline? : WriterPhase → Option Nat
  | .writing _ _ deadline => some deadline
  | .looking | .parked | .finishing | .ended => none

/-- Looks at the queue: there is a frame to write, or nothing more will come, or the writer parks. -/
def WriterPhase.look (c : Connection) (deadline : Nat) : WriterPhase :=
  match c.queue with
  | frame :: _ => .writing frame frame deadline
  | [] => if c.disconnected then .finishing else .parked

end Gatehouse
