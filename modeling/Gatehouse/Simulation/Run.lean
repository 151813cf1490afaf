import Gatehouse.Simulation.Basic

/-!
# Running the simulation

Tasks run until nothing can go on without time passing, and clients read what arrives. Time then
passes from deadline to deadline.
-/

namespace Gatehouse.Simulation

open Wire

namespace Client

def new : Client :=
  { held := false, dropped := false, part := [], frames := [], atEnd := false, challenge? := none }

instance : Inhabited Client := ⟨new⟩

/-- The challenge in a plain frame that holds nothing else. -/
def challengeOf? (frame : Octets) : Option Login.Challenge :=
  match (ServerMessage.readAll ((FrameReader.ofFrame frame).seek 6)).1 with
  | [.challenge timestamp random] =>
    if (frame.drop 2).take 4 = [0, 0, 0, 0] then some { timestamp, random } else none
  | _ => none

/-- The first frame of a stream, if it is complete, and what follows it. -/
def splitFrame? (bs : Octets) : Option (Octets × Octets) := do
  let (head, _) ← Octets.split? headerLength bs
  Octets.split? (headerLength + Octets.ofLittleEndian head) bs

/-- Cuts a stream into frames, the latest first, and what is left of it. -/
def cut (frames : List Octets) : (fuel : Nat) → Octets → List Octets × Octets
  | 0, bs => (frames, bs)
  | fuel + 1, bs =>
    match splitFrame? bs with
    | none => (frames, bs)
    | some (frame, rest) => cut (frame :: frames) fuel rest

def receive (c : Client) (bs : Octets) : Client :=
  let bs := c.part ++ bs
  let (frames, part) := cut [] bs.length bs
  { c with
    part, frames := frames ++ c.frames
    challenge? := (frames.findSome? challengeOf?).or c.challenge? }

end Client

namespace Line

def clientReady (l : Line) : Bool :=
  !l.client.held && !l.client.dropped &&
    (!l.outward.content.isEmpty || (l.outward.writerGone && !l.client.atEnd))

def clientRead (l : Line) : Line :=
  let (bs, outward) := l.outward.read l.outward.content.length
  { l with outward, client := { l.client.receive bs with atEnd := outward.writerGone } }

end Line

inductive Sent where
  | all
  | broken
  | dropped
  /-- The pipe stayed full, and so many bytes were left. -/
  | left (n : Nat)
  deriving DecidableEq, Repr

namespace State

def clientsRead (s : State) : State :=
  { s with lines := s.lines.map fun l => if l.clientReady then l.clientRead else l }

/-- Runs tasks, and lets clients read, until nothing can go on or the fuel is used up. -/
def settleWith : (fuel : Nat) → State → State
  | 0, s => s
  | fuel + 1, s =>
    match s.queue with
    | t :: queue =>
      if s.isReady t then settleWith fuel (s.step t).lineUp
      else settleWith fuel { s with queue }
    | [] =>
      if s.lines.any Line.clientReady then settleWith fuel s.clientsRead.lineUp else s

/-- More steps than any run takes between two moments. -/
def patience : Nat := 1000000000

def settle (s : State) : State :=
  settleWith patience s.lineUp

/-! ## Time -/

def nextDeadline? (s : State) : Option Nat :=
  (s.lines.flatMap (fun l => l.reader.deadline?.toList ++ l.writer.deadline?.toList) ++
    s.server.tasks.nextDue?.toList ++ s.ticker.deadline?.toList).min?

def passTo (target : Nat) : (fuel : Nat) → State → State
  | 0, s => s
  | fuel + 1, s =>
    match s.nextDeadline? with
    | none => { s with now := target }
    | some deadline =>
      if target < deadline then { s with now := target }
      else passTo target fuel { s with now := deadline }.settle

def advance (s : State) (ms : Nat) : State :=
  passTo (s.now + ms) patience s.settle

/-! ## What happens from outside -/

def connect (s : State) (peer : SocketAddress) (capacity : Nat) : ConnectionId × State :=
  let (id, server) := s.server.accept peer
  let line : Line :=
    { id, reader := .start, writer := .looking
      inward := .ofCapacity capacity, outward := .ofCapacity capacity, client := .new }
  (id, { s with server, lines := s.lines ++ [line] }.lineUp)

/-- A client writes; with `wait` the server runs whenever the pipe is full. -/
def sendWith (wait : Bool) (id : ConnectionId) : (fuel : Nat) → Octets → State → Sent × State
  | 0, bs, s => (.left bs.length, s)
  | fuel + 1, bs, s =>
    match s.line? id with
    | none => (.dropped, s)
    | some l =>
      if l.client.dropped then (.dropped, s)
      else if bs.isEmpty then (.all, s)
      else if l.inward.isBroken then (.broken, s)
      else if l.inward.free = 0 then (.left bs.length, s)
      else
        let (rest, inward) := l.inward.write bs
        let s := (s.modifyLine id fun l => { l with inward }).lineUp
        if wait then sendWith wait id fuel rest s.settle
        else if rest.isEmpty then (.all, s)
        else (.left rest.length, s)

def send (s : State) (wait : Bool) (id : ConnectionId) (bs : Octets) : Sent × State :=
  s.sendWith wait id (bs.length + 1) bs

def finishSending (s : State) (id : ConnectionId) : State :=
  (s.modifyLine id fun l => { l with inward := l.inward.closeWriter }).lineUp

def dropClient (s : State) (id : ConnectionId) : State :=
  (s.modifyLine id fun l =>
    { l with
      inward := l.inward.closeWriter
      outward := l.outward.closeReader
      client := { l.client with dropped := true } }).lineUp

def hold (s : State) (id : ConnectionId) (held : Bool) : State :=
  s.modifyLine id fun l => { l with client := { l.client with held } }

def onServer (s : State) (f : Server → α × Server) : α × State :=
  let (result, server) := f s.server
  (result, { s with server }.lineUp)

def changeServer (s : State) (f : Server → Server) : State :=
  { s with server := f s.server }.lineUp

/-- A request that does not come from a login starts on its way. -/
def request (s : State) (number : Nat) (request : AttachRequest) : State :=
  let console : Console := { number, request? := some request }
  { s with consoles := s.consoles ++ [console] }.lineUp

/-- A task with a caller is posted from outside; nothing is posted once the game has stopped. -/
def call (s : State) (number : Nat) (task : Caller → GameTask) : State :=
  let (posted, server) := s.server.post (task (.console number))
  let s := { s with server }
  let console : Console := { number, request? := none }
  if posted then { s with consoles := s.consoles ++ [console] }.lineUp
  else { s with results := (number, .stopped) :: s.results }

def stopGame (s : State) : State :=
  (if s.game = .running then { s with game := .cancelled } else s).lineUp

def stop (s : State) : State :=
  s.changeServer Server.stop

/-- Takes the frames that clients have got, the handler calls and the results of consoles, so that
only new ones come next time. -/
def clearNews (s : State) : State :=
  { s with
    lines := s.lines.map fun l => { l with client := { l.client with frames := [] } }
    server := { s.server with calls := [] }
    results := [] }

end State

end Gatehouse.Simulation
