import Gatehouse.Server.Reader
import Gatehouse.Simulation.Pipe

/-!
# A server in simulated time

The tasks of a server with clients at the other end of pipes. The clock stands still while tasks run.
A task runs until it has to wait; those that can go on are served in the order in which that became
so.
-/

namespace Gatehouse.Simulation

open Wire

structure Client where
  held : Bool
  dropped : Bool
  part : Octets
  /-- Complete frames that nobody has taken yet, the latest first. -/
  frames : List Octets
  atEnd : Bool
  challenge? : Option Login.Challenge

structure Line where
  id : ConnectionId
  reader : Reader
  writer : WriterPhase
  inward : Pipe
  outward : Pipe
  client : Client

structure Console where
  number : Nat
  /-- Nothing once it has been posted. -/
  request? : Option AttachRequest

inductive TaskId where
  | writer (id : ConnectionId)
  | reader (id : ConnectionId)
  | game
  | timer
  | ticker
  | console (number : Nat)
  deriving DecidableEq, Repr

inductive GamePhase where
  | running
  | cancelled
  | finished
  deriving DecidableEq, Repr

structure State where
  server : Server
  lines : List Line
  game : GamePhase
  ticker : TickerPhase
  consoles : List Console
  /-- Results of consoles that nobody has taken yet, the latest first. -/
  results : List (Nat × Reply)
  now : Nat
  queue : List TaskId

def challenge : Login.Challenge :=
  { timestamp := 1700000000, random := 77 }

def State.start (server : Server) (ticking : Bool) : State :=
  { server, lines := [], game := .running
    ticker := if ticking then .testing else .finished
    consoles := [], results := [], now := 0, queue := [] }

namespace State

def line? (s : State) (id : ConnectionId) : Option Line :=
  s.lines.find? (·.id == id)

def modifyLine (s : State) (id : ConnectionId) (f : Line → Line) : State :=
  { s with lines := s.lines.map fun l => if l.id == id then f l else l }

def hasPassed (s : State) : Option Nat → Bool
  | some deadline => deadline ≤ s.now
  | none => false

def isCutOff (s : State) (id : ConnectionId) : Bool :=
  match s.server.connection? id with
  | some c => c.shutdown
  | none => true

/-! ## Which tasks can go on -/

def readerReady (s : State) (l : Line) : Bool :=
  match l.reader.phase with
  | .ended => false
  | .greeting => l.inward.isReadable || s.isCutOff l.id
  | .filling _ _ _ _ deadline? => l.inward.isReadable || s.hasPassed deadline? || s.isCutOff l.id
  | .attaching => (s.server.reply? (.connection l.id)).isSome || s.isCutOff l.id
  | .stalled deadline => s.hasPassed (some deadline) || s.isCutOff l.id

def writerReady (s : State) (l : Line) : Bool :=
  match l.writer with
  | .ended => false
  | .looking | .finishing => true
  | .parked =>
    s.isCutOff l.id ||
      match s.server.connection? l.id with
      | some c => c.wake
      | none => false
  | .writing _ _ deadline =>
    l.outward.isBroken || 0 < l.outward.free || s.hasPassed (some deadline) || s.isCutOff l.id

def gameReady (s : State) : Bool :=
  match s.game with
  | .running => s.server.shutdown || !s.server.tasks.ready.isEmpty
  | .cancelled => true
  | .finished => false

def tickerReady (s : State) : Bool :=
  match s.ticker with
  | .finished => false
  | .testing => true
  | .parked => s.server.shutdown || s.server.roster.wake
  | .sleeping deadline => s.server.shutdown || s.hasPassed (some deadline)

def consoleReady (s : State) (c : Console) : Bool :=
  c.request?.isSome || (s.server.reply? (.console c.number)).isSome

def timerReady (s : State) : Bool :=
  s.hasPassed s.server.tasks.nextDue?

def isReady (s : State) : TaskId → Bool
  | .writer id => (s.line? id).any s.writerReady
  | .reader id => (s.line? id).any s.readerReady
  | .game => s.gameReady
  | .timer => s.timerReady
  | .ticker => s.tickerReady
  | .console n => (s.consoles.find? (·.number == n)).any s.consoleReady

def ready (s : State) : List TaskId :=
  s.lines.flatMap (fun l =>
      (if s.writerReady l then [.writer l.id] else []) ++
        (if s.readerReady l then [.reader l.id] else [])) ++
    (if s.gameReady then [.game] else []) ++ (if s.timerReady then [.timer] else []) ++
    (if s.tickerReady then [.ticker] else []) ++
    (s.consoles.filter s.consoleReady).map fun c => .console c.number

def lineUp (s : State) : State :=
  { s with queue := s.queue ++ s.ready.filter fun t => !s.queue.contains t }

/-! ## Steps of the tasks -/

/-- A reader that ends leaves its end of the stream; without a writer, too, the stream is gone. -/
def dropStream (l : Line) : Line :=
  if l.reader.phase = .ended ∧ l.writer = .ended then
    { l with inward := l.inward.closeReader, outward := l.outward.closeWriter }
  else l

def runReader (s : State) (id : ConnectionId) (inward : Pipe) (r : Reader)
    (step : Talking ReaderPhase) : State :=
  let (reader, server) := r.run id s.now step s.server
  { s with server }.modifyLine id fun l => dropStream { l with reader, inward }

def haltReader (s : State) (l : Line) (halt : Halt) : State :=
  s.runReader l.id l.inward l.reader (throw halt)

def readInward (s : State) (l : Line) : State :=
  if l.inward.content.isEmpty then s.haltReader l .transport
  else
    let (bs, inward) := l.inward.read l.reader.demand
    s.runReader l.id inward l.reader (Reader.receive l.id s.now challenge l.reader.phase bs)

def stepReader (s : State) (l : Line) : State :=
  let stop (halt : Halt) := s.haltReader l halt
  match l.reader.phase with
  | .ended => s
  | .greeting => if s.isCutOff l.id then stop .closed else s.readInward l
  | .filling _ _ _ _ _ =>
    if s.isCutOff l.id then stop .closed
    else if l.inward.isReadable then s.readInward l
    else stop .abort
  | .attaching =>
    if s.isCutOff l.id then stop .closed
    else
      match s.server.reply? (.connection l.id) with
      | none => s
      | some r => s.runReader l.id l.inward l.reader (Reader.answered l.id s.now r)
  | .stalled _ => stop .abort

def setWriter (s : State) (id : ConnectionId) (writer : WriterPhase) : State :=
  s.modifyLine id fun l => dropStream { l with writer }

def writeTimeout (s : State) : Nat :=
  1000 * s.server.config.writeTimeout

def failWriter (s : State) (l : Line) : State :=
  { s with server := s.server.abort l.id }.setWriter l.id .finishing

/-- Writes what fits. A frame that is written whole leaves the queue. -/
def writeOutward (s : State) (l : Line) (frame rest : Octets) (deadline : Nat) : State :=
  let (rest, outward) := l.outward.write rest
  let s := s.modifyLine l.id fun l => { l with outward }
  if rest.isEmpty then
    { s with server := s.server.modify l.id Connection.frameSent }.setWriter l.id .looking
  else s.setWriter l.id (.writing frame rest deadline)

def stepWriter (s : State) (l : Line) : State :=
  match l.writer with
  | .ended => s
  | .looking =>
    match s.server.connection? l.id with
    | none => s
    | some c => s.setWriter l.id (.look c (s.now + s.writeTimeout))
  | .parked =>
    if s.isCutOff l.id then s.setWriter l.id .finishing
    else
      { s with server := s.server.modify l.id fun c => { c with wake := false } }.setWriter l.id
        .looking
  | .writing frame rest deadline =>
    if s.isCutOff l.id then s.setWriter l.id .finishing
    else if l.outward.isBroken then s.failWriter l
    else if 0 < l.outward.free then s.writeOutward l frame rest deadline
    else s.failWriter l
  | .finishing =>
    let s := { s with server := s.server.cutOff l.id }
    s.modifyLine l.id fun l =>
      dropStream { l with writer := .ended, outward := l.outward.closeWriter }

def stepGame (s : State) : State :=
  if s.game = .cancelled ∨ s.server.shutdown then
    { s with server := s.server.stopGame, game := .finished }
  else { s with server := s.server.runNext s.now 0 }

def stepTicker (s : State) : State :=
  match s.ticker with
  | .finished => s
  | .testing =>
    { s with ticker := .test s.server.roster s.now s.server.config.flushInterval }
  | .parked =>
    if s.server.shutdown then { s with ticker := .finished }
    else
      let roster := { s.server.roster with wake := false }
      { s with server := { s.server with roster }, ticker := .testing }
  | .sleeping _ =>
    if s.server.shutdown then { s with ticker := .finished }
    else { s with server := s.server.flushAll.2, ticker := .testing }

def finishConsole (s : State) (n : Nat) (r : Reply) : State :=
  { s with
    results := (n, r) :: s.results
    consoles := s.consoles.filter (·.number != n)
    server := s.server.takeReply (.console n) }

def stepConsole (s : State) (c : Console) : State :=
  match c.request? with
  | some request =>
    let (posted, server) := s.server.post (.attach request (.console c.number))
    let s := { s with server }
    if posted then
      { s with consoles := s.consoles.map fun d =>
          if d.number == c.number then { d with request? := none } else d }
    else s.finishConsole c.number .stopped
  | none =>
    match s.server.reply? (.console c.number) with
    | none => s
    | some r => s.finishConsole c.number r

def step (s : State) : TaskId → State
  | .writer id => ((s.line? id).map s.stepWriter).getD s
  | .reader id => ((s.line? id).map s.stepReader).getD s
  | .game => s.stepGame
  | .timer => { s with server := s.server.releaseNext s.now }
  | .ticker => s.stepTicker
  | .console n => ((s.consoles.find? (·.number == n)).map s.stepConsole).getD s

end State

end Gatehouse.Simulation
