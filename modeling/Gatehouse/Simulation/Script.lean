import Gatehouse.Simulation.Attempt
import Gatehouse.Simulation.Run

/-!
# Scripts

What can be done to a simulated server from outside, one command at a time. After a command everything
settles, unless the next one is to follow at once.
-/

namespace Gatehouse.Simulation

open Wire

inductive Command where
  | connect (peer : SocketAddress) (capacity : Nat)
  | send (id : ConnectionId) (bs : Octets)
  /-- The last `withheld` bytes of the frame are kept for later. -/
  | login (id : ConnectionId) (attempt : Attempt) (withheld : Nat)
  | sendWithheld (id : ConnectionId)
  /-- A sealed frame, with the key of the last login if none is given. -/
  | frame (id : ConnectionId) (payload : Octets) (key? : Option Xtea.Words) (mode : ChecksumMode)
      (sequence : UInt32)
  | finishSending (id : ConnectionId)
  | drop (id : ConnectionId)
  | hold (id : ConnectionId) (held : Bool)
  | advance (ms : Nat)
  | enqueue (id : ConnectionId) (bs : Octets)
  | enqueueBuffer (id : ConnectionId) (bs : Octets)
  | flush (id : ConnectionId)
  | close (id : ConnectionId)
  | closeWith (id : ConnectionId) (text : String)
  | abort (id : ConnectionId)
  | flushAll
  | joinRoster (id : ConnectionId)
  | leaveRoster (id : ConnectionId)
  | setState (state : WorldState)
  | banIp (ip : IpAddress) (ban : Ban)
  | banAccount (id : AccountId) (ban : Ban)
  | namelock (id : CharacterId)
  | block (p : Position)
  | removeTile (p : Position)
  | whereIs (id : CharacterId)
  | setDead (id : SessionId) (dead : Bool)
  | removeSession (id : SessionId)
  | attach (request : AttachRequest)
  | stopGame
  | stop

inductive Answer where
  | nothing
  | connected (id : ConnectionId) (peer : SocketAddress)
  | sent (s : Sent)
  | flag (b : Bool)
  | count (n : Nat)
  | state (state : WorldState)
  | place (p? : Option Position)
  /-- The number under which the outcome will come. -/
  | requested (number : Nat)

structure Trial where
  state : State
  publicKey : Rsa.Key
  /-- The cipher key of the last login of each client, and the bytes that it withheld. -/
  logins : List (ConnectionId × Xtea.Words × Octets)
  calls : Nat

namespace Trial

/-- A client that has no challenge yet answers zeros. -/
def challengeOf (t : Trial) (id : ConnectionId) : Login.Challenge :=
  ((t.state.line? id).bind (·.client.challenge?)).getD ⟨0, 0⟩

def keyOf (t : Trial) (id : ConnectionId) : Xtea.Words :=
  match t.logins.lookup id with
  | some (key, _) => key
  | none => ⟨1, 2, 3, 4⟩

def withheldOf (t : Trial) (id : ConnectionId) : Octets :=
  match t.logins.lookup id with
  | some (_, bs) => bs
  | none => []

def send (wait : Bool) (id : ConnectionId) (bs : Octets) (t : Trial) : Answer × Trial :=
  let (sent, state) := t.state.send wait id bs
  (.sent sent, { t with state })

/-- Posts a task that looks for a session, and tells what it found if it ran. -/
def call (wait : Bool) (task : Caller → GameTask) (t : Trial) : Answer × Trial :=
  let state := t.state.call t.calls task
  let state := if wait then state.settle else state
  let answer := match state.results.lookup t.calls with
    | some (.found b) => .flag b
    | _ => .nothing
  (answer, { t with state, calls := t.calls + 1 })

def change (f : Server → Server) (t : Trial) : Answer × Trial :=
  (.nothing, { t with state := t.state.changeServer f })

def ask (f : Server → Bool × Server) (t : Trial) : Answer × Trial :=
  let (b, state) := t.state.onServer f
  (.flag b, { t with state })

def changeStore (f : AccountStore → AccountStore) (t : Trial) : Answer × Trial :=
  t.change fun s => { s with store := f s.store }

def changeWorld (f : World → World) (t : Trial) : Answer × Trial :=
  t.change fun s => { s with game := { s.game with world := f s.game.world } }

def changeRoster (f : Roster → Roster) (t : Trial) : Answer × Trial :=
  t.change fun s => { s with roster := f s.roster }

/-- Carries out a command; everything that it sets off comes later. -/
def perform (wait : Bool) (command : Command) (t : Trial) : Answer × Trial :=
  let set (state : State) : Answer × Trial := (.nothing, { t with state })
  match command with
  | .connect peer capacity =>
    let (id, state) := t.state.connect peer capacity
    (.connected id peer, { t with state })
  | .send id bs => t.send wait id bs
  | .login id attempt withheld =>
    let frame := attempt.frame t.publicKey (t.challengeOf id)
    let n := frame.length - withheld
    { t with logins := (id, attempt.key, frame.drop n) :: t.logins }.send wait id (frame.take n)
  | .sendWithheld id =>
    { t with logins := (id, t.keyOf id, []) :: t.logins }.send wait id (t.withheldOf id)
  | .frame id payload key? mode sequence =>
    let buffer := (FrameBuffer.empty.append? payload).getD .empty
    let key := Xtea.Key.ofWords (key?.getD (t.keyOf id))
    t.send wait id (buffer.sealEncrypted key mode sequence).1
  | .finishSending id => set (t.state.finishSending id)
  | .drop id => set (t.state.dropClient id)
  | .hold id held => set (t.state.hold id held)
  | .advance ms => set (t.state.advance ms)
  | .enqueue id bs => t.ask (Server.enqueue id bs)
  | .enqueueBuffer id bs => t.ask (Server.enqueueBuffer id bs)
  | .flush id => t.ask (Server.flush id)
  | .close id => t.change (Server.close id)
  | .closeWith id text => t.change (Server.closeWith id text)
  | .abort id => t.change (Server.abort id)
  | .flushAll =>
    let (n, state) := t.state.onServer Server.flushAll
    (.count n, { t with state })
  | .joinRoster id => t.changeRoster (·.add id)
  | .leaveRoster id => t.changeRoster (·.remove id)
  | .setState state => (.state state, (t.change fun s => { s with state }).2)
  | .banIp ip ban => t.changeStore (·.banIp ip ban)
  | .banAccount id ban => t.changeStore (·.banAccount id ban)
  | .namelock id => t.changeStore (·.namelock id)
  | .block p => t.changeWorld (·.block p)
  | .removeTile p => t.changeWorld (·.removeTile p)
  | .whereIs id => (.place (t.state.server.game.world.positionOf id), t)
  | .setDead id dead => t.call wait fun caller => .setDead id dead (some caller)
  | .removeSession id => t.call wait fun caller => .removeSession id (some caller)
  | .attach request =>
    (.requested t.calls,
      { t with state := t.state.request t.calls request, calls := t.calls + 1 })
  | .stopGame => set t.state.stopGame
  | .stop => set t.state.stop

def run (wait : Bool) (command : Command) (t : Trial) : Answer × Trial :=
  let (answer, t) := t.perform wait command
  (answer, if wait then { t with state := t.state.settle } else t)

end Trial

/-! ## Handlers to try things out with -/

namespace Probe

def record : Handler := fun _ r => (r, [])

def echo : Handler := fun _ r => (r, [.send r.unread])

def say : Handler := fun _ r =>
  let (text, r) := Read.text r
  (r, [.send (ServerMessage.loginError text).encode])

def closeWith : Handler := fun _ r =>
  let (text, r) := Read.text r
  (r, [.closeWith text])

def kill : Handler := fun _ r => (r, [.abort])

def die : Handler := fun session r => (r, [.post (.setDead session.id true none)])

end Probe

end Gatehouse.Simulation
