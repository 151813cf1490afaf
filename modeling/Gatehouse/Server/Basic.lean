import Gatehouse.Account.Store
import Gatehouse.Connection.Basic
import Gatehouse.Game.Attach
import Gatehouse.Handlers
import Gatehouse.Roster
import Gatehouse.TaskQueue

/-!
# The server

Everything that connections and game tasks share, and the calls on a connection that reach beyond
it.
-/

namespace Gatehouse

structure HandlerCall where
  connection : ConnectionId
  opcode : UInt8
  session : SessionHandle
  rest : Octets
  deriving DecidableEq, Repr

structure Server where
  config : Config
  key : Rsa.Key
  store : AccountStore
  state : WorldState
  handlers : HandlerTable
  pool : BufferPool
  roster : Roster
  game : Game
  tasks : TaskQueue GameTask
  /-- In the order of their numbers, which start at one. -/
  connections : List Connection
  replies : List (Caller × Reply)
  /-- The messages that handlers have got, the latest first. -/
  calls : List HandlerCall
  shutdown : Bool

namespace Server

def start (config : Config) (key : Rsa.Key) (state : WorldState) (world : World)
    (handlers : HandlerTable) (poolCapacity : Nat) : Server :=
  { config, key, store := .ofAccounts config.accounts, state, handlers
    pool := .ofCapacity poolCapacity, roster := .empty, game := { Game.empty with world }
    tasks := .empty, connections := [], replies := [], calls := [], shutdown := false }

def connection? (s : Server) (id : ConnectionId) : Option Connection :=
  s.connections.find? (·.id == id)

def isOpen (s : Server) (id : ConnectionId) : Bool :=
  match s.connection? id with
  | some c => c.isOpen
  | none => false

def modify (s : Server) (id : ConnectionId) (f : Connection → Connection) : Server :=
  { s with connections := s.connections.map fun c => if c.id == id then f c else c }

def onOutlet (id : ConnectionId) (absent : α) (f : Outlet → α × Outlet) (s : Server) : α × Server :=
  match s.connection? id with
  | none => (absent, s)
  | some c =>
    let (result, o) := f { connection := c, pool := s.pool }
    (result, { s.modify id fun _ => o.connection with pool := o.pool })

/-- A new connection, which is lost at once if the server stops. -/
def accept (peer : SocketAddress) (s : Server) : ConnectionId × Server :=
  let id := s.connections.length + 1
  let c := { Connection.new id peer with shutdown := s.shutdown }
  (id, { s with connections := s.connections ++ [c] })

def enqueue (id : ConnectionId) (message : Octets) (s : Server) : Bool × Server :=
  s.onOutlet id false (Outlet.enqueue message)

def flush (id : ConnectionId) (s : Server) : Bool × Server :=
  s.onOutlet id false Outlet.flush

/-- Queues bytes in a buffer of their own. Bytes that do not fit are left out. -/
def enqueueBuffer (id : ConnectionId) (bs : Octets) (s : Server) : Bool × Server :=
  s.onOutlet id false fun o =>
    let (b, pool) := o.pool.acquire
    let b := { b with buffer := (b.buffer.append? bs).getD b.buffer }
    Outlet.enqueueBuffer b { o with pool }

def post (task : GameTask) (s : Server) : Bool × Server :=
  let (posted, tasks) := s.tasks.post task
  (posted, { s with tasks })

/-- Closes a connection: queued frames may still go out, its session is detached by a game task. -/
def close (id : ConnectionId) (s : Server) : Server :=
  match s.onOutlet id none Outlet.shut with
  | (none, s) => s
  | (some farewell, s) =>
    let s := s.modify id Connection.notify
    let s := { s with roster := s.roster.remove id }
    match farewell.session? with
    | none => s
    | some session => (s.post (.detach session.id id)).2

def closeWith (id : ConnectionId) (text : String) (s : Server) : Server :=
  if s.isOpen id then (s.enqueue id (Wire.ServerMessage.loginError text).encode).2.close id else s

def cutOff (id : ConnectionId) (s : Server) : Server :=
  s.modify id fun c => { c with shutdown := true }

def abort (id : ConnectionId) (s : Server) : Server :=
  (s.close id).cutOff id

/-- Flushes the open connections of the roster and counts those that had something to send. -/
def flushAll (s : Server) : Nat × Server :=
  let roster := s.roster.tick s.isOpen
  roster.members.foldl
    (fun (count, s) id =>
      let (sent, s) := s.flush id
      (if sent then count + 1 else count, s))
    (0, { s with roster })

def stop (s : Server) : Server :=
  { s with
    shutdown := true
    connections := s.connections.map fun c => { c with shutdown := true } }

def perform (id : ConnectionId) (effect : Effect) (s : Server) : Server :=
  match effect with
  | .send message => (s.enqueue id message).2
  | .close => s.close id
  | .closeWith text => s.closeWith id text
  | .abort => s.abort id
  | .post task => (s.post task).2

def performAll (id : ConnectionId) (effects : List Effect) (s : Server) : Server :=
  effects.foldl (fun s effect => s.perform id effect) s

end Server

end Gatehouse
