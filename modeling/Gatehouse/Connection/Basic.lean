import Gatehouse.BufferPool
import Gatehouse.Login.Request
import Gatehouse.Net.Address
import Gatehouse.Session.Basic

/-!
# Connections

The state of a connection that its tasks share, and its way out: messages are gathered in a buffer,
buffers are sealed into frames, and frames wait in a queue for the writer. Closing seals what is
there and refuses the rest.
-/

namespace Gatehouse

structure Connection where
  id : ConnectionId
  peer : SocketAddress
  current? : Option PooledBuffer
  /-- Sealed frames, the one that is being written first. -/
  queue : List Octets
  key? : Option Xtea.Key
  mode : ChecksumMode
  sendSequence : UInt32
  challenge? : Option Login.Challenge
  session? : Option SessionHandle
  disconnected : Bool
  /-- Whether the transport has been given up. -/
  shutdown : Bool
  /-- Whether the writer has been told to look at the queue since it last did. -/
  wake : Bool
  framesQueued : Nat
  framesSent : Nat
  bytesSent : Nat

namespace Connection

def new (id : ConnectionId) (peer : SocketAddress) : Connection :=
  { id, peer, current? := none, queue := [], key? := none, mode := .adler, sendSequence := 0
    challenge? := none, session? := none, disconnected := false, shutdown := false, wake := false
    framesQueued := 0, framesSent := 0, bytesSent := 0 }

def isOpen (c : Connection) : Bool :=
  !c.disconnected

def pendingBytes (c : Connection) : Nat :=
  match c.current? with
  | some b => b.buffer.size
  | none => 0

def installKey (c : Connection) (key : Xtea.Key) (mode : ChecksumMode) : Connection :=
  { c with key? := some key, mode }

def setSession (c : Connection) (session : SessionHandle) : Bool × Connection :=
  if c.disconnected then (false, c) else (true, { c with session? := some session })

def notify (c : Connection) : Connection :=
  { c with wake := true }

/-- Frames are plain as long as there is no key. With a key they are counted from one. -/
def sealFrame (c : Connection) (b : Wire.FrameBuffer) : Octets × Wire.FrameBuffer × Connection :=
  match c.key? with
  | none =>
    let (frame, b) := b.sealPlain
    (frame, b, c)
  | some key =>
    let c := { c with sendSequence := c.sendSequence + 1 }
    let (frame, b) := b.sealEncrypted key c.mode c.sendSequence
    (frame, b, c)

/-- Puts a frame behind the others. The writer is told if there were none. -/
def push (c : Connection) (frame : Octets) : Connection :=
  let wasIdle := c.queue.isEmpty
  let c := { c with queue := c.queue ++ [frame], framesQueued := c.framesQueued + 1 }
  if wasIdle then c.notify else c

def frameSent (c : Connection) : Connection :=
  match c.queue with
  | [] => c
  | frame :: queue =>
    { c with queue, framesSent := c.framesSent + 1, bytesSent := c.bytesSent + frame.length }

end Connection

/-- A connection together with the pool that its buffers come from. -/
structure Outlet where
  connection : Connection
  pool : BufferPool

namespace Outlet

def queueBuffer (o : Outlet) (b : PooledBuffer) : Outlet :=
  let (frame, buffer, c) := o.connection.sealFrame b.buffer
  { connection := c.push frame, pool := o.pool.release { b with buffer } }

/-- Queues the current buffer. An empty one is given back without a frame. -/
def finalize (o : Outlet) : Bool × Outlet :=
  match o.connection.current? with
  | none => (false, o)
  | some b =>
    let o := { o with connection := { o.connection with current? := none } }
    if b.buffer.isEmpty then (false, { o with pool := o.pool.release b })
    else (true, o.queueBuffer b)

def current (o : Outlet) : PooledBuffer × BufferPool :=
  match o.connection.current? with
  | some b => (b, o.pool)
  | none => o.pool.acquire

/-- Adds a message to the current buffer, of which the frame is queued first if the message does not
fit. -/
def enqueue (bs : Octets) (o : Outlet) : Bool × Outlet :=
  if Wire.maxPayload < bs.length ∨ o.connection.disconnected then (false, o)
  else
    let isFull := match o.connection.current? with
      | some b => !b.buffer.fits bs.length
      | none => false
    let o := if isFull then o.finalize.2 else o
    let (b, pool) := o.current
    match b.buffer.append? bs with
    | some buffer =>
      let b := { b with buffer }
      (true, { connection := { o.connection with current? := some b }, pool })
    | none => (false, { connection := { o.connection with current? := some b }, pool })

/-- Queues a buffer of its own behind the current one, and gives it back in any case. -/
def enqueueBuffer (b : PooledBuffer) (o : Outlet) : Bool × Outlet :=
  if o.connection.disconnected ∨ b.buffer.isEmpty then
    (false, { o with pool := o.pool.release b })
  else (true, o.finalize.2.queueBuffer b)

def flush (o : Outlet) : Bool × Outlet :=
  if o.connection.disconnected then (false, o) else o.finalize

/-- What closing takes away from a connection that was open. -/
structure Farewell where
  session? : Option SessionHandle
  deriving DecidableEq, Repr

/-- The part of closing that happens at once: the current buffer is queued, the session is taken out
and the connection is marked. Nothing happens a second time. -/
def shut (o : Outlet) : Option Farewell × Outlet :=
  if o.connection.disconnected then (none, o)
  else
    let o := o.finalize.2
    (some ⟨o.connection.session?⟩,
      { o with connection := { o.connection with disconnected := true, session? := none } })

end Outlet

end Gatehouse
