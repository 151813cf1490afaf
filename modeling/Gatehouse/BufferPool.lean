import Gatehouse.Wire.FrameBuffer

/-!
# The buffer pool

Frame buffers are lent out and come back. A pool without free buffers makes a new one, and a full
pool lets a returned one go.
-/

namespace Gatehouse

/-- A buffer on loan, with its number in the order of making. -/
structure PooledBuffer where
  serial : Nat
  buffer : Wire.FrameBuffer
  deriving DecidableEq, Repr

structure BufferPool where
  /-- How many free buffers are kept. -/
  capacity : Nat
  /-- The buffer that has been free for longest stands first. -/
  free : List PooledBuffer
  allocated : Nat

namespace BufferPool

def ofCapacity (capacity : Nat) : BufferPool :=
  { capacity := max capacity 1, free := [], allocated := 0 }

def available (pool : BufferPool) : Nat :=
  pool.free.length

def acquire (pool : BufferPool) : PooledBuffer × BufferPool :=
  match pool.free with
  | b :: free => (b, { pool with free })
  | [] => (⟨pool.allocated, .empty⟩, { pool with allocated := pool.allocated + 1 })

def release (pool : BufferPool) (b : PooledBuffer) : BufferPool :=
  if pool.free.length < pool.capacity then
    { pool with free := pool.free ++ [{ b with buffer := b.buffer.clear }] }
  else pool

end BufferPool

/-- A pool and the buffers that it has lent out, by the number of the loan. -/
structure Lending where
  pool : BufferPool
  loans : List (Nat × PooledBuffer)
  lent : Nat

namespace Lending

def ofCapacity (capacity : Nat) : Lending :=
  { pool := .ofCapacity capacity, loans := [], lent := 0 }

def acquire (l : Lending) : Nat × Lending :=
  let (b, pool) := l.pool.acquire
  (l.lent, { pool, loans := (l.lent, b) :: l.loans, lent := l.lent + 1 })

def loan? (l : Lending) (n : Nat) : Option PooledBuffer :=
  l.loans.lookup n

def set (l : Lending) (n : Nat) (buffer : Wire.FrameBuffer) : Lending :=
  { l with loans := l.loans.map fun (k, b) => (k, if k = n then { b with buffer } else b) }

def append (l : Lending) (n : Nat) (bs : Octets) : Bool × Lending :=
  match (l.loan? n).bind (·.buffer.append? bs) with
  | some buffer => (true, l.set n buffer)
  | none => (false, l)

def drop (l : Lending) (n : Nat) : Lending :=
  match l.loan? n with
  | none => l
  | some b => { l with pool := l.pool.release b, loans := l.loans.filter (·.1 != n) }

end Lending

end Gatehouse
