import Gatehouse.Octets

/-!
# Pipes

A bounded stream of bytes in one direction. Either end may be closed: without a writer the bytes that
are left can still be read, without a reader nothing can be written.
-/

namespace Gatehouse

structure Pipe where
  content : Octets
  capacity : Nat
  writerGone : Bool
  readerGone : Bool
  deriving DecidableEq, Repr

namespace Pipe

def ofCapacity (capacity : Nat) : Pipe :=
  { content := [], capacity, writerGone := false, readerGone := false }

def free (p : Pipe) : Nat :=
  p.capacity - p.content.length

def isBroken (p : Pipe) : Bool :=
  p.writerGone || p.readerGone

def isReadable (p : Pipe) : Bool :=
  !p.content.isEmpty || p.writerGone

def write (p : Pipe) (bs : Octets) : Octets × Pipe :=
  let n := p.free
  (bs.drop n, { p with content := p.content ++ bs.take n })

def read (p : Pipe) (n : Nat) : Octets × Pipe :=
  (p.content.take n, { p with content := p.content.drop n })

def closeWriter (p : Pipe) : Pipe :=
  { p with writerGone := true }

def closeReader (p : Pipe) : Pipe :=
  { p with readerGone := true }

end Pipe

end Gatehouse
