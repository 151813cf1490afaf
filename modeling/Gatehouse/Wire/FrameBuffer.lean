import Gatehouse.Checksum
import Gatehouse.Cipher.Xtea
import Gatehouse.Wire.Limits

/-!
# Filling a frame

A payload gathered behind a reserved stretch, which is filled in when the frame is sealed: plain,
with a zero checksum slot, or encrypted.
-/

namespace Gatehouse.Wire

structure FrameBuffer where
  store : Octets
  size : Nat
  deriving DecidableEq, Repr

namespace FrameBuffer

/-- The reserved stretch, a full payload and room for the padding. -/
def capacity : Nat := prefixLength + maxPayload + Xtea.blockLength

def empty : FrameBuffer :=
  { store := Octets.zeros capacity, size := 0 }

instance : Inhabited FrameBuffer := ⟨empty⟩

def isEmpty (b : FrameBuffer) : Bool :=
  b.size == 0

def remaining (b : FrameBuffer) : Nat :=
  maxPayload - b.size

def fits (b : FrameBuffer) (n : Nat) : Bool :=
  n ≤ b.remaining

def payload (b : FrameBuffer) : Octets :=
  b.store.slice prefixLength (prefixLength + b.size)

/-- The payload with `bs` behind it, or nothing if that would be too long. -/
def append? (b : FrameBuffer) (bs : Octets) : Option FrameBuffer :=
  if b.fits bs.length then
    some { store := b.store.overwrite (prefixLength + b.size) bs, size := b.size + bs.length }
  else none

/-- Forgets the payload; the store keeps its bytes. -/
def clear (b : FrameBuffer) : FrameBuffer :=
  { b with size := 0 }

def sealPlain (b : FrameBuffer) : Octets × FrameBuffer :=
  let start := prefixLength - headerLength - checksumLength
  let head := Octets.littleEndian headerLength (checksumLength + b.size) ++
    Octets.zeros checksumLength
  let store := b.store.overwrite start head
  (store.slice start (prefixLength + b.size), { store, size := 0 })

def checksum (mode : ChecksumMode) (sequence : UInt32) (region : Octets) : UInt32 :=
  match mode with
  | .adler => adler32 region
  | .sequence => sequence

def sealEncrypted (key : Xtea.Key) (mode : ChecksumMode) (sequence : UInt32) (b : FrameBuffer) :
    Octets × FrameBuffer :=
  let start := headerLength + checksumLength
  let plainEnd := prefixLength + b.size
  let pad := Xtea.paddingFor (plainEnd - start)
  let stop := plainEnd + pad
  let store := b.store.overwrite start (Octets.littleEndian 2 b.size)
  let store := store.overwrite plainEnd (Octets.zeros pad)
  let region := Xtea.mapBlocks key.encryptBlock (store.slice start stop)
  let sum := checksum mode sequence region
  let head := Octets.littleEndian headerLength (stop - headerLength) ++
    Octets.littleEndian checksumLength sum.toNat
  let store := store.overwrite 0 (head ++ region)
  (store.slice 0 stop, { store, size := 0 })

end FrameBuffer

end Gatehouse.Wire
