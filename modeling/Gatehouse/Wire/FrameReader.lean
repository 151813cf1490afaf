import Gatehouse.Checksum
import Gatehouse.Cipher.Xtea
import Gatehouse.Wire.Limits

/-!
# Reading a frame

A store of fixed size with a cursor and a declared length, both counted from the start of the
header. Reads do not fail: one that would cross the declared length brings nothing and leaves the
cursor where it is.
-/

namespace Gatehouse.Wire

structure FrameReader where
  store : Octets
  position : Nat
  /-- The declared length, header included. -/
  length : Nat
  deriving DecidableEq, Repr

namespace FrameReader

def capacity : Nat := headerLength + maxBody

def empty : FrameReader :=
  { store := Octets.zeros capacity, position := headerLength, length := 0 }

instance : Inhabited FrameReader := ⟨empty⟩

/-- A whole frame, cut off at the capacity. -/
def ofFrame (frame : Octets) : FrameReader :=
  let frame := frame.take capacity
  { store := Octets.overwrite (Octets.zeros capacity) 0 frame
    position := headerLength
    length := frame.length }

def remaining (r : FrameReader) : Nat :=
  r.length - r.position

def isEmpty (r : FrameReader) : Bool :=
  r.length == 0

def unreadEnd (r : FrameReader) : Nat :=
  max r.length r.position

def unread (r : FrameReader) : Octets :=
  r.store.slice r.position r.unreadEnd

def take (n : Nat) (r : FrameReader) : Option Octets × FrameReader :=
  if r.remaining < n then (none, r)
  else (some (r.store.slice r.position (r.position + n)), { r with position := r.position + n })

/-- The number in the next `size` bytes, or zero if fewer are left. -/
def number (size : Nat) (r : FrameReader) : Nat × FrameReader :=
  match r.take size with
  | (some bs, r) => (Octets.ofLittleEndian bs, r)
  | (none, r) => (0, r)

/-- Steps back over `size` bytes and reads them again. -/
def previousNumber (size : Nat) (r : FrameReader) : Nat × FrameReader :=
  if r.position < size then (0, r)
  else
    let position := r.position - size
    (Octets.ofLittleEndian (r.store.slice position r.position), { r with position })

def seek (n : Nat) (r : FrameReader) : FrameReader :=
  { r with position := min n (max r.length headerLength) }

/-- Moves the cursor forward, but not past the declared length. -/
def advance (n : Nat) (r : FrameReader) : FrameReader :=
  { r with position := min (r.position + n) r.unreadEnd }

def truncate (n : Nat) (r : FrameReader) : FrameReader :=
  { r with length := min (n + headerLength) capacity }

/-- Forgets the frame; the store keeps its bytes. -/
def reset (r : FrameReader) : FrameReader :=
  { r with position := headerLength, length := 0 }

def headerValue (r : FrameReader) : UInt16 :=
  UInt16.ofNat (Octets.ofLittleEndian (r.store.slice 0 headerLength))

def write (start : Nat) (bs : Octets) (r : FrameReader) : FrameReader :=
  { r with store := r.store.overwrite start (bs.take (capacity - start)) }

def writeHeader (bs : Octets) (r : FrameReader) : FrameReader :=
  r.write 0 (bs.take headerLength)

/-- Writes the length of the body into the header and declares it. -/
def declare (n : UInt16) (r : FrameReader) : FrameReader :=
  (r.writeHeader (Octets.littleEndian headerLength n.toNat)).truncate n.toNat

def bodyEnd (r : FrameReader) : Nat :=
  max r.length headerLength

def body (r : FrameReader) : Octets :=
  r.store.slice headerLength r.bodyEnd

/-- Puts bytes where the body starts, whatever length is declared. -/
def writeBody (bs : Octets) (r : FrameReader) : FrameReader :=
  r.write headerLength bs

def fill (start stop : Nat) (b : UInt8) (r : FrameReader) : FrameReader :=
  r.write start (List.replicate (stop - start) b)

def fillBody (b : UInt8) (r : FrameReader) : FrameReader :=
  r.fill headerLength r.bodyEnd b

def fillUnread (b : UInt8) (r : FrameReader) : FrameReader :=
  r.fill r.position r.unreadEnd b

def cipherStart : Nat := headerLength + checksumLength

/-- Decrypts what follows the checksum slot and cuts off the padding. On success the cursor stands
on the first byte of the payload. A region that is empty or not made of whole blocks is left as it
is; where the payload length does not fit, the region stays decrypted. -/
def decrypt (key : Xtea.Key) (r : FrameReader) : Bool × FrameReader :=
  if r.length ≤ cipherStart then (false, r)
  else
    match Xtea.decrypt key (r.store.slice cipherStart r.length) with
    | .error _ => (false, r)
    | .ok plain =>
      let r := { r with store := r.store.overwrite cipherStart plain, position := cipherStart }
      let (inner, r) := r.number 2
      if r.length < inner + prefixLength then (false, r)
      else (true, { r with length := prefixLength + inner })

theorem remaining_take_le (n : Nat) (r : FrameReader) :
    (r.take n).2.remaining ≤ r.remaining := by
  simp only [take]
  split <;> simp [remaining] <;> omega

theorem remaining_number_le (size : Nat) (r : FrameReader) :
    (r.number size).2.remaining ≤ r.remaining := by
  have := remaining_take_le size r
  simp only [number]
  split <;> simp_all

theorem remaining_number_lt {size : Nat} {r : FrameReader} (pos : 0 < size)
    (enough : size ≤ r.remaining) : (r.number size).2.remaining < r.remaining := by
  have : ¬ r.remaining < size := by omega
  simp only [number, take, this, if_false]
  simp only [remaining] at *
  omega

end FrameReader

end Gatehouse.Wire
