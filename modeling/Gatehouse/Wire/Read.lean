import Gatehouse.Wire.Field
import Gatehouse.Wire.FrameReader

/-!
# Typed reads

What a read brings, as an action on the frame being read. A value that does not lie whole before the
declared length reads as zero or empty.
-/

namespace Gatehouse.Wire

abbrev Read := StateM FrameReader

namespace Read

def number (size : Nat) : Read Nat :=
  FrameReader.number size

def scalar (s : Scalar) : Read Int := do
  return s.ofBits (← number s.size)

def previous (s : Scalar) : Read Int := do
  return s.ofBits (← FrameReader.previousNumber s.size)

def u8 : Read UInt8 := do
  return UInt8.ofNat (← number 1)

def u16 : Read UInt16 := do
  return UInt16.ofNat (← number 2)

def u32 : Read UInt32 := do
  return UInt32.ofNat (← number 4)

def bytes (n : Nat) : Read (Option Octets) :=
  FrameReader.take n

def text : Read String := do
  let n ← number 2
  if n = 0 then return ""
  return ((← bytes n).map Latin1.decode).getD ""

def position : Read Position := do
  let x ← u16
  let y ← u16
  let z ← u8
  return ⟨x, y, z⟩

def advance (n : Nat) : Read Unit :=
  modify (·.advance n)

def remaining : Read Nat := do
  return (← get).remaining

def words : Read Xtea.Words := do
  let w0 ← u32
  let w1 ← u32
  let w2 ← u32
  let w3 ← u32
  return ⟨w0, w1, w2, w3⟩

end Read

inductive Field.Kind where
  | scalar (s : Scalar)
  | text
  | position
  deriving DecidableEq, Repr

def Field.kind : Field → Kind
  | scalar s _ => .scalar s
  | text _ => .text
  | position _ => .position

def Read.field : Field.Kind → Read Field
  | .scalar s => return .scalar s (← Read.scalar s)
  | .text => return .text (← Read.text)
  | .position => return .position (← Read.position)

def Read.fields : List Field.Kind → Read (List Field)
  | [] => return []
  | kind :: kinds => return (← Read.field kind) :: (← Read.fields kinds)

namespace Read

theorem remaining_u8_le (r : FrameReader) : (u8 r).2.remaining ≤ r.remaining :=
  r.remaining_number_le 1

theorem remaining_u32_le (r : FrameReader) : (u32 r).2.remaining ≤ r.remaining :=
  r.remaining_number_le 4

theorem remaining_u8_lt {r : FrameReader} (h : 0 < r.remaining) :
    (u8 r).2.remaining < r.remaining :=
  FrameReader.remaining_number_lt (by decide) h

theorem remaining_text_le (r : FrameReader) : (text r).2.remaining ≤ r.remaining := by
  have short := r.remaining_number_le 2
  have full := FrameReader.remaining_take_le (r.number 2).1 (r.number 2).2
  simp only [text, number, bytes, bind, StateT.bind, pure]
  split
  · exact short
  · exact Nat.le_trans full short

end Read

end Gatehouse.Wire
