import Gatehouse.Octets

/-!
# Frame checksums

The Adler-32 sum with a delayed reduction, and the two ways in which the checksum slot of a frame
is filled.
-/

namespace Gatehouse

inductive ChecksumMode where
  /-- The slot holds the Adler-32 sum of the encrypted region. -/
  | adler
  /-- The slot holds a counter of the frames of the connection. -/
  | sequence
  deriving DecidableEq, Repr, Inhabited

/-- Whether a frame whose slot is zero is malformed. -/
def ChecksumMode.requiresNonzero : ChecksumMode → Bool
  | .adler => true
  | .sequence => false

namespace Adler

def modulus : UInt32 := 65521

/-- So many bytes can be added to reduced sums before a word of 32 bits could overflow. -/
def stride : Nat := 5552

structure Sums where
  a : UInt32
  b : UInt32
  deriving DecidableEq, Repr

def Sums.start : Sums := ⟨1, 0⟩

def Sums.add (s : Sums) (byte : UInt8) : Sums :=
  let a := s.a + byte.toUInt32
  ⟨a, s.b + a⟩

def Sums.reduce (s : Sums) : Sums :=
  ⟨s.a % modulus, s.b % modulus⟩

/-- Adds the bytes a stride at a time and reduces after each stride. -/
def Sums.addAll (s : Sums) (bs : Octets) : Sums :=
  if _h : bs = [] then s
  else
    ((bs.take stride).foldl Sums.add s).reduce.addAll (bs.drop stride)
termination_by bs.length
decreasing_by
  have := List.length_pos_iff.mpr _h
  simp only [List.length_drop, stride]
  omega

end Adler

def adler32 (bs : Octets) : UInt32 :=
  let s := Adler.Sums.start.addAll bs
  (s.b <<< 16) ||| s.a

end Gatehouse
