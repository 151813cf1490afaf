import Gatehouse.Position
import Gatehouse.Text.Latin1

/-!
# Fields

The values that messages are made of, and their bytes: integers least significant byte first, texts
behind a length of two bytes, positions as three integers.
-/

namespace Gatehouse.Wire

inductive Scalar where
  | u8 | u16 | u32 | u64 | i8 | i16 | i32 | i64
  deriving DecidableEq, Repr

namespace Scalar

def size : Scalar → Nat
  | u8 | i8 => 1
  | u16 | i16 => 2
  | u32 | i32 => 4
  | u64 | i64 => 8

def isSigned : Scalar → Bool
  | u8 | u16 | u32 | u64 => false
  | i8 | i16 | i32 | i64 => true

def range (s : Scalar) : Nat :=
  match s with
  | u8 | i8 => UInt8.size
  | u16 | i16 => UInt16.size
  | u32 | i32 => UInt32.size
  | u64 | i64 => UInt64.size

/-- The value with the given bits, in two's complement where there is a sign. -/
def ofBits (s : Scalar) (bits : Nat) : Int :=
  if s.isSigned ∧ s.range ≤ 2 * bits then bits - s.range else bits

def toBits (s : Scalar) (v : Int) : Nat :=
  (v % s.range).toNat

def Holds (s : Scalar) (v : Int) : Prop :=
  if s.isSigned then -(s.range : Int) ≤ 2 * v ∧ 2 * v < s.range else 0 ≤ v ∧ v < s.range

theorem range_pos (s : Scalar) : 0 < s.range := by
  cases s <;> decide

theorem toBits_lt (s : Scalar) (v : Int) : s.toBits v < s.range := by
  have pos := s.range_pos
  have low := Int.emod_nonneg v (b := s.range) (by omega)
  have high := Int.emod_lt_of_pos v (b := s.range) (by omega)
  simp only [toBits]
  omega

theorem toBits_of_nonneg {s : Scalar} {v : Int} (low : 0 ≤ v) (high : v < s.range) :
    s.toBits v = v.toNat := by
  rw [toBits, Int.emod_eq_of_lt low high]

theorem toBits_of_neg {s : Scalar} {v : Int} (low : -(s.range : Int) ≤ v) (high : v < 0) :
    s.toBits v = (v + s.range).toNat := by
  rw [toBits, ← Int.add_emod_right, Int.emod_eq_of_lt (by omega) (by omega)]

theorem ofBits_toBits {s : Scalar} {v : Int} (h : s.Holds v) : s.ofBits (s.toBits v) = v := by
  rw [Holds] at h
  rw [ofBits]
  split at h
  case isTrue signed =>
    by_cases negative : v < 0
    · rw [toBits_of_neg (by omega) negative, if_pos ⟨signed, by omega⟩]
      omega
    · rw [toBits_of_nonneg (by omega) (by omega), if_neg (by omega)]
      omega
  case isFalse unsigned =>
    rw [toBits_of_nonneg h.1 h.2, if_neg (by simp [unsigned])]
    omega

end Scalar

/-- The bytes of a text: characters without a Latin-1 form are left out, and what the length cannot
count is cut off. -/
def encodeText (s : String) : Octets :=
  let bs := (Latin1.encode s).take 65535
  Octets.littleEndian 2 bs.length ++ bs

def encodePosition (p : Position) : Octets :=
  Octets.littleEndian 2 p.x.toNat ++ Octets.littleEndian 2 p.y.toNat ++ [p.z]

inductive Field where
  | scalar (s : Scalar) (v : Int)
  | text (s : String)
  | position (p : Position)
  deriving DecidableEq, Repr

namespace Field

def encode : Field → Octets
  | scalar s v => Octets.littleEndian s.size (s.toBits v)
  | text s => encodeText s
  | position p => encodePosition p

def encodeAll (fields : List Field) : Octets :=
  fields.flatMap encode

def u8 (v : UInt8) : Field := scalar .u8 v.toNat
def u16 (v : UInt16) : Field := scalar .u16 v.toNat
def u32 (v : UInt32) : Field := scalar .u32 v.toNat

end Field

end Gatehouse.Wire
