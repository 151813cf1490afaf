import Gatehouse.Octets

/-!
# Latin-1 text

A byte stands for the character of the same code, so decoding never fails. Encoding leaves out the
characters that have no byte.
-/

namespace Gatehouse.Latin1

def decode (bs : Octets) : String :=
  String.ofList (bs.map fun b => Char.ofNat b.toNat)

def byte? (c : Char) : Option UInt8 :=
  if c.toNat < 256 then some (UInt8.ofNat c.toNat) else none

def encode (s : String) : Octets :=
  s.toList.filterMap byte?

/-- The part of a text that has a Latin-1 form. -/
def restrict (s : String) : String :=
  String.ofList (s.toList.filter (·.toNat < 256))

theorem toNat_ofNat_byte (b : UInt8) : (Char.ofNat b.toNat).toNat = b.toNat := by
  have := b.toNat_lt
  have valid : b.toNat.isValidChar := Or.inl (by omega)
  rw [Char.ofNat, dif_pos valid]
  rfl

@[simp]
theorem byte?_ofNat (b : UInt8) : byte? (Char.ofNat b.toNat) = some b := by
  have := b.toNat_lt
  simp [byte?, toNat_ofNat_byte, this]

end Gatehouse.Latin1
