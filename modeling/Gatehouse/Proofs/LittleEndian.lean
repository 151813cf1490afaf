import Mathlib.Algebra.Order.Ring.Nat
import Mathlib.Tactic.Ring
import Gatehouse.Octets
import Gatehouse.Wire.Field

/-!
# Numbers as bytes

Writing a number in a fixed width and reading it back gives its remainder.
-/

namespace Gatehouse

namespace Octets

theorem ofLittleEndian_littleEndian (width n : Nat) :
    ofLittleEndian (littleEndian width n) = n % 256 ^ width := by
  induction width generalizing n with
  | zero => simp [littleEndian, ofLittleEndian, Nat.mod_one]
  | succ width ih =>
    have low : (UInt8.ofNat n).toNat = n % 256 := UInt8.toNat_ofNat
    rw [littleEndian, ofLittleEndian, ih, low, Nat.pow_succ, Nat.mul_comm (256 ^ width) 256,
      Nat.mod_mul]

theorem ofLittleEndian_lt (bs : Octets) : ofLittleEndian bs < 256 ^ bs.length := by
  induction bs with
  | nil => simp [ofLittleEndian]
  | cons b bs ih =>
    have := b.toNat_lt
    simp only [ofLittleEndian, List.length_cons, Nat.pow_succ]
    omega

theorem littleEndian_ofLittleEndian (bs : Octets) :
    littleEndian bs.length (ofLittleEndian bs) = bs := by
  induction bs with
  | nil => rfl
  | cons b bs ih =>
    have hLow : UInt8.ofNat (b.toNat + 256 * ofLittleEndian bs) = b := by
      apply UInt8.toNat_inj.mp
      have hByte := b.toNat_lt
      rw [UInt8.toNat_ofNat']
      omega
    have hHigh : (b.toNat + 256 * ofLittleEndian bs) / 256 = ofLittleEndian bs := by
      have hByte := b.toNat_lt
      omega
    rw [List.length_cons, ofLittleEndian, littleEndian, hLow, hHigh, ih]

/-- Any bytes are a number, if there are enough of them, and the rest. -/
theorem exists_littleEndian_append {size : Nat} {bs : Octets} (hEnough : size ≤ bs.length) :
    ∃ n rest, n < 256 ^ size ∧ bs = littleEndian size n ++ rest := by
  have hFront : (bs.take size).length = size := List.length_take_of_le hEnough
  have hSmall := ofLittleEndian_lt (bs.take size)
  have hBytes := littleEndian_ofLittleEndian (bs.take size)
  rw [hFront] at hSmall hBytes
  refine ⟨ofLittleEndian (bs.take size), bs.drop size, hSmall, ?_⟩
  rw [hBytes, List.take_append_drop]

end Octets

theorem Wire.Scalar.range_eq (s : Wire.Scalar) : s.range = 256 ^ s.size := by
  cases s <;> rfl

end Gatehouse
