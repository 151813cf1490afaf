import Gatehouse.Proofs.LittleEndian
import Gatehouse.Proofs.ModularPower
import Gatehouse.Proofs.Stretch

/-!
# Blocks as numbers

A block of a key is the big-endian form, in the full width, of a number below the modulus. Applying
a key therefore raises that number to a power, and a second key whose exponent undoes the first one
brings the block back.
-/

namespace Gatehouse

namespace Octets

theorem littleEndian_zero (width : Nat) : littleEndian width 0 = zeros width := by
  induction width with
  | zero => rfl
  | succ width ih =>
    rw [littleEndian, Nat.zero_div, ih]
    rfl

@[simp]
theorem length_bigEndian (width n : Nat) : (bigEndian width n).length = width := by
  rw [bigEndian, List.length_reverse, length_littleEndian]

theorem bigEndian_succ (width n : Nat) :
    bigEndian (width + 1) n = bigEndian width (n / 256) ++ [UInt8.ofNat n] := by
  rw [bigEndian, littleEndian, List.reverse_cons, bigEndian]

theorem bigEndian_zero (width : Nat) : bigEndian width 0 = zeros width := by
  rw [bigEndian, littleEndian_zero, zeros, List.reverse_replicate]

theorem ofBigEndian_eq (bs : Octets) : ofBigEndian bs = ofLittleEndian bs.reverse := by
  have hFold : ∀ acc : Octets,
      bs.foldl (fun n b => 256 * n + b.toNat) (ofLittleEndian acc) =
        ofLittleEndian (bs.reverse ++ acc) := by
    induction bs with
    | nil => exact fun acc => rfl
    | cons b bs ih =>
      intro acc
      rw [List.foldl_cons, List.reverse_cons, List.append_assoc, Nat.add_comm]
      exact ih (b :: acc)
  have hWhole := hFold []
  rwa [List.append_nil] at hWhole

theorem bigEndian_ofBigEndian (bs : Octets) : bigEndian bs.length (ofBigEndian bs) = bs := by
  rw [bigEndian, ofBigEndian_eq, ← List.length_reverse, littleEndian_ofLittleEndian,
    List.reverse_reverse]

theorem ofBigEndian_bigEndian {width n : Nat} (hSmall : n < 256 ^ width) :
    ofBigEndian (bigEndian width n) = n := by
  rw [ofBigEndian_eq, bigEndian, List.reverse_reverse, ofLittleEndian_littleEndian,
    Nat.mod_eq_of_lt hSmall]

/-- Filled up with zeros, the shortest form of a number is its form in the full width. -/
theorem zeros_append_ofNat {width n : Nat} (hWidth : 0 < width) (hSmall : n < 256 ^ width) :
    zeros (width - (ofNat n).length) ++ ofNat n = bigEndian width n := by
  induction n using Nat.strongRecOn generalizing width with
  | ind n ih =>
    obtain ⟨width, rfl⟩ : ∃ w, width = w + 1 := ⟨width - 1, by omega⟩
    rw [ofNat, bigEndian_succ]
    split
    case isTrue hByte =>
      rw [List.length_singleton, Nat.add_sub_cancel, Nat.div_eq_of_lt hByte, bigEndian_zero]
    case isFalse hByte =>
      have hRest : n / 256 < 256 ^ width := by
        rw [Nat.pow_succ] at hSmall
        exact Nat.div_lt_of_lt_mul (by rwa [Nat.mul_comm])
      have hPositive : 0 < width := by
        refine Nat.pos_of_ne_zero fun hZero => ?_
        rw [hZero, Nat.pow_zero] at hRest
        omega
      have hFilled := ih (n / 256) (Nat.div_lt_self (by omega) (by decide)) hPositive hRest
      rw [List.length_append, List.length_singleton, Nat.add_sub_add_right, ← List.append_assoc,
        hFilled]

end Octets

namespace Rsa.Key

open Octets

theorem modulus_lt (key : Key) : key.modulus < 256 ^ key.blockLength := by
  have hBits : key.modulus < 2 ^ key.bits := by
    rw [bits, bitLength]
    split
    case isTrue hZero => rw [hZero]; exact Nat.one_pos
    case isFalse => exact Nat.lt_log2_self
  have hRound : key.bits ≤ 8 * key.blockLength := by
    rw [blockLength]
    omega
  calc key.modulus < 2 ^ key.bits := hBits
    _ ≤ 2 ^ (8 * key.blockLength) := Nat.pow_le_pow_right (by decide) hRound
    _ = 256 ^ key.blockLength := by rw [Nat.pow_mul]

/-- A block is accepted exactly if it has the length of the key and its number is below the
modulus. -/
theorem apply_eq_ok_iff {key : Key} {block out : Octets} (hBlock : block ≠ []) :
    key.apply block = .ok out ↔
      block.length = key.blockLength ∧ ofBigEndian block < key.modulus ∧
        out = bigEndian key.blockLength (ofBigEndian block ^ key.exponent % key.modulus) := by
  rw [apply]
  split
  case isTrue hLength =>
    constructor
    · exact fun h => nomatch h
    · exact fun h => absurd h.1 hLength
  case isFalse hLength =>
    have hLength' : block.length = key.blockLength := Decidable.not_not.mp hLength
    have hWidth : 0 < key.blockLength := hLength' ▸ List.length_pos_iff.mpr hBlock
    dsimp only
    split
    case isTrue hRange =>
      constructor
      · exact fun h => nomatch h
      · exact fun h => absurd h.2.1 (Nat.not_lt.mpr hRange)
    case isFalse hRange =>
      have hRange' := Nat.lt_of_not_le hRange
      have hPower : powMod (ofBigEndian block) key.exponent key.modulus <
          256 ^ key.blockLength := by
        rw [powMod_eq]
        exact (Nat.mod_lt _ (Nat.zero_lt_of_lt hRange')).trans key.modulus_lt
      rw [zeros_append_ofNat hWidth hPower, powMod_eq, Except.ok.injEq, eq_comm]
      exact ⟨fun h => ⟨hLength', hRange', h⟩, fun h => h.2.2⟩

/-- What one key seals the other one opens, if its exponent undoes that of the first. -/
theorem apply_apply {modulus e d : Nat} (hInverse : ∀ x < modulus, x ^ (e * d) % modulus = x)
    {block out : Octets} (hBlock : block ≠ [])
    (hSealed : apply ⟨modulus, e⟩ block = .ok out) : apply ⟨modulus, d⟩ out = .ok block := by
  obtain ⟨hLength, hRange, rfl⟩ := (apply_eq_ok_iff hBlock).mp hSealed
  have hModulus := modulus_lt ⟨modulus, e⟩
  have hPower : ofBigEndian block ^ e % modulus < modulus :=
    Nat.mod_lt _ (Nat.zero_lt_of_lt hRange)
  have hNumber := ofBigEndian_bigEndian (hPower.trans hModulus)
  have hSome : bigEndian (blockLength ⟨modulus, e⟩) (ofBigEndian block ^ e % modulus) ≠ [] := by
    refine List.length_pos_iff.mp ?_
    rw [length_bigEndian, ← hLength]
    exact List.length_pos_iff.mpr hBlock
  refine (apply_eq_ok_iff hSome).mpr ⟨length_bigEndian .., ?_, ?_⟩
  · rw [hNumber]
    exact hPower
  · have hForm := bigEndian_ofBigEndian block
    rw [hLength] at hForm
    rw [hNumber, ← Nat.pow_mod, ← Nat.pow_mul, hInverse _ hRange]
    exact hForm.symm

/-- Zero is sealed as zero under every key. -/
theorem apply_zeros {key : Key} (hKey : 0 < key.blockLength) (hExponent : key.exponent ≠ 0) :
    key.apply (zeros key.blockLength) = .ok (zeros key.blockLength) := by
  have hModulus : 0 < key.modulus := by
    refine Nat.pos_of_ne_zero fun hZero => ?_
    rw [blockLength, bits, hZero] at hKey
    exact absurd hKey (by decide)
  have hValue : ofBigEndian (zeros key.blockLength) = 0 := by
    rw [← bigEndian_zero]
    exact ofBigEndian_bigEndian (Nat.pow_pos (by decide))
  have hBlock : zeros key.blockLength ≠ [] :=
    List.ne_nil_of_length_pos (by rwa [length_zeros])
  refine (apply_eq_ok_iff hBlock).mpr ⟨length_zeros _, ?_, ?_⟩
  · rwa [hValue]
  · rw [hValue, Nat.zero_pow (Nat.pos_of_ne_zero hExponent), Nat.zero_mod, bigEndian_zero]

end Rsa.Key

end Gatehouse
