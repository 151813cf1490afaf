import Mathlib.Algebra.Order.Floor.Div
import Mathlib.Data.Nat.Size
import Mathlib.Tactic.NormNum.Prime
import Gatehouse.Proofs.InverseExponents
import Gatehouse.Proofs.RawRsa
import Gatehouse.Proofs.Steps

/-!
# Blocks in place

A block is looked at before anything is written to its buffer: it has the length of the key, in
whole bytes, and its number is below the modulus, which a leading zero is enough for. What is then
written fills the buffer again. Of two keys whose modulus is a product of two primes, the second
brings every block back if the exponents leave one modulo the least common multiple of the primes
less one.
-/

namespace Gatehouse

open Octets

namespace Octets

theorem ofBigEndian_lt (bs : Octets) : ofBigEndian bs < 256 ^ bs.length := by
  rw [ofBigEndian_eq, ← List.length_reverse]
  exact ofLittleEndian_lt _

theorem length_ofNat_le {width n : Nat} (hWidth : 0 < width) (hSmall : n < 256 ^ width) :
    (ofNat n).length ≤ width := by
  have hLength := congrArg List.length (zeros_append_ofNat hWidth hSmall)
  rw [List.length_append, length_zeros, length_bigEndian] at hLength
  omega

theorem overwrite_whole {bs patch : Octets} (hLength : patch.length = bs.length) :
    overwrite bs 0 patch = patch := by
  have hAll : overwrite ([] ++ bs ++ []) 0 patch = [] ++ patch ++ [] :=
    overwrite_append rfl hLength
  rwa [List.append_nil, List.append_nil] at hAll

end Octets

namespace Rsa

theorem bitLength_eq_size (n : Nat) : bitLength n = n.size := by
  rw [bitLength]
  split
  case isTrue hZero => rw [hZero, Nat.size_zero]
  case isFalse hPositive =>
    exact Nat.le_antisymm (Nat.lt_size.mpr (Nat.log2_self_le hPositive))
      (Nat.size_le.mpr Nat.lt_log2_self)

namespace Key

variable {key : Key} {block : Octets}

/-! ## The length of a block -/

theorem blockLength_eq (key : Key) : key.blockLength = key.modulus.size ⌈/⌉ 8 := by
  rw [blockLength, bits, bitLength_eq_size, Nat.ceilDiv_eq_add_pred_div]
  rfl

theorem blockLength_pos (hModulus : 0 < key.modulus) : 0 < key.blockLength := by
  have hBits : 0 < key.modulus.size := Nat.size_pos.mpr hModulus
  rw [blockLength, bits, bitLength_eq_size]
  omega

/-- The modulus takes up the first byte of a block, too. -/
theorem pow_le_modulus (hModulus : 0 < key.modulus) :
    256 ^ (key.blockLength - 1) ≤ key.modulus := by
  have hBits : 8 * (key.blockLength - 1) < key.modulus.size := by
    have hPositive := blockLength_pos hModulus
    rw [blockLength, bits, bitLength_eq_size] at hPositive ⊢
    omega
  calc 256 ^ (key.blockLength - 1) = 2 ^ (8 * (key.blockLength - 1)) := by rw [Nat.pow_mul]
    _ ≤ key.modulus := Nat.lt_size.mp hBits

theorem lt_modulus_of_leading_zero (hModulus : 0 < key.modulus) {rest : Octets}
    (hLength : (0 :: rest).length = key.blockLength) : ofBigEndian (0 :: rest) < key.modulus := by
  have hRest : rest.length = key.blockLength - 1 := by
    rw [← hLength, List.length_cons, Nat.add_sub_cancel]
  calc ofBigEndian (0 :: rest) = ofBigEndian rest := rfl
    _ < 256 ^ (key.blockLength - 1) := hRest ▸ ofBigEndian_lt rest
    _ ≤ key.modulus := pow_le_modulus hModulus

/-! ## Powers as blocks -/

def power (key : Key) (value : Nat) : Nat :=
  value ^ key.exponent % key.modulus

/-- The power in its shortest form, behind as many zeros as are missing. -/
def powerBlock (key : Key) (value : Nat) : Octets :=
  zeros (key.blockLength - (ofNat (key.power value)).length) ++ ofNat (key.power value)

theorem power_lt (hModulus : 0 < key.modulus) (value : Nat) :
    key.power value < 256 ^ key.blockLength :=
  (Nat.mod_lt _ hModulus).trans key.modulus_lt

theorem length_power_le (hModulus : 0 < key.modulus) (value : Nat) :
    (ofNat (key.power value)).length ≤ key.blockLength :=
  length_ofNat_le (blockLength_pos hModulus) (power_lt hModulus value)

theorem powerBlock_eq (hModulus : 0 < key.modulus) (value : Nat) :
    key.powerBlock value = bigEndian key.blockLength (key.power value) :=
  zeros_append_ofNat (blockLength_pos hModulus) (power_lt hModulus value)

theorem length_powerBlock (hModulus : 0 < key.modulus) (value : Nat) :
    (key.powerBlock value).length = key.blockLength := by
  rw [powerBlock_eq hModulus, length_bigEndian]

theorem ofBigEndian_powerBlock (hModulus : 0 < key.modulus) (value : Nat) :
    ofBigEndian (key.powerBlock value) = key.power value := by
  rw [powerBlock_eq hModulus, ofBigEndian_bigEndian (power_lt hModulus value)]

theorem apply_of_range (hLength : block.length = key.blockLength)
    (hRange : key.modulus ≤ ofBigEndian block) : key.apply block = .error .outOfRange := by
  rw [apply, if_neg (not_not_intro hLength)]
  exact if_pos hRange

theorem apply_of_ok (hLength : block.length = key.blockLength)
    (hRange : ofBigEndian block < key.modulus) :
    key.apply block = .ok (key.powerBlock (ofBigEndian block)) := by
  rw [apply, if_neg (not_not_intro hLength)]
  dsimp only
  rw [if_neg (Nat.not_le.mpr hRange), powMod_eq]
  rfl

/-! ## In place -/

/-- The operation on the buffer that holds a block. -/
def applyInPlace (key : Key) : ExceptT Error (StateM Octets) Unit := do
  let block ← get
  if block.length ≠ key.blockLength then throw (.blockLength key.blockLength block.length)
  let value := ofBigEndian block
  if key.modulus ≤ value then throw .outOfRange
  let out := ofNat (powMod value key.exponent key.modulus)
  let offset := key.blockLength - out.length
  modify fun block => overwrite block 0 (zeros offset)
  modify fun block => overwrite block offset out

/-- The zeros and the power are all of a block. -/
theorem overwrite_power (hModulus : 0 < key.modulus) (hLength : block.length = key.blockLength)
    (value : Nat) :
    overwrite (overwrite block 0 (zeros (key.blockLength - (ofNat (key.power value)).length)))
      (key.blockLength - (ofNat (key.power value)).length) (ofNat (key.power value)) =
      key.powerBlock value := by
  have hWhole : (key.powerBlock value).length = block.length :=
    (length_powerBlock hModulus value).trans hLength.symm
  rw [← overwrite_whole hWhole, powerBlock, ← overwrite_overwrite (Nat.zero_le _), length_zeros,
    Nat.zero_add]

/-- What is written is a whole block, so nothing of the old one is left; what is refused has not
been written to. -/
theorem applyInPlace_eq (key : Key) (block : Octets) :
    key.applyInPlace block =
      match key.apply block with
      | .ok out => (.ok (), out)
      | .error cause => (.error cause, block) := by
  rw [applyInPlace, bind_of_ok (get_eq block), ite_throw]
  by_cases hLength : block.length = key.blockLength
  case neg =>
    have hRefused : key.apply block = .error (.blockLength key.blockLength block.length) :=
      if_pos hLength
    rw [if_pos hLength, hRefused]
  case pos =>
    rw [if_neg (not_not_intro hLength)]
    dsimp only
    rw [ite_throw]
    by_cases hRange : key.modulus ≤ ofBigEndian block
    case pos => rw [if_pos hRange, apply_of_range hLength hRange]
    case neg =>
      have hInside : ofBigEndian block < key.modulus := Nat.lt_of_not_le hRange
      rw [if_neg hRange, apply_of_ok hLength hInside, powMod_eq]
      exact Prod.ext rfl (overwrite_power (Nat.zero_lt_of_lt hInside) hLength _)

/-! ## Keys that belong together -/

theorem apply_back {p q d : Nat} (hp : p.Prime) (hq : q.Prime) (hDistinct : p ≠ q)
    (hProduct : key.modulus = p * q)
    (hInverse : key.exponent * d ≡ 1 [MOD (p - 1).lcm (q - 1)])
    (hLength : block.length = key.blockLength) (hRange : ofBigEndian block < key.modulus) :
    apply ⟨key.modulus, d⟩ (key.powerBlock (ofBigEndian block)) = .ok block := by
  have hUndone : ∀ x < key.modulus, x ^ (key.exponent * d) % key.modulus = x := by
    intro x hx
    rw [hProduct] at hx ⊢
    exact Nat.mod_eq_of_modEq (pow_modEq_of_primes hp hq hDistinct hInverse x) hx
  have hBlock : block ≠ [] :=
    List.ne_nil_of_length_pos (hLength ▸ blockLength_pos (Nat.zero_lt_of_lt hRange))
  exact apply_apply hUndone hBlock (apply_of_ok hLength hRange)

/-- A key refuses blocks of other lengths and numbers that are not below its modulus, and the buffer
is as it was. Of any other block it leaves the power, in as many bytes; the shortest form of the
power is never longer than the block. With a zero in front no block is refused. The key with the
inverse exponent, where the modulus is a product of two primes, gives every block back that has not
been refused. -/
theorem blocks_in_place {key : Key} (hModulus : 1 < key.modulus) :
    ofNumbers key.modulus key.exponent = .ok key ∧
    key.blockLength = key.modulus.size ⌈/⌉ 8 ∧
    (∀ block : Octets, block.length ≠ key.blockLength →
      key.apply block = .error (.blockLength key.blockLength block.length) ∧
        key.applyInPlace block =
          (.error (.blockLength key.blockLength block.length), block)) ∧
    (∀ block : Octets, block.length = key.blockLength → key.modulus ≤ ofBigEndian block →
      key.apply block = .error .outOfRange ∧
        key.applyInPlace block = (.error .outOfRange, block)) ∧
    (∀ block : Octets, block.length = key.blockLength → ofBigEndian block < key.modulus →
      let power := ofBigEndian block ^ key.exponent % key.modulus
      let out := zeros (key.blockLength - (ofNat power).length) ++ ofNat power
      (ofNat power).length ≤ key.blockLength ∧ out.length = block.length ∧
        ofBigEndian out = power ∧ key.apply block = .ok out ∧
        key.applyInPlace block = (.ok (), out)) ∧
    (∀ rest : Octets, (0 :: rest).length = key.blockLength →
      ofBigEndian (0 :: rest) < key.modulus) ∧
    ∀ p q d : Nat, p.Prime → q.Prime → p ≠ q → key.modulus = p * q →
      key.exponent * d ≡ 1 [MOD (p - 1).lcm (q - 1)] →
      ∀ block : Octets, block.length = key.blockLength → ofBigEndian block < key.modulus →
        ∃ out, key.applyInPlace block = (.ok (), out) ∧
          applyInPlace ⟨key.modulus, d⟩ out = (.ok (), block) := by
  have hPositive : 0 < key.modulus := Nat.zero_lt_of_lt hModulus
  have hInPlace : ∀ {key : Key} {block out : Octets}, key.apply block = .ok out →
      key.applyInPlace block = (.ok (), out) :=
    fun hApply => by rw [applyInPlace_eq, hApply]
  refine ⟨if_neg (Nat.not_le.mpr hModulus), blockLength_eq key, ?wrongLength, ?outOfRange, ?raised,
    fun rest => lt_modulus_of_leading_zero hPositive, ?back⟩
  case wrongLength =>
    intro block hLength
    have hRefused : key.apply block = .error (.blockLength key.blockLength block.length) :=
      if_pos hLength
    exact ⟨hRefused, by rw [applyInPlace_eq, hRefused]⟩
  case outOfRange =>
    intro block hLength hRange
    have hRefused := apply_of_range hLength hRange
    exact ⟨hRefused, by rw [applyInPlace_eq, hRefused]⟩
  case raised =>
    intro block hLength hRange power out
    have hApply : key.apply block = .ok out := apply_of_ok hLength hRange
    exact ⟨length_power_le hPositive _, (length_powerBlock hPositive _).trans hLength.symm,
      ofBigEndian_powerBlock hPositive _, hApply, hInPlace hApply⟩
  case back =>
    intro p q d hp hq hDistinct hProduct hInverse block hLength hRange
    exact ⟨_, hInPlace (apply_of_ok hLength hRange),
      hInPlace (apply_back hp hq hDistinct hProduct hInverse hLength hRange)⟩

/-- The modulus is the product of 61 and 53. -/
theorem blocks_in_place_small :
    let key : Key := ⟨3233, 17⟩
    key.blockLength = 2 ∧
      key.applyInPlace [0, 0, 65] = (.error (.blockLength 2 3), [0, 0, 65]) ∧
      key.applyInPlace [0x0C, 0xA1] = (.error .outOfRange, [0x0C, 0xA1]) ∧
      key.applyInPlace [0, 65] = (.ok (), [0x0A, 0xE6]) ∧
      ofBigEndian [0, 0xFF] < 3233 ∧
      ∃ out, key.applyInPlace [0, 61] = (.ok (), out) ∧
        applyInPlace ⟨3233, 2753⟩ out = (.ok (), [0, 61]) := by
  intro key
  have hTwo : key.blockLength = 2 := by decide
  have hModulus : 1 < key.modulus := by decide
  obtain ⟨-, -, hWrong, hOut, hRaised, hZero, hBack⟩ := blocks_in_place hModulus
  refine ⟨hTwo, hTwo ▸ (hWrong [0, 0, 65] (by decide)).2,
    (hOut [0x0C, 0xA1] hTwo.symm (by decide)).2, ?_, hZero [0xFF] hTwo.symm, ?_⟩
  · obtain ⟨-, -, -, -, hInPlace⟩ := hRaised [0, 65] hTwo.symm (by decide)
    exact hInPlace.trans (congrArg (Prod.mk _) (by decide +kernel))
  · exact hBack 61 53 2753 (by norm_num) (by norm_num) (by decide) (by decide) (by decide)
      [0, 61] hTwo.symm (by decide)

end Key

end Rsa

end Gatehouse
