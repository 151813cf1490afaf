import Mathlib.FieldTheory.Finite.Basic

/-!
# Exponents that undo each other

An exponent that leaves one when it is divided by `p - 1` keeps every number modulo the prime `p`,
the multiples of `p` too. If that holds for two primes, it holds modulo their product.
-/

namespace Gatehouse.Rsa

variable {p q m : Nat}

theorem pow_modEq_of_prime (hPrime : p.Prime) (hPositive : m ≠ 0) (hOne : m ≡ 1 [MOD p - 1])
    (x : Nat) : x ^ m ≡ x [MOD p] := by
  have := Fact.mk hPrime
  obtain ⟨k, hExponent⟩ : p - 1 ∣ m - 1 :=
    (Nat.modEq_iff_dvd' (Nat.one_le_iff_ne_zero.mpr hPositive)).mp hOne.symm
  have hSplit : m = 1 + (p - 1) * k := by omega
  rw [← ZMod.natCast_eq_natCast_iff, Nat.cast_pow, hSplit, pow_add, pow_one, pow_mul]
  by_cases hMultiple : (x : ZMod p) = 0
  · rw [hMultiple, zero_mul]
  · rw [ZMod.pow_card_sub_one_eq_one hMultiple, one_pow, mul_one]

/-- Zero leaves one only if it is divided by one, and only the prime two comes to that. -/
theorem ne_zero_of_modEq_one (hp : p.Prime) (hDistinct : p ≠ q)
    (hOne : m ≡ 1 [MOD (p - 1).lcm (q - 1)]) : m ≠ 0 := by
  rintro rfl
  have hLcm : (p - 1).lcm (q - 1) ∣ 1 := Nat.modEq_zero_iff_dvd.mp hOne.symm
  have hFirst : p - 1 = 1 := Nat.dvd_one.mp ((Nat.dvd_lcm_left ..).trans hLcm)
  have hSecond : q - 1 = 1 := Nat.dvd_one.mp ((Nat.dvd_lcm_right ..).trans hLcm)
  have hLeast := hp.two_le
  omega

theorem pow_modEq_of_primes (hp : p.Prime) (hq : q.Prime) (hDistinct : p ≠ q)
    (hOne : m ≡ 1 [MOD (p - 1).lcm (q - 1)]) (x : Nat) : x ^ m ≡ x [MOD p * q] := by
  have hPositive : m ≠ 0 := ne_zero_of_modEq_one hp hDistinct hOne
  have hFirst : x ^ m ≡ x [MOD p] :=
    pow_modEq_of_prime hp hPositive (hOne.of_dvd (Nat.dvd_lcm_left ..)) x
  have hSecond : x ^ m ≡ x [MOD q] :=
    pow_modEq_of_prime hq hPositive (hOne.of_dvd (Nat.dvd_lcm_right ..)) x
  exact (Nat.modEq_and_modEq_iff_modEq_mul ((Nat.coprime_primes hp hq).mpr hDistinct)).mp
    ⟨hFirst, hSecond⟩

end Gatehouse.Rsa
