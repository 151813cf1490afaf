import Mathlib.Algebra.Order.Ring.Nat
import Mathlib.Tactic.Ring
import Gatehouse.Rsa.Key

/-!
# Powers by squaring

The power that seals and opens a block is the one of arithmetic.
-/

namespace Gatehouse.Rsa

theorem powMod_eq (base exponent modulus : Nat) :
    powMod base exponent modulus = base ^ exponent % modulus := by
  induction exponent using Nat.strongRecOn generalizing base with
  | ind exponent ih =>
    rw [powMod]
    split
    case isTrue zero => simp [zero]
    case isFalse positive =>
      have split : exponent = 2 * (exponent / 2) + exponent % 2 := by omega
      rw [ih (exponent / 2) (by omega), ← Nat.pow_mod, ← Nat.pow_two, ← Nat.pow_mul]
      split
      case isTrue even => conv => rhs; rw [split, even, Nat.add_zero]
      case isFalse odd =>
        have odd : exponent % 2 = 1 := by omega
        rw [Nat.mul_mod, Nat.mod_mod, ← Nat.mul_mod]
        conv => rhs; rw [split, odd, Nat.pow_succ, Nat.mul_comm]

end Gatehouse.Rsa
