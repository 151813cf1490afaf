import Gatehouse.Checksum
import Mathlib.Data.Nat.ModEq
import Mathlib.Tactic.Linarith
import Mathlib.Tactic.Ring

/-!
# The two sums of Adler-32

No word overflows within a stride of bytes, so the delayed reduction gives both sums as unbounded
numbers would have them. A checksum is zero exactly when the modulus divides both of them.
-/

namespace Gatehouse.Adler

/-- The sum of the bytes. -/
def total (bs : Octets) : Nat :=
  (bs.map UInt8.toNat).sum

/-- The sum of the bytes, each as often as there are prefixes that hold it. -/
def weighted : Octets → Nat
  | [] => 0
  | byte :: bs => (bs.length + 1) * byte.toNat + weighted bs

/-- The modulus divides both sums. -/
def Vanishes (bs : Octets) : Prop :=
  65521 ∣ 1 + total bs ∧ 65521 ∣ bs.length + weighted bs

instance (bs : Octets) : Decidable (Vanishes bs) :=
  inferInstanceAs (Decidable (_ ∧ _))

theorem total_cons (byte : UInt8) (bs : Octets) : total (byte :: bs) = byte.toNat + total bs := by
  rw [total, List.map_cons, List.sum_cons, total]

theorem total_append (front rest : Octets) : total (front ++ rest) = total front + total rest := by
  rw [total, List.map_append, List.sum_append, total, total]

theorem weighted_append (front rest : Octets) :
    weighted (front ++ rest) = weighted front + rest.length * total front + weighted rest := by
  induction front with
  | nil => simp [weighted, total]
  | cons byte front ih =>
    rw [List.cons_append, weighted, weighted, ih, total_cons, List.length_append]
    ring

theorem total_le (bs : Octets) : total bs ≤ 255 * bs.length := by
  induction bs with
  | nil => exact Nat.le_refl 0
  | cons byte bs ih =>
    have hByte := byte.toNat_lt
    rw [total_cons, List.length_cons]
    omega

theorem two_mul_weighted_le (bs : Octets) :
    2 * weighted bs ≤ 255 * (bs.length * (bs.length + 1)) := by
  induction bs with
  | nil => exact Nat.le_refl 0
  | cons byte bs ih =>
    have hByte : byte.toNat ≤ 255 := Nat.le_of_lt_succ byte.toNat_lt
    have hWeight : (bs.length + 1) * byte.toNat ≤ (bs.length + 1) * 255 :=
      Nat.mul_le_mul_left _ hByte
    rw [weighted, List.length_cons]
    linarith

/-! ## Strides -/

theorem Sums.toNat_add {s : Sums} {byte : UInt8}
    (hSmall : s.b.toNat + (s.a.toNat + byte.toNat) < 2 ^ 32) :
    (s.add byte).a.toNat = s.a.toNat + byte.toNat ∧
      (s.add byte).b.toNat = s.b.toNat + (s.a.toNat + byte.toNat) := by
  have hLow : (s.a + byte.toUInt32).toNat = s.a.toNat + byte.toNat := by
    rw [UInt32.toNat_add, UInt8.toNat_toUInt32, Nat.mod_eq_of_lt (by omega)]
  refine ⟨hLow, ?_⟩
  change (s.b + (s.a + byte.toUInt32)).toNat = _
  rw [UInt32.toNat_add, hLow, Nat.mod_eq_of_lt hSmall]

/-- As long as the last sum fits a word, all of them do. -/
theorem Sums.toNat_foldl_add {s : Sums} {bs : Octets}
    (hSmall : s.b.toNat + (bs.length * s.a.toNat + weighted bs) < 2 ^ 32) :
    (bs.foldl Sums.add s).a.toNat = s.a.toNat + total bs ∧
      (bs.foldl Sums.add s).b.toNat = s.b.toNat + (bs.length * s.a.toNat + weighted bs) := by
  induction bs generalizing s with
  | nil => simp [weighted, total]
  | cons byte bs ih =>
    rw [weighted, List.length_cons] at hSmall
    have hFirst : s.b.toNat + (s.a.toNat + byte.toNat) < 2 ^ 32 := by nlinarith
    obtain ⟨hLow, hHigh⟩ := Sums.toNat_add hFirst
    obtain ⟨hLow', hHigh'⟩ := ih (s := s.add byte) (by rw [hLow, hHigh]; linarith)
    rw [List.foldl_cons, hLow', hHigh', hLow, hHigh, weighted, total_cons, List.length_cons]
    exact ⟨by ring, by ring⟩

structure Sums.Reduced (s : Sums) : Prop where
  low : s.a.toNat < 65521
  high : s.b.toNat < 65521

theorem Sums.reduced_start : start.Reduced :=
  ⟨by decide, by decide⟩

theorem Sums.toNat_reduce (s : Sums) :
    s.reduce.a.toNat = s.a.toNat % 65521 ∧ s.reduce.b.toNat = s.b.toNat % 65521 :=
  ⟨UInt32.toNat_mod .., UInt32.toNat_mod ..⟩

theorem Sums.reduced_reduce (s : Sums) : s.reduce.Reduced := by
  obtain ⟨hLow, hHigh⟩ := s.toNat_reduce
  exact ⟨hLow ▸ Nat.mod_lt _ (by decide), hHigh ▸ Nat.mod_lt _ (by decide)⟩

/-- What makes 5552 bytes a stride. -/
theorem Sums.Reduced.small {s : Sums} (hs : s.Reduced) {bs : Octets}
    (hStride : bs.length ≤ stride) :
    s.b.toNat + (bs.length * s.a.toNat + weighted bs) < 2 ^ 32 := by
  have hStride : bs.length ≤ 5552 := hStride
  have hLow : bs.length * s.a.toNat ≤ 5552 * 65520 :=
    Nat.mul_le_mul hStride (Nat.le_of_lt_succ hs.low)
  have hSquare : bs.length * (bs.length + 1) ≤ 5552 * 5553 :=
    Nat.mul_le_mul hStride (Nat.succ_le_succ hStride)
  have hWeighted := two_mul_weighted_le bs
  have hHigh := hs.high
  omega

theorem Sums.toNat_addAll {s : Sums} (hs : s.Reduced) (bs : Octets) :
    (s.addAll bs).a.toNat = (s.a.toNat + total bs) % 65521 ∧
      (s.addAll bs).b.toNat = (s.b.toNat + (bs.length * s.a.toNat + weighted bs)) % 65521 := by
  induction s, bs using Sums.addAll.induct with
  | case1 s =>
    rw [addAll, dif_pos rfl]
    simp [weighted, total, Nat.mod_eq_of_lt hs.low, Nat.mod_eq_of_lt hs.high]
  | case2 s bs hNonempty ih =>
    obtain ⟨hLow, hHigh⟩ := Sums.toNat_foldl_add (hs.small (List.length_take_le stride bs))
    obtain ⟨hLow', hHigh'⟩ := ((bs.take stride).foldl add s).toNat_reduce
    obtain ⟨hRestLow, hRestHigh⟩ := ih (reduced_reduce _)
    rw [addAll, dif_neg hNonempty, hRestLow, hRestHigh, hLow', hHigh', hLow, hHigh]
    generalize hFront : bs.take stride = front
    generalize hRest : bs.drop stride = rest
    have hParts : bs = front ++ rest := by rw [← hFront, ← hRest, List.take_append_drop]
    rw [hParts, total_append, weighted_append, List.length_append]
    constructor
    · change _ ≡ _ [MOD 65521]
      calc (s.a.toNat + total front) % 65521 + total rest
          ≡ s.a.toNat + total front + total rest [MOD 65521] := (Nat.mod_modEq _ _).add_right _
        _ = s.a.toNat + (total front + total rest) := Nat.add_assoc ..
    · change _ ≡ _ [MOD 65521]
      calc (s.b.toNat + (front.length * s.a.toNat + weighted front)) % 65521 +
            (rest.length * ((s.a.toNat + total front) % 65521) + weighted rest)
          ≡ s.b.toNat + (front.length * s.a.toNat + weighted front) +
            (rest.length * (s.a.toNat + total front) + weighted rest) [MOD 65521] :=
              (Nat.mod_modEq _ _).add (((Nat.mod_modEq _ _).mul_left _).add_right _)
        _ = s.b.toNat + ((front.length + rest.length) * s.a.toNat +
            (weighted front + rest.length * total front + weighted rest)) := by ring

end Adler

open Adler

theorem toNat_adler32 (bs : Octets) :
    (adler32 bs).toNat =
      65536 * ((bs.length + weighted bs) % 65521) + (1 + total bs) % 65521 := by
  obtain ⟨hLow, hHigh⟩ := Sums.toNat_addAll Sums.reduced_start bs
  have hLow : (Sums.start.addAll bs).a.toNat = (1 + total bs) % 65521 := hLow
  have hHigh : (Sums.start.addAll bs).b.toNat = (bs.length + weighted bs) % 65521 := by
    rw [hHigh]
    change (0 + (bs.length * 1 + weighted bs)) % 65521 = _
    rw [Nat.zero_add, Nat.mul_one]
  have hSmall : (Sums.start.addAll bs).a.toNat < 2 ^ 16 :=
    hLow ▸ (Nat.mod_lt _ (by decide)).trans (by decide)
  have hFits : (Sums.start.addAll bs).b.toNat <<< 16 < 2 ^ 32 := by
    have hMod : (bs.length + weighted bs) % 65521 < 65521 := Nat.mod_lt _ (by decide)
    rw [Nat.shiftLeft_eq, hHigh]
    omega
  rw [adler32, UInt32.toNat_or, UInt32.toNat_shiftLeft]
  change (_ <<< 16 % 2 ^ 32) ||| _ = _
  rw [Nat.mod_eq_of_lt hFits, ← Nat.shiftLeft_add_eq_or_of_lt hSmall, Nat.shiftLeft_eq, hLow, hHigh,
    Nat.mul_comm]

theorem adler32_eq_zero_iff (bs : Octets) : adler32 bs = 0 ↔ Vanishes bs := by
  rw [← UInt32.toNat_inj, toNat_adler32, UInt32.toNat_zero, Vanishes, Nat.dvd_iff_mod_eq_zero,
    Nat.dvd_iff_mod_eq_zero]
  omega

/-- The bytes of a short region cannot add up to the modulus. -/
theorem not_vanishes {bs : Octets} (hShort : bs.length ≤ 256) : ¬ Vanishes bs := by
  rintro ⟨hTotal, -⟩
  have hBound := total_le bs
  have hLeast := Nat.le_of_dvd (by omega) hTotal
  omega

end Gatehouse
