import Mathlib.Data.List.Induction
import Mathlib.Data.List.Infix
import Gatehouse.Proofs.AdlerSums

/-!
# Adler-32 without overflow

The additions of a checksum are done here as ones that fail where a word overflows. Those of a
stretch of bytes go through exactly if its last sum fits a word, which holds for every stride behind
reduced sums, and does not hold for every longer stretch. So no addition fails, whatever the bytes
are, and both sums come out as they do with unbounded numbers.
-/

namespace Gatehouse

namespace Adler

def checkedAdd? (x y : UInt32) : Option UInt32 :=
  if x.toNat + y.toNat < 2 ^ 32 then some (x + y) else none

namespace Sums

def add? (s : Sums) (byte : UInt8) : Option Sums := do
  let a ← checkedAdd? s.a byte.toUInt32
  let b ← checkedAdd? s.b a
  return ⟨a, b⟩

/-- The sums as `addAll` forms them, with additions that may fail. -/
def addAll? (s : Sums) (bs : Octets) : Option Sums :=
  if _h : bs = [] then some s
  else do
    let t ← (bs.take stride).foldlM add? s
    t.reduce.addAll? (bs.drop stride)
termination_by bs.length
decreasing_by
  have := List.length_pos_iff.mpr _h
  simp only [List.length_drop, stride]
  omega

end Sums

end Adler

def checkedAdler32? (bs : Octets) : Option UInt32 := do
  let s ← Adler.Sums.start.addAll? bs
  return (s.b <<< 16) ||| s.a

namespace Adler

/-! ## Stretches -/

def Sums.last (s : Sums) (bs : Octets) : Nat :=
  s.b.toNat + (bs.length * s.a.toNat + weighted bs)

theorem Sums.last_add {s : Sums} {byte : UInt8}
    (hSmall : s.b.toNat + (s.a.toNat + byte.toNat) < 2 ^ 32) (bs : Octets) :
    (s.add byte).last bs = s.last (byte :: bs) := by
  obtain ⟨hLow, hHigh⟩ := Sums.toNat_add hSmall
  rw [last, last, hLow, hHigh, weighted, List.length_cons]
  ring

theorem Sums.first_le_last (s : Sums) (byte : UInt8) (bs : Octets) :
    s.b.toNat + (s.a.toNat + byte.toNat) ≤ s.last (byte :: bs) := by
  rw [last, weighted, List.length_cons]
  nlinarith

theorem Sums.add?_eq (s : Sums) (byte : UInt8) :
    s.add? byte =
      if s.b.toNat + (s.a.toNat + byte.toNat) < 2 ^ 32 then some (s.add byte) else none := by
  rw [add?, checkedAdd?, UInt8.toNat_toUInt32]
  by_cases hLow : s.a.toNat + byte.toNat < 2 ^ 32
  case pos =>
    have hSum : (s.a + byte.toUInt32).toNat = s.a.toNat + byte.toNat := by
      rw [UInt32.toNat_add, UInt8.toNat_toUInt32, Nat.mod_eq_of_lt hLow]
    rw [if_pos hLow, Option.bind_eq_bind, Option.bind_some, checkedAdd?, hSum]
    split <;> rfl
  case neg =>
    rw [if_neg hLow, if_neg (by omega)]
    rfl

/-- The additions of a stretch go through exactly if the last sum fits a word. -/
theorem Sums.foldlM_add? (s : Sums) (bs : Octets) :
    bs.foldlM add? s = if s.last bs < 2 ^ 32 then some (bs.foldl add s) else none := by
  induction bs generalizing s with
  | nil =>
    have hWord : s.last [] < 2 ^ 32 := by
      rw [last, List.length_nil, Nat.zero_mul]
      exact s.b.toNat_lt
    rw [if_pos hWord]
    rfl
  | cons byte bs ih =>
    have hGrows := s.first_le_last byte bs
    rw [List.foldlM_cons, add?_eq]
    by_cases hFirst : s.b.toNat + (s.a.toNat + byte.toNat) < 2 ^ 32
    case pos =>
      rw [if_pos hFirst, Option.bind_eq_bind, Option.bind_some, ih, last_add hFirst]
      rfl
    case neg =>
      rw [if_neg hFirst, if_neg (by omega)]
      rfl

theorem Sums.addAll?_eq {s : Sums} (hs : s.Reduced) (bs : Octets) :
    s.addAll? bs = some (s.addAll bs) := by
  induction s, bs using Sums.addAll.induct with
  | case1 s => rw [addAll?, addAll, dif_pos rfl, dif_pos rfl]
  | case2 s bs hNonempty ih =>
    have hFits : s.last (bs.take stride) < 2 ^ 32 := hs.small (List.length_take_le stride bs)
    rw [addAll?, addAll, dif_neg hNonempty, dif_neg hNonempty, foldlM_add?, if_pos hFits]
    exact ih (reduced_reduce _)

/-! ## The length of a stride -/

theorem two_mul_weighted_replicate (n : Nat) :
    2 * weighted (List.replicate n 255) = 255 * (n * (n + 1)) := by
  induction n with
  | zero => rfl
  | succ n ih =>
    have hByte : (255 : UInt8).toNat = 255 := rfl
    rw [List.replicate_succ, weighted, List.length_replicate, hByte, Nat.mul_add, ih]
    ring

/-- A stride is the longest stretch whose additions go through behind all reduced sums. -/
theorem le_stride_iff (n : Nat) :
    n ≤ stride ↔ ∀ (s : Sums) (bs : Octets), s.Reduced → bs.length = n →
      bs.foldlM Sums.add? s ≠ none := by
  constructor
  · intro hStride s bs hs hLength
    have hFits : s.last bs < 2 ^ 32 := hs.small (hLength.trans_le hStride)
    rw [Sums.foldlM_add?, if_pos hFits]
    exact Option.some_ne_none _
  · intro hAll
    by_contra hLong
    -- the highest sums that are carried in, and the highest bytes
    refine hAll ⟨65520, 65520⟩ (List.replicate n 255) ⟨by decide, by decide⟩
      List.length_replicate ?_
    have hLeast : 5553 ≤ n := Nat.lt_of_not_le hLong
    have hSquare : 5553 * 5554 ≤ n * (n + 1) :=
      Nat.mul_le_mul hLeast (Nat.succ_le_succ hLeast)
    have hWeighted := two_mul_weighted_replicate n
    have hHighest : (65520 : UInt32).toNat = 65520 := rfl
    rw [Sums.foldlM_add?, if_neg]
    rw [Sums.last, List.length_replicate, hHighest]
    omega

/-! ## Prefixes -/

/-- One and the sum of the bytes, for every non-empty prefix. -/
def prefixTotals (bs : Octets) : List Nat :=
  bs.inits.tail.map fun front => 1 + total front

theorem prefixTotals_append_singleton (bs : Octets) (byte : UInt8) :
    prefixTotals (bs ++ [byte]) = prefixTotals bs ++ [1 + total (bs ++ [byte])] := by
  have hSome : bs.inits ≠ [] := List.ne_nil_of_length_pos (by rw [List.length_inits]; omega)
  rw [prefixTotals, List.inits_append, List.tail_append_of_ne_nil hSome, List.map_append]
  rfl

theorem sum_prefixTotals (bs : Octets) : (prefixTotals bs).sum = bs.length + weighted bs := by
  induction bs using List.reverseRecOn with
  | nil => rfl
  | append_singleton bs byte ih =>
    rw [prefixTotals_append_singleton, List.sum_append, ih, List.sum_singleton, total_append,
      weighted_append, List.length_append, List.length_singleton, weighted, List.length_nil,
      total_cons]
    simp only [total, weighted, List.map_nil, List.sum_nil]
    ring

end Adler

open Adler

/-- No addition of a checksum overflows, and the checksum holds the remainders of the two sums as
they are with unbounded numbers. -/
theorem checked_adler32 (bs : Octets) :
    checkedAdler32? bs = some (adler32 bs) ∧
      (adler32 bs).toNat =
        65536 * ((prefixTotals bs).sum % 65521) + (1 + total bs) % 65521 := by
  refine ⟨?_, ?_⟩
  · rw [checkedAdler32?, Sums.addAll?_eq Sums.reduced_start]
    rfl
  · rw [toNat_adler32, sum_prefixTotals]

end Gatehouse
