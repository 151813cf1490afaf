import Mathlib.Logic.Function.Iterate
import Gatehouse.Cipher.Xtea

/-!
# Round keys

The textbook cipher keeps no round keys: a sum runs along with the two words of the block, upwards
to encrypt and downwards to decrypt, and every half of a cycle looks its key word up with the sum of
that moment. Keys that are computed once for all cycles, each with the sum that the cipher will have
come to, make the same of every block.
-/

namespace Gatehouse.Xtea

/-! ## The textbook cipher -/

namespace Textbook

structure Registers where
  v0 : UInt32
  v1 : UInt32
  sum : UInt32

def step : UInt32 := 0x9E3779B9

/-- The key word with the number that is given by the low two bits of `i`. -/
def keyWord (w : Words) (i : UInt32) : UInt32 :=
  w.toList.get (Fin.ofNat 4 (i &&& 3).toNat)

/-- What half a cycle adds to one word of the block or takes from it, where `v` is the other one. -/
def half (w : Words) (v sum i : UInt32) : UInt32 :=
  (((v <<< 4) ^^^ (v >>> 5)) + v) ^^^ (sum + keyWord w i)

def encipherCycle (w : Words) (r : Registers) : Registers :=
  let v0 := r.v0 + half w r.v1 r.sum r.sum
  let sum := r.sum + step
  let v1 := r.v1 + half w v0 sum (sum >>> 11)
  ⟨v0, v1, sum⟩

def decipherCycle (w : Words) (r : Registers) : Registers :=
  let v1 := r.v1 - half w r.v0 r.sum (r.sum >>> 11)
  let sum := r.sum - step
  let v0 := r.v0 - half w v1 sum sum
  ⟨v0, v1, sum⟩

def encipher (w : Words) (b : Block) : Block :=
  let r := (encipherCycle w)^[32] ⟨b.v0, b.v1, 0⟩
  ⟨r.v0, r.v1⟩

def decipher (w : Words) (b : Block) : Block :=
  let r := (decipherCycle w)^[32] ⟨b.v0, b.v1, 32 * step⟩
  ⟨r.v0, r.v1⟩

def sumAt (i : Nat) : UInt32 :=
  UInt32.ofNat (i * step.toNat)

theorem sumAt_succ (i : Nat) : sumAt (i + 1) = sumAt i + step := by
  rw [sumAt, Nat.succ_mul, UInt32.ofNat_add, UInt32.ofNat_toNat, sumAt]

theorem sumAt_succ_sub (i : Nat) : sumAt (i + 1) - step = sumAt i := by
  rw [sumAt_succ, UInt32.add_sub_cancel]

def roundKeys (w : Words) (i : Nat) : UInt32 × UInt32 :=
  (sumAt i + keyWord w (sumAt i), sumAt (i + 1) + keyWord w (sumAt (i + 1) >>> 11))

end Textbook

open Textbook

/-! ## The schedule -/

theorem select_eq (w : Words) (i : UInt32) : w.select i = keyWord w i := by
  have hSmall : (i &&& 3).toNat < 4 := by
    rw [UInt32.toNat_and]
    exact Nat.lt_succ_of_le Nat.and_le_right
  rw [Words.select, keyWord]
  generalize (i &&& 3).toNat = n at hSmall
  match n with
  | 0 | 1 | 2 | 3 => rfl

theorem schedule_sumAt (w : Words) (n i : Nat) :
    w.schedule n (sumAt i) = (List.range' i n).map (roundKeys w) := by
  induction n generalizing i with
  | zero => rfl
  | succ n ih =>
    have hNext : sumAt i + delta = sumAt (i + 1) := (sumAt_succ i).symm
    rw [Words.schedule, hNext, ih, select_eq, select_eq, List.range'_succ, List.map_cons, roundKeys]

theorem rounds_ofWords (w : Words) :
    (Key.ofWords w).rounds = (List.range' 0 32).map (roundKeys w) :=
  schedule_sumAt w 32 0

/-! ## Cycles -/

theorem encipherCycle_eq (w : Words) (b : Block) (i : Nat) :
    encipherCycle w ⟨b.v0, b.v1, sumAt i⟩ =
      ⟨(encryptCycle b (roundKeys w i)).v0, (encryptCycle b (roundKeys w i)).v1,
        sumAt (i + 1)⟩ := by
  rw [encipherCycle, ← sumAt_succ]
  rfl

theorem decipherCycle_eq (w : Words) (b : Block) (i : Nat) :
    decipherCycle w ⟨b.v0, b.v1, sumAt (i + 1)⟩ =
      ⟨(decryptCycle (roundKeys w i) b).v0, (decryptCycle (roundKeys w i) b).v1, sumAt i⟩ := by
  rw [decipherCycle, sumAt_succ_sub]
  rfl

theorem iterate_encipherCycle (w : Words) (b : Block) (n i : Nat) :
    let c := ((List.range' i n).map (roundKeys w)).foldl encryptCycle b
    (encipherCycle w)^[n] ⟨b.v0, b.v1, sumAt i⟩ = ⟨c.v0, c.v1, sumAt (i + n)⟩ := by
  induction n generalizing b i with
  | zero => rfl
  | succ n ih =>
    have hRest := ih (encryptCycle b (roundKeys w i)) (i + 1)
    rw [Nat.add_right_comm] at hRest
    rw [Function.iterate_succ_apply, encipherCycle_eq, hRest, List.range'_succ, List.map_cons,
      List.foldl_cons]
    rfl

/-- The cycles are undone from the last one on, so what has been done behind the first one comes
first. -/
theorem iterate_decipherCycle (w : Words) (b : Block) (n i : Nat) :
    let c := ((List.range' i n).map (roundKeys w)).foldr decryptCycle b
    (decipherCycle w)^[n] ⟨b.v0, b.v1, sumAt (i + n)⟩ = ⟨c.v0, c.v1, sumAt i⟩ := by
  induction n generalizing i with
  | zero => rfl
  | succ n ih =>
    have hRest := ih (i + 1)
    rw [Nat.add_right_comm] at hRest
    rw [Function.iterate_succ_apply', ← Nat.add_assoc, hRest, decipherCycle_eq, List.range'_succ,
      List.map_cons, List.foldr_cons]

/-- The 64 round keys are those that the textbook cipher comes to, cycle by cycle, and with them
every block is encrypted and decrypted as that cipher does it. -/
theorem round_keys_textbook (w : Words) (b : Block) :
    (Key.ofWords w).rounds = (List.range 32).map (roundKeys w) ∧
      (Key.ofWords w).encryptBlock b = encipher w b ∧
      (Key.ofWords w).decryptBlock b = decipher w b := by
  have hStart : sumAt 0 = 0 := by decide
  have hEnd : sumAt (0 + 32) = 32 * step := by decide
  have hUp := iterate_encipherCycle w b 32 0
  have hDown := iterate_decipherCycle w b 32 0
  rw [hStart] at hUp
  rw [hEnd] at hDown
  refine ⟨?_, ?_, ?_⟩
  · rw [rounds_ofWords, List.range_eq_range']
  · rw [encipher, hUp, Key.encryptBlock, rounds_ofWords]
  · rw [decipher, hDown, Key.decryptBlock, rounds_ofWords]

example :
    encipher ⟨0x00010203, 0x04050607, 0x08090A0B, 0x0C0D0E0F⟩ ⟨0x41424344, 0x45464748⟩ =
      ⟨0x497DF3D0, 0x72612CB5⟩ := by
  decide

end Gatehouse.Xtea
