/-!
# Octets

Byte strings as lists, fixed-width numbers in either byte order, and the replacement of a stretch
of bytes inside a longer string.
-/

namespace Gatehouse

abbrev Octets := List UInt8

namespace Octets

/-- The low `width` bytes of a number, least significant first. -/
def littleEndian : (width : Nat) → Nat → Octets
  | 0, _ => []
  | width + 1, n => UInt8.ofNat n :: littleEndian width (n / 256)

def ofLittleEndian : Octets → Nat
  | [] => 0
  | b :: bs => b.toNat + 256 * ofLittleEndian bs

/-- The low `width` bytes of a number, most significant first. -/
def bigEndian (width n : Nat) : Octets :=
  (littleEndian width n).reverse

def ofBigEndian (bs : Octets) : Nat :=
  bs.foldl (fun n b => 256 * n + b.toNat) 0

/-- The bytes of a number without leading zeros, most significant first; zero has one byte. -/
def ofNat (n : Nat) : Octets :=
  if n < 256 then [UInt8.ofNat n] else ofNat (n / 256) ++ [UInt8.ofNat n]

/-- The first `n` bytes and the rest, if there are that many. -/
def split? : (n : Nat) → Octets → Option (Octets × Octets)
  | 0, bs => some ([], bs)
  | _ + 1, [] => none
  | n + 1, b :: bs => (split? n bs).map fun (head, rest) => (b :: head, rest)

/-- `bs` with the bytes from `start` on replaced by `patch`, which is meant to fit. -/
def overwrite (bs : Octets) (start : Nat) (patch : Octets) : Octets :=
  bs.take start ++ patch ++ bs.drop (start + patch.length)

def slice (bs : Octets) (start stop : Nat) : Octets :=
  (bs.drop start).take (stop - start)

def zeros (n : Nat) : Octets :=
  List.replicate n 0

@[simp]
theorem length_littleEndian (width n : Nat) : (littleEndian width n).length = width := by
  induction width generalizing n with
  | zero => rfl
  | succ width ih => simp [littleEndian, ih]

theorem split?_eq (n : Nat) (bs : Octets) :
    split? n bs = if n ≤ bs.length then some (bs.take n, bs.drop n) else none := by
  induction n generalizing bs with
  | zero => simp [split?]
  | succ n ih =>
    cases bs with
    | nil => simp [split?]
    | cons b bs =>
      simp only [split?, ih, List.length_cons, Nat.add_le_add_iff_right, List.take_succ_cons,
        List.drop_succ_cons]
      split <;> simp_all

end Octets

end Gatehouse
