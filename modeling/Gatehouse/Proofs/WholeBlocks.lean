import Gatehouse.Proofs.Cipher
import Gatehouse.Proofs.Steps
import Gatehouse.Proofs.Stretch

/-!
# Byte strings of whole blocks

On byte strings of whole blocks encryption and decryption are inverse bijections that keep the
length and treat each block on its own. Any other byte string is refused, and a buffer that holds
one keeps it: the length is looked at before the first block is replaced.
-/

namespace Gatehouse.Xtea

open Octets

/-! ## Single blocks -/

def blockAt (i : Nat) (bs : Octets) : Octets :=
  slice bs (blockLength * i) (blockLength * i + blockLength)

theorem length_blockAt {bs : Octets} {i : Nat}
    (hInside : blockLength * i + blockLength ≤ bs.length) :
    (blockAt i bs).length = blockLength := by
  rw [blockAt, length_slice hInside, Nat.add_sub_cancel_left]

theorem take_append_blockAt (i : Nat) (bs : Octets) :
    bs.take (blockLength * i) ++ blockAt i bs = bs.take (blockLength * i + blockLength) := by
  rw [blockAt, slice, Nat.add_sub_cancel_left, ← List.take_add]

theorem blockAt_append_drop (i : Nat) (bs : Octets) :
    blockAt i bs ++ bs.drop (blockLength * i + blockLength) = bs.drop (blockLength * i) := by
  rw [blockAt, slice, Nat.add_sub_cancel_left, ← List.drop_drop, List.take_append_drop]

theorem mapBlocks_append (f : Block → Block) {xs : Octets} (hWhole : xs.length % blockLength = 0)
    (ys : Octets) : mapBlocks f (xs ++ ys) = mapBlocks f xs ++ mapBlocks f ys := by
  obtain ⟨n, hLength⟩ := Nat.dvd_of_mod_eq_zero hWhole
  clear hWhole
  induction n generalizing xs with
  | zero =>
    rw [List.length_eq_zero_iff.mp hLength]
    rfl
  | succ n ih =>
    rw [Nat.mul_succ] at hLength
    have hFront : (xs.take blockLength).length = blockLength := List.length_take_of_le (by omega)
    have hBehind : (xs.drop blockLength).length = blockLength * n := by
      rw [List.length_drop]
      omega
    obtain ⟨b, hBlock⟩ : ∃ b : Block, xs.take blockLength = b.toOctets :=
      ⟨_, (Block.toOctets_ofOctets hFront).symm⟩
    rw [← List.take_append_drop blockLength xs, hBlock, List.append_assoc,
      mapBlocks_toOctets_append, mapBlocks_toOctets_append, ih hBehind, List.append_assoc]

theorem mapBlocks_of_block (f : Block → Block) {bs : Octets} (hLength : bs.length = blockLength) :
    mapBlocks f bs = (f (.ofOctets bs)).toOctets := by
  obtain ⟨b, rfl⟩ : ∃ b : Block, bs = b.toOctets := ⟨_, (Block.toOctets_ofOctets hLength).symm⟩
  rw [Block.ofOctets_toOctets, ← List.append_nil b.toOctets, mapBlocks_toOctets_append]
  exact List.append_nil _

theorem mapBlocks_take_succ (f : Block → Block) {bs : Octets} {i : Nat}
    (hInside : blockLength * i + blockLength ≤ bs.length) :
    mapBlocks f (bs.take (blockLength * i + blockLength)) =
      mapBlocks f (bs.take (blockLength * i)) ++ (f (.ofOctets (blockAt i bs))).toOctets := by
  have hFront : (bs.take (blockLength * i)).length % blockLength = 0 := by
    rw [List.length_take_of_le (by omega), Nat.mul_mod_right]
  rw [← take_append_blockAt, mapBlocks_append f hFront,
    mapBlocks_of_block f (length_blockAt hInside)]

theorem blockAt_mapBlocks (f : Block → Block) {bs : Octets} {i : Nat}
    (hInside : blockLength * i + blockLength ≤ bs.length) :
    blockAt i (mapBlocks f bs) = (f (.ofOctets (blockAt i bs))).toOctets := by
  have hFront : (bs.take (blockLength * i)).length = blockLength * i :=
    List.length_take_of_le (by omega)
  have hUpTo : (bs.take (blockLength * i + blockLength)).length % blockLength = 0 := by
    rw [List.length_take_of_le hInside, Nat.add_mod_right, Nat.mul_mod_right]
  rw [← List.take_append_drop (blockLength * i + blockLength) bs, mapBlocks_append f hUpTo,
    mapBlocks_take_succ f hInside, List.take_append_drop, blockAt]
  refine slice_append ?_ ?_
  · rw [length_mapBlocks, hFront]
  · rw [length_mapBlocks, hFront, Block.length_toOctets, blockLength]

/-! ## In place -/

/-- The block with the number `i` gives way to its image. -/
def replaceBlock (f : Block → Block) (i : Nat) (bs : Octets) : Octets :=
  overwrite bs (blockLength * i) (f (.ofOctets (blockAt i bs))).toOctets

def transformInPlace (f : Block → Block) : ExceptT Misaligned (StateM Octets) Unit := do
  let bs ← get
  if bs.length % blockLength ≠ 0 then throw ⟨bs.length⟩
  (List.range (bs.length / blockLength)).forM fun i => modify (replaceBlock f i)

def encryptInPlace (key : Key) : ExceptT Misaligned (StateM Octets) Unit :=
  transformInPlace key.encryptBlock

def decryptInPlace (key : Key) : ExceptT Misaligned (StateM Octets) Unit :=
  transformInPlace key.decryptBlock

theorem replaceBlock_append (f : Block → Block) {xs block rest : Octets} {i : Nat}
    (hFront : xs.length = blockLength * i) (hBlock : block.length = blockLength) :
    replaceBlock f i (xs ++ block ++ rest) = xs ++ (f (.ofOctets block)).toOctets ++ rest := by
  have hAt : blockAt i (xs ++ block ++ rest) = block :=
    slice_append hFront.symm (by rw [hFront, hBlock])
  rw [replaceBlock, hAt]
  exact overwrite_append hFront.symm hBlock.symm

/-- After `n` turns the first `n` blocks are mapped, and what stands behind them is as it was. -/
theorem foldl_replaceBlock (f : Block → Block) {bs : Octets} {n : Nat}
    (hInside : blockLength * n ≤ bs.length) :
    (List.range n).foldl (fun bs i => replaceBlock f i bs) bs =
      mapBlocks f (bs.take (blockLength * n)) ++ bs.drop (blockLength * n) := by
  induction n with
  | zero => rfl
  | succ n ih =>
    rw [Nat.mul_succ] at hInside
    have hFront : (mapBlocks f (bs.take (blockLength * n))).length = blockLength * n := by
      rw [length_mapBlocks, List.length_take_of_le (by omega)]
    rw [List.range_succ, List.foldl_append, ih (by omega), List.foldl_cons, List.foldl_nil,
      ← blockAt_append_drop, ← List.append_assoc,
      replaceBlock_append f hFront (length_blockAt hInside), Nat.mul_succ,
      mapBlocks_take_succ f hInside]

/-- Block by block in place comes to the same as the whole byte string at once. -/
theorem transformInPlace_eq (f : Block → Block) (bs : Octets) :
    transformInPlace f bs =
      match transform f bs with
      | .ok out => (.ok (), out)
      | .error cause => (.error cause, bs) := by
  rw [transformInPlace, bind_of_ok (get_eq bs), transform]
  by_cases hWhole : bs.length % blockLength = 0
  case pos =>
    have hAll : blockLength * (bs.length / blockLength) = bs.length :=
      Nat.mul_div_cancel' (Nat.dvd_of_mod_eq_zero hWhole)
    rw [if_pos hWhole, ite_throw, if_neg (not_not_intro hWhole)]
    dsimp only
    rw [forM_modify, foldl_replaceBlock f hAll.le, hAll, List.take_length, List.drop_length,
      List.append_nil]
  case neg => rw [if_neg hWhole, ite_throw, if_pos hWhole]

/-! ## Whole byte strings -/

variable {f g : Block → Block} {bs : Octets}

theorem transform_of_whole (hInverse : ∀ b, g (f b) = b) (hWhole : bs.length % blockLength = 0) :
    ∃ out, transform f bs = .ok out ∧ transform g out = .ok bs ∧
      transformInPlace f bs = (.ok (), out) ∧ out.length = bs.length ∧
      ∀ i, blockLength * i + blockLength ≤ bs.length →
        blockAt i out = (f (.ofOctets (blockAt i bs))).toOctets := by
  have hOut : transform f bs = .ok (mapBlocks f bs) := transform_eq_ok hWhole
  have hBack : transform g (mapBlocks f bs) = .ok (mapBlocks g (mapBlocks f bs)) :=
    transform_eq_ok (by rwa [length_mapBlocks])
  rw [mapBlocks_mapBlocks hInverse] at hBack
  refine ⟨mapBlocks f bs, hOut, hBack, ?_, length_mapBlocks f bs, fun i => blockAt_mapBlocks f⟩
  rw [transformInPlace_eq, hOut]

theorem transform_of_not_whole (f : Block → Block) (hRest : bs.length % blockLength ≠ 0) :
    transform f bs = .error ⟨bs.length⟩ ∧ transformInPlace f bs = (.error ⟨bs.length⟩, bs) := by
  have hRefused : transform f bs = .error ⟨bs.length⟩ := if_neg hRest
  refine ⟨hRefused, ?_⟩
  rw [transformInPlace_eq, hRefused]

/-- Under any key the two directions undo each other on whole blocks, keep the length, and make each
block of the block in its place alone. Other lengths are refused and the buffer keeps what it holds.
With the missing zeros behind it, every byte string comes back with those zeros. -/
theorem encrypt_decrypt_bijective (key : Key) :
    (∀ bs : Octets, bs.length % blockLength = 0 →
      (∃ cipher, encrypt key bs = .ok cipher ∧ decrypt key cipher = .ok bs ∧
        encryptInPlace key bs = (.ok (), cipher) ∧ cipher.length = bs.length ∧
        ∀ i, blockLength * i + blockLength ≤ bs.length →
          blockAt i cipher = (key.encryptBlock (.ofOctets (blockAt i bs))).toOctets) ∧
      ∃ plain, decrypt key bs = .ok plain ∧ encrypt key plain = .ok bs ∧
        decryptInPlace key bs = (.ok (), plain) ∧ plain.length = bs.length ∧
        ∀ i, blockLength * i + blockLength ≤ bs.length →
          blockAt i plain = (key.decryptBlock (.ofOctets (blockAt i bs))).toOctets) ∧
    (∀ bs : Octets, bs.length % blockLength ≠ 0 →
      (encrypt key bs = .error ⟨bs.length⟩ ∧
        encryptInPlace key bs = (.error ⟨bs.length⟩, bs)) ∧
      decrypt key bs = .error ⟨bs.length⟩ ∧
        decryptInPlace key bs = (.error ⟨bs.length⟩, bs)) ∧
    ∀ bs : Octets, ∃ cipher,
      encrypt key (bs ++ zeros (paddingFor bs.length)) = .ok cipher ∧
        decrypt key cipher = .ok (bs ++ zeros (paddingFor bs.length)) := by
  refine ⟨fun bs hWhole => ⟨?_, ?_⟩, fun bs hRest => ⟨?_, ?_⟩, fun bs => ?_⟩
  · exact transform_of_whole (decryptBlock_encryptBlock key) hWhole
  · exact transform_of_whole (encryptBlock_decryptBlock key) hWhole
  · exact transform_of_not_whole key.encryptBlock hRest
  · exact transform_of_not_whole key.decryptBlock hRest
  · have hWhole : (bs ++ zeros (paddingFor bs.length)).length % blockLength = 0 := by
      rw [List.length_append, length_zeros, add_paddingFor]
    obtain ⟨cipher, hCipher, hBack, -⟩ :=
      transform_of_whole (decryptBlock_encryptBlock key) hWhole
    exact ⟨cipher, hCipher, hBack⟩

/-- Two blocks are sealed and opened; of thirteen bytes none is touched. -/
theorem encrypt_decrypt_bijective_two_blocks :
    let key := Key.ofWords ⟨0x00010203, 0x04050607, 0x08090A0B, 0x0C0D0E0F⟩
    let bs := (List.range 16).map UInt8.ofNat
    (∃ cipher, encrypt key bs = .ok cipher ∧ decrypt key cipher = .ok bs ∧
      cipher.length = 16 ∧
      blockAt 1 cipher = (key.encryptBlock ⟨0x0B0A0908, 0x0F0E0D0C⟩).toOctets) ∧
    encryptInPlace key (zeros 13) = (.error ⟨13⟩, zeros 13) := by
  intro key bs
  obtain ⟨hWhole, hRest, -⟩ := encrypt_decrypt_bijective key
  obtain ⟨⟨cipher, hCipher, hBack, -, hLength, hBlocks⟩, -⟩ := hWhole bs (by decide)
  obtain ⟨⟨-, hRefused⟩, -⟩ := hRest (zeros 13) (by decide)
  refine ⟨⟨cipher, hCipher, hBack, hLength, (hBlocks 1 (by decide)).trans ?_⟩, hRefused⟩
  exact congrArg (fun b => (key.encryptBlock b).toOctets) (by decide)

end Gatehouse.Xtea
