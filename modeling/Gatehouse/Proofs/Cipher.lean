import Gatehouse.Cipher.Xtea
import Gatehouse.Proofs.LittleEndian

/-!
# The cipher undoes itself

A cycle is undone by the cycle of the other direction with the same round keys, so a block is undone
by running the cycles backwards, and a byte string block by block.
-/

namespace Gatehouse.Xtea

theorem decryptCycle_encryptCycle (round : UInt32 × UInt32) (b : Block) :
    decryptCycle round (encryptCycle b round) = b := by
  simp only [decryptCycle, encryptCycle, UInt32.add_sub_cancel]

theorem encryptCycle_decryptCycle (round : UInt32 × UInt32) (b : Block) :
    encryptCycle (decryptCycle round b) round = b := by
  simp only [decryptCycle, encryptCycle, UInt32.sub_add_cancel]

theorem foldr_decryptCycle_foldl_encryptCycle (rounds : List (UInt32 × UInt32)) (b : Block) :
    rounds.foldr decryptCycle (rounds.foldl encryptCycle b) = b := by
  induction rounds generalizing b with
  | nil => rfl
  | cons round rounds ih =>
    rw [List.foldl_cons, List.foldr_cons, ih, decryptCycle_encryptCycle]

theorem foldl_encryptCycle_foldr_decryptCycle (rounds : List (UInt32 × UInt32)) (b : Block) :
    rounds.foldl encryptCycle (rounds.foldr decryptCycle b) = b := by
  induction rounds with
  | nil => rfl
  | cons round rounds ih =>
    rw [List.foldr_cons, List.foldl_cons, encryptCycle_decryptCycle, ih]

theorem decryptBlock_encryptBlock (key : Key) (b : Block) :
    key.decryptBlock (key.encryptBlock b) = b :=
  foldr_decryptCycle_foldl_encryptCycle key.rounds b

theorem encryptBlock_decryptBlock (key : Key) (b : Block) :
    key.encryptBlock (key.decryptBlock b) = b :=
  foldl_encryptCycle_foldr_decryptCycle key.rounds b

/-! ## Blocks as bytes -/

theorem word_littleEndian (v : UInt32) : word (Octets.littleEndian 4 v.toNat) = v := by
  have hSmall : v.toNat < 256 ^ 4 := v.toNat_lt
  rw [word, Octets.ofLittleEndian_littleEndian, Nat.mod_eq_of_lt hSmall, UInt32.ofNat_toNat]

theorem littleEndian_word {bs : Octets} (hLength : bs.length = 4) :
    Octets.littleEndian 4 (word bs).toNat = bs := by
  have hSmall : Octets.ofLittleEndian bs < 2 ^ 32 := by
    have hBound := Octets.ofLittleEndian_lt bs
    rwa [hLength] at hBound
  rw [word, UInt32.toNat_ofNat', Nat.mod_eq_of_lt hSmall, ← hLength,
    Octets.littleEndian_ofLittleEndian]

theorem Block.ofOctets_toOctets (b : Block) : Block.ofOctets b.toOctets = b := by
  have hFirst : b.toOctets.take 4 = Octets.littleEndian 4 b.v0.toNat := rfl
  have hSecond : (b.toOctets.drop 4).take 4 = Octets.littleEndian 4 b.v1.toNat := rfl
  rw [Block.ofOctets, hFirst, hSecond, word_littleEndian, word_littleEndian]

theorem Block.toOctets_ofOctets {bs : Octets} (hLength : bs.length = 8) :
    (Block.ofOctets bs).toOctets = bs := by
  have hFirst : (bs.take 4).length = 4 := by rw [List.length_take, hLength]; rfl
  have hSecond : (bs.drop 4).length = 4 := by rw [List.length_drop, hLength]
  rw [Block.ofOctets, Block.toOctets, littleEndian_word hFirst,
    List.take_of_length_le hSecond.le, littleEndian_word hSecond, List.take_append_drop]

@[simp]
theorem Block.length_toOctets (b : Block) : b.toOctets.length = 8 := rfl

theorem mapBlocks_toOctets_append (f : Block → Block) (b : Block) (rest : Octets) :
    mapBlocks f (b.toOctets ++ rest) = (f b).toOctets ++ mapBlocks f rest := by
  conv => rhs; rw [← b.ofOctets_toOctets]
  rfl

@[simp]
theorem length_mapBlocks (f : Block → Block) (bs : Octets) :
    (mapBlocks f bs).length = bs.length := by
  fun_induction mapBlocks f bs with
  | case1 b0 b1 b2 b3 b4 b5 b6 b7 rest ih =>
    rw [List.length_append, ih, Block.length_toOctets]
    simp only [List.length_cons]
    omega
  | case2 => rfl

theorem mapBlocks_mapBlocks {f g : Block → Block} (hInverse : ∀ b, g (f b) = b) (bs : Octets) :
    mapBlocks g (mapBlocks f bs) = bs := by
  fun_induction mapBlocks f bs with
  | case1 b0 b1 b2 b3 b4 b5 b6 b7 rest ih =>
    rw [mapBlocks_toOctets_append, hInverse, ih, Block.toOctets_ofOctets rfl]
    rfl
  | case2 rest hShort => exact mapBlocks.eq_2 g rest hShort

theorem transform_eq_ok {f : Block → Block} {bs : Octets} (hWhole : bs.length % blockLength = 0) :
    transform f bs = .ok (mapBlocks f bs) :=
  if_pos hWhole

end Gatehouse.Xtea
