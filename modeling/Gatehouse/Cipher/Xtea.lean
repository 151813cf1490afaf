import Gatehouse.Octets

/-!
# XTEA

The block cipher of the frames: 32 cycles over two words, with the round keys of all cycles
computed once, and its extension to byte strings of whole blocks.
-/

namespace Gatehouse.Xtea

def blockLength : Nat := 8

def delta : UInt32 := 0x9E3779B9

def cycles : Nat := 32

structure Block where
  v0 : UInt32
  v1 : UInt32
  deriving DecidableEq, Repr

structure Words where
  w0 : UInt32
  w1 : UInt32
  w2 : UInt32
  w3 : UInt32
  deriving DecidableEq, Repr, Inhabited

/-- The word that the two low bits of `i` select. -/
def Words.select (w : Words) (i : UInt32) : UInt32 :=
  match (i &&& 3).toNat with
  | 0 => w.w0
  | 1 => w.w1
  | 2 => w.w2
  | _ => w.w3

def Words.toList (w : Words) : List UInt32 :=
  [w.w0, w.w1, w.w2, w.w3]

def Words.schedule (w : Words) : (n : Nat) → (sum : UInt32) → List (UInt32 × UInt32)
  | 0, _ => []
  | n + 1, sum =>
    let next := sum + delta
    (sum + w.select sum, next + w.select (next >>> 11)) :: w.schedule n next

structure Key where
  words : Words
  rounds : List (UInt32 × UInt32)
  deriving DecidableEq

def Key.ofWords (words : Words) : Key :=
  ⟨words, words.schedule cycles 0⟩

instance : Inhabited Key := ⟨Key.ofWords default⟩

def mix (v : UInt32) : UInt32 :=
  ((v <<< 4) ^^^ (v >>> 5)) + v

def encryptCycle (b : Block) (round : UInt32 × UInt32) : Block :=
  let v0 := b.v0 + (mix b.v1 ^^^ round.1)
  ⟨v0, b.v1 + (mix v0 ^^^ round.2)⟩

def decryptCycle (round : UInt32 × UInt32) (b : Block) : Block :=
  let v1 := b.v1 - (mix b.v0 ^^^ round.2)
  ⟨b.v0 - (mix v1 ^^^ round.1), v1⟩

def Key.encryptBlock (key : Key) (b : Block) : Block :=
  key.rounds.foldl encryptCycle b

def Key.decryptBlock (key : Key) (b : Block) : Block :=
  key.rounds.foldr decryptCycle b

def word (bs : Octets) : UInt32 :=
  UInt32.ofNat (Octets.ofLittleEndian bs)

def Block.ofOctets (bs : Octets) : Block :=
  ⟨word (bs.take 4), word ((bs.drop 4).take 4)⟩

def Block.toOctets (b : Block) : Octets :=
  Octets.littleEndian 4 b.v0.toNat ++ Octets.littleEndian 4 b.v1.toNat

/-- Applies `f` to every whole block; a rest shorter than a block is left as it is. -/
def mapBlocks (f : Block → Block) : Octets → Octets
  | b0 :: b1 :: b2 :: b3 :: b4 :: b5 :: b6 :: b7 :: rest =>
    (f (Block.ofOctets [b0, b1, b2, b3, b4, b5, b6, b7])).toOctets ++ mapBlocks f rest
  | rest => rest

/-- A byte string of this length does not consist of whole blocks. -/
structure Misaligned where
  length : Nat
  deriving DecidableEq, Repr

def Misaligned.message (e : Misaligned) : String :=
  s!"cipher input of {e.length} bytes is not a multiple of {blockLength}"

def transform (f : Block → Block) (bs : Octets) : Except Misaligned Octets :=
  if bs.length % blockLength = 0 then .ok (mapBlocks f bs) else .error ⟨bs.length⟩

def encrypt (key : Key) (bs : Octets) : Except Misaligned Octets :=
  transform key.encryptBlock bs

def decrypt (key : Key) (bs : Octets) : Except Misaligned Octets :=
  transform key.decryptBlock bs

/-- How many bytes are missing to a whole number of blocks. -/
def paddingFor (length : Nat) : Nat :=
  (blockLength - length % blockLength) % blockLength

theorem add_paddingFor (length : Nat) : (length + paddingFor length) % blockLength = 0 := by
  simp only [paddingFor, blockLength]
  omega

theorem paddingFor_lt (length : Nat) : paddingFor length < blockLength :=
  Nat.mod_lt _ (by decide)

end Gatehouse.Xtea
