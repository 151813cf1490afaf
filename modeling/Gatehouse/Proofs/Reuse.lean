import Gatehouse.Proofs.Opening
import Gatehouse.Proofs.OutputPath

/-!
# Reused buffers

Emptying a buffer only resets its length, and a pool lends out what it has got back, so the store
keeps the bytes of earlier payloads and frames. None of them comes into a frame: a buffer that is
empty again seals what a new one would.
-/

namespace Gatehouse

open Wire Octets

namespace Lending

def edit (l : Lending) (n : Nat) : FrameBuffer.Edit → Lending
  | .append bs => (l.append n bs).2
  | other =>
    match l.loan? n with
    | none => l
    | some b => l.set n (other.apply b.buffer)

inductive Use where
  | acquire
  | edit (n : Nat) (next : FrameBuffer.Edit)
  | drop (n : Nat)

def Use.apply (l : Lending) : Use → Lending
  | acquire => l.acquire.2
  | edit n next => l.edit n next
  | drop n => l.drop n

def ofUses (capacity : Nat) (uses : List Use) : Lending :=
  uses.foldl Use.apply (.ofCapacity capacity)

structure Sound (l : Lending) : Prop where
  pool : l.pool.Sound
  loans : ∀ loan ∈ l.loans, loan.2.buffer.WellFormed

variable {l : Lending} {n : Nat}

theorem Sound.loan (hl : l.Sound) {b : PooledBuffer} (hLoan : l.loan? n = some b) :
    b.buffer.WellFormed := by
  rw [loan?, List.lookup_eq_some_iff] at hLoan
  obtain ⟨front, rest, hLoans, -⟩ := hLoan
  exact hl.loans (n, b) (hLoans ▸ List.mem_append_right front (List.mem_cons_self ..))

/-- A buffer that is lent out comes from the pool or is new. -/
theorem Sound.acquire (hl : l.Sound) :
    l.acquire.2.Sound ∧ ∃ b, l.acquire.2.loan? l.acquire.1 = some b ∧ b.buffer.size = 0 := by
  obtain ⟨hBuffer, hEmpty, hPool⟩ := hl.pool.acquire
  refine ⟨⟨hPool, fun loan hLoan => ?_⟩, _, List.lookup_cons_self, hEmpty⟩
  rcases List.mem_cons.mp hLoan with rfl | hThere
  · exact hBuffer
  · exact hl.loans loan hThere

theorem Sound.set (hl : l.Sound) {buffer : FrameBuffer} (hBuffer : buffer.WellFormed) :
    (l.set n buffer).Sound := by
  refine ⟨hl.pool, fun loan hLoan => ?_⟩
  obtain ⟨⟨k, b⟩, hThere, rfl⟩ := List.mem_map.mp hLoan
  dsimp only
  split
  case isTrue => exact hBuffer
  case isFalse => exact hl.loans (k, b) hThere

theorem Sound.append (hl : l.Sound) (n : Nat) (bs : Octets) : (l.append n bs).2.Sound := by
  rw [Lending.append]
  split
  case h_1 buffer hAppend =>
    obtain ⟨b, hLoan, hFits⟩ := Option.bind_eq_some_iff.mp hAppend
    exact hl.set ((hl.loan hLoan).append hFits).1
  case h_2 => exact hl

theorem Sound.edit (hl : l.Sound) (n : Nat) (next : FrameBuffer.Edit) : (l.edit n next).Sound := by
  have hOther : ∀ other : FrameBuffer.Edit,
      (match l.loan? n with
        | none => l
        | some b => l.set n (other.apply b.buffer)).Sound := by
    intro other
    split
    case h_1 => exact hl
    case h_2 b hLoan => exact hl.set ((hl.loan hLoan).apply other).1
  cases next with
  | append bs => exact hl.append n bs
  | clear => exact hOther .clear
  | sealPlain => exact hOther .sealPlain
  | sealEncrypted key mode sequence => exact hOther (.sealEncrypted key mode sequence)

theorem Sound.drop (hl : l.Sound) (n : Nat) : (l.drop n).Sound := by
  rw [Lending.drop]
  split
  case h_1 => exact hl
  case h_2 b hLoan =>
    exact ⟨hl.pool.release (hl.loan hLoan),
      fun loan hThere => hl.loans loan (List.mem_filter.mp hThere).1⟩

theorem sound_ofUses (capacity : Nat) (uses : List Use) : (ofUses capacity uses).Sound := by
  have hRun : ∀ l : Lending, l.Sound → (uses.foldl Use.apply l).Sound := by
    induction uses with
    | nil => exact fun l hl => hl
    | cons use uses ih =>
      intro l hl
      refine ih _ ?_
      cases use with
      | acquire => exact hl.acquire.1
      | edit n next => exact hl.edit n next
      | drop n => exact hl.drop n
  exact hRun _ ⟨BufferPool.sound_ofCapacity capacity, nofun⟩

end Lending

/-! ## Frames -/

namespace Wire.FrameBuffer

def fill (b : FrameBuffer) (pieces : List Octets) : FrameBuffer :=
  (pieces.map Edit.append).foldl Edit.apply b

/-- A buffer that has been in use, on its own or on loan from a pool. -/
inductive Used (b : FrameBuffer) : Prop where
  | alone (edits : List Edit) (hBuffer : ofEdits edits = b)
  | onLoan (capacity : Nat) (uses : List Lending.Use) (n : Nat) (loan : PooledBuffer)
    (hLoan : (Lending.ofUses capacity uses).loan? n = some loan) (hBuffer : loan.buffer = b)

variable {b : FrameBuffer}

theorem Used.wellFormed (hb : b.Used) : b.WellFormed := by
  cases hb with
  | alone edits hBuffer =>
    subst hBuffer
    exact (ofEdits_spec edits).1
  | onLoan capacity uses n loan hLoan hBuffer =>
    subst hBuffer
    exact (Lending.sound_ofUses capacity uses).loan hLoan

theorem WellFormed.isSome_append? (hb : b.WellFormed) (bs : Octets) :
    (b.append? bs).isSome = decide (b.payload.length + bs.length ≤ maxPayload) := by
  rw [Bool.eq_iff_iff, decide_eq_true_iff, ← Nat.not_lt, ← append?_eq_none_iff hb,
    Option.isSome_iff_ne_none]

/-- The region of a sealed frame is the payload behind its length, with zeros for padding. -/
theorem decrypt_drop_sealedFrame (key : Xtea.Key) (mode : ChecksumMode) (sequence : UInt32)
    (payload : Octets) :
    Xtea.decrypt key ((sealedFrame key mode sequence payload).drop FrameReader.cipherStart) =
      .ok (littleEndian 2 payload.length ++ payload ++
        zeros (Xtea.paddingFor (2 + payload.length))) := by
  have hHead : ∀ sum, (littleEndian headerLength (checksumLength +
      (sealedRegion key payload).length) ++ littleEndian checksumLength sum).length =
        FrameReader.cipherStart := by
    intro sum
    rw [List.length_append, length_littleEndian, length_littleEndian]
    rfl
  rw [sealedFrame, List.drop_left' (hHead _), decrypt_sealedRegion]
  rfl

/-- A buffer that is empty again takes in the same pieces as a new one and seals the same frames,
with nothing but zeros in the padding. What a pool lends out is empty. -/
theorem used_seals_as_empty :
    (∀ b : FrameBuffer, b.Used → b.isEmpty = true → ∀ pieces : List Octets,
      (∀ bs, ((b.fill pieces).append? bs).isSome = ((empty.fill pieces).append? bs).isSome) ∧
      (b.fill pieces).sealPlain.1 = (empty.fill pieces).sealPlain.1 ∧
      ∀ key mode sequence,
        ((b.fill pieces).sealEncrypted key mode sequence).1 =
          ((empty.fill pieces).sealEncrypted key mode sequence).1 ∧
        let payload := (empty.fill pieces).payload
        Xtea.decrypt key (((b.fill pieces).sealEncrypted key mode sequence).1.drop
            FrameReader.cipherStart) =
          .ok (littleEndian 2 payload.length ++ payload ++
            zeros (Xtea.paddingFor (2 + payload.length)))) ∧
    ∀ capacity uses, let l := Lending.ofUses capacity uses
      ∃ loan : PooledBuffer, l.acquire.2.loan? l.acquire.1 = some loan ∧ loan.buffer.Used ∧
        loan.buffer.isEmpty = true := by
  refine ⟨fun b hb hEmpty pieces => ?_, ?_⟩
  · have hNothing : b.payload = empty.payload := by
      rw [payload_of_size_eq_zero (beq_iff_eq.mp hEmpty), payload_of_size_eq_zero rfl]
    obtain ⟨hUsed, hGathered⟩ := hb.wellFormed.applyAll (pieces.map Edit.append)
    obtain ⟨hNew, hSame⟩ := wellFormed_empty.applyAll (pieces.map Edit.append)
    rw [hNothing, ← hSame] at hGathered
    change (b.fill pieces).WellFormed at hUsed
    change (empty.fill pieces).WellFormed at hNew
    change (b.fill pieces).payload = (empty.fill pieces).payload at hGathered
    refine ⟨fun bs => ?_, ?_, fun key mode sequence => ?_⟩
    · rw [hUsed.isSome_append?, hNew.isSome_append?, hGathered]
    · rw [(sealPlain_eq hUsed).1, (sealPlain_eq hNew).1, hGathered]
    · rw [(sealEncrypted_eq hUsed key mode sequence).1, (sealEncrypted_eq hNew key mode sequence).1,
        hGathered]
      exact ⟨rfl, decrypt_drop_sealedFrame key mode sequence _⟩
  · intro capacity uses l
    obtain ⟨-, loan, hLoan, hSize⟩ := (Lending.sound_ofUses capacity uses).acquire
    have hUses : Lending.ofUses capacity (uses ++ [.acquire]) = l.acquire.2 :=
      List.foldl_append ..
    exact ⟨loan, hLoan, .onLoan capacity (uses ++ [.acquire]) l.acquire.1 loan (hUses ▸ hLoan) rfl,
      beq_iff_eq.mpr hSize⟩

/-- The one buffer of a pool is filled, sealed, filled again, given back and lent out once more. It
has bytes of its first user where the payload of its second will stand. -/
theorem lent_again_seals_as_empty :
    let key := Xtea.Key.ofWords ⟨1, 2, 3, 4⟩
    let uses : List Lending.Use := [.acquire, .edit 0 (.append (List.replicate 20 0xAA)),
      .edit 0 (.sealEncrypted key .adler 1), .edit 0 (.append [0xBB, 0xCC]), .drop 0, .acquire]
    ∃ loan, (Lending.ofUses 1 uses).loan? 1 = some loan ∧ loan.serial = 0 ∧
      slice loan.buffer.store prefixLength (prefixLength + 2) = [0xBB, 0xCC] ∧
      ((loan.buffer.fill [[7]]).sealEncrypted key .adler 1).1 =
        ((empty.fill [[7]]).sealEncrypted key .adler 1).1 := by
  intro key uses
  have hThere : ((Lending.ofUses 1 uses).loan? 1).isSome = true := by decide +kernel
  obtain ⟨loan, hLoan⟩ := Option.isSome_iff_exists.mp hThere
  have hFacts : ((Lending.ofUses 1 uses).loan? 1).map (fun loan => (loan.serial,
      loan.buffer.isEmpty, slice loan.buffer.store prefixLength (prefixLength + 2))) =
        some (0, true, [0xBB, 0xCC]) := by decide +kernel
  rw [hLoan, Option.map_some, Option.some.injEq, Prod.mk.injEq, Prod.mk.injEq] at hFacts
  obtain ⟨hSerial, hEmpty, hDirty⟩ := hFacts
  obtain ⟨-, -, hSealed⟩ := used_seals_as_empty.1 loan.buffer (.onLoan 1 uses 1 loan hLoan rfl)
    hEmpty [[7]]
  exact ⟨loan, hLoan, hSerial, hDirty, (hSealed key .adler 1).1⟩

end Wire.FrameBuffer

end Gatehouse
