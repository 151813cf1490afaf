import Gatehouse.Proofs.Cipher
import Gatehouse.Proofs.Stretch
import Gatehouse.Wire.FrameBuffer

/-!
# Sealed frames

A frame is a function of its payload: what else the store holds, left over from earlier frames or
from earlier users of the buffer, does not show. A buffer with any history therefore seals what has
been gathered since it was last emptied.
-/

namespace Gatehouse.Wire

open Octets

def plainFrame (payload : Octets) : Octets :=
  littleEndian headerLength (checksumLength + payload.length) ++ zeros checksumLength ++ payload

/-- What is encrypted: the length of the payload, the payload and the padding. -/
def plainRegion (payload : Octets) : Octets :=
  littleEndian 2 payload.length ++ payload ++ zeros (Xtea.paddingFor (2 + payload.length))

def sealedRegion (key : Xtea.Key) (payload : Octets) : Octets :=
  Xtea.mapBlocks key.encryptBlock (plainRegion payload)

def sealedFrame (key : Xtea.Key) (mode : ChecksumMode) (sequence : UInt32) (payload : Octets) :
    Octets :=
  let region := sealedRegion key payload
  littleEndian headerLength (checksumLength + region.length) ++
    littleEndian checksumLength (FrameBuffer.checksum mode sequence region).toNat ++ region

theorem length_plainRegion (payload : Octets) :
    (plainRegion payload).length =
      2 + payload.length + Xtea.paddingFor (2 + payload.length) := by
  simp only [plainRegion, List.length_append, length_littleEndian, length_zeros]

@[simp]
theorem length_sealedRegion (key : Xtea.Key) (payload : Octets) :
    (sealedRegion key payload).length = (plainRegion payload).length :=
  Xtea.length_mapBlocks _ _

theorem length_plainRegion_mod (payload : Octets) :
    (plainRegion payload).length % Xtea.blockLength = 0 := by
  rw [length_plainRegion, Xtea.add_paddingFor]

theorem length_body_lt {payload : Octets} (hPayload : payload.length ≤ maxPayload) :
    checksumLength + (plainRegion payload).length < 256 ^ headerLength := by
  have hPad := Xtea.paddingFor_lt (2 + payload.length)
  rw [length_plainRegion]
  simp only [maxPayload, Xtea.blockLength, checksumLength, headerLength] at *
  omega

theorem length_sealedFrame (key : Xtea.Key) (mode : ChecksumMode) (sequence : UInt32)
    (payload : Octets) :
    (sealedFrame key mode sequence payload).length =
      headerLength + checksumLength + (plainRegion payload).length := by
  simp only [sealedFrame, List.length_append, length_littleEndian, length_sealedRegion]

namespace FrameBuffer

/-- What holds of a buffer whatever has been done with it. -/
structure WellFormed (b : FrameBuffer) : Prop where
  length_store : b.store.length = capacity
  size_le : b.size ≤ maxPayload

theorem wellFormed_empty : empty.WellFormed :=
  ⟨length_zeros capacity, Nat.zero_le _⟩

theorem WellFormed.clear {b : FrameBuffer} (hb : b.WellFormed) : b.clear.WellFormed :=
  ⟨hb.length_store, Nat.zero_le _⟩

/-- The payload with what stands before and behind it. -/
theorem WellFormed.layout {b : FrameBuffer} (hb : b.WellFormed) :
    ∃ front rest, b.store = front ++ b.payload ++ rest ∧ front.length = prefixLength ∧
      b.payload.length = b.size ∧
      rest.length = maxPayload - b.size + Xtea.blockLength := by
  have hStore := hb.length_store
  have hSize := hb.size_le
  have hStop : prefixLength + b.size ≤ b.store.length := by rw [hStore, capacity]; omega
  refine ⟨b.store.take prefixLength, b.store.drop (prefixLength + b.size),
    (take_append_slice_append_drop (Nat.le_add_right ..)).symm, ?_, ?_, ?_⟩
  · rw [List.length_take]
    omega
  · rw [payload, length_slice hStop, Nat.add_sub_cancel_left]
  · rw [List.length_drop, hStore, capacity]
    omega

theorem WellFormed.length_payload {b : FrameBuffer} (hb : b.WellFormed) :
    b.payload.length = b.size := by
  obtain ⟨-, -, -, -, hPayload, -⟩ := hb.layout
  exact hPayload

theorem WellFormed.length_payload_le {b : FrameBuffer} (hb : b.WellFormed) :
    b.payload.length ≤ maxPayload := by
  rw [hb.length_payload]
  exact hb.size_le

theorem payload_of_size_eq_zero {b : FrameBuffer} (hSize : b.size = 0) : b.payload = [] := by
  rw [payload, hSize, slice, Nat.add_zero, Nat.sub_self, List.take_zero]

/-! ## Gathering -/

theorem fits_iff {b : FrameBuffer} (hb : b.WellFormed) (n : Nat) :
    b.fits n = true ↔ b.payload.length + n ≤ maxPayload := by
  have hSize := hb.size_le
  rw [fits, remaining, decide_eq_true_iff, hb.length_payload]
  omega

theorem WellFormed.append {b c : FrameBuffer} (hb : b.WellFormed) {bs : Octets}
    (hAppend : b.append? bs = some c) : c.WellFormed ∧ c.payload = b.payload ++ bs := by
  rw [append?] at hAppend
  split at hAppend
  case isFalse => cases hAppend
  case isTrue hFits =>
    rw [fits_iff hb] at hFits
    obtain ⟨front, rest, hStore, hFront, hPayload, hRest⟩ := hb.layout
    have hRoom : bs.length ≤ rest.length := by omega
    have hSplit : b.store = (front ++ b.payload) ++ rest.take bs.length ++ rest.drop bs.length := by
      rw [List.append_assoc, List.take_append_drop, hStore]
    have hNew : b.store.overwrite (prefixLength + b.size) bs =
        front ++ (b.payload ++ bs) ++ rest.drop bs.length := by
      rw [hSplit, overwrite_append (by rw [List.length_append, hFront, hPayload])
        (List.length_take_of_le hRoom).symm, List.append_assoc front]
    have hSize : b.size + bs.length ≤ maxPayload := by rwa [← hPayload]
    cases Option.some.inj hAppend
    refine ⟨⟨?_, hSize⟩, ?_⟩
    · have hLength := hb.length_store
      rw [hNew]
      rw [hStore] at hLength
      simp only [List.length_append, List.length_drop] at hLength ⊢
      omega
    · rw [payload, hNew]
      refine slice_append hFront.symm ?_
      rw [List.length_append, hFront, hPayload]

theorem append?_eq_none_iff {b : FrameBuffer} (hb : b.WellFormed) (bs : Octets) :
    b.append? bs = none ↔ maxPayload < b.payload.length + bs.length := by
  rw [append?, ← Nat.not_le, ← fits_iff hb]
  split <;> simp_all

/-! ## Sealing -/

theorem sealPlain_eq {b : FrameBuffer} (hb : b.WellFormed) :
    b.sealPlain.1 = plainFrame b.payload ∧ b.sealPlain.2.WellFormed ∧ b.sealPlain.2.size = 0 := by
  obtain ⟨front, rest, hStore, hFront, hPayload, -⟩ := hb.layout
  have hLength := hb.length_store
  have hHead : (littleEndian headerLength (checksumLength + b.size) ++
      zeros checksumLength).length = (front.drop 2).length := by
    rw [List.length_append, length_littleEndian, length_zeros, List.length_drop, hFront]
    rfl
  have hTwo : 2 = (front.take 2).length := by
    rw [List.length_take, hFront]
    rfl
  have hSplit : b.store = front.take 2 ++ front.drop 2 ++ (b.payload ++ rest) := by
    rw [List.take_append_drop, hStore, List.append_assoc]
  have hNew : b.store.overwrite 2 (littleEndian headerLength (checksumLength + b.size) ++
        zeros checksumLength) = front.take 2 ++ plainFrame b.payload ++ rest := by
    rw [hSplit, overwrite_append hTwo hHead, plainFrame, hPayload]
    simp only [List.append_assoc]
  refine ⟨?_, ⟨?_, Nat.zero_le _⟩, rfl⟩
  · change slice (b.store.overwrite 2 _) 2 _ = _
    rw [hNew]
    refine slice_append hTwo ?_
    rw [← hTwo, plainFrame, List.length_append, List.length_append, length_littleEndian,
      length_zeros, hPayload, prefixLength]
    omega
  · change (b.store.overwrite 2 _).length = _
    rw [length_overwrite, hLength]
    rw [hHead, List.length_drop, hFront, hLength]
    decide

/-- With its length before it and the padding behind it, the payload is the region to encrypt. -/
theorem WellFormed.region_layout {b : FrameBuffer} (hb : b.WellFormed) :
    ∃ head rest, head.length = headerLength + checksumLength ∧
      (b.store.overwrite (headerLength + checksumLength) (littleEndian 2 b.size)).overwrite
          (prefixLength + b.size) (zeros (Xtea.paddingFor (2 + b.size))) =
        head ++ plainRegion b.payload ++ rest ∧
      (head ++ plainRegion b.payload ++ rest).length = capacity := by
  obtain ⟨front, rest, hStore, hFront, hPayload, hRest⟩ := hb.layout
  have hSmall := Xtea.paddingFor_lt (2 + b.size)
  have hLength := hb.length_store
  have hStart : headerLength + checksumLength = (front.take 6).length := by
    rw [List.length_take, hFront]
    rfl
  have hTwo : (front.drop 6).length = 2 := by
    rw [List.length_drop, hFront]
    rfl
  have hSplit : b.store = front.take 6 ++ front.drop 6 ++ (b.payload ++ rest) := by
    rw [List.take_append_drop, hStore, List.append_assoc]
  rw [plainRegion, hPayload]
  generalize Xtea.paddingFor (2 + b.size) = pad at *
  have hPad : (zeros pad).length = (rest.take pad).length := by
    rw [length_zeros, List.length_take_of_le (by omega)]
  have hNew : (b.store.overwrite (headerLength + checksumLength)
        (littleEndian 2 b.size)).overwrite (prefixLength + b.size) (zeros pad) =
      front.take 6 ++ (littleEndian 2 b.size ++ b.payload ++ zeros pad) ++ rest.drop pad := by
    have hBehind : front.take 6 ++ littleEndian 2 b.size ++ (b.payload ++ rest) =
        (front.take 6 ++ littleEndian 2 b.size ++ b.payload) ++ rest.take pad ++
          rest.drop pad := by
      simp only [List.append_assoc, List.take_append_drop]
    have hBefore : prefixLength + b.size =
        (front.take 6 ++ littleEndian 2 b.size ++ b.payload).length := by
      rw [List.length_append, List.length_append, ← hStart, length_littleEndian, hPayload,
        prefixLength]
    rw [hSplit, overwrite_append hStart (by rw [hTwo, length_littleEndian]), hBehind,
      overwrite_append hBefore hPad]
    simp only [List.append_assoc]
  refine ⟨front.take 6, rest.drop pad, hStart.symm, hNew, ?_⟩
  rw [hStore] at hLength
  simp only [List.length_append, length_littleEndian, length_zeros, List.length_drop,
    List.length_take, hFront] at hLength ⊢
  rw [prefixLength, headerLength, checksumLength] at *
  omega

theorem sealEncrypted_eq {b : FrameBuffer} (hb : b.WellFormed) (key : Xtea.Key)
    (mode : ChecksumMode) (sequence : UInt32) :
    (b.sealEncrypted key mode sequence).1 = sealedFrame key mode sequence b.payload ∧
      (b.sealEncrypted key mode sequence).2.WellFormed ∧
      (b.sealEncrypted key mode sequence).2.size = 0 := by
  obtain ⟨head, rest, hHead, hStore, hLength⟩ := hb.region_layout
  have hPad : prefixLength + b.size - (headerLength + checksumLength) = 2 + b.size := by
    rw [prefixLength]
    omega
  have hStop : prefixLength + b.size + Xtea.paddingFor (2 + b.size) =
      head.length + (plainRegion b.payload).length := by
    rw [hHead, length_plainRegion, hb.length_payload, prefixLength]
    omega
  have hBody : prefixLength + b.size + Xtea.paddingFor (2 + b.size) - headerLength =
      checksumLength + (sealedRegion key b.payload).length := by
    rw [hStop, hHead, length_sealedRegion]
    omega
  have hRegion : Xtea.mapBlocks key.encryptBlock
      (slice (head ++ plainRegion b.payload ++ rest) (headerLength + checksumLength)
        (head.length + (plainRegion b.payload).length)) = sealedRegion key b.payload := by
    rw [slice_append hHead.symm rfl, sealedRegion]
  simp only [sealEncrypted, hPad, hStore, hBody, and_true]
  rw [hStop, hRegion]
  have hNew : overwrite (head ++ plainRegion b.payload ++ rest) 0
        (sealedFrame key mode sequence b.payload) =
      [] ++ sealedFrame key mode sequence b.payload ++ rest := by
    rw [← List.nil_append (head ++ plainRegion b.payload)]
    refine overwrite_append rfl ?_
    rw [length_sealedFrame, List.length_append, hHead]
  have hFrame : head.length + (plainRegion b.payload).length =
      (sealedFrame key mode sequence b.payload).length := by
    rw [length_sealedFrame, hHead]
  change slice (overwrite _ 0 (sealedFrame key mode sequence b.payload)) 0 _ = _ ∧ _
  refine ⟨?_, ⟨?_, Nat.zero_le _⟩⟩
  · rw [hNew, hFrame]
    exact slice_append rfl (Nat.zero_add _).symm
  · change (overwrite _ 0 (sealedFrame key mode sequence b.payload)).length = _
    rw [hNew, ← hLength]
    simp only [List.length_append, hFrame, List.length_nil, Nat.zero_add]

/-! ## Histories of a buffer -/

inductive Edit where
  | append (bs : Octets)
  | clear
  | sealPlain
  | sealEncrypted (key : Xtea.Key) (mode : ChecksumMode) (sequence : UInt32)

/-- Bytes that do not fit are refused. -/
def Edit.apply (b : FrameBuffer) : Edit → FrameBuffer
  | append bs => (b.append? bs).getD b
  | clear => b.clear
  | sealPlain => b.sealPlain.2
  | sealEncrypted key mode sequence => (b.sealEncrypted key mode sequence).2

def Edit.gather (payload : Octets) : Edit → Octets
  | append bs => if payload.length + bs.length ≤ maxPayload then payload ++ bs else payload
  | clear | sealPlain | sealEncrypted _ _ _ => []

def ofEdits (edits : List Edit) : FrameBuffer :=
  edits.foldl Edit.apply empty

/-- What has been gathered since the last clearing or sealing. -/
def gathered (edits : List Edit) : Octets :=
  edits.foldl Edit.gather []

theorem WellFormed.apply {b : FrameBuffer} (hb : b.WellFormed) (edit : Edit) :
    (edit.apply b).WellFormed ∧ (edit.apply b).payload = edit.gather b.payload := by
  cases edit with
  | append bs =>
    rw [Edit.apply, Edit.gather]
    cases hAppend : b.append? bs with
    | none =>
      rw [append?_eq_none_iff hb] at hAppend
      rw [if_neg (by omega)]
      exact ⟨hb, rfl⟩
    | some c =>
      have hFits : b.payload.length + bs.length ≤ maxPayload := by
        rw [← Nat.not_lt, ← append?_eq_none_iff hb, hAppend]
        exact Option.some_ne_none c
      rw [if_pos hFits]
      exact hb.append hAppend
  | clear => exact ⟨hb.clear, payload_of_size_eq_zero rfl⟩
  | sealPlain =>
    obtain ⟨-, hNext, hSize⟩ := sealPlain_eq hb
    exact ⟨hNext, payload_of_size_eq_zero hSize⟩
  | sealEncrypted key mode sequence =>
    obtain ⟨-, hNext, hSize⟩ := sealEncrypted_eq hb key mode sequence
    exact ⟨hNext, payload_of_size_eq_zero hSize⟩

theorem WellFormed.applyAll {b : FrameBuffer} (hb : b.WellFormed) (edits : List Edit) :
    (edits.foldl Edit.apply b).WellFormed ∧
      (edits.foldl Edit.apply b).payload = edits.foldl Edit.gather b.payload := by
  induction edits generalizing b with
  | nil => exact ⟨hb, rfl⟩
  | cons edit edits ih =>
    obtain ⟨hNext, hPayload⟩ := hb.apply edit
    rw [List.foldl_cons, List.foldl_cons, ← hPayload]
    exact ih hNext

theorem ofEdits_spec (edits : List Edit) :
    (ofEdits edits).WellFormed ∧ (ofEdits edits).payload = gathered edits :=
  wellFormed_empty.applyAll edits

end FrameBuffer

end Gatehouse.Wire
