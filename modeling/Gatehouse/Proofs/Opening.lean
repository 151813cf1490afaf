import Gatehouse.Proofs.Sealing
import Gatehouse.Wire.FrameReader

/-!
# Opening undoes sealing

A reader whose declared bytes are a sealed frame decrypts it, and what it then has left to read is
the payload, with the padding cut off.
-/

namespace Gatehouse.Wire

open Octets

namespace FrameReader

/-- The declared bytes are this frame, whatever the store holds behind them. -/
def Carries (r : FrameReader) (frame : Octets) : Prop :=
  ∃ rest, r.store = frame ++ rest ∧ r.length = frame.length

theorem length_store_ofFrame (frame : Octets) : (ofFrame frame).store.length = capacity := by
  have hFits : 0 + (frame.take capacity).length ≤ (zeros capacity).length := by
    rw [Nat.zero_add, length_zeros]
    exact List.length_take_le ..
  exact (length_overwrite hFits).trans (length_zeros _)

theorem carries_ofFrame {frame : Octets} (hLength : frame.length ≤ capacity) :
    (ofFrame frame).Carries frame := by
  have hTake : frame.take capacity = frame := List.take_of_length_le hLength
  refine ⟨(zeros capacity).drop frame.length, ?_, ?_⟩
  · rw [ofFrame, hTake]
    change overwrite (zeros capacity) 0 frame = _
    rw [overwrite, List.take_zero, List.nil_append, Nat.zero_add]
  · rw [ofFrame, hTake]

theorem Carries.headerValue {r : FrameReader} {header body : Octets}
    (hr : r.Carries (header ++ body)) (hHeader : header.length = headerLength) :
    r.headerValue = UInt16.ofNat (ofLittleEndian header) := by
  obtain ⟨rest, hStore, -⟩ := hr
  have hSlice : slice r.store 0 headerLength = header := by
    rw [hStore, List.append_assoc, ← List.nil_append header]
    exact slice_append rfl (by rw [List.length_nil, Nat.zero_add, hHeader])
  rw [FrameReader.headerValue, hSlice]

theorem number_of_layout {r : FrameReader} {front bs rest : Octets} {size : Nat}
    (hStore : r.store = front ++ bs ++ rest) (hPosition : r.position = front.length)
    (hSize : bs.length = size) (hInside : r.position + size ≤ r.length) :
    r.number size = (ofLittleEndian bs, { r with position := r.position + size }) := by
  have hEnough : ¬ r.remaining < size := by
    rw [remaining]
    omega
  have hSlice : slice r.store r.position (r.position + size) = bs := by
    rw [hStore]
    exact slice_append hPosition (by rw [hPosition, hSize])
  rw [number, take, if_neg hEnough]
  simp only [hSlice]

end FrameReader

theorem headerValue_sealedFrame {key : Xtea.Key} {mode : ChecksumMode} {sequence : UInt32}
    {payload : Octets} {r : FrameReader}
    (hr : r.Carries (sealedFrame key mode sequence payload))
    (hPayload : payload.length ≤ maxPayload) :
    r.headerValue.toNat = checksumLength + (plainRegion payload).length := by
  have hSmall := length_body_lt hPayload
  rw [sealedFrame, List.append_assoc] at hr
  rw [hr.headerValue (length_littleEndian ..), ofLittleEndian_littleEndian, length_sealedRegion,
    Nat.mod_eq_of_lt hSmall]
  exact UInt16.toNat_ofNat_of_lt' hSmall

theorem decrypt_sealedRegion (key : Xtea.Key) (payload : Octets) :
    Xtea.decrypt key (sealedRegion key payload) = .ok (plainRegion payload) := by
  rw [Xtea.decrypt, Xtea.transform_eq_ok, sealedRegion,
    Xtea.mapBlocks_mapBlocks (Xtea.decryptBlock_encryptBlock key)]
  rw [length_sealedRegion, length_plainRegion_mod]

theorem number_plainRegion {r : FrameReader} {payload front rest : Octets}
    (hStore : r.store = front ++ plainRegion payload ++ rest)
    (hPosition : r.position = front.length) (hInside : r.position + 2 ≤ r.length)
    (hPayload : payload.length ≤ maxPayload) :
    r.number 2 = (payload.length, { r with position := r.position + 2 }) := by
  have hParts : r.store = front ++ littleEndian 2 payload.length ++
      (payload ++ zeros (Xtea.paddingFor (2 + payload.length)) ++ rest) := by
    rw [hStore]
    simp only [plainRegion, List.append_assoc]
  have hInner : ofLittleEndian (littleEndian 2 payload.length) = payload.length := by
    rw [ofLittleEndian_littleEndian, Nat.mod_eq_of_lt]
    rw [maxPayload] at hPayload
    omega
  rw [FrameReader.number_of_layout hParts hPosition (length_littleEndian ..) hInside, hInner]

/-- Behind that length stands the payload, and the declared length can end with it. -/
theorem unread_plainRegion {r : FrameReader} {payload front rest : Octets}
    (hStore : r.store = front ++ plainRegion payload ++ rest)
    (hPosition : r.position = front.length + 2) (hLength : r.length = r.position + payload.length) :
    r.unread = payload := by
  have hParts : r.store = (front ++ littleEndian 2 payload.length) ++ payload ++
      (zeros (Xtea.paddingFor (2 + payload.length)) ++ rest) := by
    rw [hStore]
    simp only [plainRegion, List.append_assoc]
  have hStart : r.position = (front ++ littleEndian 2 payload.length).length := by
    rw [List.length_append, length_littleEndian, hPosition]
  rw [FrameReader.unread, FrameReader.unreadEnd, hParts]
  refine slice_append hStart ?_
  rw [← hStart, hLength]
  exact Nat.max_eq_left (Nat.le_add_right ..)

theorem decrypt_sealedFrame {key : Xtea.Key} {mode : ChecksumMode} {sequence : UInt32}
    {payload : Octets} {r : FrameReader}
    (hr : r.Carries (sealedFrame key mode sequence payload))
    (hPayload : payload.length ≤ maxPayload) :
    (r.decrypt key).1 = true ∧ (r.decrypt key).2.unread = payload := by
  obtain ⟨rest, hStore, hLength⟩ := hr
  obtain ⟨head, hHead, hFrame⟩ : ∃ head : Octets, head.length = FrameReader.cipherStart ∧
      sealedFrame key mode sequence payload = head ++ sealedRegion key payload :=
    ⟨_, by rw [List.length_append, length_littleEndian, length_littleEndian]; rfl, rfl⟩
  rw [hFrame] at hStore hLength
  have hRegion := length_plainRegion payload
  have hStop : r.length = head.length + (sealedRegion key payload).length := by
    rw [hLength, List.length_append]
  have hEnough : FrameReader.cipherStart + (2 + payload.length) ≤ r.length := by
    rw [hStop, hHead, length_sealedRegion]
    omega
  have hNotShort : ¬ r.length ≤ FrameReader.cipherStart := by omega
  have hInside : FrameReader.cipherStart + 2 ≤ r.length := by omega
  have hPlain : Xtea.decrypt key (slice r.store FrameReader.cipherStart r.length) =
      .ok (plainRegion payload) := by
    rw [hStore, slice_append hHead.symm hStop, decrypt_sealedRegion]
  have hOpened : r.store.overwrite FrameReader.cipherStart (plainRegion payload) =
      head ++ plainRegion payload ++ rest := by
    rw [hStore, overwrite_append hHead.symm (length_sealedRegion key payload).symm]
  have hNumber := number_plainRegion (r := { r with
      store := head ++ plainRegion payload ++ rest, position := FrameReader.cipherStart })
    rfl hHead.symm hInside hPayload
  have hFits : ¬ r.length < payload.length + prefixLength := by
    rw [FrameReader.cipherStart] at hEnough
    rw [prefixLength]
    omega
  rw [FrameReader.decrypt, if_neg hNotShort, hPlain]
  simp only [hOpened, hNumber, if_neg hFits, true_and]
  refine unread_plainRegion rfl ?_ ?_
  · rw [hHead]
  · rfl

/-! ## Buffers -/

/-- A buffer with any history seals what it has gathered. A frame that a reader can hold declares
its length, is made of whole blocks behind the checksum, and opens again. -/
theorem decrypt_ofFrame_sealEncrypted (edits : List FrameBuffer.Edit) (key : Xtea.Key)
    (mode : ChecksumMode) (sequence : UInt32)
    (hFits : ((FrameBuffer.ofEdits edits).sealEncrypted key mode sequence).1.length ≤
      FrameReader.capacity) :
    let frame := ((FrameBuffer.ofEdits edits).sealEncrypted key mode sequence).1
    let r := FrameReader.ofFrame frame
    r.headerValue.toNat + headerLength = frame.length ∧
      FrameReader.cipherStart ≤ frame.length ∧
      (frame.length - FrameReader.cipherStart) % Xtea.blockLength = 0 ∧
      (r.decrypt key).1 = true ∧ (r.decrypt key).2.unread = FrameBuffer.gathered edits := by
  intro frame r
  obtain ⟨hBuffer, hGathered⟩ := FrameBuffer.ofEdits_spec edits
  obtain ⟨hFrame, -, -⟩ := FrameBuffer.sealEncrypted_eq hBuffer key mode sequence
  rw [hGathered] at hFrame
  have hPayload : (FrameBuffer.gathered edits).length ≤ maxPayload :=
    hGathered ▸ hBuffer.length_payload_le
  have hCarries : r.Carries (sealedFrame key mode sequence (FrameBuffer.gathered edits)) :=
    hFrame ▸ FrameReader.carries_ofFrame hFits
  have hLength : frame.length = FrameReader.cipherStart +
      (plainRegion (FrameBuffer.gathered edits)).length := by
    rw [show frame = _ from hFrame, length_sealedFrame, FrameReader.cipherStart]
  obtain ⟨hDecrypted, hUnread⟩ := decrypt_sealedFrame hCarries hPayload
  refine ⟨?_, ?_, ?_, hDecrypted, hUnread⟩
  · rw [headerValue_sealedFrame hCarries hPayload, hLength, FrameReader.cipherStart]
    omega
  · rw [hLength]
    exact Nat.le_add_right ..
  · rw [hLength, Nat.add_sub_cancel_left, length_plainRegion_mod]

/-- A buffer that was filled, sealed and filled again, so that old bytes stand behind the new
payload. With six bytes there is no padding. -/
theorem decrypt_ofFrame_reused :
    let edits := [FrameBuffer.Edit.append (List.replicate 20 0xAA),
      .sealEncrypted (.ofWords ⟨1, 2, 3, 4⟩) .adler 1, .append [1, 2, 3], .append [4, 5, 6]]
    let r := FrameReader.ofFrame
      ((FrameBuffer.ofEdits edits).sealEncrypted (.ofWords ⟨1, 2, 3, 4⟩) .sequence 2).1
    (r.decrypt (.ofWords ⟨1, 2, 3, 4⟩)).2.unread = [1, 2, 3, 4, 5, 6] := by
  intro edits r
  obtain ⟨hBuffer, hGathered⟩ := FrameBuffer.ofEdits_spec edits
  have hPayload : FrameBuffer.gathered edits = [1, 2, 3, 4, 5, 6] := by rfl
  have hFits : ((FrameBuffer.ofEdits edits).sealEncrypted (.ofWords ⟨1, 2, 3, 4⟩) .sequence
      2).1.length ≤ FrameReader.capacity := by
    rw [(FrameBuffer.sealEncrypted_eq hBuffer ..).1, hGathered, hPayload, length_sealedFrame,
      length_plainRegion]
    decide
  obtain ⟨-, -, -, -, hUnread⟩ := decrypt_ofFrame_sealEncrypted edits _ _ _ hFits
  rw [hUnread, hPayload]

end Gatehouse.Wire
