import Gatehouse.Proofs.AdlerSums
import Gatehouse.Proofs.DroppedFrames

/-!
# Zero checksums

A reader takes a zero in the checksum slot for the mark of a malformed frame. In the counting mode
it does not look; in the other the slot holds whatever the sum of the region is, and for some
payloads of more than 254 bytes that is zero.
-/

namespace Gatehouse

open Wire Octets
open Adler (Vanishes)

namespace Wire

theorem FrameBuffer.gathered_append {bs : Octets} (hFits : bs.length ≤ maxPayload) :
    gathered [.append bs] = bs :=
  if_pos ((Nat.zero_add _).trans_le hFits)

end Wire

namespace Steady

variable (key : Xtea.Key) (mode : ChecksumMode) (sequence : UInt32) {payload : Octets}

theorem checksum?_sealedFrame (payload : Octets) :
    checksum? (sealedFrame key mode sequence payload) =
      some (FrameBuffer.checksum mode sequence (sealedRegion key payload)).toNat := by
  have hLong : ¬ (sealedFrame key mode sequence payload).length < FrameReader.cipherStart := by
    rw [length_sealedFrame]
    exact Nat.not_lt.mpr (Nat.le_add_right ..)
  rw [checksum?, if_neg hLong]
  have hSlot : slice (sealedFrame key mode sequence payload) headerLength FrameReader.cipherStart =
      littleEndian checksumLength
        (FrameBuffer.checksum mode sequence (sealedRegion key payload)).toNat := by
    refine slice_append (length_littleEndian ..).symm ?_
    rw [length_littleEndian, length_littleEndian]
    rfl
  rw [hSlot, ofLittleEndian_littleEndian]
  exact congrArg some (Nat.mod_eq_of_lt (UInt32.toNat_lt _))

theorem decrypt_checked_sealedFrame (hPayload : payload.length ≤ maxPayload) :
    ∃ message : FrameReader,
      (checked (sealedFrame key mode sequence payload)).decrypt key = (true, message) ∧
        message.unread = payload := by
  obtain ⟨hOpened, hUnread⟩ := decrypt_sealedFrame
    (r := checked (sealedFrame key mode sequence payload)) ⟨[], (List.append_nil _).symm, rfl⟩
    hPayload
  exact ⟨_, Prod.ext hOpened rfl, hUnread⟩

/-- Nothing but its checksum can make a sealed frame malformed. -/
theorem dropped_sealedFrame_iff (hPayload : payload.length ≤ maxPayload) :
    Dropped key mode (sealedFrame key mode sequence payload) ↔
      mode = .adler ∧ Vanishes (sealedRegion key payload) := by
  obtain ⟨message, hDecrypt, -⟩ := decrypt_checked_sealedFrame key mode sequence hPayload
  obtain ⟨hWhole, hFits⟩ := (decrypt_checked key (sealedFrame key mode sequence payload)).mp
    (congrArg Prod.fst hDecrypt)
  rw [dropped_iff, checksum?_sealedFrame]
  constructor
  · rintro (⟨rfl, hZero⟩ | hNot | hShort)
    · refine ⟨rfl, (adler32_eq_zero_iff _).mp (UInt32.toNat_inj.mp ?_)⟩
      simpa [FrameBuffer.checksum] using hZero
    · exact absurd hWhole hNot
    · exact absurd hShort hFits
  · rintro ⟨rfl, hVanishes⟩
    refine Or.inl ⟨rfl, Or.inr ?_⟩
    rw [FrameBuffer.checksum, (adler32_eq_zero_iff _).mpr hVanishes]
    rfl

theorem read_sealedFrame {c : Connection} {key : Xtea.Key} (hKey : c.key? = some key)
    (sequence : UInt32) (hPayload : payload.length ≤ maxPayload)
    (hKept : ¬ Dropped key c.mode (sealedFrame key c.mode sequence payload))
    (sessions : SessionRegistry) :
    ∃ message : FrameReader, message.unread = payload.tail ∧
      read c sessions (.bearing (sealedFrame key c.mode sequence payload)) =
        (decide sessions c.session? (payload.headD 0), message) := by
  have hHeader : headerLength ≤ (sealedFrame key c.mode sequence payload).length := by
    rw [length_sealedFrame, Nat.add_assoc]
    exact Nat.le_add_right ..
  have hInner : innerPayload key (sealedFrame key c.mode sequence payload) = payload := by
    obtain ⟨opened, hDecrypt, hUnread⟩ := decrypt_checked_sealedFrame key c.mode sequence hPayload
    obtain ⟨hSame, -⟩ := unread_decrypt_checked (congrArg Prod.fst hDecrypt)
    rw [← hSame, hDecrypt, hUnread]
  have hRead := read_bearing_of_kept hKey hHeader hKept sessions
  rwa [hInner] at hRead

end Steady

/-- Sealed for the mode that looks at the slot, a frame is dropped exactly if both sums of its
region vanish; any other is decided upon by its opcode, with the rest of the payload as message. -/
theorem sealed_frame_dropped_iff (edits : List FrameBuffer.Edit) (key : Xtea.Key)
    (sequence : UInt32) :
    let payload := FrameBuffer.gathered edits
    let frame := ((FrameBuffer.ofEdits edits).sealEncrypted key .adler sequence).1
    Steady.checksum? frame = some (adler32 (sealedRegion key payload)).toNat ∧
      (Steady.Dropped key .adler frame ↔ Vanishes (sealedRegion key payload)) ∧
      (payload.length ≤ 254 → ¬ Steady.Dropped key .adler frame) ∧
      ∀ (s : Server) (id : ConnectionId) (c : Connection), s.connection? id = some c →
        c.isOpen = true → c.key? = some key → c.mode = .adler →
        if Vanishes (sealedRegion key payload) then s.heard id frame = (true, s)
        else ∃ message : FrameReader, message.unread = payload.tail ∧
          Steady.read c s.game.sessions (.bearing frame) =
            (Steady.decide s.game.sessions c.session? (payload.headD 0), message) := by
  intro payload frame
  obtain ⟨hBuffer, hGathered⟩ := FrameBuffer.ofEdits_spec edits
  have hGathered : _ = payload := hGathered
  have hPayload : payload.length ≤ maxPayload := hGathered ▸ hBuffer.length_payload_le
  have hFrame : frame = sealedFrame key .adler sequence payload :=
    hGathered ▸ (FrameBuffer.sealEncrypted_eq hBuffer key .adler sequence).1
  have hIff : Steady.Dropped key .adler frame ↔ Vanishes (sealedRegion key payload) := by
    rw [hFrame, Steady.dropped_sealedFrame_iff key .adler sequence hPayload]
    exact and_iff_right rfl
  refine ⟨?_, hIff, fun hShort => ?_, fun s id c hConnection hOpen hKey hMode => ?_⟩
  · rw [hFrame]
    exact Steady.checksum?_sealedFrame key .adler sequence payload
  · rw [hIff]
    refine not_vanishes ?_
    have hPad := Xtea.paddingFor_lt (2 + payload.length)
    have hWhole := length_plainRegion_mod payload
    rw [length_sealedRegion]
    rw [length_plainRegion] at hWhole ⊢
    rw [Xtea.blockLength] at hPad hWhole
    omega
  · split
    case isTrue hVanishes =>
      exact Steady.heard_of_dropped hConnection hOpen hKey (hMode ▸ hIff.mpr hVanishes)
    case isFalse hNot =>
      rw [hFrame, ← hMode]
      refine Steady.read_sealedFrame hKey sequence hPayload ?_ s.game.sessions
      rwa [hMode, ← hFrame, hIff]

namespace Reader

theorem sealed_greeting_read :
    let edits := [FrameBuffer.Edit.append (100 :: Field.encode (.text "hi"))]
    let frame := ((FrameBuffer.ofEdits edits).sealEncrypted spokenKey .adler 1).1
    ¬ Steady.Dropped spokenKey .adler frame ∧
      ∃ c message, listening.connection? 1 = some c ∧
        Steady.read c listening.game.sessions (.bearing frame) =
          (.dispatched 100 Rivals.handle, message) ∧
        message.unread = Field.encode (.text "hi") := by
  intro edits frame
  have hPayload : FrameBuffer.gathered edits = 100 :: Field.encode (.text "hi") :=
    FrameBuffer.gathered_append (by decide +kernel)
  obtain ⟨-, hIff, hShort, hHeard⟩ := sealed_frame_dropped_iff edits spokenKey 1
  have hKept : ¬ Steady.Dropped spokenKey .adler frame := hShort (by rw [hPayload]; decide +kernel)
  obtain ⟨c, hConnection, hOpen, hKey, hMode⟩ : ∃ c, listening.connection? 1 = some c ∧
      c.isOpen = true ∧ c.key? = some spokenKey ∧ c.mode = .adler := ⟨_, rfl, rfl, rfl, rfl⟩
  have hRead := hHeard listening 1 c hConnection hOpen hKey hMode
  rw [if_neg fun hVanishes => hKept (hIff.mpr hVanishes), hPayload] at hRead
  obtain ⟨message, hMessage, hRead⟩ := hRead
  have hSession : listening.connection? 1 = some c → Steady.decide listening.game.sessions
      c.session? 100 = .dispatched 100 Rivals.handle := by
    rintro ⟨⟩
    decide +kernel
  exact ⟨hKept, c, message, hConnection, hRead.trans (by rw [← hSession hConnection]; rfl),
    hMessage⟩

/-- A message that leaves both sums of the sealed region divisible by the modulus. -/
def vanishing : Octets :=
  [0x64, 0x00, 0x00, 0x1C, 0x68, 0x4C] ++ List.replicate 320 0x76

set_option maxRecDepth 4000 in
theorem vanishes_sealedRegion_vanishing : Vanishes (sealedRegion spokenKey vanishing) := by
  decide +kernel

/-- There is a handler for its opcode, but the frame does nothing. -/
theorem sealed_frame_with_zero_checksum_dropped :
    let edits := [FrameBuffer.Edit.append vanishing]
    let frame := ((FrameBuffer.ofEdits edits).sealEncrypted spokenKey .adler 1).1
    FrameBuffer.gathered edits = vanishing ∧ InBounds frame ∧
      Steady.checksum? frame = some 0 ∧ Steady.Dropped spokenKey .adler frame ∧
      (listening.handlers.handler? 0x64).isSome = true ∧
      listening.heard 1 frame = (true, listening) := by
  intro edits frame
  obtain ⟨hBuffer, hGathered⟩ := FrameBuffer.ofEdits_spec edits
  have hLength : vanishing.length = 326 := by
    rw [vanishing, List.length_append, List.length_replicate]
    rfl
  have hFits : vanishing.length ≤ maxPayload := by rw [hLength]; decide
  have hPayload : FrameBuffer.gathered edits = vanishing :=
    FrameBuffer.gathered_append hFits
  have hFrame : frame = sealedFrame spokenKey .adler 1 vanishing :=
    hPayload ▸ hGathered ▸ (FrameBuffer.sealEncrypted_eq hBuffer spokenKey .adler 1).1
  have hDropped : Steady.Dropped spokenKey .adler frame := by
    rw [hFrame, Steady.dropped_sealedFrame_iff spokenKey .adler 1 hFits]
    exact ⟨rfl, vanishes_sealedRegion_vanishing⟩
  refine ⟨hPayload, ?_, ?_, hDropped, rfl, ?_⟩
  · rw [hFrame, inBounds_sealedFrame_iff spokenKey .adler 1 hFits, hLength]
    decide
  · rw [hFrame, Steady.checksum?_sealedFrame]
    change some (adler32 _).toNat = _
    rw [(adler32_eq_zero_iff _).mpr vanishes_sealedRegion_vanishing]
    rfl
  · exact Steady.heard_of_dropped rfl rfl rfl hDropped

end Reader

end Gatehouse
