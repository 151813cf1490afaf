import Gatehouse.Proofs.DeclaredBytes

/-!
# What decryption does to a frame

The store is changed in place, and there are three ways out: the region is not made of whole blocks
and nothing is touched, it is decrypted but tells of a payload that does not fit, or the frame is
cut to its payload. On none of them does a byte change outside the region.
-/

namespace Gatehouse.Wire.FrameReader

open Octets

variable {r : FrameReader}

theorem store_opened (key : Xtea.Key) (hr : r.length ≤ r.store.length)
    (hLong : cipherStart ≤ r.length) :
    (r.opened key).store.take cipherStart = r.store.take cipherStart ∧
      slice (r.opened key).store cipherStart r.length = r.plain key ∧
      (r.opened key).store.drop r.length = r.store.drop r.length := by
  have hInside : cipherStart ≤ r.store.length := hLong.trans hr
  have hEnd : r.length = cipherStart + (r.plain key).length := by
    rw [r.length_plain key hr]
    omega
  exact ⟨take_overwrite_of_le (Nat.le_refl _) hInside, slice_overwrite hInside hEnd,
    drop_overwrite_of_le hEnd.ge hInside⟩

theorem unread_opened (key : Xtea.Key) (hr : r.length ≤ r.store.length)
    (hFits : r.inner key + prefixLength ≤ r.length) :
    ({ r.opened key with length := prefixLength + r.inner key }).unread =
      ((r.plain key).drop 2).take (r.inner key) := by
  have hLong : cipherStart + 2 ≤ r.length := (Nat.le_add_left ..).trans hFits
  obtain ⟨-, hRegion, -⟩ := store_opened key hr ((Nat.le_add_right ..).trans hLong)
  have hEnd : max (prefixLength + r.inner key) prefixLength = prefixLength + r.inner key :=
    Nat.max_eq_left (Nat.le_add_right ..)
  have hBehind : (r.plain key).drop 2 =
      ((r.opened key).store.drop prefixLength).take (r.length - prefixLength) := by
    rw [← hRegion, slice, List.drop_take, List.drop_drop]
    rfl
  change slice (r.opened key).store prefixLength (max (prefixLength + r.inner key) prefixLength) = _
  rw [hEnd, slice, Nat.add_sub_cancel_left, hBehind, List.take_take, Nat.min_eq_left (by omega)]

/-- A frame is accepted exactly if it has a region of whole blocks and the length that stands in
front of the decrypted region fits. It is then cut to the payload, with the cursor in front of that.
A region that is not made of whole blocks is left as it is, cursor and length too. Nothing else in
the store changes, whichever way it goes. -/
theorem decrypt_exact (r : FrameReader) (key : Xtea.Key) (hr : r.length ≤ r.store.length) :
    let q := (r.decrypt key).2
    ((r.decrypt key).1 = true ↔
      cipherStart < r.length ∧ (r.length - cipherStart) % Xtea.blockLength = 0 ∧
        r.inner key + prefixLength ≤ r.length) ∧
    ((r.decrypt key).1 = true →
      q.position = prefixLength ∧ q.length = prefixLength + r.inner key ∧
        q.unread = ((r.plain key).drop 2).take (r.inner key) ∧
        q.unread.length = r.inner key) ∧
    (cipherStart < r.length ∧ (r.length - cipherStart) % Xtea.blockLength = 0 →
      Xtea.decrypt key (slice r.store cipherStart r.length) = .ok (r.plain key) ∧
        slice q.store cipherStart r.length = r.plain key) ∧
    (r.length ≤ cipherStart ∨ (r.length - cipherStart) % Xtea.blockLength ≠ 0 → q = r) ∧
    q.store.take cipherStart = r.store.take cipherStart ∧
    q.store.drop r.length = r.store.drop r.length := by
  intro q
  by_cases hWhole : r.Whole
  case neg =>
    have hResult : r.decrypt key = (false, r) := by rw [decrypt_eq key hr, if_neg hWhole]
    have hSame : q = r := congrArg Prod.snd hResult
    rw [hResult, hSame]
    exact ⟨iff_of_false Bool.false_ne_true fun h => hWhole ⟨h.1, h.2.1⟩, fun h => absurd h Bool.false_ne_true,
      fun h => absurd h hWhole, fun _ => rfl, rfl, rfl⟩
  case pos =>
    obtain ⟨hLong, hBlocks⟩ := hWhole
    obtain ⟨hBefore, hRegion, hBehind⟩ := store_opened key hr hLong.le
    have hPlain : Xtea.decrypt key (slice r.store cipherStart r.length) = .ok (r.plain key) :=
      Xtea.transform_eq_ok (by rwa [length_slice hr])
    have hTouched : ¬ (r.length ≤ cipherStart ∨ (r.length - cipherStart) % Xtea.blockLength ≠ 0) :=
      fun h => h.elim (Nat.not_le.mpr hLong) (not_not_intro hBlocks)
    by_cases hFits : r.inner key + prefixLength ≤ r.length
    case pos =>
      have hResult : r.decrypt key =
          (true, { r.opened key with length := prefixLength + r.inner key }) := by
        rw [decrypt_eq key hr, if_pos ⟨hLong, hBlocks⟩, if_neg (Nat.not_lt.mpr hFits)]
      have hUnread := unread_opened key hr hFits
      have hLength : (((r.plain key).drop 2).take (r.inner key)).length = r.inner key := by
        rw [List.length_take, List.length_drop, r.length_plain key hr]
        rw [prefixLength] at hFits
        rw [cipherStart]
        omega
      have hCut : q = { r.opened key with length := prefixLength + r.inner key } :=
        congrArg Prod.snd hResult
      rw [hResult, hCut]
      exact ⟨iff_of_true rfl ⟨hLong, hBlocks, hFits⟩,
        fun _ => ⟨rfl, rfl, hUnread, hUnread ▸ hLength⟩, fun _ => ⟨hPlain, hRegion⟩,
        fun h => absurd h hTouched, hBefore, hBehind⟩
    case neg =>
      have hResult : r.decrypt key = (false, r.opened key) := by
        rw [decrypt_eq key hr, if_pos ⟨hLong, hBlocks⟩, if_pos (Nat.lt_of_not_le hFits)]
      have hKept : q = r.opened key := congrArg Prod.snd hResult
      rw [hResult, hKept]
      exact ⟨iff_of_false Bool.false_ne_true fun h => hFits h.2.2, fun h => absurd h Bool.false_ne_true,
        fun _ => ⟨hPlain, hRegion⟩, fun h => absurd h hTouched, hBefore, hBehind⟩

/-- Bytes of an earlier frame stand behind one with a payload of three bytes. -/
theorem decrypt_exact_above_old_bytes :
    let key := Xtea.Key.ofWords ⟨1, 2, 3, 4⟩
    let r : FrameReader :=
      { store := sealedFrame key .sequence 7 [0x1E, 2, 3] ++ List.replicate 40 0xEE
        position := headerLength, length := 14 }
    r.length ≤ r.store.length ∧ (r.decrypt key).1 = true ∧
      (r.decrypt key).2.unread = [0x1E, 2, 3] ∧
      (r.decrypt key).2.store.drop 14 = List.replicate 40 0xEE := by
  intro key r
  have hr : r.length ≤ r.store.length := by decide +kernel
  have hInner : r.inner key = 3 := by decide +kernel
  obtain ⟨hAccepted, hPayload, -, -, -, hBehind⟩ := decrypt_exact r key hr
  have hTrue : (r.decrypt key).1 = true := by
    refine hAccepted.mpr ⟨by decide, by decide, ?_⟩
    rw [hInner]
    decide
  obtain ⟨-, -, hUnread, -⟩ := hPayload hTrue
  refine ⟨hr, hTrue, hUnread.trans ?_, hBehind.trans (by decide +kernel)⟩
  decide +kernel

end Gatehouse.Wire.FrameReader
