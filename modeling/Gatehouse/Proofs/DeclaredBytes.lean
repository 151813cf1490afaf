import Gatehouse.Handlers
import Gatehouse.Proofs.Opening
import Gatehouse.Wire.Read

/-!
# The declared bytes of a frame

One store serves all frames, so behind the declared length it holds what earlier and longer frames
have left. Reads that stay before the declared length, decryption among them, bring the same
whatever that is.
-/

namespace Gatehouse.Wire

open Octets

namespace FrameReader

/-- The frame without what the store holds behind it. -/
def trim (r : FrameReader) : FrameReader :=
  { r with store := r.store.take r.length }

/-- The cursor is in the frame, and the frame in the store. -/
structure Placed (r : FrameReader) : Prop where
  position : r.position ≤ r.length
  length : r.length ≤ r.store.length

variable {r q : FrameReader}

theorem trim_trim (r : FrameReader) : r.trim.trim = r.trim := by
  simp only [trim, List.take_take, Nat.min_self]

theorem Placed.trim (hr : r.Placed) : r.trim.Placed := by
  refine ⟨hr.position, ?_⟩
  rw [FrameReader.trim, List.length_take]
  exact Nat.le_min.mpr ⟨Nat.le_refl _, hr.length⟩

theorem Placed.of_trim_eq (hr : r.Placed) (hTrim : q.trim = r.trim) : q.Placed := by
  have hLength : q.trim.length = r.trim.length := by rw [hTrim]
  have hPosition : q.trim.position = r.trim.position := by rw [hTrim]
  have hStore : q.trim.store.length = r.trim.store.length := by rw [hTrim]
  simp only [FrameReader.trim, List.length_take] at hLength hPosition hStore
  obtain ⟨hr₁, hr₂⟩ := hr
  constructor <;> omega

theorem slice_trim {start stop : Nat} (hStop : stop ≤ r.length) :
    slice r.trim.store start stop = slice r.store start stop := by
  rw [slice, slice, trim, List.drop_take, List.take_take]
  congr 1
  omega

end FrameReader

/-- A read that brings the same for frames that differ only behind their ends, and leaves them
so. -/
structure Read.Bounded {α : Type} (read : Read α) : Prop where
  result : ∀ r : FrameReader, r.Placed → (read r.trim).1 = (read r).1
  trim : ∀ r : FrameReader, r.Placed → (read r.trim).2.trim = (read r).2.trim
  placed : ∀ r : FrameReader, r.Placed → (read r).2.Placed
  capacity : ∀ r : FrameReader, r.Placed → (read r).2.store.length = r.store.length

namespace Read

variable {α β : Type}

theorem Bounded.congr {read : Read α} (hRead : read.Bounded) {r q : FrameReader} (hr : r.Placed)
    (hTrim : q.trim = r.trim) :
    (read q).1 = (read r).1 ∧ (read q).2.trim = (read r).2.trim := by
  have hq := hr.of_trim_eq hTrim
  constructor
  · rw [← hRead.result q hq, hTrim, hRead.result r hr]
  · rw [← hRead.trim q hq, hTrim, hRead.trim r hr]

theorem bounded_pure (a : α) : (pure a : Read α).Bounded where
  result _ _ := rfl
  trim r _ := r.trim_trim
  placed _ hr := hr
  capacity _ _ := rfl

theorem bind_eq (read : Read α) (next : α → Read β) (r : FrameReader) :
    (read >>= next) r = next (read r).1 (read r).2 := rfl

theorem Bounded.bind {read : Read α} {next : α → Read β} (hRead : read.Bounded)
    (hNext : ∀ a, (next a).Bounded) : (read >>= next).Bounded := by
  refine ⟨fun r hr => ?_, fun r hr => ?_, fun r hr => ?_, fun r hr => ?_⟩
  · rw [bind_eq, bind_eq, hRead.result r hr]
    exact ((hNext _).congr (hRead.placed r hr) (hRead.trim r hr)).1
  · rw [bind_eq, bind_eq, hRead.result r hr]
    exact ((hNext _).congr (hRead.placed r hr) (hRead.trim r hr)).2
  · exact (hNext _).placed _ (hRead.placed r hr)
  · rw [bind_eq, (hNext _).capacity _ (hRead.placed r hr), hRead.capacity r hr]

/-- A read that brings a part of the frame and moves the cursor. -/
theorem bounded_of_cursor {read : Read α} (value : FrameReader → α)
    (position : FrameReader → Nat)
    (hRead : ∀ r, read r = (value r, { r with position := position r }))
    (hValue : ∀ r : FrameReader, r.Placed → value r.trim = value r)
    (hPosition : ∀ r : FrameReader, position r.trim = position r)
    (hInside : ∀ r : FrameReader, r.Placed → position r ≤ r.length) : read.Bounded := by
  refine ⟨fun r hr => ?_, fun r _ => ?_, fun r hr => ?_, fun r _ => ?_⟩
  · rw [hRead, hRead]
    exact hValue r hr
  · rw [hRead, hRead, hPosition]
    exact FrameReader.trim_trim { r with position := position r }
  · rw [hRead]
    exact ⟨hInside r hr, hr.length⟩
  · rw [hRead]

theorem bounded_bytes (n : Nat) : (bytes n).Bounded := by
  refine bounded_of_cursor
    (fun r => if r.remaining < n then none else some (slice r.store r.position (r.position + n)))
    (fun r => if r.remaining < n then r.position else r.position + n)
    (fun r => ?_) (fun r hr => ?_) (fun r => rfl) fun r hr => ?_
  · rw [bytes, FrameReader.take]
    split <;> rfl
  · change (if r.remaining < n then none
      else some (slice r.trim.store r.position (r.position + n))) = _
    by_cases hShort : r.remaining < n
    · rw [if_pos hShort, if_pos hShort]
    · have hInside : r.position + n ≤ r.length := by
        have hPosition := hr.position
        rw [FrameReader.remaining] at hShort
        omega
      rw [if_neg hShort, if_neg hShort, FrameReader.slice_trim hInside]
  · have hPosition := hr.position
    by_cases hShort : r.remaining < n
    · rwa [if_pos hShort]
    · rw [if_neg hShort]
      rw [FrameReader.remaining] at hShort
      omega

theorem number_eq_bytes (size : Nat) :
    number size = do return ((← bytes size).map ofLittleEndian).getD 0 := by
  funext r
  change r.number size =
    (((r.take size).1.map ofLittleEndian).getD 0, (r.take size).2)
  rw [FrameReader.number]
  split
  case h_1 bs q hTake => rw [hTake]; rfl
  case h_2 q hTake => rw [hTake]; rfl

theorem bounded_number (size : Nat) : (number size).Bounded := by
  rw [number_eq_bytes]
  exact (bounded_bytes size).bind fun bs? => bounded_pure _

def previousNumber (size : Nat) : Read Nat :=
  FrameReader.previousNumber size

theorem bounded_previousNumber (size : Nat) : (previousNumber size).Bounded := by
  refine bounded_of_cursor
    (fun r => if r.position < size then 0
      else ofLittleEndian (slice r.store (r.position - size) r.position))
    (fun r => if r.position < size then r.position else r.position - size)
    (fun r => ?_) (fun r hr => ?_) (fun r => rfl) fun r hr => ?_
  · rw [previousNumber, FrameReader.previousNumber]
    split <;> rfl
  · change (if r.position < size then 0
      else ofLittleEndian (slice r.trim.store (r.position - size) r.position)) = _
    rw [FrameReader.slice_trim hr.position]
  · have hPosition := hr.position
    split <;> omega

/-- The unread bytes, which stay unread. -/
def unread : Read Octets :=
  fun r => (r.unread, r)

theorem bounded_unread : unread.Bounded := by
  refine bounded_of_cursor FrameReader.unread FrameReader.position (fun r => rfl) (fun r hr => ?_)
    (fun r => rfl) fun r hr => hr.position
  have hEnd : r.unreadEnd = r.length := Nat.max_eq_left hr.position
  change slice r.trim.store r.position r.unreadEnd = slice r.store r.position r.unreadEnd
  rw [FrameReader.slice_trim hEnd.le]

theorem u8_unread {r : FrameReader} (hr : r.Placed) :
    (u8 r).1 = r.unread.headD 0 ∧ (u8 r).2.unread = r.unread.tail := by
  obtain ⟨hPosition, hLength⟩ := hr
  have hUnread : r.unread = slice r.store r.position r.length := by
    rw [FrameReader.unread, FrameReader.unreadEnd, Nat.max_eq_left hPosition]
  by_cases hEnd : r.position = r.length
  · have hNone : r.number 1 = (0, r) := by
      rw [FrameReader.number, FrameReader.take,
        if_pos (by rw [FrameReader.remaining, hEnd, Nat.sub_self]; decide)]
    have hEmpty : r.unread = [] := by rw [hUnread, slice, hEnd, Nat.sub_self, List.take_zero]
    have hRead : u8 r = (0, r) :=
      congrArg (fun p : Nat × FrameReader => (UInt8.ofNat p.1, p.2)) hNone
    rw [hRead, hEmpty]
    exact ⟨rfl, rfl⟩
  · have hInside : r.position < r.store.length := by omega
    have hStore : r.store = r.store.take r.position ++ [r.store[r.position]] ++
        r.store.drop (r.position + 1) := by
      rw [List.append_assoc, List.singleton_append, ← List.drop_eq_getElem_cons hInside,
        List.take_append_drop]
    have hNumber : r.number 1 = _ := FrameReader.number_of_layout hStore
      (List.length_take_of_le hInside.le).symm rfl (by omega)
    have hRead : u8 r = (r.store[r.position], { r with position := r.position + 1 }) := by
      refine (congrArg (fun p : Nat × FrameReader => (UInt8.ofNat p.1, p.2)) hNumber).trans ?_
      simp [ofLittleEndian]
    have hSplit : r.unread = r.store[r.position] ::
        slice r.store (r.position + 1) r.length := by
      rw [hUnread, slice, slice, List.drop_eq_getElem_cons hInside,
        show r.length - r.position = r.length - (r.position + 1) + 1 by omega, List.take_succ_cons]
    rw [hRead, hSplit]
    refine ⟨rfl, ?_⟩
    change slice r.store (r.position + 1) (max r.length (r.position + 1)) = _
    rw [Nat.max_eq_left (by omega)]
    rfl

/-! ## Handlers -/

/-- The reads that are put together from those that a message offers. -/
inductive Offered : {α : Type} → Read α → Prop where
  | pure {α : Type} (a : α) : Offered (pure a : Read α)
  | number (size : Nat) : Offered (number size)
  | previousNumber (size : Nat) : Offered (previousNumber size)
  | bytes (n : Nat) : Offered (bytes n)
  | unread : Offered unread
  | bind {α β : Type} {read : Read α} {next : α → Read β} (hRead : Offered read)
    (hNext : ∀ a, Offered (next a)) : Offered (read >>= next)

theorem Offered.bounded {α : Type} {read : Read α} (hRead : Offered read) : read.Bounded := by
  induction hRead with
  | pure a => exact bounded_pure a
  | number size => exact bounded_number size
  | previousNumber size => exact bounded_previousNumber size
  | bytes n => exact bounded_bytes n
  | unread => exact bounded_unread
  | bind _ _ ihRead ihNext => exact ihRead.bind ihNext

theorem offered_number {α : Type} (size : Nat) (f : Nat → α) :
    Offered (do return f (← number size)) :=
  .bind (.number size) fun n => .pure (f n)

theorem offered_text : Offered text := by
  refine .bind (.number 2) fun n => ?_
  split
  · exact .pure ""
  · exact .bind (.bytes n) fun bs? => .pure _

theorem offered_position : Offered position :=
  .bind (offered_number 2 _) fun _ => .bind (offered_number 2 _) fun _ =>
    .bind (offered_number 1 _) fun _ => .pure _

/-- Every type of value can be read off a message. -/
theorem offered_field (kind : Field.Kind) : Offered (field kind) := by
  cases kind with
  | scalar s => exact .bind (offered_number s.size _) fun n => .pure _
  | text => exact .bind offered_text fun s => .pure _
  | position => exact .bind offered_position fun p => .pure _

end Read

/-! ## Decryption -/

namespace FrameReader

variable {r : FrameReader}

/-- The region behind the checksum slot is made of at least one block, and of whole ones. -/
def Whole (r : FrameReader) : Prop :=
  cipherStart < r.length ∧ (r.length - cipherStart) % Xtea.blockLength = 0

instance (r : FrameReader) : Decidable r.Whole :=
  inferInstanceAs (Decidable (_ ∧ _))

def plain (key : Xtea.Key) (r : FrameReader) : Octets :=
  Xtea.mapBlocks key.decryptBlock (slice r.store cipherStart r.length)

/-- The frame with the region decrypted and the cursor behind the length of the payload. -/
def opened (key : Xtea.Key) (r : FrameReader) : FrameReader :=
  { r with store := overwrite r.store cipherStart (r.plain key), position := prefixLength }

/-- The length of the payload, as the decrypted region tells it. -/
def inner (key : Xtea.Key) (r : FrameReader) : Nat :=
  ofLittleEndian ((r.plain key).take 2)

theorem length_plain (key : Xtea.Key) (hr : r.length ≤ r.store.length) :
    (r.plain key).length = r.length - cipherStart := by
  rw [plain, Xtea.length_mapBlocks, length_slice hr]

theorem decrypt_eq (key : Xtea.Key) (hr : r.length ≤ r.store.length) :
    r.decrypt key =
      if r.Whole then
        if r.length < r.inner key + prefixLength then (false, r.opened key)
        else (true, { r.opened key with length := prefixLength + r.inner key })
      else (false, r) := by
  have hLength : (slice r.store cipherStart r.length).length = r.length - cipherStart :=
    length_slice hr
  by_cases hWhole : r.Whole
  · obtain ⟨hLong, hBlocks⟩ := hWhole
    have hPlain : Xtea.decrypt key (slice r.store cipherStart r.length) = .ok (r.plain key) := by
      rw [Xtea.decrypt, Xtea.transform_eq_ok (hLength ▸ hBlocks), plain]
    have hTwo : cipherStart + 2 ≤ r.length := by
      rw [Xtea.blockLength] at hBlocks
      omega
    have hRegion := r.length_plain key hr
    have hFront : (r.store.take cipherStart).length = cipherStart := by
      rw [List.length_take]
      omega
    have hStore : overwrite r.store cipherStart (r.plain key) = r.store.take cipherStart ++
        (r.plain key).take 2 ++ ((r.plain key).drop 2 ++
          r.store.drop (cipherStart + (r.plain key).length)) := by
      rw [overwrite, ← List.append_assoc, List.append_assoc _ ((r.plain key).take 2),
        List.take_append_drop]
    have hNumber : FrameReader.number 2 { r with
        store := overwrite r.store cipherStart (r.plain key), position := cipherStart } = _ :=
      number_of_layout hStore hFront.symm (by rw [List.length_take, hRegion]; omega) hTwo
    rw [if_pos ⟨hLong, hBlocks⟩, decrypt, if_neg (Nat.not_le.mpr hLong), hPlain]
    simp only [hNumber]
    rfl
  · rw [if_neg hWhole, decrypt]
    split
    · rfl
    case isFalse hLong =>
      have hBlocks : ¬ (slice r.store cipherStart r.length).length % Xtea.blockLength = 0 := by
        rw [hLength]
        exact fun hBlocks => hWhole ⟨Nat.lt_of_not_le hLong, hBlocks⟩
      rw [Xtea.decrypt, Xtea.transform, if_neg hBlocks]

theorem plain_trim (key : Xtea.Key) (r : FrameReader) : r.trim.plain key = r.plain key := by
  rw [plain, plain]
  change Xtea.mapBlocks _ (slice r.trim.store cipherStart r.length) = _
  rw [slice_trim (Nat.le_refl _)]

theorem take_overwrite {bs patch : Octets} {start n : Nat} (hStart : start ≤ bs.length)
    (hn : n ≤ start + patch.length) :
    (overwrite bs start patch).take n = (bs.take start ++ patch).take n := by
  rw [overwrite, List.take_append_of_le_length]
  rwa [List.length_append, List.length_take, Nat.min_eq_left hStart]

/-- Cut off before the end of the region, the opened frames are the same. -/
theorem trim_opened (key : Xtea.Key) (hr : r.Placed) (hLong : cipherStart < r.length) {n : Nat}
    (hn : n ≤ r.length) :
    ({ r.trim.opened key with length := n }).trim = ({ r.opened key with length := n }).trim := by
  have hRegion := r.length_plain key hr.length
  have hFits := hr.length
  have hEnd : n ≤ cipherStart + (r.plain key).length := by omega
  have hStores : (overwrite (r.store.take r.length) cipherStart (r.plain key)).take n =
      (overwrite r.store cipherStart (r.plain key)).take n := by
    rw [take_overwrite (by rw [List.length_take]; omega) hEnd, take_overwrite (by omega) hEnd,
      List.take_take, Nat.min_eq_left hLong.le]
  rw [opened, opened, plain_trim]
  exact congrArg (FrameReader.mk · prefixLength n) hStores

theorem Placed.opened (key : Xtea.Key) (hr : r.Placed) (hWhole : r.Whole) :
    (r.opened key).Placed ∧ (r.opened key).store.length = r.store.length := by
  obtain ⟨hLong, hBlocks⟩ := hWhole
  have hRegion := r.length_plain key hr.length
  have hFits := hr.length
  have hStore : (r.opened key).store.length = r.store.length :=
    length_overwrite (by omega)
  refine ⟨⟨?_, hStore ▸ hr.length⟩, hStore⟩
  change prefixLength ≤ r.length
  rw [Xtea.blockLength] at hBlocks
  rw [cipherStart] at hLong hBlocks
  rw [prefixLength]
  omega

end FrameReader

theorem Read.bounded_decrypt (key : Xtea.Key) :
    (modifyGet (FrameReader.decrypt key) : Read Bool).Bounded := by
  have hDecrypt : ∀ r : FrameReader,
      (modifyGet (FrameReader.decrypt key) : Read Bool) r = r.decrypt key := fun _ => rfl
  have hInner : ∀ r : FrameReader, r.trim.inner key = r.inner key := by
    intro r
    rw [FrameReader.inner, FrameReader.inner, FrameReader.plain_trim]
  -- a frame is left alone, opened, or opened and cut; which of these it is only the region decides
  refine ⟨fun r hr => ?_, fun r hr => ?_, fun r hr => ?_, fun r hr => ?_⟩
  · rw [hDecrypt, hDecrypt, FrameReader.decrypt_eq key hr.length,
      FrameReader.decrypt_eq key hr.trim.length, hInner]
    change (if r.Whole then if r.length < _ then _ else _ else _ : Bool × FrameReader).1 = _
    split
    · split <;> rfl
    · rfl
  · rw [hDecrypt, hDecrypt, FrameReader.decrypt_eq key hr.length,
      FrameReader.decrypt_eq key hr.trim.length, hInner]
    change (if r.Whole then if r.length < _ then _ else _ else _ : Bool × FrameReader).2.trim = _
    by_cases hWhole : r.Whole
    · rw [if_pos hWhole, if_pos hWhole]
      by_cases hShort : r.length < r.inner key + prefixLength
      · rw [if_pos hShort, if_pos hShort]
        exact FrameReader.trim_opened key hr hWhole.1 (Nat.le_refl _)
      · rw [if_neg hShort, if_neg hShort]
        exact FrameReader.trim_opened key hr hWhole.1 (by omega)
    · rw [if_neg hWhole, if_neg hWhole]
      exact r.trim_trim
  · rw [hDecrypt, FrameReader.decrypt_eq key hr.length]
    split
    case isTrue hWhole =>
      obtain ⟨hOpened, -⟩ := hr.opened key hWhole
      split
      case isTrue => exact hOpened
      case isFalse hFits =>
        refine ⟨Nat.le_add_right .., Nat.le_trans ?_ hOpened.length⟩
        change prefixLength + r.inner key ≤ r.length
        omega
    case isFalse => exact hr
  · rw [hDecrypt, FrameReader.decrypt_eq key hr.length]
    split
    case isTrue hWhole =>
      obtain ⟨-, hStore⟩ := hr.opened key hWhole
      split
      · exact hStore
      · exact hStore
    case isFalse => rfl

end Gatehouse.Wire
