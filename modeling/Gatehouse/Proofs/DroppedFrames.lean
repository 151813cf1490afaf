import Gatehouse.Proofs.Attachment
import Gatehouse.Proofs.Chunks

/-!
# Dropped frames

The steady state drops malformed frames. A dropped frame does nothing, and what it leaves in the
store does not reach the frames behind it: a stream does what it does without its dropped frames,
however the two are cut.
-/

namespace Gatehouse

open Wire Octets
open Wire.FrameReader (cipherStart)

/-! ## Handlers that read fields -/

theorem Wire.Read.offered_fields (kinds : List Field.Kind) : Offered (fields kinds) := by
  induction kinds with
  | nil => exact .pure []
  | cons kind kinds ih =>
    exact .bind (offered_field kind) fun field => .bind ih fun fields => .pure (field :: fields)

/-- Reads some fields of the message, which decide on the effects. -/
def Handler.ofFields (kinds : List Field.Kind)
    (effects : SessionHandle → List Field → List Effect) : Handler :=
  fun session r => let (fields, r) := Read.fields kinds r; (r, effects session fields)

theorem Handler.readsMessage_ofFields (kinds : List Field.Kind)
    (effects : SessionHandle → List Field → List Effect) :
    (ofFields kinds effects).ReadsMessage := fun session =>
  ⟨do return effects session (← Read.fields kinds),
    .bind (Read.offered_fields kinds) fun _ => .pure _, fun _ => rfl⟩

theorem Handler.readsMessage_of_unread (effects : SessionHandle → List Effect) :
    ReadsMessage fun session r => (r, effects session) := fun session =>
  ⟨pure (effects session), .pure _, fun _ => rfl⟩

theorem HandlerTable.readMessages_register {table : HandlerTable} (hTable : table.ReadMessages)
    (opcode : UInt8) {handler : Handler} (hHandler : handler.ReadsMessage) :
    (table.register opcode handler).2.ReadMessages := by
  intro code other hOther
  change (if code = opcode then some handler else table.handler? code) = some other at hOther
  split at hOther
  · cases hOther
    exact hHandler
  · exact hTable code other hOther

theorem HandlerTable.readMessages_defaults : defaults.ReadMessages := by
  intro code handler hHandler
  simp only [defaults] at hHandler
  split at hHandler
  · cases hHandler
    exact Handler.readsMessage_of_unread fun _ => [.send ServerMessage.pingBack.encode]
  split at hHandler
  · cases hHandler
    exact Handler.readsMessage_of_unread fun _ => []
  split at hHandler
  · cases hHandler
    exact Handler.readsMessage_of_unread fun session =>
      [.post (.logout session.id session.characterId), .close]
  split at hHandler
  · cases hHandler
    exact Handler.readsMessage_of_unread fun _ => [.close]
  · cases hHandler

/-! ## Malformed frames -/

namespace Steady

/-- The checksum of a frame, which may be too short for one. -/
def checksum? (frame : Octets) : Option Nat :=
  if frame.length < cipherStart then none
  else some (ofLittleEndian (slice frame headerLength cipherStart))

/-- The length of the payload, as the decrypted frame tells it. -/
def innerLength (key : Xtea.Key) (frame : Octets) : Nat :=
  ofLittleEndian ((Xtea.mapBlocks key.decryptBlock (frame.drop cipherStart)).take 2)

/-- The payload of a frame, behind the length that its decrypted region begins with. -/
def innerPayload (key : Xtea.Key) (frame : Octets) : Octets :=
  ((Xtea.mapBlocks key.decryptBlock (frame.drop cipherStart)).drop 2).take (innerLength key frame)

/-- The frames that are dropped on a connection with this key and mode. -/
inductive Dropped (key : Xtea.Key) (mode : ChecksumMode) (frame : Octets) : Prop where
  | checksum (hMode : mode = .adler) (hZero : checksum? frame = none ∨ checksum? frame = some 0)
  | blocks (hBlocks : ¬ ∃ k, 1 ≤ k ∧ frame.length = 6 + 8 * k)
  | inner (hInner : frame.length < prefixLength + innerLength key frame)

theorem whole_bearing_iff (frame : Octets) :
    (FrameReader.bearing frame).Whole ↔ ∃ k, 1 ≤ k ∧ frame.length = 6 + 8 * k := by
  change cipherStart < frame.length ∧ (frame.length - cipherStart) % 8 = 0 ↔ _
  rw [show cipherStart = 6 from rfl]
  constructor
  · rintro ⟨hLong, hBlocks⟩
    exact ⟨(frame.length - 6) / 8, by omega, by omega⟩
  · rintro ⟨k, hk, hLength⟩
    omega

theorem dropped_iff (key : Xtea.Key) (mode : ChecksumMode) (frame : Octets) :
    Dropped key mode frame ↔
      mode = .adler ∧ (checksum? frame = none ∨ checksum? frame = some 0) ∨
        ¬ (FrameReader.bearing frame).Whole ∨
        frame.length < prefixLength + innerLength key frame := by
  rw [whole_bearing_iff]
  constructor
  · rintro (⟨hMode, hZero⟩ | hBlocks | hInner)
    · exact Or.inl ⟨hMode, hZero⟩
    · exact Or.inr (Or.inl hBlocks)
    · exact Or.inr (Or.inr hInner)
  · rintro (⟨hMode, hZero⟩ | hBlocks | hInner)
    · exact .checksum hMode hZero
    · exact .blocks hBlocks
    · exact .inner hInner

instance (key : Xtea.Key) (mode : ChecksumMode) (frame : Octets) :
    Decidable (Dropped key mode frame) :=
  decidable_of_iff _ (dropped_iff key mode frame).symm

/-- The frame once the checksum has been read, if there is one. -/
def checked (frame : Octets) : FrameReader :=
  { FrameReader.bearing frame with
    position := if frame.length < cipherStart then headerLength else cipherStart }

theorem u32_bearing (frame : Octets) :
    Read.u32 (.bearing frame) = (UInt32.ofNat ((checksum? frame).getD 0), checked frame) := by
  have hShort : (FrameReader.bearing frame).remaining < 4 ↔ frame.length < cipherStart := by
    change frame.length - 2 < 4 ↔ frame.length < 6
    omega
  have hNumber : (FrameReader.bearing frame).number 4 =
      ((checksum? frame).getD 0, checked frame) := by
    rw [FrameReader.number, FrameReader.take, checksum?, checked]
    by_cases hLong : frame.length < cipherStart
    · rw [if_pos (hShort.mpr hLong), if_pos hLong, if_pos hLong]
      rfl
    · rw [if_neg fun h => hLong (hShort.mp h), if_neg hLong, if_neg hLong]
      rfl
  exact congrArg (fun p : Nat × FrameReader => (UInt32.ofNat p.1, p.2)) hNumber

theorem sum_eq_zero_iff (frame : Octets) :
    UInt32.ofNat ((checksum? frame).getD 0) = 0 ↔
      checksum? frame = none ∨ checksum? frame = some 0 := by
  rw [checksum?]
  split
  case isTrue => simp
  case isFalse hLong =>
    have hFour : (slice frame headerLength cipherStart).length = 4 :=
      length_slice (Nat.le_of_not_lt hLong)
    have hSmall := ofLittleEndian_lt (slice frame headerLength cipherStart)
    rw [hFour] at hSmall
    simp only [Option.getD_some, reduceCtorEq, Option.some.injEq, false_or]
    rw [← UInt32.toNat_inj, UInt32.toNat_ofNat_of_lt' hSmall]
    rfl

theorem slice_checked (frame : Octets) :
    slice (checked frame).store cipherStart (checked frame).length = frame.drop cipherStart :=
  List.take_of_length_le (List.length_drop ..).le

theorem decrypt_checked (key : Xtea.Key) (frame : Octets) :
    ((checked frame).decrypt key).1 = true ↔ (FrameReader.bearing frame).Whole ∧
      ¬ frame.length < prefixLength + innerLength key frame := by
  have hInner : (checked frame).inner key = innerLength key frame := by
    rw [FrameReader.inner, FrameReader.plain, slice_checked, innerLength]
  rw [FrameReader.decrypt_eq key (r := checked frame) (Nat.le_refl frame.length), hInner,
    Nat.add_comm]
  change (if (FrameReader.bearing frame).Whole then
    if frame.length < _ then _ else _ else _ : Bool × FrameReader).1 = true ↔ _
  split
  case isTrue hWhole =>
    split
    case isTrue hShort => simp [hShort]
    case isFalse hFits => simp [hWhole, hFits]
  case isFalse hNot => simp [hNot]

/-- A malformed frame has no verdict but to be ignored. -/
theorem read_of_dropped {c : Connection} {key : Xtea.Key} (hKey : c.key? = some key)
    {frame : Octets} (hDropped : Dropped key c.mode frame) (sessions : SessionRegistry) :
    (read c sessions (.bearing frame)).1 = .ignored := by
  rw [read, Read.bind_eq, u32_bearing, hKey]
  dsimp only
  split
  case isTrue => rfl
  case isFalse hSum =>
    have hFails : ((checked frame).decrypt key).1 = false := by
      rw [← Bool.not_eq_true, decrypt_checked]
      rintro ⟨hWhole, hFits⟩
      rcases (dropped_iff key c.mode frame).mp hDropped with ⟨hMode, hZero⟩ | hBlocks | hInner
      · exact hSum ⟨(sum_eq_zero_iff frame).mpr hZero, by rw [hMode]; rfl⟩
      · exact hBlocks hWhole
      · exact hFits hInner
    have hDecrypt : (modifyGet (FrameReader.decrypt key) : Read Bool) (checked frame) =
        (checked frame).decrypt key := rfl
    rw [Read.bind_eq, hDecrypt, hFails]
    rfl

variable {s : Server} {id : ConnectionId} {c : Connection} {key : Xtea.Key} {frame : Octets}

theorem placed_checked (hFrame : headerLength ≤ frame.length) :
    (checked frame).Placed := by
  refine ⟨?_, Nat.le_refl _⟩
  change (if frame.length < FrameReader.cipherStart then headerLength
    else FrameReader.cipherStart) ≤ frame.length
  split
  case isTrue => exact hFrame
  case isFalse hLong => exact Nat.le_of_not_lt hLong

/-- Once it is decrypted, a frame that is not malformed has its payload left to read. -/
theorem unread_decrypt_checked (hDecrypted : ((checked frame).decrypt key).1 = true) :
    ((checked frame).decrypt key).2.unread = innerPayload key frame ∧
      (innerPayload key frame).length = innerLength key frame := by
  obtain ⟨hWhole, hFits⟩ := (decrypt_checked key frame).mp hDecrypted
  have hLong : cipherStart < frame.length := hWhole.1
  have hPlain : (checked frame).plain key =
      Xtea.mapBlocks key.decryptBlock (frame.drop cipherStart) := by
    rw [FrameReader.plain, slice_checked]
  have hInner : (checked frame).inner key = innerLength key frame := by
    rw [FrameReader.inner, hPlain, innerLength]
  have hCut : ((checked frame).decrypt key).2 =
      { (checked frame).opened key with length := prefixLength + innerLength key frame } := by
    rw [FrameReader.decrypt_eq key (r := checked frame) (Nat.le_refl frame.length), hInner,
      if_pos (show (checked frame).Whole from hWhole), if_neg (Nat.add_comm .. ▸ hFits)]
  obtain ⟨plain, hRegion⟩ : ∃ plain, plain =
      Xtea.mapBlocks key.decryptBlock (frame.drop cipherStart) := ⟨_, rfl⟩
  have hLength : plain.length = frame.length - cipherStart := by
    rw [hRegion, Xtea.length_mapBlocks, List.length_drop]
  have hPayload : innerPayload key frame = slice plain 2 (2 + innerLength key frame) := by
    rw [innerPayload, slice, hRegion, Nat.add_sub_cancel_left]
  have hEnd : 2 + innerLength key frame ≤ plain.length := by
    rw [hLength]
    rw [cipherStart] at hLong ⊢
    rw [prefixLength] at hFits
    omega
  have hSize : (innerPayload key frame).length = innerLength key frame := by
    rw [hPayload, length_slice hEnd, Nat.add_sub_cancel_left]
  have hFront : (frame.take cipherStart ++ plain.take 2).length = prefixLength := by
    rw [List.length_append, List.length_take_of_le hLong.le, List.length_take_of_le (by omega)]
    rfl
  -- the header and checksum, the length, the payload, and the padding
  have hStore : ((checked frame).opened key).store =
      (frame.take cipherStart ++ plain.take 2) ++ innerPayload key frame ++
        (plain.drop (2 + innerLength key frame) ++ frame.drop (cipherStart + plain.length)) := by
    have hParts : plain.take 2 ++ innerPayload key frame ++
        plain.drop (2 + innerLength key frame) = plain := by
      rw [hPayload]
      exact take_append_slice_append_drop (Nat.le_add_right ..)
    change overwrite frame cipherStart ((checked frame).plain key) = _
    rw [hPlain, ← hRegion, overwrite]
    nth_rewrite 1 [← hParts]
    simp only [List.append_assoc]
  refine ⟨?_, hSize⟩
  rw [hCut, FrameReader.unread, hStore]
  refine slice_append hFront.symm ?_
  rw [hFront, hSize]
  exact Nat.max_eq_left (Nat.le_add_right ..)

theorem decrypt_of_kept {mode : ChecksumMode} (hKept : ¬ Dropped key mode frame) :
    ((checked frame).decrypt key).1 = true := by
  rw [dropped_iff, not_or, not_or, not_not] at hKept
  exact (decrypt_checked key frame).mpr hKept.2

/-- A frame that is not malformed is decided on by the first byte of its payload, or by a zero if
there is none. -/
theorem read_bearing_of_kept (hKey : c.key? = some key) (hFrame : headerLength ≤ frame.length)
    (hKept : ¬ Dropped key c.mode frame) (sessions : SessionRegistry) :
    ∃ message : FrameReader, message.unread = (innerPayload key frame).tail ∧
      read c sessions (.bearing frame) =
        (decide sessions c.session? ((innerPayload key frame).headD 0), message) := by
  have hSum : ¬ (UInt32.ofNat ((checksum? frame).getD 0) = 0 ∧
      c.mode.requiresNonzero = true) := by
    rintro ⟨hZero, hRequired⟩
    refine hKept (.checksum ?_ ((sum_eq_zero_iff frame).mp hZero))
    cases hMode : c.mode with
    | adler => rfl
    | sequence =>
      rw [hMode] at hRequired
      cases hRequired
  have hDecrypted := decrypt_of_kept hKept
  obtain ⟨hUnread, -⟩ := unread_decrypt_checked hDecrypted
  have hPlaced := (Read.bounded_decrypt key).placed _ (placed_checked hFrame)
  change ((checked frame).decrypt key).2.Placed at hPlaced
  have hDecrypt : (modifyGet (FrameReader.decrypt key) : Read Bool) (checked frame) =
      (checked frame).decrypt key := rfl
  generalize (checked frame).decrypt key = result at *
  obtain ⟨succeeded, opened⟩ := result
  subst hDecrypted
  obtain ⟨hOpcode, hRest⟩ := Read.u8_unread hPlaced
  rw [hUnread] at hOpcode hRest
  refine ⟨(Read.u8 opened).2, hRest, ?_⟩
  rw [read, Read.bind_eq, u32_bearing, hKey]
  dsimp only
  rw [if_neg hSum, Read.bind_eq, hDecrypt, ← hOpcode]
  rfl

theorem heard_of_dropped (hConnection : s.connection? id = some c) (hOpen : c.isOpen = true)
    (hKey : c.key? = some key) (hDropped : Dropped key c.mode frame) :
    s.heard id frame = (true, s) := by
  have hRead := read_of_dropped hKey hDropped s.game.sessions
  rw [heard_of_open hConnection hOpen]
  generalize read c s.game.sessions (.bearing frame) = result at hRead
  obtain ⟨verdict, message⟩ := result
  cases hRead
  rfl

theorem isOpen_heard (frame : Octets) (hOpen : s.isOpen id = true)
    (hOn : (s.heard id frame).1 = true) :
    (s.heard id frame).2.isOpen id = true := by
  obtain ⟨c, hConnection, hConnected⟩ := exists_of_isOpen hOpen
  rw [heard_of_open hConnection hConnected] at hOn ⊢
  generalize read c s.game.sessions (.bearing frame) = result at hOn
  obtain ⟨verdict, message⟩ := result
  cases verdict with
  | ignored => exact hOpen
  | disconnect => cases hOn
  | dispatched opcode session =>
    dsimp only at hOn ⊢
    split at hOn
    case isTrue hStill => rwa [if_pos hStill]
    case isFalse => cases hOn

/-- On an open connection, frames do what is done by those that are not dropped. -/
theorem heardAll_filter {mode : ChecksumMode} (hOpen : s.isOpen id = true)
    (hProtection : (s.connection? id).map Connection.protection = some (some key, mode))
    (frames : List Octets) :
    s.heardAll id (frames.filter (¬ Dropped key mode ·)) = s.heardAll id frames := by
  induction frames generalizing s with
  | nil => rfl
  | cons frame frames ih =>
    obtain ⟨c, hConnection, hConnected⟩ := exists_of_isOpen hOpen
    have hSettings : c.key? = some key ∧ c.mode = mode := by
      rw [hConnection] at hProtection
      simpa [Connection.protection] using hProtection
    by_cases hDropped : Dropped key mode frame
    · have hHeard := heard_of_dropped hConnection hConnected hSettings.1
        (hSettings.2 ▸ hDropped)
      rw [List.filter_cons_of_neg (by simpa using hDropped), Server.heardAll, hHeard]
      exact ih hOpen hProtection
    · have hStill := isOpen_heard frame hOpen
      have hGuarded := (s.guarded_heard id frame).protection id
      rw [List.filter_cons_of_pos (by simpa using hDropped), Server.heardAll, Server.heardAll]
      generalize s.heard id frame = result at hStill hGuarded
      obtain ⟨on, t⟩ := result
      cases on with
      | true => exact ih (hStill rfl) (hGuarded.trans hProtection)
      | false => rfl

theorem heardAll_of_closed (hConnection : s.connection? id = some c) (hClosed : c.isOpen = false)
    (frames : List Octets) :
    (s.heardAll id frames).2.connection? id = some c ∧
      (s.heardAll id frames).2.calls = s.calls := by
  cases frames with
  | nil => exact ⟨hConnection, rfl⟩
  | cons frame frames =>
    rw [Server.heardAll, heard_of_closed ((isOpen_of_connection? hConnection).trans hClosed)]
    have hMarked : c.disconnected = true := by simpa [Connection.isOpen] using hClosed
    obtain ⟨hHere, -, hCalls⟩ := Server.close_of_closed hConnection hMarked
    exact ⟨hHere, hCalls⟩

/-- Frames that differ only in dropped ones do the same. -/
theorem heardAll_congr (hConnection : s.connection? id = some c) (hKey : c.key? = some key)
    {frames others : List Octets}
    (hSame : frames.filter (¬ Dropped key c.mode ·) = others.filter (¬ Dropped key c.mode ·)) :
    (s.heardAll id frames).2.calls = (s.heardAll id others).2.calls ∧
      (s.heardAll id frames).2.connection? id = (s.heardAll id others).2.connection? id ∧
      (c.isOpen = true → s.heardAll id frames = s.heardAll id others) := by
  cases hOpen : c.isOpen with
  | true =>
    have hProtection : (s.connection? id).map Connection.protection = some (some key, c.mode) := by
      rw [hConnection, ← hKey]
      rfl
    have hServer : s.isOpen id = true := (isOpen_of_connection? hConnection).trans hOpen
    have hEqual : s.heardAll id frames = s.heardAll id others := by
      rw [← heardAll_filter hServer hProtection frames, hSame,
        heardAll_filter hServer hProtection others]
    rw [hEqual]
    exact ⟨rfl, rfl, fun _ => rfl⟩
  | false =>
    obtain ⟨hHere, hCalls⟩ := heardAll_of_closed hConnection hOpen frames
    obtain ⟨hOther, hOtherCalls⟩ := heardAll_of_closed hConnection hOpen others
    exact ⟨hCalls.trans hOtherCalls.symm, hHere.trans hOther.symm, fun hNot => (nomatch hNot)⟩

end Steady

namespace Reader

open Steady (Dropped)

/-- A stream does what it does without its dropped frames, however the two are cut and whatever
the stores of their readers hold. No dropped frame closes the connection. -/
theorem dropped_frames_do_nothing (challenge : Login.Challenge) {s : Server} {id : ConnectionId}
    {c : Connection} {key : Xtea.Key} (hConnection : s.connection? id = some c)
    (hKey : c.key? = some key) (hHandlers : s.handlers.ReadMessages) {r q : Reader}
    (hr : r.Waits) (hq : q.Waits) {frames : List Octets}
    (hFrames : ∀ frame ∈ frames, IsFrame frame) :
    (∀ chunks others : List Chunk, chunks.flatMap Chunk.bytes = frames.flatten →
      others.flatMap Chunk.bytes = (frames.filter (¬ Dropped key c.mode ·)).flatten →
      let all := feedAll id challenge chunks (r, s)
      let kept := feedAll id challenge others (q, s)
      all.2.calls = kept.2.calls ∧ all.2.connection? id = kept.2.connection? id ∧
        (c.isOpen = true → all.2 = kept.2 ∧ ∃ on, all.1.Goes on ∧ kept.1.Goes on)) ∧
    ∀ front frame, front ++ [frame] <+: frames → Dropped key c.mode frame →
      ∀ chunks longer : List Chunk, chunks.flatMap Chunk.bytes = front.flatten →
        longer.flatMap Chunk.bytes = (front ++ [frame]).flatten →
        (feedAll id challenge longer (r, s)).2.connection? id =
          (feedAll id challenge chunks (r, s)).2.connection? id := by
  constructor
  · intro chunks others hChunks hOthers all kept
    have hKept : ∀ frame ∈ frames.filter (¬ Dropped key c.mode ·), IsFrame frame :=
      fun frame hFrame => hFrames frame (List.mem_of_mem_filter hFrame)
    have hTwice : frames.filter (¬ Dropped key c.mode ·) =
        (frames.filter (¬ Dropped key c.mode ·)).filter (¬ Dropped key c.mode ·) := by
      simp only [List.filter_filter, Bool.and_self]
    obtain ⟨r', hGoes, hAll⟩ := feedAll_frames challenge hHandlers hr hFrames hChunks
    obtain ⟨q', hGoes', hOnly⟩ := feedAll_frames challenge hHandlers hq hKept hOthers
    obtain ⟨hCalls, hHere, hEqual⟩ := Steady.heardAll_congr hConnection hKey hTwice
    have hAll : all = (r', (s.heardAll id frames).2) := hAll
    have hOnly : kept = (q', _) := hOnly
    rw [hAll, hOnly]
    refine ⟨hCalls, hHere, fun hOpen => ?_⟩
    rw [hEqual hOpen] at hGoes ⊢
    exact ⟨rfl, _, hGoes, hGoes'⟩
  · intro front frame hFront hDropped chunks longer hChunks hLonger
    have hLong : ∀ other ∈ front ++ [frame], IsFrame other :=
      fun other hOther => hFrames other (hFront.subset hOther)
    have hShort : ∀ other ∈ front, IsFrame other :=
      fun other hOther => hLong other (List.mem_append_left [frame] hOther)
    have hSame : (front ++ [frame]).filter (¬ Dropped key c.mode ·) =
        front.filter (¬ Dropped key c.mode ·) := by
      simp [hDropped]
    obtain ⟨_, -, hAll⟩ := feedAll_frames challenge hHandlers hr hLong hLonger
    obtain ⟨_, -, hOnly⟩ := feedAll_frames challenge hHandlers hr hShort hChunks
    rw [hAll, hOnly]
    exact (Steady.heardAll_congr hConnection hKey hSame).2.1

/-! A connection that has entered, and a handler that says again what it is told. -/

def echo : Handler := .ofFields [.text] fun _ fields => [.send (Field.encodeAll fields)]

def spokenKey : Xtea.Key := .ofWords ⟨1, 2, 3, 4⟩

def spoken : Octets := sealedFrame spokenKey .adler 1 (100 :: Field.encode (.text "hi"))

def listening : Server :=
  { Rivals.entered.modify 1 (·.installKey spokenKey .adler) with
    handlers := (HandlerTable.defaults.register 100 echo).2 }

def waiting : Reader := ⟨fillHeader .steady none, .empty⟩

/-- A frame that is too short for a checksum goes before a message, the first part of which comes
with the end of that frame. -/
theorem dropped_frames_do_nothing_before_message :
    Dropped spokenKey .adler [1, 0, 0] ∧ ¬ Dropped spokenKey .adler spoken ∧
      (feedAll 1 ⟨0, 0⟩ [⟨0, [1]⟩, ⟨5, 0 :: 0 :: spoken.take 1⟩, ⟨9, spoken.drop 1⟩]
        (waiting, listening)).2 = (feedAll 1 ⟨0, 0⟩ [⟨0, spoken⟩] (waiting, listening)).2 ∧
      (feedAll 1 ⟨0, 0⟩ [⟨0, spoken⟩] (waiting, listening)).2.calls =
        [{ connection := 1, opcode := 100, session := Rivals.handle
           rest := Field.encode (.text "hi") }] := by
  have hShort : Dropped spokenKey .adler [1, 0, 0] := by decide +kernel
  have hSpoken : ¬ Dropped spokenKey .adler spoken := by decide +kernel
  have hFirst : IsFrame [1, 0, 0] := ⟨⟨by decide, by decide⟩, by decide⟩
  have hLast : IsFrame spoken := ⟨⟨by decide +kernel, by decide +kernel⟩, by decide +kernel⟩
  have hFrames : ∀ frame ∈ [[1, 0, 0], spoken], IsFrame frame := by
    simpa using And.intro hFirst hLast
  have hKept : [[1, 0, 0], spoken].filter (¬ Dropped spokenKey .adler ·) = [spoken] := by
    simp [hShort, hSpoken]
  have hWaits : waiting.Waits := ⟨⟨none, rfl⟩, rfl, length_zeros _⟩
  have hHandlers : listening.handlers.ReadMessages :=
    HandlerTable.readMessages_register HandlerTable.readMessages_defaults 100
      (Handler.readsMessage_ofFields _ _)
  obtain ⟨c, hConnection, hKey, hMode, hOpen⟩ : ∃ c, listening.connection? 1 = some c ∧
      c.key? = some spokenKey ∧ c.mode = .adler ∧ c.isOpen = true := ⟨_, rfl, rfl, rfl, rfl⟩
  have hStreams := (dropped_frames_do_nothing ⟨0, 0⟩ hConnection hKey hHandlers hWaits hWaits
    hFrames).1 [⟨0, [1]⟩, ⟨5, 0 :: 0 :: spoken.take 1⟩, ⟨9, spoken.drop 1⟩] [⟨0, spoken⟩]
      (by decide +kernel) (hMode ▸ congrArg List.flatten hKept.symm)
  obtain ⟨r, -, hOnly⟩ : ∃ r : Reader, r.Goes (listening.heardAll 1 [spoken]).1 ∧
      feedAll 1 ⟨0, 0⟩ [⟨0, spoken⟩] (waiting, listening) =
        (r, (listening.heardAll 1 [spoken]).2) :=
    feedAll_frames ⟨0, 0⟩ hHandlers hWaits (by simpa using hLast) rfl
  have hCalls : (listening.heardAll 1 [spoken]).2.calls =
      [{ connection := 1, opcode := 100, session := Rivals.handle
         rest := Field.encode (.text "hi") }] := by decide +kernel
  exact ⟨hShort, hSpoken, (hStreams.2.2 hOpen).1, hOnly ▸ hCalls⟩

end Reader

end Gatehouse
