import Gatehouse.Client.Basic
import Gatehouse.Proofs.Opening
import Gatehouse.Proofs.OutputPath
import Gatehouse.Proofs.Steps
import Gatehouse.Server.Steady

/-!
# Frame sizes

Both ends bound the body of a frame, while the way out bounds the payload, and by the same number. A
body is longer than its payload by a checksum, a length and the padding, so the longest payloads are
sealed in frames that neither end reads.
-/

namespace Gatehouse

open Wire Octets

namespace Wire

/-- The length of the body, as the header of a frame tells it. -/
def declaredLength (frame : Octets) : Nat :=
  ofLittleEndian (frame.take headerLength)

def InBounds (frame : Octets) : Prop :=
  1 ≤ declaredLength frame ∧ declaredLength frame ≤ maxBody

/-- The longest payload of which the sealed frame is within the bounds. -/
def maxReadable : Nat :=
  (maxBody - checksumLength) / Xtea.blockLength * Xtea.blockLength - 2

theorem declaredLength_sealedFrame {payload : Octets} (key : Xtea.Key) (mode : ChecksumMode)
    (sequence : UInt32) (hPayload : payload.length ≤ maxPayload) :
    declaredLength (sealedFrame key mode sequence payload) =
      checksumLength + (plainRegion payload).length := by
  have hHeader : (sealedFrame key mode sequence payload).take headerLength =
      littleEndian headerLength (checksumLength + (plainRegion payload).length) := by
    rw [sealedFrame, List.append_assoc, List.take_left' (length_littleEndian ..),
      length_sealedRegion]
  rw [declaredLength, hHeader, ofLittleEndian_littleEndian,
    Nat.mod_eq_of_lt (length_body_lt hPayload)]

theorem length_sealedFrame_eq_declaredLength {payload : Octets} (key : Xtea.Key)
    (mode : ChecksumMode) (sequence : UInt32) (hPayload : payload.length ≤ maxPayload) :
    (sealedFrame key mode sequence payload).length =
      headerLength + declaredLength (sealedFrame key mode sequence payload) := by
  rw [length_sealedFrame, declaredLength_sealedFrame key mode sequence hPayload, Nat.add_assoc]

theorem inBounds_sealedFrame_iff {payload : Octets} (key : Xtea.Key) (mode : ChecksumMode)
    (sequence : UInt32) (hPayload : payload.length ≤ maxPayload) :
    InBounds (sealedFrame key mode sequence payload) ↔ payload.length ≤ maxReadable := by
  have hWhole := length_plainRegion_mod payload
  have hPad := Xtea.paddingFor_lt (2 + payload.length)
  have hLength := length_plainRegion payload
  rw [InBounds, declaredLength_sealedFrame key mode sequence hPayload]
  simp only [maxReadable, maxBody, checksumLength, Xtea.blockLength] at *
  omega

end Wire

/-! ## The reading client -/

namespace Client

theorem nextFrame_append {frame : Octets} (rest : Octets) (hFrame : InBounds frame)
    (hLength : frame.length = headerLength + declaredLength frame) :
    nextFrame (frame ++ rest) = (.ok frame, rest) := by
  obtain ⟨hPositive, hBound⟩ := hFrame
  have hDropped : declaredLength frame = (frame.drop headerLength).length := by
    rw [List.length_drop]
    omega
  have hBody : split? (declaredLength frame) (frame.drop headerLength ++ rest) =
      some (frame.drop headerLength, rest) := by
    rw [split?_append hDropped.le, List.take_of_length_le hDropped.ge,
      List.drop_of_length_le hDropped.ge, List.nil_append]
  have hInside : ¬ (declaredLength frame = 0 ∨ maxBody < declaredLength frame) := by omega
  rw [declaredLength] at hBody hInside
  rw [nextFrame, split?_append (by omega)]
  simp only [if_neg hInside, hBody, List.take_append_drop]

theorem nextFrame_append_of_not_inBounds {frame : Octets} (rest : Octets)
    (hFrame : ¬ InBounds frame) (hLength : headerLength ≤ frame.length) :
    (nextFrame (frame ++ rest)).1 = .error (.frameLength (declaredLength frame)) := by
  have hOutside : declaredLength frame = 0 ∨ maxBody < declaredLength frame := by
    rw [InBounds] at hFrame
    omega
  rw [declaredLength] at hOutside
  rw [nextFrame, split?_append hLength, declaredLength]
  simp only [if_pos hOutside]

/-- A client with this key takes the frame off the front of what has come, and what it finds in it
is the payload. -/
def Reads (key : Xtea.Key) (frame payload : Octets) : Prop :=
  ∀ (c : Client) (rest : Octets), c.key? = some key → c.inbox = frame ++ rest →
    ∃ r : FrameReader, r.unread = payload ∧
      readFrame c = (.ok (ServerMessage.readAll r).1, { c with inbox := rest })

def Refuses (frame : Octets) : Prop :=
  ∀ (c : Client) (rest : Octets), c.inbox = frame ++ rest →
    (readFrame c).1 = .error (.frameLength (declaredLength frame))

theorem reads_sealedFrame {payload : Octets} (key : Xtea.Key) (mode : ChecksumMode)
    (sequence : UInt32) (hPayload : payload.length ≤ maxReadable) :
    Reads key (sealedFrame key mode sequence payload) payload := by
  intro c rest hKey hInbox
  have hGathered : payload.length ≤ maxPayload := hPayload.trans (by decide)
  have hBounds := (inBounds_sealedFrame_iff key mode sequence hGathered).mpr hPayload
  have hLength := length_sealedFrame_eq_declaredLength key mode sequence hGathered
  have hCapacity : (sealedFrame key mode sequence payload).length ≤ FrameReader.capacity := by
    rw [hLength, FrameReader.capacity]
    exact Nat.add_le_add_left hBounds.2 _
  obtain ⟨hOpened, hUnread⟩ :=
    decrypt_sealedFrame (FrameReader.carries_ofFrame hCapacity) hGathered
  refine ⟨_, hUnread, ?_⟩
  have hNext := nextFrame_append rest hBounds hLength
  rw [readFrame, hInbox, hNext, hKey]
  simp only [Except.bind, openFrame]
  split
  case h_1 r hDecrypted => rw [hDecrypted]
  case h_2 hDecrypted =>
    rw [hDecrypted] at hOpened
    cases hOpened

theorem refuses_of_not_inBounds {frame : Octets} (hFrame : ¬ InBounds frame)
    (hLength : headerLength ≤ frame.length) : Refuses frame := by
  intro c rest hInbox
  have hNext := nextFrame_append_of_not_inBounds rest hFrame hLength
  rw [readFrame, hInbox]
  simp only [hNext, Except.bind]

/-! ## The sending client -/

theorem bufferOf?_eq (opcode : UInt8) (payload : Octets) :
    if 1 + payload.length ≤ maxPayload then
      ∃ b : FrameBuffer, bufferOf? opcode payload = some b ∧ b.WellFormed ∧
        b.payload = opcode :: payload
    else bufferOf? opcode payload = none := by
  obtain ⟨b, hOpcode⟩ : ∃ b, FrameBuffer.empty.append? [opcode] = some b :=
    ⟨_, if_pos rfl⟩
  obtain ⟨hb, hFirst⟩ := FrameBuffer.wellFormed_empty.append hOpcode
  rw [FrameBuffer.payload_of_size_eq_zero (b := .empty) rfl, List.nil_append] at hFirst
  have hLater : bufferOf? opcode payload = b.append? payload := by
    rw [bufferOf?, hOpcode]
    rfl
  have hRefused := FrameBuffer.append?_eq_none_iff hb payload
  rw [hFirst, List.length_singleton] at hRefused
  rw [hLater]
  split
  case isTrue hFits =>
    cases hAppend : b.append? payload with
    | none =>
      rw [hRefused] at hAppend
      omega
    | some d =>
      obtain ⟨hd, hPayload⟩ := hb.append hAppend
      exact ⟨d, rfl, hd, by rw [hPayload, hFirst, List.singleton_append]⟩
  case isFalse hLong => exact hRefused.mpr (by omega)

theorem send_eq {c : Client} {key : Xtea.Key} (hKey : c.key? = some key) (opcode : UInt8)
    (payload : Octets) :
    send opcode payload c =
      if 1 + payload.length ≤ maxPayload then
        (.ok (), { c with
          sendSequence := c.sendSequence + 1
          sent := c.sent ++ sealedFrame key c.mode (c.sendSequence + 1) (opcode :: payload) })
      else (.error (.payloadTooLong payload.length), c) := by
  have hBuffer := bufferOf?_eq opcode payload
  split at hBuffer
  case isTrue hFits =>
    obtain ⟨b, hSome, hb, hPayload⟩ := hBuffer
    rw [if_pos hFits, ← hPayload,
      ← (FrameBuffer.sealEncrypted_eq hb key c.mode (c.sendSequence + 1)).1, send,
      bind_of_ok (get_eq c)]
    simp only [hKey, hSome]
    rw [← hKey]
    rfl
  case isFalse hLong =>
    rw [if_neg hLong, send, bind_of_ok (get_eq c)]
    simp only [hKey, hBuffer]
    rfl

end Client

/-! ## The reading server -/

namespace Steady

def haltFor (policy : OversizePolicy) (n : UInt16) : Halt :=
  match policy with
  | .drop => .stalled
  | .close => .violation (.frameLength n)

theorem declare_eq {t : Talk} {id : ConnectionId} (hOpen : t.server.isOpen id = true) :
    declare id t =
      if t.frame.headerValue = 0 ∨ maxBody < t.frame.headerValue.toNat then
        (.error (haltFor t.server.config.oversize t.frame.headerValue), t)
      else (.ok (), { t with frame := t.frame.truncate t.frame.headerValue.toNat }) := by
  rw [declare, bind_of_ok (Talking.ensureOpen_of_open hOpen), bind_of_ok (Talking.frame_eq t)]
  split
  case isTrue =>
    rw [bind_of_ok (Talking.server_eq t)]
    cases t.server.config.oversize <;> rfl
  case isFalse => rfl

structure HeaderHasCome (t : Talk) (id : ConnectionId) (frame : Octets) : Prop where
  isOpen : t.server.isOpen id = true
  store : slice t.frame.store 0 headerLength = frame.take headerLength

theorem HeaderHasCome.headerValue {t : Talk} {id : ConnectionId} {frame : Octets}
    (h : HeaderHasCome t id frame) : t.frame.headerValue.toNat = declaredLength frame := by
  have hSmall : ofLittleEndian (frame.take headerLength) < 2 ^ 16 := by
    refine (ofLittleEndian_lt _).trans_le ?_
    exact Nat.pow_le_pow_right (by decide) (List.length_take_le ..)
  rw [FrameReader.headerValue, h.store, declaredLength]
  exact UInt16.toNat_ofNat_of_lt' hSmall

def Takes (frame : Octets) : Prop :=
  ∀ (t : Talk) (id : ConnectionId), HeaderHasCome t id frame →
    declare id t = (.ok (), { t with frame := t.frame.truncate (declaredLength frame) })

/-- The reader stalls or closes, as it is configured. -/
def Stops (frame : Octets) : Prop :=
  ∀ (t : Talk) (id : ConnectionId), HeaderHasCome t id frame →
    declare id t = (.error (haltFor t.server.config.oversize t.frame.headerValue), t)

theorem takes_of_inBounds {frame : Octets} (hFrame : InBounds frame) : Takes frame := by
  intro t id h
  have hValue := h.headerValue
  obtain ⟨hPositive, hBound⟩ := hFrame
  rw [declare_eq h.isOpen, hValue, if_neg]
  rintro (hZero | hLong)
  · rw [hZero] at hValue
    exact absurd hPositive (by rw [← hValue]; decide)
  · omega

theorem stops_of_not_inBounds {frame : Octets} (hFrame : ¬ InBounds frame) : Stops frame := by
  intro t id h
  have hValue := h.headerValue
  rw [declare_eq h.isOpen, hValue, if_pos]
  by_cases hLong : maxBody < declaredLength frame
  · exact Or.inr hLong
  · refine Or.inl (UInt16.toNat_inj.mp ?_)
    rw [InBounds] at hFrame
    rw [hValue]
    change declaredLength frame = 0
    omega

end Steady

/-! ## Both directions -/

theorem Outlet.Sound.sealed_of_run {o : Outlet} (ho : o.Sound) {key : Xtea.Key}
    (hKey : o.connection.key? = some key) (acts : List Outlet.Act) {frame : Octets}
    (hFrame : frame ∈ (o.run acts).connection.queue) :
    frame ∈ o.connection.queue ∨ ∃ sequence payload, payload.length ≤ maxPayload ∧
      frame = sealedFrame key o.connection.mode sequence payload := by
  rcases (ho.run acts).2.queue frame hFrame with hOld | ⟨sequence, payload, -, hLength, hNew⟩
  · exact Or.inl hOld
  · refine Or.inr ⟨sequence + 1, payload, hLength, ?_⟩
    rw [hNew, Connection.frameOf]
    simp only [hKey]

/-- Messages between the two bounds are accepted, and the client fails over their frames. -/
theorem Outlet.Sound.accepted_and_refused {o : Outlet} (ho : o.Sound) {key : Xtea.Key}
    (hKey : o.connection.key? = some key) (hOpen : o.connection.disconnected = false)
    (hPending : o.pending = []) {message : Octets} (hLong : maxReadable < message.length)
    (hAccepted : message.length ≤ maxPayload) :
    (o.enqueue message).1 = true ∧
      ∃ frame ∈ (o.run [.enqueue message, .flush]).connection.queue, Client.Refuses frame := by
  have hMessage : message ≠ [] := List.ne_nil_of_length_pos (Nat.zero_lt_of_lt hLong)
  have hFrame : o.connection.frameOf message =
      sealedFrame key o.connection.mode (o.connection.sendSequence + 1) message := by
    rw [Connection.frameOf]
    simp only [hKey]
  obtain ⟨-, -, -, hTrue, -⟩ := ho.enqueue hOpen hAccepted
  refine ⟨hTrue, o.connection.frameOf message, ?_, ?_⟩
  · rw [ho.queue_enqueue_flush hOpen hPending hMessage hAccepted]
    exact List.mem_append_right _ (List.mem_singleton_self _)
  · rw [hFrame]
    refine Client.refuses_of_not_inBounds ?_ ?_
    · rw [inBounds_sealedFrame_iff key _ _ hAccepted]
      exact Nat.not_le.mpr hLong
    · rw [length_sealedFrame, Nat.add_assoc]
      exact Nat.le_add_right ..

theorem Client.sent_and_stopped {c : Client} {key : Xtea.Key} (hKey : c.key? = some key)
    (opcode : UInt8) {payload : Octets} (hLong : maxReadable < 1 + payload.length)
    (hFits : 1 + payload.length ≤ maxPayload) :
    ∃ frame, (Client.send opcode payload c).2.sent = c.sent ++ frame ∧ Steady.Stops frame := by
  have hLength : (opcode :: payload).length = 1 + payload.length := Nat.add_comm ..
  refine ⟨sealedFrame key c.mode (c.sendSequence + 1) (opcode :: payload), ?_, ?_⟩
  · rw [Client.send_eq hKey, if_pos hFits]
  · apply Steady.stops_of_not_inBounds
    rw [inBounds_sealedFrame_iff key _ _ (hLength ▸ hFits), hLength]
    exact Nat.not_le.mpr hLong

/-- Whatever has been accepted, the other end reads the frame of a payload exactly if the payload
stays below the bound that the padding leaves. Clients put the opcode into the payload. -/
theorem sealed_frames_read_iff (key : Xtea.Key) :
    (∀ (o : Outlet) (acts : List Outlet.Act), o.Sound → o.connection.key? = some key →
      ∀ frame ∈ (o.run acts).connection.queue, frame ∈ o.connection.queue ∨
        ∃ sequence payload, payload.length ≤ maxPayload ∧
          frame = sealedFrame key o.connection.mode sequence payload ∧
          (InBounds frame ↔ payload.length ≤ maxReadable) ∧
          (InBounds frame → Client.Reads key frame payload) ∧
          (¬ InBounds frame → Client.Refuses frame)) ∧
    (∀ (c : Client) (opcode : UInt8) (payload : Octets), c.key? = some key →
      if 1 + payload.length ≤ maxPayload then
        ∃ frame, Client.send opcode payload c =
            (.ok (), { c with sendSequence := c.sendSequence + 1, sent := c.sent ++ frame }) ∧
          (InBounds frame ↔ 1 + payload.length ≤ maxReadable) ∧
          (InBounds frame → Steady.Takes frame) ∧
          (¬ InBounds frame → Steady.Stops frame)
      else Client.send opcode payload c = (.error (.payloadTooLong payload.length), c)) := by
  constructor
  · intro o acts ho hKey frame hFrame
    refine (ho.sealed_of_run hKey acts hFrame).imp_right ?_
    rintro ⟨sequence, payload, hPayload, rfl⟩
    have hIff := inBounds_sealedFrame_iff key o.connection.mode sequence hPayload
    refine ⟨sequence, payload, hPayload, rfl, hIff, fun hInside => ?_, fun hOutside => ?_⟩
    · exact Client.reads_sealedFrame key _ _ (hIff.mp hInside)
    · refine Client.refuses_of_not_inBounds hOutside ?_
      rw [length_sealedFrame, Nat.add_assoc]
      exact Nat.le_add_right ..
  · intro c opcode payload hKey
    have hSend := Client.send_eq hKey opcode payload
    split
    case isTrue hFits =>
      rw [if_pos hFits] at hSend
      have hLength : (opcode :: payload).length = 1 + payload.length := Nat.add_comm ..
      have hIff := inBounds_sealedFrame_iff key c.mode (c.sendSequence + 1) (hLength ▸ hFits)
      rw [hLength] at hIff
      exact ⟨_, hSend, hIff, Steady.takes_of_inBounds, Steady.stops_of_not_inBounds⟩
    case isFalse hLong => rw [hSend, if_neg hLong]

/-- An answer of three bytes, and the longest message of a client that is within the bounds. -/
theorem sealed_frames_read_at_bound :
    let key := Xtea.Key.ofWords ⟨1, 2, 3, 4⟩
    let o : Outlet :=
      ⟨(Connection.new 1 ⟨.localhost, 0, 7172⟩).installKey key .adler, .ofCapacity 1⟩
    let c : Client := { Client.new ⟨0, 0⟩ .adler [] with key? := some key }
    (∃ frame ∈ (o.run [.enqueue [0x1E, 0, 0], .flush]).connection.queue,
      ∃ payload, Client.Reads key frame payload) ∧
    ∃ frame, (Client.send 0x41 (List.replicate 24565 0x41) c).2.sent = c.sent ++ frame ∧
      Steady.Takes frame := by
  intro key o c
  have ho : o.Sound := ⟨fun _ hb => (nomatch hb), BufferPool.sound_ofCapacity 1⟩
  obtain ⟨hServer, hClient⟩ := sealed_frames_read_iff key
  constructor
  · have hQueue : (o.run [.enqueue [0x1E, 0, 0], .flush]).connection.queue = _ :=
      ho.queue_enqueue_flush rfl rfl (by decide) (by decide)
    have hFrame : o.connection.frameOf [0x1E, 0, 0] ∈
        (o.run [.enqueue [0x1E, 0, 0], .flush]).connection.queue := by
      rw [hQueue]
      exact List.mem_singleton_self _
    have hInside : InBounds (o.connection.frameOf [0x1E, 0, 0]) :=
      (inBounds_sealedFrame_iff key .adler 1 (by decide)).mpr (by decide)
    rcases hServer o _ ho rfl _ hFrame with hOld | ⟨-, payload, -, -, -, hReads, -⟩
    · cases hOld
    · exact ⟨_, hFrame, payload, hReads hInside⟩
  · have hSends : ∀ payload : Octets, payload.length = 24565 →
        ∃ frame, (Client.send 0x41 payload c).2.sent = c.sent ++ frame ∧ Steady.Takes frame := by
      intro payload hLength
      have hSend := hClient c 0x41 payload rfl
      rw [hLength, if_pos (show 1 + 24565 ≤ maxPayload by decide)] at hSend
      obtain ⟨frame, hSent, hIff, hTakes, -⟩ := hSend
      exact ⟨frame, congrArg (·.2.sent) hSent, hTakes (hIff.mpr (by decide))⟩
    exact hSends _ List.length_replicate

/-- Messages of one byte more than that are accepted on either side and refused on the other. -/
theorem accepted_but_not_read :
    let key := Xtea.Key.ofWords ⟨1, 2, 3, 4⟩
    let o : Outlet :=
      ⟨(Connection.new 1 ⟨.localhost, 0, 7172⟩).installKey key .adler, .ofCapacity 1⟩
    let c : Client := { Client.new ⟨0, 0⟩ .adler [] with key? := some key }
    ((o.enqueue (List.replicate 24567 0x41)).1 = true ∧
      ∃ frame ∈ (o.run [.enqueue (List.replicate 24567 0x41), .flush]).connection.queue,
        Client.Refuses frame) ∧
    ∃ frame, (Client.send 0x41 (List.replicate 24566 0x41) c).2.sent = c.sent ++ frame ∧
      Steady.Stops frame := by
  intro key o c
  have ho : o.Sound := ⟨fun _ hb => (nomatch hb), BufferPool.sound_ofCapacity 1⟩
  constructor
  · have hKey : o.connection.key? = some key := rfl
    refine ho.accepted_and_refused hKey rfl rfl ?_ ?_
    · rw [List.length_replicate]
      decide
    · rw [List.length_replicate]
      decide
  · have hKey : c.key? = some key := rfl
    refine Client.sent_and_stopped hKey 0x41 ?_ ?_
    · rw [List.length_replicate]
      decide
    · rw [List.length_replicate]
      decide

end Gatehouse
