import Gatehouse.Proofs.Delivery
import Gatehouse.Proofs.FrameSizes
import Gatehouse.Proofs.Outflow

/-!
# The numbers of sealed frames

Sealed frames are counted from one, in the order in which they leave and whatever had them queued.
Plain frames come before all sealed ones and have an empty checksum slot. A client counts in the
same way what it sends, and a message that it refuses is not counted.
-/

namespace Gatehouse

open Wire Octets

/-- What a frame is sealed with, and what is in it. -/
structure Sealing where
  key : Xtea.Key
  mode : ChecksumMode
  payload : Octets

namespace Sealing

/-- The checksum slot of the `k`-th sealed frame. The counter has 32 bits. -/
def slot (s : Sealing) (k : Nat) : Octets :=
  match s.mode with
  | .adler => littleEndian checksumLength (adler32 (sealedRegion s.key s.payload)).toNat
  | .sequence => littleEndian checksumLength (k % 2 ^ 32)

/-- The `k`-th sealed frame: the length, the checksum slot and the encrypted region. -/
def frame (s : Sealing) (k : Nat) : Octets :=
  let region := sealedRegion s.key s.payload
  littleEndian headerLength (checksumLength + region.length) ++ s.slot k ++ region

theorem frame_eq (s : Sealing) (k : Nat) :
    s.frame k = sealedFrame s.key s.mode (UInt32.ofNat k) s.payload := by
  have hSlot : s.slot k = littleEndian checksumLength
      (FrameBuffer.checksum s.mode (UInt32.ofNat k) (sealedRegion s.key s.payload)).toNat := by
    rw [slot]
    cases s.mode with
    | adler => rfl
    | sequence => rw [FrameBuffer.checksum, UInt32.toNat_ofNat']
  rw [frame, sealedFrame, hSlot]

example (key : Xtea.Key) (payload : Octets) :
    slot ⟨key, .sequence, payload⟩ (2 ^ 32 + 1) = [1, 0, 0, 0] := rfl

end Sealing

/-- The frames of these sealings in turn, counted from one. -/
def numbered (sealings : List Sealing) : List Octets :=
  sealings.mapIdx fun i s => s.frame (i + 1)

theorem numbered_concat (sealings : List Sealing) (s : Sealing) :
    numbered (sealings ++ [s]) = numbered sealings ++ [s.frame (sealings.length + 1)] :=
  List.mapIdx_concat

/-! ## Connections -/

/-- The frames of a connection are plain ones and then numbered ones, and the counter is the number
of the last of these. -/
structure Numbers (c : Connection) (sent : List Octets) (postings : List Posting)
    (plain : List Octets) (sealings : List Sealing) : Prop where
  frames : sent ++ c.queue = plain.map plainFrame ++ numbered sealings
  sequence : c.sendSequence = UInt32.ofNat sealings.length
  unsealed : c.key? = none → sealings = []
  keys : postings.map Posting.key? = plain.map (fun _ => none) ++ sealings.map (some ·.key)
  modes : (postings.map Posting.mode).drop plain.length = sealings.map Sealing.mode
  plainPayloads : Outlet.Payloads plain
  sealedPayloads : Outlet.Payloads (sealings.map Sealing.payload)

namespace Numbers

variable {c : Connection} {sent : List Octets} {postings : List Posting} {plain : List Octets}
  {sealings : List Sealing}

theorem start (id : ConnectionId) (peer : SocketAddress) : Numbers (.new id peer) [] [] [] [] where
  frames := rfl
  sequence := rfl
  unsealed _ := rfl
  keys := rfl
  modes := rfl
  plainPayloads := Outlet.payloads_nil
  sealedPayloads := Outlet.payloads_nil

theorem congr (h : Numbers c sent postings plain sealings) {d : Connection}
    (hFrames : c.SameFrames d) : Numbers d sent postings plain sealings :=
  { h with
    frames := hFrames.queue ▸ h.frames
    sequence := hFrames.sendSequence.trans h.sequence
    unsealed := fun hKey => h.unsealed (hFrames.key?.symm.trans hKey) }

theorem installKey (h : Numbers c sent postings plain sealings) (key : Xtea.Key)
    (mode : ChecksumMode) : Numbers (c.installKey key mode) sent postings plain sealings :=
  { h with
    frames := h.frames
    sequence := h.sequence
    unsealed := fun hKey => nomatch hKey }

theorem pop (h : Numbers c sent postings plain sealings) :
    Numbers c.frameSent (sent ++ c.queue.take 1) postings plain sealings := by
  have hFrames := Outlet.sameFrames_frameSent c
  refine { h with
    frames := ?_
    sequence := hFrames.sendSequence.trans h.sequence
    unsealed := fun hKey => h.unsealed (hFrames.key?.symm.trans hKey) }
  rw [hFrames.queue, List.append_assoc, ← h.frames, ← List.drop_one, List.take_append_drop]

theorem put_plain (h : Numbers c sent postings plain sealings) (hKey : c.key? = none)
    {payload : Octets} (hSome : payload ≠ []) (hLength : payload.length ≤ maxPayload)
    (split : Bool) :
    Numbers (c.put payload) sent (postings ++ [Outlet.posting c split]) (plain ++ [payload])
      sealings := by
  have hFrame : c.frameOf payload = plainFrame payload := by rw [Connection.frameOf, hKey]
  have hCounted : c.counted = c := by rw [Connection.counted, hKey]
  have hNone := h.unsealed hKey
  obtain ⟨hFrames, hSequence, hUnsealed, hKeys, hModes, hPlain, hSealed⟩ := h
  subst hNone
  refine ⟨?_, ?_, fun _ => rfl, ?_, ?_, hPlain.concat hSome hLength, hSealed⟩
  · rw [Connection.queue_put, ← List.append_assoc, hFrames, hFrame, List.map_append]
    simp [numbered]
  · rw [Connection.sendSequence_put, hCounted, hSequence]
  · simp [hKeys, Outlet.posting, hKey]
  · have hCount := congrArg List.length hKeys
    simp only [List.length_map, List.length_append, List.map_nil, List.length_nil] at hCount
    simp [hCount]

theorem put_sealed (h : Numbers c sent postings plain sealings) {key : Xtea.Key}
    (hKey : c.key? = some key) {payload : Octets} (hSome : payload ≠ [])
    (hLength : payload.length ≤ maxPayload) (split : Bool) :
    Numbers (c.put payload) sent (postings ++ [Outlet.posting c split]) plain
      (sealings ++ [⟨key, c.mode, payload⟩]) := by
  have hCounted : c.counted.sendSequence = UInt32.ofNat (sealings.length + 1) := by
    rw [Connection.counted, hKey, UInt32.ofNat_add, ← h.sequence]
    rfl
  have hFrame : c.frameOf payload =
      Sealing.frame ⟨key, c.mode, payload⟩ (sealings.length + 1) := by
    rw [Connection.frameOf, hKey, Sealing.frame_eq, UInt32.ofNat_add, ← h.sequence]
    rfl
  have hCount : postings.length = plain.length + sealings.length := by
    have hCount := congrArg List.length h.keys
    rwa [List.length_append, List.length_map, List.length_map, List.length_map] at hCount
  refine ⟨?_, ?_, fun hNone => ?_, ?_, ?_, h.plainPayloads, ?_⟩
  · rw [Connection.queue_put, ← List.append_assoc, h.frames, hFrame, numbered_concat,
      List.append_assoc]
  · rw [Connection.sendSequence_put, hCounted, List.length_append, List.length_singleton]
  · rw [(Connection.sameBut_put c payload).key?, hKey] at hNone
    cases hNone
  · simp [h.keys, Outlet.posting, hKey]
  · rw [List.map_append, List.drop_append_of_le_length (by simp [hCount]), h.modes,
      List.map_append]
    rfl
  · rw [List.map_append]
    exact h.sealedPayloads.concat hSome hLength

/-- What is put into the queue one after the other is plain as long as there is no key, and sealed
from then on. -/
theorem putAll (h : Numbers c sent postings plain sealings) {payloads : List Octets}
    (hPayloads : Outlet.Payloads payloads) (split : Bool) :
    ∃ plain' sealings', Numbers (c.putAll payloads) sent
        (postings ++ List.replicate payloads.length (Outlet.posting c split)) plain' sealings' ∧
      (c.putAll payloads).key? = c.key? ∧ (c.key? ≠ none → plain' = plain) := by
  induction payloads generalizing c postings plain sealings with
  | nil => exact ⟨plain, sealings, (List.append_nil postings).symm ▸ h, rfl, fun _ => rfl⟩
  | cons payload payloads ih =>
    obtain ⟨hSome, hLength⟩ := hPayloads payload List.mem_cons_self
    have hRest : Outlet.Payloads payloads :=
      fun other hOther => hPayloads other (List.mem_cons_of_mem _ hOther)
    have hSame := Connection.sameBut_put c payload
    have hPosting : Outlet.posting (c.put payload) split = Outlet.posting c split := by
      rw [Outlet.posting, hSame.key?, hSame.mode, Outlet.posting]
    have hSplit : postings ++ List.replicate (payload :: payloads).length
          (Outlet.posting c split) =
        postings ++ [Outlet.posting c split] ++
          List.replicate payloads.length (Outlet.posting (c.put payload) split) := by
      rw [hPosting, List.append_assoc]
      rfl
    rw [hSplit]
    cases hKey : c.key? with
    | none =>
      obtain ⟨plain', sealings', hLast, hKeys, -⟩ :=
        ih (h.put_plain hKey hSome hLength split) hRest
      exact ⟨plain', sealings', hLast, hKeys.trans (hSame.key?.trans hKey), fun hNot =>
        absurd rfl hNot⟩
    | some key =>
      obtain ⟨plain', sealings', hLast, hKeys, hPlain⟩ :=
        ih (h.put_sealed hKey hSome hLength split) hRest
      refine ⟨plain', sealings', hLast, hKeys.trans (hSame.key?.trans hKey), fun _ => hPlain ?_⟩
      rw [hSame.key?, hKey]
      exact Option.some_ne_none key

end Numbers

namespace Outlet.History

/-- All frames that have been queued, those that have been sent first. -/
def frames (h : History) : List Octets :=
  h.sent ++ h.outlet.connection.queue

/-- The frames of a history with the numbers of its sealed ones. -/
structure Counts (h : History) (plain : List Octets) (sealings : List Sealing) : Prop where
  sound : h.outlet.Sound
  numbers : Numbers h.outlet.connection h.sent h.postings plain sealings

theorem counts_start (id : ConnectionId) (peer : SocketAddress) (capacity : Nat) :
    (start id peer capacity).Counts [] [] :=
  ⟨sound_new id peer capacity, .start id peer⟩

variable {h : History} {plain : List Octets} {sealings : List Sealing}

theorem postings_next_of_still {move : Move}
    (hQueued : (move.perform h.outlet).2.connection.framesQueued =
      h.outlet.connection.framesQueued) : (h.next move).postings = h.postings := by
  rw [next, hQueued, Nat.sub_self, List.replicate_zero, List.append_nil]

theorem Counts.next_act (hCounts : h.Counts plain sealings) (act : Act) :
    ∃ plain' sealings', (h.next (.act act)).Counts plain' sealings' ∧
      (h.next (.act act)).outlet.connection.key? = h.outlet.connection.key? ∧
      (h.outlet.connection.key? ≠ none → plain' = plain) := by
  have hSound := sound_next hCounts.sound (.act act)
  by_cases hSent : act = .frameSent
  · subst hSent
    have hFrames := sameFrames_frameSent h.outlet.connection
    refine ⟨plain, sealings, ⟨hSound, ?_⟩, hFrames.key?, fun _ => rfl⟩
    have hStill : (h.next (.act .frameSent)).postings = h.postings :=
      postings_next_of_still hFrames.framesQueued
    rw [hStill]
    exact hCounts.numbers.pop
  · obtain ⟨payloads, hPosts⟩ := hCounts.sound.posts_perform hSent
    have hQueued : (act.perform h.outlet).2.connection.framesQueued =
        h.outlet.connection.framesQueued + payloads.length :=
      hPosts.frames.framesQueued.trans (Connection.framesQueued_putAll ..)
    have hNothing : Move.sent h.outlet (.act act) = [] := by
      cases act with
      | frameSent => exact absurd rfl hSent
      | enqueue | enqueueBuffer | flush | shut | others => rfl
    obtain ⟨plain', sealings', hNumbers, hKeys, hPlain⟩ :=
      hCounts.numbers.putAll hPosts.fitting (Move.act act).splits
    refine ⟨plain', sealings', ⟨hSound, ?_⟩, hPosts.frames.key?.trans hKeys, hPlain⟩
    have hPostings : (h.next (.act act)).postings = h.postings ++
        List.replicate payloads.length (posting h.outlet.connection (Move.act act).splits) := by
      change h.postings ++ List.replicate _ _ = _
      rw [Move.perform, hQueued, Nat.add_sub_cancel_left]
      rfl
    have hSame : (h.next (.act act)).sent = h.sent := by
      rw [History.next, hNothing, List.append_nil]
    rw [hPostings, hSame]
    exact hNumbers.congr hPosts.frames

/-- Before there is a key all frames are plain. -/
theorem Counts.run_acts (hCounts : h.Counts plain [])
    (hKey : h.outlet.connection.key? = none) (acts : List Act) :
    ∃ plain', (h.run (acts.map .act)).Counts plain' [] := by
  induction acts generalizing h plain with
  | nil => exact ⟨plain, hCounts⟩
  | cons act acts ih =>
    obtain ⟨plain', sealings', hNext, hSame, -⟩ := hCounts.next_act act
    have hNone := hSame.trans hKey
    rw [hNext.numbers.unsealed hNone] at hNext
    exact ih hNext hNone

theorem Counts.next_installKey (hCounts : h.Counts plain sealings) (key : Xtea.Key)
    (mode : ChecksumMode) : (h.next (.installKey key mode)).Counts plain sealings := by
  have hSent : (h.next (.installKey key mode)).sent = h.sent := List.append_nil h.sent
  refine ⟨sound_next hCounts.sound _, ?_⟩
  rw [postings_next_of_still rfl, hSent]
  exact hCounts.numbers.installKey key mode

/-- Once there is a key there are no more plain frames. -/
theorem Counts.run (hCounts : h.Counts plain sealings)
    (hKey : h.outlet.connection.key? ≠ none) (moves : List Move) :
    ∃ sealings', (h.run moves).Counts plain sealings' := by
  induction moves generalizing h sealings with
  | nil => exact ⟨sealings, hCounts⟩
  | cons move moves ih =>
    cases move with
    | act act =>
      obtain ⟨plain', sealings', hNext, hSame, hPlain⟩ := hCounts.next_act act
      rw [hPlain hKey] at hNext
      exact ih hNext (hSame ▸ hKey)
    | installKey key mode =>
      exact ih (hCounts.next_installKey key mode) (Option.some_ne_none key)

end Outlet.History

/-! ## Clients -/

namespace Client

inductive Act where
  | greet (world : String)
  | login (form : LoginForm) (challenge : Login.Challenge)
  | send (opcode : UInt8) (payload : Octets)
  | write (bs : Octets)
  | readFrame
  | readUntil (wanted : ServerMessage → Bool)

/-- A client with the frames that its messages have been sent in, and what it had to seal each of
them with. -/
structure History where
  client : Client
  frames : List Octets
  sealings : List (Option Sealing)

namespace History

def start (publicKey : Rsa.Key) (mode : ChecksumMode) (inbox : Octets) : History where
  client := .new publicKey mode inbox
  frames := []
  sealings := []

def next (h : History) : Act → History
  | .greet world => { h with client := (greet world h.client).2 }
  | .login form challenge => { h with client := (login form challenge h.client).2 }
  | .write bs => { h with client := (write bs h.client).2 }
  | .readFrame => { h with client := (readFrame h.client).2 }
  | .readUntil wanted => { h with client := (readUntil wanted h.client).2 }
  | .send opcode payload =>
    match send opcode payload h.client with
    | (.error _, client) => { h with client }
    | (.ok (), client) =>
      { client
        frames := h.frames ++ [client.sent.drop h.client.sent.length]
        sealings := h.sealings ++ [h.client.key?.map (⟨·, h.client.mode, opcode :: payload⟩)] }

def run (h : History) (acts : List Act) : History :=
  acts.foldl next h

end History

theorem sendSequence_login (form : LoginForm) (challenge : Login.Challenge) (c : Client) :
    (login form challenge c).2.sendSequence = c.sendSequence := by
  rw [login, bind_of_ok (get_eq c)]
  cases form.frame c.publicKey challenge with
  | error e => rfl
  | ok frame => rfl

theorem sendSequence_readFrame {c d : Client} {messages : Except Error (List ServerMessage)}
    (hRead : readFrame c = (messages, d)) : d.sendSequence = c.sendSequence := by
  obtain ⟨-, rfl⟩ := Prod.mk.inj hRead
  rfl

theorem sendSequence_readUntil (wanted : ServerMessage → Bool) (c : Client) :
    (readUntil wanted c).2.sendSequence = c.sendSequence := by
  fun_induction readUntil wanted c with
  | case1 c e d hRead => exact sendSequence_readFrame hRead
  | case2 c messages d hRead message hFind => exact sendSequence_readFrame hRead
  | case3 c messages d hRead hFind ih => exact ih.trans (sendSequence_readFrame hRead)

theorem send_of_unkeyed {c : Client} (hKey : c.key? = none) (opcode : UInt8) (payload : Octets) :
    send opcode payload c = (.error .noKey, c) := by
  rw [send, bind_of_ok (get_eq c)]
  simp only [hKey]
  rfl

namespace History

structure Counts (h : History) (sealings : List Sealing) : Prop where
  frames : h.frames = numbered sealings
  all : h.sealings = sealings.map some
  sequence : h.client.sendSequence = UInt32.ofNat sealings.length

variable {h : History} {sealings : List Sealing}

theorem counts_start (publicKey : Rsa.Key) (mode : ChecksumMode) (inbox : Octets) :
    (start publicKey mode inbox).Counts [] :=
  ⟨rfl, rfl, rfl⟩

theorem Counts.congr (hCounts : h.Counts sealings) {client : Client}
    (hSame : client.sendSequence = h.client.sendSequence) :
    Counts { h with client } sealings :=
  { hCounts with sequence := hSame.trans hCounts.sequence }

theorem Counts.sent (hCounts : h.Counts sealings) {key : Xtea.Key}
    (hKey : h.client.key? = some key) {opcode : UInt8} {payload : Octets}
    (hFits : 1 + payload.length ≤ maxPayload) :
    (h.next (.send opcode payload)).Counts
      (sealings ++ [⟨key, h.client.mode, opcode :: payload⟩]) := by
  have hNumber : h.client.sendSequence + 1 = UInt32.ofNat (sealings.length + 1) := by
    rw [UInt32.ofNat_add, ← hCounts.sequence]
    rfl
  have hSend := send_eq hKey opcode payload
  rw [if_pos hFits] at hSend
  simp only [History.next, hSend, hKey, List.drop_left]
  refine ⟨?_, ?_, ?_⟩
  · rw [numbered_concat, Sealing.frame_eq, hCounts.frames, hNumber]
  · rw [hCounts.all, List.map_append]
    rfl
  · rw [List.length_append, List.length_singleton]
    exact hNumber

theorem Counts.next (hCounts : h.Counts sealings) (act : Act) :
    ∃ sealings', (h.next act).Counts sealings' := by
  cases act with
  | greet world => exact ⟨sealings, hCounts.congr rfl⟩
  | login form challenge => exact ⟨sealings, hCounts.congr (sendSequence_login form challenge _)⟩
  | write bs => exact ⟨sealings, hCounts.congr rfl⟩
  | readFrame => exact ⟨sealings, hCounts.congr (sendSequence_readFrame rfl)⟩
  | readUntil wanted => exact ⟨sealings, hCounts.congr (sendSequence_readUntil wanted _)⟩
  | send opcode payload =>
    cases hKey : h.client.key? with
    | none =>
      refine ⟨sealings, ?_⟩
      rw [History.next, send_of_unkeyed hKey]
      exact hCounts
    | some key =>
      by_cases hFits : 1 + payload.length ≤ maxPayload
      · exact ⟨_, hCounts.sent hKey hFits⟩
      · refine ⟨sealings, ?_⟩
        rw [History.next, send_eq hKey, if_neg hFits]
        exact hCounts

theorem Counts.run (hCounts : h.Counts sealings) (acts : List Act) :
    ∃ sealings', (h.run acts).Counts sealings' := by
  induction acts generalizing h sealings with
  | nil => exact ⟨sealings, hCounts⟩
  | cons act acts ih =>
    obtain ⟨sealings', hNext⟩ := hCounts.next act
    exact ih hNext

end History

end Client

/-! ## Both ends -/

namespace Client

/-- A message is refused for want of a key or because it does not fit, and it is then as if nothing
had been sent. -/
theorem send_cases (c : Client) (opcode : UInt8) (payload : Octets) :
    (c.key? = none ∧ send opcode payload c = (.error .noKey, c)) ∨
      (c.key?.isSome ∧ maxPayload < 1 + payload.length ∧
        send opcode payload c = (.error (.payloadTooLong payload.length), c)) ∨
      (c.key?.isSome ∧ 1 + payload.length ≤ maxPayload ∧
        (send opcode payload c).1 = .ok () ∧
        (send opcode payload c).2.sendSequence = c.sendSequence + 1) := by
  cases hKey : c.key? with
  | none => exact Or.inl ⟨rfl, send_of_unkeyed hKey opcode payload⟩
  | some key =>
    rw [send_eq hKey]
    split
    case isTrue hFits => exact Or.inr (Or.inr ⟨rfl, hFits, rfl, rfl⟩)
    case isFalse hLong => exact Or.inr (Or.inl ⟨rfl, Nat.lt_of_not_le hLong, rfl⟩)

end Client

/-- Whatever queues the frames of a connection, those from before its first key are plain and all
others are sealed and numbered from one, each with the key and the mode that the connection had when
the frame was queued. The messages that a client sends are numbered in the same way, those left out
that it refuses. -/
theorem frames_numbered :
    (∀ (id : ConnectionId) (peer : SocketAddress) (capacity : Nat) (before : List Outlet.Act)
        (key : Xtea.Key) (mode : ChecksumMode) (after : List Outlet.Move),
      let h₀ := (Outlet.History.start id peer capacity).run (before.map .act)
      let h := h₀.run (.installKey key mode :: after)
      ∃ (plain : List Octets) (sealings : List Sealing),
        h₀.frames = plain.map plainFrame ∧
        h.frames = h₀.frames ++ numbered sealings ∧
        h.postings.map Posting.key? = plain.map (fun _ => none) ++ sealings.map (some ·.key) ∧
        (h.postings.map Posting.mode).drop plain.length = sealings.map Sealing.mode ∧
        Outlet.Payloads plain ∧ Outlet.Payloads (sealings.map Sealing.payload)) ∧
    (∀ (publicKey : Rsa.Key) (mode : ChecksumMode) (inbox : Octets) (acts : List Client.Act),
      let h := (Client.History.start publicKey mode inbox).run acts
      ∃ sealings : List Sealing,
        h.frames = numbered sealings ∧ h.sealings = sealings.map some ∧
        h.client.sendSequence = UInt32.ofNat sealings.length) ∧
    ∀ (c : Client) (opcode : UInt8) (payload : Octets),
      (c.key? = none ∧ Client.send opcode payload c = (.error .noKey, c)) ∨
        (c.key?.isSome ∧ maxPayload < 1 + payload.length ∧
          Client.send opcode payload c = (.error (.payloadTooLong payload.length), c)) ∨
        (c.key?.isSome ∧ 1 + payload.length ≤ maxPayload ∧
          (Client.send opcode payload c).1 = .ok () ∧
          (Client.send opcode payload c).2.sendSequence = c.sendSequence + 1) := by
  refine ⟨?_, ?_, Client.send_cases⟩
  · intro id peer capacity before key mode after h₀ h
    obtain ⟨plain, hBefore⟩ :=
      (Outlet.History.counts_start id peer capacity).run_acts rfl before
    obtain ⟨sealings, hAfter⟩ :=
      (hBefore.next_installKey key mode).run (Option.some_ne_none key) after
    have hPlain : h₀.frames = plain.map plainFrame :=
      hBefore.numbers.frames.trans (List.append_nil _)
    refine ⟨plain, sealings, hPlain, ?_, hAfter.numbers.keys, hAfter.numbers.modes,
      hAfter.numbers.plainPayloads, hAfter.numbers.sealedPayloads⟩
    rw [hPlain]
    exact hAfter.numbers.frames
  · intro publicKey mode inbox acts h
    obtain ⟨sealings, hCounts⟩ := (Client.History.counts_start publicKey mode inbox).run acts
    exact ⟨sealings, hCounts.frames, hCounts.all, hCounts.sequence⟩

end Gatehouse
