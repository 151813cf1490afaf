import Gatehouse.Proofs.Gating
import Gatehouse.Proofs.ZeroChecksums

/-!
# What handlers are told

A handler is looked up by the first byte of the payload and has the rest of it left to read. A
payload without a first byte is not noticed: reading past its end brings a zero, which is looked up
like any other opcode.
-/

namespace Gatehouse

open Wire Octets

namespace Steady

variable {key : Xtea.Key} {frame : Octets} {c : Connection} {sessions : SessionRegistry}

theorem read_of_no_key (hKey : c.key? = none) (sessions : SessionRegistry) (r : FrameReader) :
    (read c sessions r).1 = .ignored := by
  rw [read, Read.bind_eq, hKey]
  split <;> rfl

variable {r : FrameReader} {session? : Option SessionHandle} {session : SessionHandle}
  {opcode other : UInt8}

/-- Zero is not among the opcodes that are left without an active session. -/
theorem decide_zero_eq_dispatched_iff :
    decide sessions session? 0 = .dispatched opcode session ↔
      opcode = 0 ∧ session? = some session ∧ sessions.isInactive session = false := by
  constructor
  · intro hVerdict
    obtain ⟨hSession, hOpcode, hMay⟩ := decide_eq_dispatched hVerdict
    refine ⟨hOpcode, hSession, ?_⟩
    rw [← Bool.not_eq_true]
    intro hInactive
    have hAllowed := hMay hInactive
    rw [hOpcode] at hAllowed
    revert hAllowed
    decide +kernel
  · rintro ⟨rfl, rfl, hActive⟩
    rw [decide, if_neg (Bool.eq_false_iff.mp hActive)]

theorem read_of_holds (hr : r.Holds frame) (hFrame : headerLength ≤ frame.length)
    (c : Connection) (sessions : SessionRegistry) :
    (read c sessions r).1 = (read c sessions (.bearing frame)).1 ∧
      (read c sessions r).2.unread = (read c sessions (.bearing frame)).2.unread := by
  have hBounded :
      (do return (← read c sessions, ← Read.unread) : Read (Verdict × Octets)).Bounded :=
    (bounded_read c sessions).bind fun verdict => Read.bounded_unread.bind fun rest =>
      Read.bounded_pure (verdict, rest)
  have hTrim : r.trim = (FrameReader.bearing frame).trim :=
    hr.trim.trans (FrameReader.trim_bearing frame).symm
  have hSame := (hBounded.congr (FrameReader.placed_bearing hFrame) hTrim).1
  exact Prod.mk.inj hSame

theorem read_of_kept (hr : r.Holds frame) (hFrame : headerLength ≤ frame.length)
    (hKey : c.key? = some key) (hKept : ¬ Dropped key c.mode frame) (sessions : SessionRegistry) :
    (read c sessions r).1 = decide sessions c.session? ((innerPayload key frame).headD 0) ∧
      (read c sessions r).2.unread = (innerPayload key frame).tail := by
  obtain ⟨hVerdict, hUnread⟩ := read_of_holds hr hFrame c sessions
  obtain ⟨message, hRest, hRead⟩ := read_bearing_of_kept hKey hFrame hKept sessions
  rw [hVerdict, hUnread, hRead]
  exact ⟨rfl, hRest⟩

theorem kept_of_dispatched (hr : r.Holds frame) (hFrame : headerLength ≤ frame.length)
    (hRead : (read c sessions r).1 = .dispatched opcode session) :
    ∃ key, c.key? = some key ∧ ¬ Dropped key c.mode frame := by
  have hNot : (read c sessions r).1 ≠ .ignored := by
    rw [hRead]
    exact nofun
  cases hKey : c.key? with
  | none => exact absurd (read_of_no_key hKey sessions r) hNot
  | some key =>
    refine ⟨key, rfl, fun hDropped => hNot ?_⟩
    rw [(read_of_holds hr hFrame c sessions).1]
    exact read_of_dropped hKey hDropped sessions

/-! ## Calls -/

theorem exists_dispatched_of_call {s : Server} {id : ConnectionId} {r : FrameReader}
    {call : HandlerCall} (hCall : (handle id ⟨s, r⟩).2.server.calls = call :: s.calls) :
    ∃ c message, s.connection? id = some c ∧
      read c s.game.sessions r = (.dispatched call.opcode call.session, message) ∧
      call.rest = message.unread := by
  have hNone : ∀ t : Server, t.calls = s.calls → ¬ t.calls = call :: s.calls :=
    fun t hSame hCall => List.cons_ne_self call s.calls (hCall.symm.trans hSame)
  cases hOpen : s.isOpen id with
  | false =>
    rw [handle, bind_of_error (Talking.ensureOpen_of_closed hOpen)] at hCall
    exact absurd hCall (hNone s rfl)
  | true =>
    obtain ⟨c, hConnection, hLive⟩ := exists_of_isOpen hOpen
    refine ⟨c, ?_⟩
    rcases hRead : read c s.game.sessions r with ⟨_ | _ | ⟨opcode, session⟩, message⟩
    · rw [handle_of_ignored hConnection hLive hRead] at hCall
      exact absurd hCall (hNone s rfl)
    · rw [handle_of_disconnect hConnection hLive hRead] at hCall
      exact absurd hCall (hNone _ (Server.tolerant_still.close s id).calls)
    · obtain ⟨last, -, hHandle⟩ := handle_of_dispatched hConnection hLive hRead
      rw [hHandle] at hCall
      change (s.dispatched id opcode session message).calls = _ at hCall
      rw [Server.dispatched] at hCall
      split at hCall
      case h_1 => exact absurd hCall (hNone s rfl)
      case h_2 handler _ =>
        rw [(Server.tolerant_still.performAll _ id _).calls] at hCall
        obtain ⟨rfl, -⟩ := List.cons.inj hCall
        exact ⟨message, hConnection, rfl, rfl⟩

/-- What is looked up for a frame is its payload, unless that is empty. Then it is opcode zero,
with nothing to read behind it, as long as the session is active. -/
theorem dispatched_payload {s : Server} {id : ConnectionId} {c : Connection}
    (hConnection : s.connection? id = some c) {r : FrameReader} (hFrame : Reader.IsFrame frame)
    (hr : r.Holds frame) :
    (∀ opcode session message,
      read c s.game.sessions r = (.dispatched opcode session, message) →
        ∃ key, c.key? = some key ∧
          (innerPayload key frame = opcode :: message.unread ↔ innerLength key frame ≠ 0)) ∧
    (∀ call, (handle id ⟨s, r⟩).2.server.calls = call :: s.calls →
      ∃ key, c.key? = some key ∧
        (innerPayload key frame = call.opcode :: call.rest ↔ innerLength key frame ≠ 0)) ∧
    ∀ key, c.key? = some key → innerLength key frame = 0 → ∀ opcode session,
      (∃ message, read c s.game.sessions r = (.dispatched opcode session, message) ∧
        message.unread = []) ↔
      ¬ Dropped key c.mode frame ∧ opcode = 0 ∧ c.session? = some session ∧
        s.game.sessions.isInactive session = false := by
  have hHeader : headerLength ≤ frame.length := hFrame.length_le.1.le
  have hSays : ∀ opcode session message,
      read c s.game.sessions r = (.dispatched opcode session, message) →
        ∃ key, c.key? = some key ∧
          (innerPayload key frame = opcode :: message.unread ↔ innerLength key frame ≠ 0) := by
    intro opcode session message hRead
    obtain ⟨key, hKey, hKept⟩ := kept_of_dispatched hr hHeader (congrArg Prod.fst hRead)
    obtain ⟨hVerdict, hRest⟩ := read_of_kept hr hHeader hKey hKept s.game.sessions
    rw [hRead] at hVerdict hRest
    obtain ⟨-, hLength⟩ := unread_decrypt_checked (decrypt_of_kept hKept)
    refine ⟨key, hKey, ?_⟩
    rw [(decide_eq_dispatched hVerdict.symm).2.1, hRest, ← hLength]
    cases innerPayload key frame with
    | nil => simp
    | cons b bs => simp
  refine ⟨hSays, fun call hCall => ?_, fun key hKey hEmpty opcode session => ?_⟩
  · obtain ⟨c', message, hConnection', hRead, hRest⟩ := exists_dispatched_of_call hCall
    cases hConnection.symm.trans hConnection'
    rw [hRest]
    exact hSays _ _ _ hRead
  · have hNone : innerPayload key frame = [] := by
      rw [innerPayload, hEmpty, List.take_zero]
    constructor
    · rintro ⟨message, hRead, -⟩
      obtain ⟨other, hOther, hKept⟩ := kept_of_dispatched hr hHeader (congrArg Prod.fst hRead)
      cases hKey.symm.trans hOther
      have hVerdict := (read_of_kept hr hHeader hKey hKept s.game.sessions).1
      rw [hRead, hNone] at hVerdict
      exact ⟨hKept, decide_zero_eq_dispatched_iff.mp hVerdict.symm⟩
    · rintro ⟨hKept, hOpen⟩
      obtain ⟨hVerdict, hRest⟩ := read_of_kept hr hHeader hKey hKept s.game.sessions
      rw [hNone] at hVerdict hRest
      exact ⟨_, Prod.ext (hVerdict.trans (decide_zero_eq_dispatched_iff.mpr hOpen)) rfl, hRest⟩

end Steady

namespace Wire.FrameReader

theorem holds_ofFrame {frame : Octets} (hFits : frame.length ≤ capacity) :
    (ofFrame frame).Holds frame := by
  obtain ⟨rest, hStore, hLength⟩ := carries_ofFrame hFits
  refine ⟨?_, length_store_ofFrame frame⟩
  rw [trim, hLength, hStore, List.take_left]
  rfl

end Wire.FrameReader

namespace Reader

open Steady (innerPayload innerLength)

theorem spoken_payload_dispatched :
    ∃ call, (Steady.handle 1 ⟨listening, .ofFrame spoken⟩).2.server.calls = [call] ∧
      call.opcode = 100 ∧ innerPayload spokenKey spoken = call.opcode :: call.rest := by
  have hFrame : IsFrame spoken := ⟨⟨by decide +kernel, by decide +kernel⟩, by decide +kernel⟩
  obtain ⟨c, hConnection, hKey⟩ : ∃ c, listening.connection? 1 = some c ∧
      c.key? = some spokenKey := ⟨_, rfl, rfl⟩
  obtain ⟨-, hCalls, -⟩ := Steady.dispatched_payload hConnection hFrame
    (FrameReader.holds_ofFrame hFrame.length_le.2)
  have hCall : (Steady.handle 1 ⟨listening, .ofFrame spoken⟩).2.server.calls =
      [{ connection := 1, opcode := 100, session := Rivals.handle
         rest := Field.encode (.text "hi") }] := by decide +kernel
  obtain ⟨key, hSame, hPayload⟩ := hCalls _ hCall
  cases hKey.symm.trans hSame
  exact ⟨_, hCall, rfl, hPayload.mpr (by decide +kernel)⟩

def listeningForZero : Server :=
  { listening with handlers := (listening.handlers.register 0 Handler.pingBack).2 }

/-- The frame is well-formed, but has no opcode in it. -/
theorem empty_payload_dispatched :
    let frame := sealedFrame spokenKey .adler 1 []
    IsFrame frame ∧ innerLength spokenKey frame = 0 ∧ innerPayload spokenKey frame = [] ∧
      listeningForZero.calls = [] ∧
      ∃ call, (Steady.handle 1 ⟨listeningForZero, .ofFrame frame⟩).2.server.calls = [call] ∧
        call.opcode = 0 ∧ call.rest = [] ∧
        innerPayload spokenKey frame ≠ call.opcode :: call.rest := by
  intro frame
  have hFrame : IsFrame frame := ⟨⟨by decide +kernel, by decide +kernel⟩, by decide +kernel⟩
  have hLength : innerLength spokenKey frame = 0 := by decide +kernel
  have hNone : innerPayload spokenKey frame = [] := by
    rw [innerPayload, hLength, List.take_zero]
  refine ⟨hFrame, hLength, hNone, rfl,
    { connection := 1, opcode := 0, session := Rivals.handle, rest := [] }, by decide +kernel, rfl,
    rfl, ?_⟩
  rw [hNone]
  exact nofun

end Reader

end Gatehouse
