import Gatehouse.Proofs.Attachment
import Gatehouse.Proofs.Hearing
import Gatehouse.Proofs.TaskSteps
import Gatehouse.Proofs.Turns

/-!
# Who gets the calls

A frame is decrypted for its opcode, which is decided on by the session. When that is done in one
go, the connection is open and holds a session when a handler is called, and if that is dead or
gone, the client may only log out or answer a ping. A session that goes does not come back: its
serial number is never given again, whatever becomes of ids.
-/

namespace Gatehouse

/-! ## Frames -/

namespace Steady

open Wire

/-- The opcode of a frame, unless that is malformed. -/
def opcode? (c : Connection) : Read (Option UInt8) := do
  let sum ← Read.u32
  if sum = 0 ∧ c.mode.requiresNonzero then return none
  match c.key? with
  | none => return none
  | some key =>
    if ← modifyGet (FrameReader.decrypt key) then return some (← Read.u8)
    else return none

/-- What an attached session may do, once it is known whether it is active. -/
def judge (inactive : Bool) (session : SessionHandle) (opcode : UInt8) : Verdict :=
  if inactive then
    if opcode = ClientOpcode.disconnect then .disconnect
    else if inactiveOpcodes.contains opcode then .dispatched opcode session
    else .ignored
  else .dispatched opcode session

variable {sessions : SessionRegistry} {session? : Option SessionHandle}
  {session held : SessionHandle} {opcode other : UInt8} {inactive : Bool}

theorem read_eq (c : Connection) (sessions : SessionRegistry) (frame : FrameReader) :
    read c sessions frame =
      ((opcode? c frame).1.elim .ignored (decide sessions c.session?), (opcode? c frame).2) := by
  rw [read, opcode?, Read.bind_eq, Read.bind_eq]
  split
  case isTrue => rfl
  case isFalse =>
    cases c.key? with
    | none => rfl
    | some key =>
      dsimp only
      rw [Read.bind_eq, Read.bind_eq]
      split <;> rfl

theorem decide_some (sessions : SessionRegistry) (session : SessionHandle) (opcode : UInt8) :
    decide sessions (some session) opcode = judge (sessions.isInactive session) session opcode :=
  rfl

theorem mem_inactiveOpcodes :
    opcode ∈ inactiveOpcodes ↔
      opcode = ClientOpcode.logout ∨ opcode = ClientOpcode.pingBack := by
  simp [inactiveOpcodes]

theorem judge_eq_dispatched (hVerdict : judge inactive held other = .dispatched opcode session) :
    held = session ∧ opcode = other ∧ (inactive = true → opcode ∈ inactiveOpcodes) := by
  rw [judge] at hVerdict
  split at hVerdict
  case isTrue hInactive =>
    split at hVerdict
    case isTrue => cases hVerdict
    case isFalse =>
      split at hVerdict
      case isTrue hMay =>
        cases hVerdict
        exact ⟨rfl, rfl, fun _ => List.contains_iff_mem.mp hMay⟩
      case isFalse => cases hVerdict
  case isFalse hActive =>
    cases hVerdict
    exact ⟨rfl, rfl, fun hInactive => absurd hInactive hActive⟩

theorem decide_none_ne_dispatched :
    decide sessions none other ≠ .dispatched opcode session := by
  intro hVerdict
  rw [decide] at hVerdict
  split at hVerdict <;> cases hVerdict

theorem decide_eq_dispatched
    (hVerdict : decide sessions session? other = .dispatched opcode session) :
    session? = some session ∧ opcode = other ∧
      (sessions.isInactive session = true → opcode ∈ inactiveOpcodes) := by
  cases session? with
  | none => exact absurd hVerdict decide_none_ne_dispatched
  | some held =>
    obtain ⟨rfl, hOpcode, hMay⟩ := judge_eq_dispatched (decide_some .. ▸ hVerdict)
    exact ⟨rfl, hOpcode, hMay⟩

end Steady

namespace Server

/-- No session comes, goes or changes, and no handler is called. -/
structure Still (s t : Server) : Prop where
  sessions : t.game.sessions = s.game.sessions
  calls : t.calls = s.calls

theorem tolerant_still : Tolerant Still where
  refl _ := ⟨rfl, rfl⟩
  trans hFirst hSecond :=
    ⟨hSecond.sessions.trans hFirst.sessions, hSecond.calls.trans hFirst.calls⟩
  withConnections _ _ _ := ⟨rfl, rfl⟩
  withTasks _ _ := ⟨rfl, rfl⟩
  withReplies _ _ := ⟨rfl, rfl⟩
  add _ _ := ⟨rfl, rfl⟩
  remove _ _ := ⟨rfl, rfl⟩

/-- What has to hold when a handler gets a call. -/
structure Gated (s : Server) (call : HandlerCall) : Prop where
  isOpen : s.isOpen call.connection = true
  held : s.held? call.connection = some call.session
  handler : (s.handlers.handler? call.opcode).isSome = true
  inactive : s.game.sessions.isInactive call.session = true →
    call.opcode = Wire.ClientOpcode.logout ∨ call.opcode = Wire.ClientOpcode.pingBack

/-- The sessions are left alone, and one handler is called at most. -/
structure Heeds (s t : Server) : Prop where
  sessions : t.game.sessions = s.game.sessions
  calls : t.calls = s.calls ∨ ∃ call, s.Gated call ∧ t.calls = call :: s.calls

variable {s t u : Server}

theorem Heeds.still (h : Heeds s t) (hStill : Still t u) : Heeds s u := by
  refine ⟨hStill.sessions.trans h.sessions, ?_⟩
  rw [hStill.calls]
  exact h.calls

theorem held?_of_open {id : ConnectionId} {c : Connection}
    (hConnection : s.connection? id = some c) (hOpen : c.isOpen = true) :
    s.held? id = c.session? := by
  rw [Connection.isOpen, Bool.not_eq_true'] at hOpen
  rw [held?, seat?, hConnection, Option.map_some, Connection.seat, hOpen]
  rfl

end Server

/-! ## Serial numbers -/

namespace SessionRegistry

def handles (r : SessionRegistry) : List SessionHandle :=
  r.sessions.map Session.handle

theorem handles_eq (r : SessionRegistry) :
    r.handles = r.identities.map fun entry =>
      { id := entry.1, characterId := entry.2.2.id, serial := entry.2.1 } := by
  rw [handles, identities, List.map_map]
  rfl

/-- The sessions that there are have been counted, each under a number of its own. -/
structure Counted (r : SessionRegistry) : Prop where
  below : ∀ h ∈ r.handles, h.serial < r.created
  once : (r.handles.map (·.serial)).Nodup

/-- A session has been counted and is no more. -/
structure Gone (r : SessionRegistry) (h : SessionHandle) : Prop where
  counted : h.serial < r.created
  absent : ∀ k ∈ r.handles, k.serial ≠ h.serial

theorem Gone.isRemoved {r : SessionRegistry} {h k : SessionHandle} (hGone : r.Gone h)
    (hSerial : k.serial = h.serial) : r.isRemoved k = true := by
  rw [SessionRegistry.isRemoved, Bool.not_eq_true', List.any_eq_false]
  intro session hSession hSame
  rw [beq_iff_eq] at hSame
  exact hGone.absent session.handle (List.mem_map_of_mem hSession) (hSame.trans hSerial)

theorem isInactive_of_isRemoved {r : SessionRegistry} {h : SessionHandle}
    (hRemoved : r.isRemoved h = true) : r.isInactive h = true := by
  rw [SessionRegistry.isRemoved, Bool.not_eq_true', List.any_eq_false] at hRemoved
  rw [SessionRegistry.isInactive, Bool.not_eq_true', List.any_eq_false]
  intro session hSession hBoth
  exact hRemoved session hSession (Bool.and_elim_left hBoth)

end SessionRegistry

namespace Game.Renewal

variable {config : Config} {state : WorldState} {g g' : Game} {task : GameTask}
  {h : SessionHandle}

theorem mem_handles (hRenewal : g.Renewal config state task g')
    (hHandle : h ∈ g'.sessions.handles) :
    h ∈ g.sessions.handles ∨
      h.serial = g.sessions.created ∧ g'.sessions.created = g.sessions.created + 1 := by
  rw [SessionRegistry.handles_eq] at hHandle ⊢
  cases hRenewal with
  | fewer hLess => exact Or.inl ((hLess.map _).subset hHandle)
  | more _ _ c _ _ _ hSessions hCreated =>
    rw [hSessions, List.map_append, List.mem_append] at hHandle
    rcases hHandle with hBefore | hNew
    · exact Or.inl ((List.filter_sublist.map _).subset hBefore)
    · cases List.mem_singleton.mp hNew
      exact Or.inr ⟨rfl, hCreated⟩

theorem created_le (hRenewal : g.Renewal config state task g') :
    g.sessions.created ≤ g'.sessions.created := by
  cases hRenewal with
  | fewer _ hCreated => exact hCreated
  | more _ _ _ _ _ _ _ hCreated => omega

theorem counted (hRenewal : g.Renewal config state task g') (hCounted : g.sessions.Counted) :
    g'.sessions.Counted := by
  constructor
  case below =>
    intro h hHandle
    rcases hRenewal.mem_handles hHandle with hBefore | ⟨hLast, hCreated⟩
    · exact (hCounted.below h hBefore).trans_le hRenewal.created_le
    · omega
  case once =>
    have hOnce := hCounted.once
    have hBelow := hCounted.below
    rw [SessionRegistry.handles_eq] at hOnce hBelow ⊢
    cases hRenewal with
    | fewer hLess => exact hOnce.sublist ((hLess.map _).map _)
    | more _ _ c _ _ _ hSessions =>
      rw [hSessions, List.map_append, List.map_append]
      have hLess := (List.filter_sublist (l := g.sessions.identities)
        (p := (·.1 != g.sessions.freshId))).map fun entry =>
          ({ id := entry.1, characterId := entry.2.2.id, serial := entry.2.1 } : SessionHandle)
      refine List.nodup_append_comm.mp (List.nodup_cons.mpr ⟨?_, hOnce.sublist (hLess.map _)⟩)
      intro hHere
      obtain ⟨h, hHandle, hSerial⟩ := List.mem_map.mp hHere
      exact (hBelow h (hLess.subset hHandle)).ne hSerial

theorem gone (hRenewal : g.Renewal config state task g') (hGone : g.sessions.Gone h) :
    g'.sessions.Gone h := by
  refine ⟨hGone.counted.trans_le hRenewal.created_le, fun k hHandle hSame => ?_⟩
  rcases hRenewal.mem_handles hHandle with hBefore | ⟨hLast, -⟩
  · exact hGone.absent k hBefore hSame
  · exact hGone.counted.ne (hSame.symm.trans hLast)

end Game.Renewal

end Gatehouse
