import Gatehouse.Proofs.Books
import Gatehouse.Proofs.DeclaredBytes
import Gatehouse.Proofs.FrameSizes
import Gatehouse.Proofs.ReaderSteps

/-!
# What a frame does

In the steady state a frame has an effect on the server, and the reader goes on or ends. Both are
functions of the bytes of the frame: a reader that has the frame in a store with leftovers of others
does the same.
-/

namespace Gatehouse

open Wire

/-- The reads of a handler stay in the message, whatever it makes of what they bring. -/
def Handler.ReadsMessage (handler : Handler) : Prop :=
  ∀ session, ∃ read : Read (List Effect), Read.Offered read ∧
    ∀ r, handler session r = ((read r).2, (read r).1)

def HandlerTable.ReadMessages (table : HandlerTable) : Prop :=
  ∀ opcode handler, table.handler? opcode = some handler → handler.ReadsMessage

namespace Steady

theorem bounded_u8 : Read.u8.Bounded :=
  (Read.bounded_number 1).bind fun n => Read.bounded_pure (UInt8.ofNat n)

theorem bounded_u32 : Read.u32.Bounded :=
  (Read.bounded_number 4).bind fun n => Read.bounded_pure (UInt32.ofNat n)

theorem bounded_read (c : Connection) (sessions : SessionRegistry) :
    (read c sessions).Bounded := by
  refine bounded_u32.bind fun sum => ?_
  split
  · exact Read.bounded_pure _
  · split
    · exact Read.bounded_pure _
    case h_2 key _ =>
      refine (Read.bounded_decrypt key).bind fun succeeded => ?_
      split
      · exact bounded_u8.bind fun opcode => Read.bounded_pure _
      · exact Read.bounded_pure _

variable {s : Server} {id : ConnectionId} {c : Connection} {frame next : FrameReader}

theorem isOpen_of_connection? (hConnection : s.connection? id = some c) :
    s.isOpen id = c.isOpen := by
  rw [Server.isOpen, hConnection]

theorem handle_of_ignored (hConnection : s.connection? id = some c) (hOpen : c.isOpen = true)
    (hRead : read c s.game.sessions frame = (.ignored, next)) :
    handle id ⟨s, frame⟩ = (.ok (), ⟨s, next⟩) := by
  have hServer : s.isOpen id = true := (isOpen_of_connection? hConnection).trans hOpen
  have hRun : (read c s.game.sessions).run frame = (.ignored, next) := hRead
  rw [handle, bind_of_ok (Talking.ensureOpen_of_open hServer), bind_of_ok (get_eq _)]
  dsimp only
  rw [hConnection]
  dsimp only
  rw [hRun]
  rfl

theorem handle_of_disconnect (hConnection : s.connection? id = some c) (hOpen : c.isOpen = true)
    (hRead : read c s.game.sessions frame = (.disconnect, next)) :
    handle id ⟨s, frame⟩ = (.error .closed, ⟨s.close id, next⟩) := by
  have hServer : s.isOpen id = true := (isOpen_of_connection? hConnection).trans hOpen
  have hRun : (read c s.game.sessions).run frame = (.disconnect, next) := hRead
  rw [handle, bind_of_ok (Talking.ensureOpen_of_open hServer), bind_of_ok (get_eq _)]
  dsimp only
  rw [hConnection]
  dsimp only
  rw [hRun]
  rfl

end Steady

namespace Server

/-- A message is given to the handler of its opcode, if there is one. -/
def dispatched (id : ConnectionId) (opcode : UInt8) (session : SessionHandle)
    (message : FrameReader) (s : Server) : Server :=
  match s.handlers.handler? opcode with
  | none => s
  | some handler =>
    let call : HandlerCall := { connection := id, opcode, session, rest := message.unread }
    { s with calls := call :: s.calls }.performAll id (handler session message).2

end Server

namespace Steady

variable {s : Server} {id : ConnectionId} {c : Connection} {frame next : FrameReader}

theorem handle_of_dispatched (hConnection : s.connection? id = some c) (hOpen : c.isOpen = true)
    {opcode : UInt8} {session : SessionHandle}
    (hRead : read c s.game.sessions frame = (.dispatched opcode session, next)) :
    ∃ last : FrameReader,
      (last = next ∨ ∃ handler, s.handlers.handler? opcode = some handler ∧
        last = (handler session next).1) ∧
      handle id ⟨s, frame⟩ =
        (if (s.dispatched id opcode session next).isOpen id then .ok () else .error .closed,
          ⟨s.dispatched id opcode session next, last⟩) := by
  have hServer : s.isOpen id = true := (isOpen_of_connection? hConnection).trans hOpen
  have hRun : (read c s.game.sessions).run frame = (.dispatched opcode session, next) := hRead
  have hHandle : handle id ⟨s, frame⟩ =
      (do dispatch id opcode session; Talking.ensureOpen id) ⟨s, next⟩ := by
    rw [handle, bind_of_ok (Talking.ensureOpen_of_open hServer), bind_of_ok (get_eq _)]
    dsimp only
    rw [hConnection]
    dsimp only
    rw [hRun]
    rfl
  obtain ⟨last, hLast, hDispatch⟩ : ∃ last : FrameReader,
      (last = next ∨ ∃ handler, s.handlers.handler? opcode = some handler ∧
        last = (handler session next).1) ∧
      dispatch id opcode session ⟨s, next⟩ =
        (.ok (), ⟨s.dispatched id opcode session next, last⟩) := by
    rw [dispatch, bind_of_ok (get_eq _), Server.dispatched]
    dsimp only
    cases hHandler : s.handlers.handler? opcode with
    | none => exact ⟨next, Or.inl rfl, rfl⟩
    | some handler => exact ⟨_, Or.inr ⟨handler, rfl, rfl⟩, rfl⟩
  refine ⟨last, hLast, ?_⟩
  rw [hHandle, bind_of_ok hDispatch]
  cases hStill : (s.dispatched id opcode session next).isOpen id with
  | true => exact Talking.ensureOpen_of_open hStill
  | false => exact Talking.ensureOpen_of_closed hStill

end Steady

/-! ## A frame as such -/

namespace Wire.FrameReader

/-- A store that holds nothing but a frame. -/
def bearing (frame : Octets) : FrameReader :=
  { store := frame, position := headerLength, length := frame.length }

/-- A store of full size that holds a frame before the leftovers of others. -/
structure Holds (r : FrameReader) (frame : Octets) : Prop where
  trim : r.trim = bearing frame
  capacity : r.store.length = capacity

theorem placed_bearing {frame : Octets} (hFrame : headerLength ≤ frame.length) :
    (bearing frame).Placed :=
  ⟨hFrame, Nat.le_refl _⟩

theorem trim_bearing (frame : Octets) : (bearing frame).trim = bearing frame :=
  congrArg (FrameReader.mk · headerLength frame.length) List.take_length

end Wire.FrameReader

namespace Server

/-- What a frame does, and whether the reader goes on after it. -/
def heard (id : ConnectionId) (frame : Octets) (s : Server) : Bool × Server :=
  match (s.connection? id).filter Connection.isOpen with
  | none => (false, s.close id)
  | some c =>
    match Steady.read c s.game.sessions (.bearing frame) with
    | (.ignored, _) => (true, s)
    | (.disconnect, _) => (false, (s.close id).close id)
    | (.dispatched opcode session, message) =>
      let s := s.dispatched id opcode session message
      if s.isOpen id then (true, s) else (false, s.close id)

/-- What frames do one after the other, up to one at which the reader ends. -/
def heardAll (id : ConnectionId) : List Octets → Server → Bool × Server
  | [], s => (true, s)
  | frame :: frames, s =>
    match s.heard id frame with
    | (true, s) => heardAll id frames s
    | (false, s) => (false, s)

end Server

namespace Reader

/-- In the steady state, with nothing yet of the next frame. -/
structure Waits (r : Reader) : Prop where
  phase : ∃ deadline?, r.phase = fillHeader .steady deadline?
  position : r.frame.position = headerLength
  capacity : r.frame.store.length = FrameReader.capacity

/-- A reader goes on or ends. -/
def Goes (r : Reader) (on : Bool) : Prop :=
  if on then r.Waits else r.phase = .ended

end Reader

namespace Steady

variable {s : Server} {id : ConnectionId} {c : Connection} {r : FrameReader} {frame : Octets}

theorem dispatched_congr (hHandlers : s.handlers.ReadMessages) (opcode : UInt8)
    (session : SessionHandle) {r q : FrameReader} (hr : r.Placed) (hTrim : q.trim = r.trim) :
    s.dispatched id opcode session q = s.dispatched id opcode session r := by
  rw [Server.dispatched, Server.dispatched]
  cases hHandler : s.handlers.handler? opcode with
  | none => rfl
  | some handler =>
    obtain ⟨read, hRead, hRuns⟩ := hHandlers opcode handler hHandler session
    have hEffects : (handler session q).2 = (handler session r).2 := by
      rw [hRuns, hRuns]
      exact (hRead.bounded.congr hr hTrim).1
    have hUnread : q.unread = r.unread := (Read.bounded_unread.congr hr hTrim).1
    simp only [hEffects, hUnread]

theorem exists_of_isOpen (hOpen : s.isOpen id = true) :
    ∃ c, s.connection? id = some c ∧ c.isOpen = true := by
  rw [Server.isOpen] at hOpen
  split at hOpen
  case h_1 c hConnection => exact ⟨c, hConnection, hOpen⟩
  case h_2 => cases hOpen

theorem heard_of_open (hConnection : s.connection? id = some c) (hOpen : c.isOpen = true)
    (frame : Octets) :
    s.heard id frame =
      match read c s.game.sessions (.bearing frame) with
      | (.ignored, _) => (true, s)
      | (.disconnect, _) => (false, (s.close id).close id)
      | (.dispatched opcode session, message) =>
        let s := s.dispatched id opcode session message
        if s.isOpen id then (true, s) else (false, s.close id) := by
  rw [Server.heard, hConnection, Option.filter_some, if_pos hOpen]

theorem heard_of_closed (hClosed : s.isOpen id = false) (frame : Octets) :
    s.heard id frame = (false, s.close id) := by
  have hNone : (s.connection? id).filter Connection.isOpen = none := by
    rw [Server.isOpen] at hClosed
    split at hClosed
    case h_1 c hConnection =>
      rw [hConnection, Option.filter_some, if_neg (by simp [hClosed])]
    case h_2 hConnection => rw [hConnection, Option.filter_none]
  rw [Server.heard, hNone]

/-- How handling a frame goes, as far as the reader sees it. -/
structure Hears (s : Server) (id : ConnectionId) (frame : Octets)
    (result : Except Halt Unit × Talk) : Prop where
  capacity : result.2.frame.store.length = FrameReader.capacity
  on : (s.heard id frame).1 = true →
    result.1 = .ok () ∧ result.2.server = (s.heard id frame).2
  off : (s.heard id frame).1 = false →
    result.1 = .error .closed ∧ result.2.server.close id = (s.heard id frame).2

theorem Hears.goes_on {t : Server} {last : FrameReader}
    (hHeard : s.heard id frame = (true, t)) (hLast : last.store.length = FrameReader.capacity) :
    Hears s id frame (.ok (), ⟨t, last⟩) := by
  refine ⟨hLast, fun _ => ⟨rfl, by rw [hHeard]⟩, fun hOff => ?_⟩
  rw [hHeard] at hOff
  cases hOff

theorem Hears.ends {t : Server} {last : FrameReader}
    (hHeard : s.heard id frame = (false, t.close id))
    (hLast : last.store.length = FrameReader.capacity) :
    Hears s id frame (.error .closed, ⟨t, last⟩) := by
  refine ⟨hLast, fun hOn => ?_, fun _ => ⟨rfl, by rw [hHeard]⟩⟩
  rw [hHeard] at hOn
  cases hOn

/-- The steady state handles a frame as if there was nothing else in the store. -/
theorem hears (hHandlers : s.handlers.ReadMessages) (hOpen : s.isOpen id = true)
    (hr : r.Holds frame) (hFrame : headerLength ≤ frame.length) :
    Hears s id frame (handle id ⟨s, r⟩) := by
  obtain ⟨c, hConnection, hOpen⟩ := exists_of_isOpen hOpen
  have hTrim : (FrameReader.bearing frame).trim = r.trim :=
    (FrameReader.trim_bearing frame).trans hr.trim.symm
  have hPlaced := (FrameReader.placed_bearing hFrame).of_trim_eq hTrim.symm
  have hBounded := bounded_read c s.game.sessions
  obtain ⟨hVerdict, hMessage⟩ := hBounded.congr hPlaced hTrim
  have hNext := hBounded.placed r hPlaced
  have hCapacity := (hBounded.capacity r hPlaced).trans hr.capacity
  have hHeard := heard_of_open hConnection hOpen frame
  generalize hRead : read c s.game.sessions r = result at *
  obtain ⟨verdict, next⟩ := result
  generalize read c s.game.sessions (.bearing frame) = result at *
  obtain ⟨verdict', message⟩ := result
  subst hVerdict
  cases verdict' with
  | ignored =>
    rw [handle_of_ignored hConnection hOpen hRead]
    exact .goes_on hHeard hCapacity
  | disconnect =>
    rw [handle_of_disconnect hConnection hOpen hRead]
    exact .ends hHeard hCapacity
  | dispatched opcode session =>
    obtain ⟨last, hLast, hHandle⟩ := handle_of_dispatched hConnection hOpen hRead
    have hSame : s.dispatched id opcode session message = s.dispatched id opcode session next :=
      dispatched_congr hHandlers opcode session hNext hMessage
    have hEnd : last.store.length = FrameReader.capacity := by
      rcases hLast with rfl | ⟨handler, hHandler, rfl⟩
      · exact hCapacity
      · obtain ⟨body, hBody, hRuns⟩ := hHandlers opcode handler hHandler session
        rw [hRuns]
        exact (hBody.bounded.capacity _ hNext).trans hCapacity
    rw [hHandle]
    simp only [hSame] at hHeard
    cases hStill : (s.dispatched id opcode session next).isOpen id with
    | true =>
      rw [if_pos hStill] at hHeard
      exact .goes_on hHeard hEnd
    | false =>
      rw [if_neg (by simp [hStill])] at hHeard
      exact .ends hHeard hEnd

end Steady

/-! ## What frames leave alone -/

namespace Connection

def protection (c : Connection) : Option Xtea.Key × ChecksumMode :=
  (c.key?, c.mode)

theorem unmoved_protection : Unmoved fun c => (c.id, c.protection) where
  sealFrame c b := by
    rw [sealFrame]
    split <;> rfl
  push c frame := by
    rw [push]
    split <;> rfl
  current? _ _ := rfl

end Connection

namespace Server

open Connection (protection unmoved_protection)

/-- Every connection is protected as before, and messages have the same handlers. -/
structure Guarded (s t : Server) : Prop where
  handlers : t.handlers = s.handlers
  protection : ∀ id, (t.connection? id).map protection = (s.connection? id).map protection

variable {s t u : Server}

theorem Guarded.refl (s : Server) : Guarded s s := ⟨rfl, fun _ => rfl⟩

theorem Guarded.trans (hFirst : Guarded s t) (hSecond : Guarded t u) : Guarded s u :=
  ⟨hSecond.handlers.trans hFirst.handlers,
    fun id => (hSecond.protection id).trans (hFirst.protection id)⟩

theorem guarded_onOutlet {α : Type} {f : Outlet → α × Outlet}
    (hSame : ∀ o, ((f o).2.connection.id, (f o).2.connection.protection) =
      (o.connection.id, o.connection.protection))
    (s : Server) (id : ConnectionId) (absent : α) : Guarded s (s.onOutlet id absent f).2 := by
  simp only [Prod.mk.injEq] at hSame
  refine ⟨?_, fun other => ?_⟩
  · obtain ⟨_, _, hOutlet⟩ := s.exists_onOutlet id absent f
    rw [hOutlet]
  · rw [view?_onOutlet (g := fun p => p) protection (fun o => (hSame o).1) fun o => (hSame o).2]
    simp only [ite_self, Option.map_id']

theorem guarded_modify (f : Connection → Connection)
    (hSame : ∀ c, ((f c).id, (f c).protection) = (c.id, c.protection)) (s : Server)
    (id : ConnectionId) : Guarded s (s.modify id f) := by
  simp only [Prod.mk.injEq] at hSame
  refine ⟨rfl, fun other => ?_⟩
  rw [connection?_modify fun c hc => (hSame c).1.trans hc]
  split
  · rw [Option.map_map]
    exact congrArg (Option.map · _) (funext fun c => (hSame c).2)
  · rfl

theorem guarded_enqueue (s : Server) (id : ConnectionId) (message : Octets) :
    Guarded s (s.enqueue id message).2 :=
  guarded_onOutlet (fun o => o.view_enqueue unmoved_protection message) s id false

theorem view_shut (o : Outlet) :
    (o.shut.2.connection.id, o.shut.2.connection.protection) =
      (o.connection.id, o.connection.protection) := by
  rw [Outlet.shut]
  split
  · rfl
  · exact o.view_finalize unmoved_protection

theorem guarded_post (s : Server) (task : GameTask) : Guarded s (s.post task).2 :=
  ⟨rfl, fun _ => rfl⟩

theorem guarded_close (s : Server) (id : ConnectionId) : Guarded s (s.close id) := by
  have hShut : Guarded s (s.onOutlet id none Outlet.shut).2 := guarded_onOutlet view_shut s id none
  rw [close]
  generalize s.onOutlet id none Outlet.shut = result at hShut
  obtain ⟨farewell?, t⟩ := result
  have hNotified : Guarded s (t.modify id Connection.notify) :=
    hShut.trans (guarded_modify Connection.notify (fun _ => rfl) t id)
  have hMarked : Guarded s { t.modify id Connection.notify with roster := t.roster.remove id } :=
    ⟨hNotified.handlers, hNotified.protection⟩
  cases farewell? with
  | none => exact hShut
  | some farewell =>
    obtain ⟨session?⟩ := farewell
    cases session? with
    | none => exact hMarked
    | some session => exact hMarked.trans (guarded_post _ (.detach session.id id))

theorem guarded_perform (s : Server) (id : ConnectionId) (effect : Effect) :
    Guarded s (s.perform id effect) := by
  cases effect with
  | send message => exact s.guarded_enqueue id message
  | close => exact s.guarded_close id
  | closeWith text =>
    rw [perform, closeWith]
    split
    · exact (s.guarded_enqueue id _).trans (guarded_close _ id)
    · exact .refl s
  | abort =>
    exact (s.guarded_close id).trans
      (guarded_modify ({ · with shutdown := true }) (fun _ => rfl) _ id)
  | post task => exact s.guarded_post task

theorem guarded_performAll (s : Server) (id : ConnectionId) (effects : List Effect) :
    Guarded s (s.performAll id effects) := by
  induction effects generalizing s with
  | nil => exact .refl s
  | cons effect effects ih => exact (s.guarded_perform id effect).trans (ih _)

theorem guarded_dispatched (s : Server) (id : ConnectionId) (opcode : UInt8)
    (session : SessionHandle) (message : FrameReader) :
    Guarded s (s.dispatched id opcode session message) := by
  rw [dispatched]
  split
  case h_1 => exact .refl s
  case h_2 handler _ =>
    let call : HandlerCall := { connection := id, opcode, session, rest := message.unread }
    have hCalled : Guarded s { s with calls := call :: s.calls } := ⟨rfl, fun _ => rfl⟩
    exact hCalled.trans (guarded_performAll _ id _)

/-- What a frame does may close the connection, but does not change how it is protected. -/
theorem guarded_heard (s : Server) (id : ConnectionId) (frame : Octets) :
    Guarded s (s.heard id frame).2 := by
  rw [heard]
  split
  · exact s.guarded_close id
  · split
    · exact .refl s
    · exact (s.guarded_close id).trans (guarded_close _ id)
    · have hDispatched := s.guarded_dispatched id
      dsimp only
      split
      · exact hDispatched _ _ _
      · exact (hDispatched _ _ _).trans (guarded_close _ id)

end Server

end Gatehouse
