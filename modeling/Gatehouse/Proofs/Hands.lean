import Gatehouse.Proofs.DroppedFrames
import Gatehouse.Proofs.Gating

/-!
# Frames in hand

Readers run beside the game and beside each other. A reader looks at its connection, then asks the
session, then calls the handler, and holds no lock from one to the next: the connection may close in
between and the session may go. Each of these is a step by itself, and all steps are in one order. A
call rests on what was found at these moments. A frame comes too late for a session that has gone
unless the reader had asked before.
-/

namespace Gatehouse

open Wire

/-- How far a reader is with a frame. -/
inductive Hand where
  | free
  | looked (opcode : UInt8) (session? : Option SessionHandle) (message : FrameReader)
  | asked (removed : Bool) (opcode : UInt8) (session : SessionHandle) (message : FrameReader)
  | judged (opcode : UInt8) (session : SessionHandle) (message : FrameReader)
  | performing (effects : List Effect)

namespace Hand

def ofVerdict (message : FrameReader) : Steady.Verdict → Hand
  | .ignored => .free
  | .disconnect => .performing [.close]
  | .dispatched opcode session => .judged opcode session message

variable {message other : FrameReader} {opcode : UInt8} {session : SessionHandle}
  {verdict : Steady.Verdict}

theorem looked_ne_ofVerdict {session? : Option SessionHandle} :
    looked opcode session? message ≠ ofVerdict other verdict := by
  cases verdict <;> exact nofun

theorem asked_ne_ofVerdict {removed : Bool} :
    asked removed opcode session message ≠ ofVerdict other verdict := by
  cases verdict <;> exact nofun

theorem judged_eq_ofVerdict (hVerdict : judged opcode session message = ofVerdict other verdict) :
    other = message ∧ verdict = .dispatched opcode session := by
  cases verdict with
  | ignored | disconnect => cases hVerdict
  | dispatched =>
    cases hVerdict
    exact ⟨rfl, rfl⟩

end Hand

namespace Server

/-- What a reader does at a time. Closing takes the session away from a connection, so that what is
found there is the session of an open one. Of a session that goes while it is asked, the dead flag
may be seen either way. -/
inductive Move (s : Server) (id : ConnectionId) : Hand → Hand → Server → Prop where
  | look {c : Connection} {frame message : FrameReader} {opcode : UInt8}
      (hConnection : s.connection? id = some c)
      (hOpcode : Steady.opcode? c frame = (some opcode, message)) :
    Move s id .free (.looked opcode (s.held? id) message) s
  | pass (opcode : UInt8) (message : FrameReader) :
    Move s id (.looked opcode none message)
      (.ofVerdict message (Steady.decide s.game.sessions none opcode)) s
  | ask (opcode : UInt8) (session : SessionHandle) (message : FrameReader) :
    Move s id (.looked opcode (some session) message)
      (.asked (s.game.sessions.isRemoved session) opcode session message) s
  | judge (removed dead : Bool) (opcode : UInt8) (session : SessionHandle) (message : FrameReader)
      (hDead : s.game.sessions.isRemoved session = false →
        s.game.sessions.isInactive session = dead) :
    Move s id (.asked removed opcode session message)
      (.ofVerdict message (Steady.judge (removed || dead) session opcode)) s
  | call {opcode : UInt8} {handler : Handler} (session : SessionHandle) (message : FrameReader)
      (hHandler : s.handlers.handler? opcode = some handler) :
    Move s id (.judged opcode session message) (.performing (handler session message).2)
      { s with calls := { connection := id, opcode, session, rest := message.unread } :: s.calls }
  | unknown {opcode : UInt8} (session : SessionHandle) (message : FrameReader)
      (hHandler : s.handlers.handler? opcode = none) :
    Move s id (.judged opcode session message) .free s
  | perform (effect : Effect) (effects : List Effect) :
    Move s id (.performing (effect :: effects)) (.performing effects) (s.perform id effect)
  | done : Move s id (.performing []) .free s

/-- What happens beside the frames. Dead flags are set at any time; what neither that nor the game
does leaves the sessions alone. -/
inductive Incident (s : Server) : Server → Prop where
  | turn (seen : ConnectionId → Bool) (closing : List ConnectionId) (now wall : Nat)
      (task : GameTask) (ready : List GameTask) (hReady : s.tasks.ready = task :: ready) :
    Incident s (Server.turn seen closing now wall task { s with tasks := { s.tasks with ready } })
  | gameStopped : Incident s s.stopGame
  | marked (session : SessionId) (dead : Bool) :
    Incident s
      { s with game := { s.game with sessions := s.game.sessions.setDead session dead } }
  | aside (next : Server) (hStill : s.Still next) : Incident s next

variable {s t : Server} {id : ConnectionId} {hand next : Hand} {opcode : UInt8}
  {session : SessionHandle} {message : FrameReader}

namespace Move

theorem still_or_call (hMove : s.Move id hand next t) :
    s.Still t ∨ ∃ opcode session message, hand = .judged opcode session message ∧
      (s.handlers.handler? opcode).isSome = true ∧
      t = { s with
        calls := { connection := id, opcode, session, rest := message.unread } :: s.calls } := by
  cases hMove with
  | look | pass | ask | judge | unknown | done => exact Or.inl ⟨rfl, rfl⟩
  | call session message hHandler =>
    exact Or.inr ⟨_, session, message, rfl, by rw [hHandler]; rfl, rfl⟩
  | perform effect => exact Or.inl (tolerant_still.perform s id effect)

theorem sessions (hMove : s.Move id hand next t) : t.game.sessions = s.game.sessions := by
  rcases hMove.still_or_call with hStill | ⟨_, _, _, -, -, rfl⟩
  · exact hStill.sessions
  · rfl

theorem of_looked {session? : Option SessionHandle}
    (hMove : s.Move id hand (.looked opcode session? message) t) :
    hand = .free ∧ s.held? id = session? := by
  generalize hNext : Hand.looked opcode session? message = next at hMove
  cases hMove with
  | look =>
    cases hNext
    exact ⟨rfl, rfl⟩
  | pass | judge => exact absurd hNext Hand.looked_ne_ofVerdict
  | ask | call | unknown | perform | done => cases hNext

theorem of_asked {removed : Bool}
    (hMove : s.Move id hand (.asked removed opcode session message) t) :
    hand = .looked opcode (some session) message ∧
      s.game.sessions.isRemoved session = removed := by
  generalize hNext : Hand.asked removed opcode session message = next at hMove
  cases hMove with
  | ask =>
    cases hNext
    exact ⟨rfl, rfl⟩
  | pass | judge => exact absurd hNext Hand.asked_ne_ofVerdict
  | look | call | unknown | perform | done => cases hNext

theorem of_judged (hMove : s.Move id hand (.judged opcode session message) t) :
    ∃ removed, hand = .asked removed opcode session message ∧
      (removed = true → opcode ∈ Steady.inactiveOpcodes) ∧
      (s.game.sessions.isRemoved session = false → s.game.sessions.isInactive session = true →
        opcode ∈ Steady.inactiveOpcodes) := by
  generalize hNext : Hand.judged opcode session message = next at hMove
  cases hMove with
  | judge removed dead _ _ _ hDead =>
    obtain ⟨rfl, hVerdict⟩ := Hand.judged_eq_ofVerdict hNext
    obtain ⟨rfl, rfl, hMay⟩ := Steady.judge_eq_dispatched hVerdict
    refine ⟨removed, rfl, fun hRemoved => hMay (by rw [hRemoved, Bool.true_or]), ?_⟩
    intro hThere hInactive
    exact hMay (by rw [← hDead hThere, hInactive, Bool.or_true])
  | pass => exact absurd (Hand.judged_eq_ofVerdict hNext).2 Steady.decide_none_ne_dispatched
  | look | ask | call | unknown | perform | done => cases hNext

end Move

theorem tolerant_sameCalls : Tolerant fun s t => t.calls = s.calls :=
  tolerant_same Server.calls fun _ _ _ _ _ _ => rfl

namespace Incident

theorem calls (hIncident : s.Incident t) : t.calls = s.calls := by
  cases hIncident with
  | turn seen closing now wall task ready =>
    exact tolerant_sameCalls.turn (fun _ _ => rfl) seen closing now wall task
      { s with tasks := { s.tasks with ready } }
  | gameStopped => exact tolerant_sameCalls.stopGame (fun _ _ => rfl) s
  | marked => rfl
  | aside next hStill => exact hStill.calls

theorem renewal (hIncident : s.Incident t) :
    ∃ task, s.game.Renewal s.config s.state task t.game := by
  cases hIncident with
  | turn seen closing now wall task ready =>
    exact ⟨task, (turn_cases seen closing now wall task
      { s with tasks := { s.tasks with ready } }).renewal⟩
  | gameStopped =>
    have hCleared : s.stopGame.game.sessions = s.game.sessions.clear :=
      (tolerant_still.replyAll _ _ _).sessions
    refine ⟨.detach 0 0, .fewer ?_ ?_⟩
    · rw [hCleared]
      exact List.nil_sublist _
    · rw [hCleared]
      exact le_rfl
  | marked session dead =>
    exact ⟨.setDead session dead none, .of_eq (SessionRegistry.identities_setDead ..) rfl⟩
  | aside next hStill =>
    exact ⟨.detach 0 0, .of_eq (congrArg _ hStill.sessions) (congrArg _ hStill.sessions)⟩

end Incident

end Server

/-! ## Courses -/

/-- A server, and what its readers have in hand. -/
structure Scene where
  server : Server
  hand : ConnectionId → Hand

namespace Scene

def idle (s : Server) : Scene := ⟨s, fun _ => .free⟩

def put (x : Scene) (id : ConnectionId) (hand : Hand) (server : Server) : Scene :=
  { server, hand := Function.update x.hand id hand }

inductive Step (x : Scene) : Scene → Prop where
  | reader {id : ConnectionId} {hand : Hand} {server : Server}
      (hMove : x.server.Move id (x.hand id) hand server) : Step x (x.put id hand server)
  | beside {server : Server} (hIncident : x.server.Incident server) :
    Step x { x with server }

abbrev Course : Scene → Scene → Prop :=
  Relation.ReflTransGen Step

/-- What a reader has in hand is such all the way from one scene to another. -/
inductive Keeps (id : ConnectionId) (P : Hand → Prop) (x : Scene) : Scene → Prop where
  | start (hHand : P (x.hand id)) : Keeps id P x x
  | step {y z : Scene} (hKept : Keeps id P x y) (hStep : y.Step z) (hHand : P (z.hand id)) :
    Keeps id P x z

/-- When the reader looked, its connection was open and held this session. It has had this frame in
hand since. -/
inductive Looked (first : Scene) (id : ConnectionId) (opcode : UInt8) (session : SessionHandle)
    (message : FrameReader) (x : Scene) : Prop where
  | intro {seen next : Scene} (hCourse : Course first seen) (hFree : seen.hand id = .free)
      (hHeld : seen.server.held? id = some session) (hStep : seen.Step next)
      (hKept : Keeps id (· = .looked opcode (some session) message) next x)

/-- With that frame in hand, the reader asked whether the session is removed. -/
inductive Asked (first : Scene) (id : ConnectionId) (removed : Bool) (opcode : UInt8)
    (session : SessionHandle) (message : FrameReader) (x : Scene) : Prop where
  | intro {seen next : Scene} (hLooked : Looked first id opcode session message seen)
      (hRemoved : seen.server.game.sessions.isRemoved session = removed) (hStep : seen.Step next)
      (hKept : Keeps id (· = .asked removed opcode session message) next x)

/-- Then it asked whether the session is dead. Without an active session, the frame is in hand only
if the client logs out or answers a ping. -/
inductive Judged (first : Scene) (id : ConnectionId) (opcode : UInt8) (session : SessionHandle)
    (message : FrameReader) (x : Scene) : Prop where
  | intro {removed : Bool} {seen next : Scene}
      (hAsked : Asked first id removed opcode session message seen)
      (hRemoved : removed = true →
        opcode = ClientOpcode.logout ∨ opcode = ClientOpcode.pingBack)
      (hDead : seen.server.game.sessions.isRemoved session = false →
        seen.server.game.sessions.isInactive session = true →
        opcode = ClientOpcode.logout ∨ opcode = ClientOpcode.pingBack)
      (hStep : seen.Step next) (hKept : Keeps id (· = .judged opcode session message) next x)

variable {first x y z : Scene} {id : ConnectionId} {opcode : UInt8} {session h : SessionHandle}
  {message : FrameReader} {removed : Bool}

theorem hand_put_self (x : Scene) (id : ConnectionId) (hand : Hand) (server : Server) :
    (x.put id hand server).hand id = hand := by
  simp only [put, Function.update_self]

theorem hand_put_of_ne (x : Scene) {id other : ConnectionId} (hOther : other ≠ id) (hand : Hand)
    (server : Server) : (x.put id hand server).hand other = x.hand other := by
  simp only [put, Function.update_of_ne hOther]

theorem Step.calls (hStep : x.Step y) :
    y.server.calls = x.server.calls ∨ ∃ call message,
      x.hand call.connection = .judged call.opcode call.session message ∧
        call.rest = message.unread ∧ (x.server.handlers.handler? call.opcode).isSome = true ∧
        y.server.calls = call :: x.server.calls := by
  cases hStep with
  | reader hMove =>
    rcases hMove.still_or_call with hStill | ⟨opcode, session, message, hHand, hHandler, rfl⟩
    · exact Or.inl hStill.calls
    · exact Or.inr ⟨_, message, hHand, rfl, hHandler, rfl⟩
  | beside hIncident => exact Or.inl hIncident.calls

theorem Step.renewal (hStep : x.Step y) :
    ∃ task, x.server.game.Renewal x.server.config x.server.state task y.server.game := by
  cases hStep with
  | reader hMove =>
    exact ⟨.detach 0 0, .of_eq (congrArg _ hMove.sessions) (congrArg _ hMove.sessions)⟩
  | beside hIncident => exact hIncident.renewal

theorem Step.hand_cases (hStep : x.Step y) (id : ConnectionId) :
    y.hand id = x.hand id ∨ x.server.Move id (x.hand id) (y.hand id) y.server := by
  cases hStep with
  | @reader other hand server hMove =>
    by_cases hSame : id = other
    · subst hSame
      rw [hand_put_self]
      exact Or.inr hMove
    · exact Or.inl (x.hand_put_of_ne hSame hand server)
  | beside => exact Or.inl rfl

theorem Looked.step (hx : Looked first id opcode session message x) (hStep : x.Step y)
    (hHand : y.hand id = .looked opcode (some session) message) :
    Looked first id opcode session message y := by
  obtain ⟨hCourse, hFree, hHeld, hLook, hKept⟩ := hx
  exact ⟨hCourse, hFree, hHeld, hLook, hKept.step hStep hHand⟩

theorem Asked.step (hx : Asked first id removed opcode session message x) (hStep : x.Step y)
    (hHand : y.hand id = .asked removed opcode session message) :
    Asked first id removed opcode session message y := by
  obtain ⟨hLooked, hRemoved, hAsk, hKept⟩ := hx
  exact ⟨hLooked, hRemoved, hAsk, hKept.step hStep hHand⟩

theorem Judged.step (hx : Judged first id opcode session message x) (hStep : x.Step y)
    (hHand : y.hand id = .judged opcode session message) :
    Judged first id opcode session message y := by
  obtain ⟨hAsked, hRemoved, hDead, hJudge, hKept⟩ := hx
  exact ⟨hAsked, hRemoved, hDead, hJudge, hKept.step hStep hHand⟩

/-- Every frame in hand got there in this way. -/
structure Traced (first x : Scene) : Prop where
  looked : ∀ {id opcode session message}, x.hand id = .looked opcode (some session) message →
    Looked first id opcode session message x
  asked : ∀ {id removed opcode session message},
    x.hand id = .asked removed opcode session message →
    Asked first id removed opcode session message x
  judged : ∀ {id opcode session message}, x.hand id = .judged opcode session message →
    Judged first id opcode session message x

theorem Traced.step (hx : Traced first x) (hCourse : Course first x) (hStep : x.Step y) :
    Traced first y where
  looked {id opcode session message} hHand := by
    rcases hStep.hand_cases id with hSame | hMove
    · exact (hx.looked (hSame.symm.trans hHand)).step hStep hHand
    · rw [hHand] at hMove
      obtain ⟨hFree, hHeld⟩ := hMove.of_looked
      exact ⟨hCourse, hFree, hHeld, hStep, .start hHand⟩
  asked {id removed opcode session message} hHand := by
    rcases hStep.hand_cases id with hSame | hMove
    · exact (hx.asked (hSame.symm.trans hHand)).step hStep hHand
    · rw [hHand] at hMove
      obtain ⟨hLooked, hRemoved⟩ := hMove.of_asked
      exact ⟨hx.looked hLooked, hRemoved, hStep, .start hHand⟩
  judged {id opcode session message} hHand := by
    rcases hStep.hand_cases id with hSame | hMove
    · exact (hx.judged (hSame.symm.trans hHand)).step hStep hHand
    · rw [hHand] at hMove
      obtain ⟨removed, hAsked, hRemoved, hDead⟩ := hMove.of_judged
      exact ⟨hx.asked hAsked, fun h => Steady.mem_inactiveOpcodes.mp (hRemoved h),
        fun hThere h => Steady.mem_inactiveOpcodes.mp (hDead hThere h), hStep, .start hHand⟩

theorem Course.counted {config : Config} {key : Rsa.Key} {state : WorldState} {world : World}
    {handlers : HandlerTable} {capacity : Nat}
    (hCourse : Course (idle (.start config key state world handlers capacity)) x) :
    x.server.game.sessions.Counted := by
  induction hCourse with
  | refl => exact ⟨fun _ hHandle => absurd hHandle List.not_mem_nil, List.nodup_nil⟩
  | tail _ hStep ih =>
    obtain ⟨task, hRenewal⟩ := hStep.renewal
    exact hRenewal.counted ih

theorem Course.gone (hCourse : Course x y) (hGone : x.server.game.sessions.Gone h) :
    y.server.game.sessions.Gone h := by
  induction hCourse with
  | refl => exact hGone
  | tail _ hStep ih =>
    obtain ⟨task, hRenewal⟩ := hStep.renewal
    exact hRenewal.gone ih

/-- The reader has a frame in hand, having found that the session is not removed. -/
def Past (opcode : UInt8) (session : SessionHandle) (message : FrameReader) (hand : Hand) : Prop :=
  hand = .asked false opcode session message ∨ hand = .judged opcode session message

/-- A frame that is not yet past the question comes too late for a session that has gone. -/
theorem Course.late (hCourse : Course x y) (hGone : x.server.game.sessions.Gone h)
    (hSerial : session.serial = h.serial) (hPast : Past opcode session message (y.hand id)) :
    opcode ∈ Steady.inactiveOpcodes ∨ Keeps id (Past opcode session message) x y := by
  induction hCourse with
  | refl => exact Or.inr (.start hPast)
  | @tail y z hBefore hStep ih =>
    have hStay (hBefore : Past opcode session message (y.hand id)) :
        opcode ∈ Steady.inactiveOpcodes ∨ Keeps id (Past opcode session message) x z :=
      (ih hBefore).imp_right fun hKept => hKept.step hStep hPast
    rcases hStep.hand_cases id with hSame | hMove
    · exact hStay (hSame ▸ hPast)
    rcases hPast with hAsked | hJudged
    · -- whoever asks now is told that the session is removed
      rw [hAsked] at hMove
      obtain ⟨-, hThere⟩ := hMove.of_asked
      rw [(Course.gone hBefore hGone).isRemoved hSerial] at hThere
      cases hThere
    · rw [hJudged] at hMove
      obtain ⟨removed, hAsked, hRemoved, -⟩ := hMove.of_judged
      cases removed with
      | true => exact Or.inl (hRemoved rfl)
      | false => exact hStay (Or.inl hAsked)

end Scene

/-! ## In one go -/

namespace Scene

variable {x : Scene} {s t : Server} {id : ConnectionId} {hand next : Hand}

theorem put_put (x : Scene) (id : ConnectionId) (first last : Hand) (s t : Server) :
    (x.put id first s).put id last t = x.put id last t := by
  rw [put, put, put, Function.update_idem]

theorem put_free (hFree : x.hand id = .free) : x.put id .free x.server = x := by
  rw [put, ← hFree, Function.update_eq_self]

theorem put_idle (s t : Server) (id : ConnectionId) : (idle s).put id .free t = idle t :=
  put_free (x := idle t) rfl

theorem step_put (x : Scene) (hMove : s.Move id hand next t) :
    (x.put id hand s).Step (x.put id next t) := by
  have hStep : (x.put id hand s).Step ((x.put id hand s).put id next t) :=
    .reader ((x.hand_put_self id hand s).symm ▸ hMove)
  rwa [put_put] at hStep

theorem course_performing (x : Scene) (s : Server) (id : ConnectionId) (effects : List Effect) :
    Course (x.put id (.performing effects) s) (x.put id .free (s.performAll id effects)) := by
  induction effects generalizing s with
  | nil => exact .single (x.step_put .done)
  | cons effect effects ih => exact .head (x.step_put (.perform effect effects)) (ih _)

theorem course_verdict (x : Scene) (s : Server) (id : ConnectionId) (opcode : UInt8)
    (session? : Option SessionHandle) (message : FrameReader) :
    Course (x.put id (.looked opcode session? message) s)
      (x.put id (.ofVerdict message (Steady.decide s.game.sessions session? opcode)) s) := by
  cases session? with
  | none => exact .single (x.step_put (.pass opcode message))
  | some session =>
    let removed := s.game.sessions.isRemoved session
    let inactive := s.game.sessions.isInactive session
    have hInactive : (removed || inactive) = inactive := by
      rw [Bool.or_eq_right_iff_imp]
      exact SessionRegistry.isInactive_of_isRemoved
    have hJudge : s.Move id (.asked removed opcode session message)
        (.ofVerdict message (Steady.judge (removed || inactive) session opcode)) s :=
      .judge removed inactive opcode session message fun _ => rfl
    have hJudged := x.step_put hJudge
    rw [hInactive, ← Steady.decide_some] at hJudged
    exact .head (x.step_put (.ask opcode session message)) (.single hJudged)

theorem course_dispatched (x : Scene) (s : Server) (id : ConnectionId) (opcode : UInt8)
    (session : SessionHandle) (message : FrameReader) :
    Course (x.put id (.judged opcode session message) s)
      (x.put id .free (s.dispatched id opcode session message)) := by
  rw [Server.dispatched]
  split
  case h_1 hNone => exact .single (x.step_put (.unknown session message hNone))
  case h_2 handler hHandler =>
    exact .head (x.step_put (.call session message hHandler)) (x.course_performing _ id _)

/-- To handle a frame is to take all these steps, with nothing in between. -/
theorem course_handle (hFree : x.hand id = .free) (frame : FrameReader) :
    Course x (x.put id .free (Steady.handle id ⟨x.server, frame⟩).2.server) := by
  have hStay : Course x (x.put id .free x.server) := by
    rw [put_free hFree]
  cases hOpen : x.server.isOpen id with
  | false =>
    rw [Steady.handle, bind_of_error (Talking.ensureOpen_of_closed hOpen)]
    exact hStay
  | true =>
    obtain ⟨c, hConnection, hLive⟩ := Steady.exists_of_isOpen hOpen
    have hRead := Steady.read_eq c x.server.game.sessions frame
    rcases hOpcode : Steady.opcode? c frame with ⟨_ | opcode, message⟩
    · rw [hOpcode] at hRead
      rw [Steady.handle_of_ignored hConnection hLive hRead]
      exact hStay
    · rw [hOpcode, ← Server.held?_of_open hConnection hLive] at hRead
      have hLooked := hStay.tail (x.step_put (.look hConnection hOpcode))
      have hJudged := hLooked.trans (x.course_verdict x.server id opcode _ message)
      dsimp only [Option.elim] at hRead
      generalize Steady.decide x.server.game.sessions _ opcode = verdict at hRead hJudged
      cases verdict with
      | ignored =>
        rw [Steady.handle_of_ignored hConnection hLive hRead]
        exact hJudged
      | disconnect =>
        rw [Steady.handle_of_disconnect hConnection hLive hRead]
        exact hJudged.trans (x.course_performing x.server id [.close])
      | dispatched opcode session =>
        obtain ⟨last, -, hHandle⟩ := Steady.handle_of_dispatched hConnection hLive hRead
        rw [hHandle]
        exact hJudged.trans (x.course_dispatched x.server id opcode session message)

end Scene

/-! ## A knight is removed from the game while a frame of the client is in hand -/

namespace Rivals.Expelled

open Reader (spoken listening echo)
open Scene (Course idle)

def doomed : Server := (listening.post (.removeSession 1 none)).2

def expelled : Server := doomed.runNext 0 0

def call (message : FrameReader) : HandlerCall :=
  { connection := 1, opcode := 100, session := handle, rest := message.unread }

/-- The frame is in hand; then the session goes; then the handler is called. -/
def judged (message : FrameReader) : Scene :=
  (idle doomed).put 1 (.judged 100 handle message) doomed

def served (message : FrameReader) : Scene :=
  (idle doomed).put 1 (.performing (echo handle message).2)
    { expelled with calls := [call message] }

end Rivals.Expelled

/-! ## Simulated time -/

namespace Server

open Scene (Course idle)

theorem tolerant_course : Tolerant fun s t => Course (idle s) (idle t) where
  refl _ := .refl
  trans hFirst hSecond := hFirst.trans hSecond
  withConnections _ _ _ := .single (.beside (.aside _ (tolerant_still.withConnections ..)))
  withTasks s tasks := .single (.beside (.aside _ (tolerant_still.withTasks s tasks)))
  withReplies s replies := .single (.beside (.aside _ (tolerant_still.withReplies s replies)))
  add s id := .single (.beside (.aside _ (tolerant_still.add s id)))
  remove s id := .single (.beside (.aside _ (tolerant_still.remove s id)))

variable {s t : Server}

theorem course_of_still (hStill : s.Still t) : Course (idle s) (idle t) :=
  .single (.beside (.aside t hStill))

theorem course_work {id : ConnectionId} {now : Nat} {r : Reader} {step : Talking ReaderPhase}
    (hWork : Reader.Work id now r.phase step) (s : Server) :
    Course (idle s) (idle (r.run id now step s).2) := by
  refine tolerant_still.work_of (T := fun s t => Course (idle s) (idle t)) (fun _ _ => ⟨rfl, rfl⟩)
    course_of_still (fun hCourse hStill => hCourse.trans (course_of_still hStill))
    (fun t => ?_) hWork s
  have hCourse : Course (idle t.server) ((idle t.server).put id .free _) :=
    Scene.course_handle rfl t.frame
  rwa [Scene.put_idle] at hCourse

theorem course_runNext (now wall : Nat) (s : Server) :
    Course (idle s) (idle (s.runNext now wall)) := by
  cases hReady : s.tasks.ready with
  | nil =>
    have hIdle : s.runNext now wall = s := by
      rw [runNext, TaskQueue.take?, hReady]
    rw [hIdle]
  | cons task ready =>
    have hRun : s.runNext now wall =
        turn s.isOpen [] now wall task { s with tasks := { s.tasks with ready } } := by
      rw [runNext, TaskQueue.take?, hReady]
      exact (turn_isOpen now wall task _).symm
    rw [hRun]
    exact .single (.beside (.turn _ _ _ _ task ready hReady))

theorem still_flushAll (s : Server) : s.Still s.flushAll.2 :=
  tolerant_still.trans (t := { s with roster := s.roster.tick s.isOpen }) ⟨rfl, rfl⟩
    (tolerant_still.flushes _ 0 _)

end Server

namespace Simulation.State

open Scene (Course idle)

theorem course_stepTicker (s : State) : Course (idle s.server) (idle s.stepTicker.server) := by
  rw [stepTicker]
  split
  case h_1 | h_2 => exact .refl
  case h_3 =>
    split
    · exact .refl
    · exact Server.course_of_still ⟨rfl, rfl⟩
  case h_4 =>
    split
    · exact .refl
    · exact Server.course_of_still s.server.still_flushAll

theorem course_step (s : State) (task : TaskId) :
    Course (idle s.server) (idle (s.step task).server) := by
  by_cases hTask : task = .ticker
  · rw [hTask]
    exact s.course_stepTicker
  · exact tolerates_step Server.tolerant_course Server.course_work
      (fun now s => s.course_runNext now 0) (fun _ => .single (.beside .gameStopped)) hTask s

theorem lasting_course (s : Server) : Lasting fun u => Course (idle s) (idle u.server) where
  withQueue _ _ hCourse := hCourse
  withLines _ _ hCourse := hCourse
  withNow _ _ hCourse := hCourse
  step u task _ hCourse := hCourse.trans (u.course_step task)

/-- Whatever time passes, what the tasks do meanwhile is such a course. -/
theorem course_advance (s : State) (ms : Nat) :
    Course (idle s.server) (idle (s.advance ms).server) :=
  (lasting_course s.server).advance ms .refl

end Simulation.State

end Gatehouse
