import Gatehouse.Proofs.ShortReads
import Gatehouse.Proofs.Tolerance
import Gatehouse.Proofs.Visits

/-!
# The steps of a reader

What each step of the handshake does to the server and to the frame, and how it ends. In the steady
state it is enough that no account is looked up.
-/

namespace Gatehouse

open Login Talking Wire

namespace Wire

namespace FrameReader

theorem length_store_write {r : FrameReader} (hStore : r.store.length = capacity) (start : Nat)
    (bs : Octets) : (r.write start bs).store.length = capacity := by
  change (Octets.overwrite r.store start (bs.take (capacity - start))).length = capacity
  simp only [Octets.overwrite, List.length_append, List.length_take, List.length_drop, hStore]
  omega

theorem take_store_write {r : FrameReader} (hStore : r.store.length = capacity) {start : Nat}
    {bs : Octets} (hFits : start + bs.length ≤ capacity) :
    (r.write start bs).store.take (start + bs.length) = r.store.take start ++ bs := by
  have hWhole : bs.take (capacity - start) = bs := List.take_of_length_le (by omega)
  have hFront : (r.store.take start ++ bs).length = start + bs.length := by
    rw [List.length_append, List.length_take, hStore]
    omega
  change (Octets.overwrite r.store start (bs.take (capacity - start))).take _ = _
  rw [hWhole, Octets.overwrite, ← hFront, List.take_left]

end FrameReader

end Wire

namespace Server

variable {s t u : Server} {id : ConnectionId}

/-- What happens to a server when only connections are dealt with. -/
structure Quiet (s t : Server) : Prop where
  store : t.store = s.store
  ready : ∃ more, t.tasks.ready = s.tasks.ready ++ more ∧
    more.filterMap GameTask.request? = []

theorem Quiet.refl (s : Server) : Quiet s s :=
  ⟨rfl, [], (List.append_nil _).symm, rfl⟩

theorem Quiet.trans (hFirst : Quiet s t) (hSecond : Quiet t u) : Quiet s u := by
  obtain ⟨more, hMore, hNone⟩ := hFirst.ready
  obtain ⟨rest, hRest, hNothing⟩ := hSecond.ready
  refine ⟨hSecond.store.trans hFirst.store, more ++ rest, ?_, ?_⟩
  · rw [hRest, hMore, List.append_assoc]
  · rw [List.filterMap_append, hNone, hNothing, List.append_nil]

theorem Quiet.of_same (hStore : t.store = s.store) (hTasks : t.tasks = s.tasks) : Quiet s t :=
  ⟨hStore, [], by rw [hTasks, List.append_nil], rfl⟩

theorem quiet_onOutlet {α : Type} (s : Server) (id : ConnectionId) (absent : α)
    (f : Outlet → α × Outlet) : Quiet s (s.onOutlet id absent f).2 := by
  obtain ⟨_, _, hOutlet⟩ := s.exists_onOutlet id absent f
  rw [hOutlet]
  exact .of_same rfl rfl

theorem quiet_post_detach (s : Server) (session : SessionId) (id : ConnectionId) :
    Quiet s (s.post (.detach session id)).2 := by
  cases hStopped : s.tasks.stopped with
  | true =>
    have hPost : s.post (.detach session id) = (false, s) := by
      rw [post, TaskQueue.post, if_pos hStopped]
    rw [hPost]
    exact .refl s
  | false =>
    rw [post_eq hStopped]
    exact ⟨rfl, [.detach session id], rfl, rfl⟩

theorem quiet_close (s : Server) (id : ConnectionId) : Quiet s (s.close id) := by
  have hShut := s.quiet_onOutlet id none Outlet.shut
  rw [close]
  generalize s.onOutlet id none Outlet.shut = result at hShut
  obtain ⟨_ | ⟨_ | session⟩, t⟩ := result
  · exact hShut
  · exact hShut.trans (.of_same rfl rfl)
  · refine Quiet.trans (t := { t.modify id Connection.notify with roster := t.roster.remove id })
      (hShut.trans (.of_same rfl rfl)) ?_
    exact quiet_post_detach _ session.id id

theorem quiet_abort (s : Server) (id : ConnectionId) : Quiet s (s.abort id) :=
  (s.quiet_close id).trans (.of_same rfl rfl)

theorem quiet_closeWith (s : Server) (id : ConnectionId) (text : String) :
    Quiet s (s.closeWith id text) := by
  rw [closeWith]
  split
  case isTrue => exact (s.quiet_onOutlet id false _).trans (quiet_close _ id)
  case isFalse => exact .refl s

theorem quiet_finish (s : Server) (id : ConnectionId) (now : Nat) (halt : Halt) :
    Quiet s (Reader.finish id now halt s).2 := by
  cases halt with
  | transport | abort | violation => exact s.quiet_abort id
  | rejected r => exact s.quiet_closeWith id _
  | closed => exact s.quiet_close id
  | stalled => exact .refl s

/-- Nobody's account changes. -/
def SameStore (s t : Server) : Prop :=
  t.store = s.store

theorem tolerant_sameStore : Tolerant SameStore :=
  tolerant_same Server.store fun _ _ _ _ _ _ => rfl

end Server

/-! ## The handshake -/

def greetingOf (n : Nat) (r : FrameReader) : String × FrameReader :=
  Read.text (r.declare (UInt16.ofNat n))

theorem Login.readGreeting_eq (n : Nat) (r : FrameReader) :
    readGreeting n r =
      if (greetingOf n r).1.isEmpty then (.error .emptyGreeting, (greetingOf n r).2)
      else (.ok (greetingOf n r).1, (greetingOf n r).2) := by
  have hDeclared : (modify (·.declare (UInt16.ofNat n)) : ExceptT Violation Read PUnit) r =
      (.ok ⟨⟩, r.declare (UInt16.ofNat n)) := rfl
  rw [readGreeting, bind_of_ok hDeclared, lift_bind, ite_throw]
  rfl

namespace Guest

variable (g : Guest)

def greeted (s : Server) : Server :=
  (((s.modify g.id fun c => { c with challenge? := some g.challenge }).enqueue g.id
    g.challengeMessage).2.flush g.id).2

theorem greet_cases (n : Nat) (s : Server) (frame : FrameReader)
    (hStore : frame.store.length = FrameReader.capacity) :
    ∃ frame', frame'.store.length = FrameReader.capacity ∧
      (s.isOpen g.id = false ∧
          Handshake.greet g.id g.challenge n ⟨s, frame⟩ = (.error .closed, ⟨s, frame'⟩) ∨
        s.isOpen g.id = true ∧ Handshake.greet g.id g.challenge n ⟨s, frame⟩ =
          (.error (.violation .emptyGreeting), ⟨s, frame'⟩) ∨
        s.isOpen g.id = true ∧ Handshake.greet g.id g.challenge n ⟨s, frame⟩ =
          (.ok (), ⟨g.greeted s, frame'.reset⟩)) := by
  have hAfter : (greetingOf n frame).2.store.length = FrameReader.capacity := by
    rw [greetingOf, Read.keeps_text]
    exact FrameReader.length_store_write hStore 0 _
  cases hOpen : s.isOpen g.id with
  | false =>
    refine ⟨frame, hStore, Or.inl ⟨rfl, ?_⟩⟩
    rw [Handshake.greet, bind_of_error (ensureOpen_of_closed hOpen)]
  | true =>
    refine ⟨_, hAfter, Or.inr ?_⟩
    rw [Handshake.greet, bind_of_ok (ensureOpen_of_open hOpen)]
    have hRead := readGreeting_eq n frame
    by_cases hEmpty : (greetingOf n frame).1.isEmpty = true
    · rw [if_pos hEmpty] at hRead
      exact Or.inl ⟨rfl, bind_of_error (reading_of_error hRead)⟩
    · rw [if_neg hEmpty] at hRead
      refine Or.inr ⟨rfl, ?_⟩
      rw [bind_of_ok (reading_of_ok hRead)]
      rfl

theorem quiet_greeted (s : Server) :
    s.Quiet (g.greeted s) ∧ (g.greeted s).replies = s.replies := by
  let t := s.modify g.id fun c => { c with challenge? := some g.challenge }
  let u := (t.enqueue g.id g.challengeMessage).2
  obtain ⟨_, _, hEnqueued⟩ := t.exists_onOutlet g.id false (Outlet.enqueue g.challengeMessage)
  obtain ⟨_, _, hFlushed⟩ := u.exists_onOutlet g.id false Outlet.flush
  have hEqual : g.greeted s = (u.flush g.id).2 := rfl
  rw [hEqual, show (u.flush g.id).2 = _ from hFlushed, show u = _ from hEnqueued]
  exact ⟨.of_same rfl rfl, rfl⟩

end Guest

namespace Reader

variable {id : ConnectionId} {now : Nat} {s : Server}

theorem complete_header_cases (id : ConnectionId) (now : Nat) (s : Server) (frame : FrameReader) :
    s.isOpen id = false ∧ complete id now .login .header ⟨s, frame⟩ = (.error .closed, ⟨s, frame⟩) ∨
    s.isOpen id = true ∧ (∃ n, complete id now .login .header ⟨s, frame⟩ =
      (.error (.violation (.loginLength n)), ⟨s, frame⟩)) ∨
    s.isOpen id = true ∧ ∃ n, 0 < n ∧ n ≤ maxLoginBody ∧
      complete id now .login .header ⟨s, frame⟩ =
        (.ok (fillBody .login (frame.truncate n) (now + loginTimeout s.config)),
          ⟨s, frame.truncate n⟩) := by
  have hComplete : complete id now .login .header ⟨s, frame⟩ =
      (do
        Handshake.declareLogin id
        return fillBody .login (← Talking.frame) (now + loginTimeout s.config)) ⟨s, frame⟩ := rfl
  rw [hComplete]
  cases hOpen : s.isOpen id with
  | false =>
    refine Or.inl ⟨rfl, ?_⟩
    have hClosed : Handshake.declareLogin id ⟨s, frame⟩ = (.error .closed, ⟨s, frame⟩) := by
      rw [Handshake.declareLogin, bind_of_error (ensureOpen_of_closed hOpen)]
    exact bind_of_error hClosed
  | true =>
    refine Or.inr ?_
    by_cases hBounds : frame.headerValue = 0 ∨ maxLoginBody < frame.headerValue.toNat
    · refine Or.inl ⟨rfl, frame.headerValue, ?_⟩
      have hRefused : Handshake.declareLogin id ⟨s, frame⟩ =
          (.error (.violation (.loginLength frame.headerValue)), ⟨s, frame⟩) := by
        rw [Handshake.declareLogin, bind_of_ok (ensureOpen_of_open hOpen),
          bind_of_ok (frame_eq _)]
        dsimp only
        rw [if_pos hBounds]
        rfl
      exact bind_of_error hRefused
    · refine Or.inr ⟨rfl, frame.headerValue.toNat, ?_, ?_, ?_⟩
      · have hSome : frame.headerValue.toNat ≠ 0 := fun hZero =>
          hBounds (Or.inl (UInt16.toNat_inj.mp hZero))
        omega
      · exact Nat.not_lt.mp fun hLong => hBounds (Or.inr hLong)
      · have hDeclared : Handshake.declareLogin id ⟨s, frame⟩ =
            (.ok (), ⟨s, frame.truncate frame.headerValue.toNat⟩) := by
          rw [Handshake.declareLogin, bind_of_ok (ensureOpen_of_open hOpen),
            bind_of_ok (frame_eq _)]
          dsimp only
          rw [if_neg hBounds]
          rfl
        rw [bind_of_ok hDeclared]
        rfl

variable {c : Connection} {frame : FrameReader} {t : Talk}

theorem complete_body_of_error (hConnection : s.connection? id = some c) {halt : Halt}
    (hJudge : Handshake.judge id c.peer ⟨s, frame⟩ = (.error halt, t)) :
    complete id now .login .body ⟨s, frame⟩ = (.error halt, t) := by
  rw [complete, bind_of_ok (server_eq _)]
  dsimp only
  rw [bind_of_ok (server_eq _)]
  dsimp only
  rw [hConnection]
  exact bind_of_error hJudge

theorem complete_body_of_ok (hConnection : s.connection? id = some c) {request : AttachRequest}
    (hJudge : Handshake.judge id c.peer ⟨s, frame⟩ = (.ok request, t)) :
    complete id now .login .body ⟨s, frame⟩ =
      (if t.server.tasks.stopped then .error .abort else .ok .attaching,
        { t with server := (t.server.post (.attach request (.connection id))).2 }) := by
  rw [complete, bind_of_ok (server_eq _)]
  dsimp only
  rw [bind_of_ok (server_eq _)]
  dsimp only
  rw [hConnection]
  dsimp only
  rw [bind_of_ok hJudge, onServer_bind]
  cases hStopped : t.server.tasks.stopped with
  | true =>
    have hPost : t.server.post (.attach request (.connection id)) = (false, t.server) := by
      rw [Server.post, TaskQueue.post, if_pos hStopped]
    rw [hPost]
    rfl
  | false =>
    rw [Server.post_eq hStopped]
    rfl

/-- The answers that end the handshake, and how. -/
def ending : Reply → Option Halt
  | .outcome (.attached _) => none
  | .outcome (.waiting ..) | .outcome .abandoned => some .closed
  | .outcome (.rejected reason) => some (.rejected reason)
  | .found _ | .stopped => some .abort

theorem ending_cases {r : Reply} {halt : Halt} (hEnding : ending r = some halt) :
    halt = .closed ∨ halt = .abort ∨
      ∃ reason, r = .outcome (.rejected reason) ∧ halt = .rejected reason := by
  cases r with
  | found | stopped => exact Or.inr (Or.inl (Option.some.inj hEnding).symm)
  | outcome o =>
    cases o with
    | attached => cases hEnding
    | waiting | abandoned => exact Or.inl (Option.some.inj hEnding).symm
    | rejected reason => exact Or.inr (Or.inr ⟨reason, rfl, (Option.some.inj hEnding).symm⟩)

theorem eq_attached_of_ending {r : Reply} (hEnding : ending r = none) :
    ∃ handle, r = .outcome (.attached handle) := by
  cases r with
  | found | stopped => cases hEnding
  | outcome o =>
    cases o with
    | attached handle => exact ⟨handle, rfl⟩
    | waiting | rejected | abandoned => cases hEnding

/-- What an answer leaves of the server when it ends the handshake. -/
def turnedAway (id : ConnectionId) (r : Reply) (s : Server) : Server :=
  match r with
  | .outcome (.waiting slot retrySeconds) =>
    ((s.enqueue id
      (ServerMessage.waitingPlace slot (UInt8.ofNat retrySeconds)).encode).2).close id
  | _ => s

theorem answered_of_ending {r : Reply} {halt : Halt} (hEnding : ending r = some halt) :
    answered id now r ⟨s, frame⟩ =
      (.error halt, ⟨turnedAway id r (s.takeReply (.connection id)), frame⟩) := by
  rw [answered, changeServer_bind]
  cases r with
  | found | stopped =>
    cases hEnding
    rfl
  | outcome o =>
    cases o with
    | attached => cases hEnding
    | waiting | rejected | abandoned =>
      cases hEnding
      rfl

/-- What a connection is told when it has entered the world. -/
def welcomed (id : ConnectionId) (s : Server) : Server :=
  let s := ((s.enqueue id ServerMessage.enterWorld.encode).2.flush id).2
  { s with roster := s.roster.add id }

theorem quiet_turnedAway (id : ConnectionId) (r : Reply) (s : Server) :
    s.Quiet (turnedAway id r s) := by
  cases r with
  | found | stopped => exact .refl s
  | outcome o =>
    cases o with
    | waiting => exact (s.quiet_onOutlet id false _).trans (Server.quiet_close _ id)
    | attached | rejected | abandoned => exact .refl s

theorem quiet_welcomed (id : ConnectionId) (s : Server) : s.Quiet (welcomed id s) := by
  have hTold := s.quiet_onOutlet id false (Outlet.enqueue ServerMessage.enterWorld.encode)
  have hFlushed := (s.enqueue id ServerMessage.enterWorld.encode).2.quiet_onOutlet id false
    Outlet.flush
  exact (hTold.trans hFlushed).trans (.of_same rfl rfl)

theorem answered_of_attached (id : ConnectionId) (now : Nat) (handle : SessionHandle) (s : Server)
    (frame : FrameReader) :
    answered id now (.outcome (.attached handle)) ⟨s, frame⟩ =
      if (s.takeReply (.connection id)).isOpen id then
        (.ok (fillHeader .steady (some (now + readTimeout
            (welcomed id (s.takeReply (.connection id))).config))),
          ⟨welcomed id (s.takeReply (.connection id)), frame.reset⟩)
      else (.error .closed, ⟨s.takeReply (.connection id), frame⟩) := by
  rw [answered, changeServer_bind]
  cases hOpen : (s.takeReply (.connection id)).isOpen id with
  | false =>
    have hClosed : Handshake.enter id (.outcome (.attached handle))
        ⟨s.takeReply (.connection id), frame⟩ =
          (.error .closed, ⟨s.takeReply (.connection id), frame⟩) := by
      rw [Handshake.enter]
      exact bind_of_error (ensureOpen_of_closed hOpen)
    exact bind_of_error hClosed
  | true =>
    have hEntered : Handshake.enter id (.outcome (.attached handle))
        ⟨s.takeReply (.connection id), frame⟩ =
          (.ok (), ⟨welcomed id (s.takeReply (.connection id)), frame⟩) := by
      rw [Handshake.enter]
      exact bind_of_ok (ensureOpen_of_open hOpen)
    rw [bind_of_ok hEntered]
    rfl

end Reader

/-! ## The steady state -/

namespace Talking

open Server (SameStore tolerant_sameStore)

variable {α : Type}

/-- A step of a reader whose handshake is over, and stays so. -/
structure Settles (step : Talking ReaderPhase) : Prop where
  keepsStore : step.Within SameStore
  phase : ∀ t phase t', step t = (.ok phase, t') → phase.isHandshake = false

theorem Settles.bind {step : Talking α} {next : α → Talking ReaderPhase}
    (hStep : step.Within SameStore) (hNext : ∀ a, (next a).Settles) : (step >>= next).Settles := by
  refine ⟨tolerant_sameStore.bind hStep fun a => (hNext a).keepsStore, fun t phase t' hResult => ?_⟩
  rcases hFirst : step t with ⟨_ | a, u⟩
  · rw [bind_of_error hFirst] at hResult
    cases hResult
  · rw [bind_of_ok hFirst] at hResult
    exact (hNext a).phase u phase t' hResult

theorem settles_pure {phase : ReaderPhase} (hPhase : phase.isHandshake = false) :
    (pure phase : Talking ReaderPhase).Settles := by
  refine ⟨tolerant_sameStore.pure phase, fun t _ _ hResult => ?_⟩
  cases hResult
  exact hPhase

theorem settles_throw (halt : Halt) : (throw halt : Talking ReaderPhase).Settles := by
  refine ⟨tolerant_sameStore.throw halt, fun t _ _ hResult => ?_⟩
  cases hResult

end Talking

namespace Reader

open Server (SameStore tolerant_sameStore)

variable {id : ConnectionId} {now : Nat} {step : Talking ReaderPhase} {r : Reader} {s : Server}

theorem run_of_settles (id : ConnectionId) (now : Nat) (r : Reader) (s : Server)
    (hStep : step.Settles) :
    (r.run id now step s).2.store = s.store ∧
      (r.run id now step s).1.phase.isHandshake = false := by
  have hStore : SameStore s (r.run id now step s).2 :=
    tolerant_sameStore.run hStep.keepsStore id now r s
  refine ⟨hStore, ?_⟩
  rcases hResult : step ⟨s, r.frame⟩ with ⟨halt | phase, t⟩
  · rw [run_of_error hResult]
    cases halt <;> rfl
  · rw [run_of_ok hResult]
    exact hStep.phase _ _ _ hResult

theorem settles_complete (id : ConnectionId) (now : Nat) (part : Part) :
    (complete id now .steady part).Settles := by
  refine .bind tolerant_sameStore.server fun s => ?_
  cases part with
  | header =>
    refine .bind (tolerant_sameStore.declare id) fun _ =>
      .bind tolerant_sameStore.frame fun frame => ?_
    exact settles_pure rfl
  | body =>
    refine .bind (tolerant_sameStore.handle (fun _ _ => rfl) id) fun _ =>
      .bind (tolerant_sameStore.changeFrame _) fun _ => ?_
    exact settles_pure rfl

theorem settles_receive (id : ConnectionId) (now : Nat) (challenge : Challenge)
    {phase : ReaderPhase} (hPhase : phase.isHandshake = false) (bs : Octets) :
    (receive id now challenge phase bs).Settles := by
  cases phase with
  | greeting | attaching => cases hPhase
  | stalled | ended => exact settles_pure hPhase
  | filling stage part start stop deadline? =>
    cases stage with
    | login => cases hPhase
    | steady =>
      refine .bind (tolerant_sameStore.changeFrame _) fun _ => ?_
      split
      case isTrue => exact settles_pure rfl
      case isFalse => exact settles_complete id now part

end Reader

end Gatehouse
