import Gatehouse.Proofs.Books
import Gatehouse.Proofs.Steps
import Gatehouse.Proofs.Traffic

/-!
# What is done for connections

Many a relation between servers bears whatever is done for a connection: bytes are read and
messages sent, connections come, are told and close, tasks are posted, the roster is joined and
left. Such a relation holds around every step of a reader, but for the frames that handlers get,
which it may treat in a way of its own. If it bears changes of the game, too, it holds around turns.
-/

namespace Gatehouse

open Talking

structure Server.Tolerant (R : Server → Server → Prop) : Prop where
  refl : ∀ s, R s s
  trans : ∀ {s t u}, R s t → R t u → R s u
  withConnections : ∀ s connections pool, R s { s with connections, pool }
  withTasks : ∀ s tasks, R s { s with tasks }
  withReplies : ∀ s replies, R s { s with replies }
  add : ∀ s id, R s { s with roster := s.roster.add id }
  remove : ∀ s id, R s { s with roster := s.roster.remove id }

/-- What has nothing to do with connections stays the same. -/
theorem Server.tolerant_same {α : Type} (part : Server → α)
    (hApart : ∀ s connections pool tasks replies roster,
      part { s with connections, pool, tasks, replies, roster } = part s) :
    Tolerant fun s t => part t = part s where
  refl _ := rfl
  trans hFirst hSecond := hSecond.trans hFirst
  withConnections s connections pool := hApart s connections pool s.tasks s.replies s.roster
  withTasks s tasks := hApart s s.connections s.pool tasks s.replies s.roster
  withReplies s replies := hApart s s.connections s.pool s.tasks replies s.roster
  add s id := hApart s s.connections s.pool s.tasks s.replies (s.roster.add id)
  remove s id := hApart s s.connections s.pool s.tasks s.replies (s.roster.remove id)

namespace Server.Tolerant

variable {R : Server → Server → Prop} (hR : Tolerant R) (s : Server) (id : ConnectionId)

include hR

theorem modify (f : Connection → Connection) : R s (s.modify id f) :=
  hR.withConnections s _ s.pool

theorem onOutlet {α : Type} (absent : α) (f : Outlet → α × Outlet) :
    R s (s.onOutlet id absent f).2 := by
  obtain ⟨connections, pool, hOutlet⟩ := s.exists_onOutlet id absent f
  rw [hOutlet]
  exact hR.withConnections s connections pool

theorem post (task : GameTask) : R s (s.post task).2 :=
  hR.withTasks s _

theorem close : R s (s.close id) := by
  have hShut := hR.onOutlet s id none Outlet.shut
  rw [Server.close]
  generalize s.onOutlet id none Outlet.shut = result at hShut
  obtain ⟨_ | ⟨_ | session⟩, t⟩ := result
  · exact hShut
  · exact hR.trans hShut (hR.trans (hR.modify t id Connection.notify) (hR.remove _ id))
  · refine hR.trans hShut (hR.trans (hR.modify t id Connection.notify) ?_)
    exact hR.trans (hR.remove _ id) (hR.post _ _)

theorem closeWith (text : String) : R s (s.closeWith id text) := by
  rw [Server.closeWith]
  split
  case isTrue => exact hR.trans (hR.onOutlet s id false _) (hR.close _ id)
  case isFalse => exact hR.refl s

theorem abort : R s (s.abort id) :=
  hR.trans (hR.close s id) (hR.modify _ id _)

theorem perform (effect : Effect) : R s (s.perform id effect) := by
  cases effect with
  | send message => exact hR.onOutlet s id false _
  | close => exact hR.close s id
  | closeWith text => exact hR.closeWith s id text
  | abort => exact hR.abort s id
  | post task => exact hR.post s task

theorem foldl {α : Type} {f : Server → α → Server} (hf : ∀ s a, R s (f s a)) (as : List α) :
    R s (as.foldl f s) := by
  induction as generalizing s with
  | nil => exact hR.refl s
  | cons a as ih => exact hR.trans (hf s a) (ih _)

theorem performAll (effects : List Effect) : R s (s.performAll id effects) :=
  hR.foldl s (fun s effect => hR.perform s id effect) effects

theorem finish (now : Nat) (halt : Halt) : R s (Reader.finish id now halt s).2 := by
  cases halt with
  | transport | abort | violation => exact hR.abort s id
  | rejected reason => exact hR.closeWith s id _
  | closed => exact hR.close s id
  | stalled => exact hR.refl s

end Server.Tolerant

/-! ## Steps of readers -/

/-- However a step ends, the servers before and after it are related. -/
def Talking.Within {α : Type} (R : Server → Server → Prop) (step : Talking α) : Prop :=
  ∀ t, R t.server (step t).2.server

namespace Server.Tolerant

variable {R : Server → Server → Prop} (hR : Tolerant R) {α β : Type}

/-- What comes after a step may be in another relation. -/
theorem bind_of {R S T : Server → Server → Prop} (hStop : ∀ {s t}, S s t → T s t)
    (hComp : ∀ {s t u}, S s t → R t u → T s u) {step : Talking α} {next : α → Talking β}
    (hStep : step.Within S) (hNext : ∀ a, (next a).Within R) : (step >>= next).Within T := by
  intro t
  have hFirst := hStep t
  rcases hResult : step t with ⟨_ | a, t'⟩
  · rw [hResult] at hFirst
    rw [bind_of_error hResult]
    exact hStop hFirst
  · rw [hResult] at hFirst
    rw [bind_of_ok hResult]
    exact hComp hFirst (hNext a t')

theorem changeServer {f : Server → Server} (hf : ∀ s, R s (f s)) :
    (Talking.changeServer f).Within R :=
  fun t => hf t.server

theorem onServer {f : Server → α × Server} (hf : ∀ s, R s (f s).2) :
    (Talking.onServer f).Within R :=
  fun t => hf t.server

include hR

theorem bind {step : Talking α} {next : α → Talking β} (hStep : step.Within R)
    (hNext : ∀ a, (next a).Within R) : (step >>= next).Within R :=
  bind_of (S := R) (fun h => h) hR.trans hStep hNext

theorem pure (a : α) : (Pure.pure a : Talking α).Within R := fun t => hR.refl t.server

theorem throw (halt : Halt) : (MonadExcept.throw halt : Talking α).Within R :=
  fun t => hR.refl t.server

theorem throw_bind (halt : Halt) (next : α → Talking β) :
    (MonadExcept.throw halt >>= next).Within R :=
  fun t => hR.refl t.server

theorem server : Talking.server.Within R := fun t => hR.refl t.server

theorem frame : Talking.frame.Within R := fun t => hR.refl t.server

theorem changeFrame (f : Wire.FrameReader → Wire.FrameReader) :
    (Talking.changeFrame f).Within R :=
  fun t => hR.refl t.server

theorem reading {ε : Type} (cause : ε → Halt) (read : ExceptT ε Wire.Read α) :
    (Talking.reading cause read).Within R := by
  intro t
  rcases hRead : read t.frame with ⟨e | a, frame⟩
  · rw [reading_of_error hRead]
    exact hR.refl t.server
  · rw [reading_of_ok hRead]
    exact hR.refl t.server

theorem ensureOpen (id : ConnectionId) : (Talking.ensureOpen id).Within R := by
  refine hR.bind hR.server fun s => ?_
  split
  · exact hR.throw .closed
  · exact hR.pure ()

theorem send (id : ConnectionId) (message : Wire.ServerMessage) :
    (Talking.send id message).Within R :=
  changeServer fun s => hR.onOutlet s id false _

theorem flush (id : ConnectionId) : (Talking.flush id).Within R :=
  changeServer fun s => hR.onOutlet s id false _

/-! ## The handshake -/

theorem greet (id : ConnectionId) (challenge : Login.Challenge) (n : Nat) :
    (Handshake.greet id challenge n).Within R := by
  refine hR.bind (hR.ensureOpen id) fun _ => hR.bind (hR.reading _ _) fun _ => ?_
  refine hR.bind (changeServer fun s => hR.modify s id _) fun _ => ?_
  exact hR.bind (hR.send id _) fun _ => hR.bind (hR.flush id) fun _ => hR.changeFrame _

theorem declareLogin (id : ConnectionId) : (Handshake.declareLogin id).Within R := by
  refine hR.bind (hR.ensureOpen id) fun _ => hR.bind hR.frame fun frame => ?_
  dsimp only
  split
  case isTrue => exact hR.throw_bind _ _
  case isFalse => exact hR.changeFrame _

theorem openRequest (id : ConnectionId) : (Handshake.openRequest id).Within R := by
  refine hR.bind hR.server fun s => hR.bind (hR.reading _ _) fun prelude => ?_
  refine hR.bind (changeServer fun s => hR.modify s id _) fun _ => ?_
  have hVersion : (if ¬ s.config.acceptsVersion prelude.version then do
        MonadExcept.throw (.rejected (.unsupportedVersion s.config.versionLabel))
        Pure.pure prelude
      else Pure.pure prelude : Talking Login.Prelude).Within R := by
    split
    case isTrue => exact hR.throw_bind _ _
    case isFalse => exact hR.pure prelude
  dsimp only
  split
  case isTrue => exact hR.bind (hR.send id _) fun _ => hVersion
  case isFalse => exact hVersion

theorem takeChallenge (id : ConnectionId) : (Handshake.takeChallenge id).Within R := by
  refine hR.bind hR.server fun _ => ?_
  exact hR.bind (changeServer fun s => hR.modify s id _) fun _ => hR.pure _

theorem authenticate (hStore : ∀ s store, R s { s with store }) (ip : IpAddress)
    (credentials : Login.Credentials) : (Handshake.authenticate ip credentials).Within R := by
  refine hR.bind hR.server fun s => ?_
  dsimp only
  split
  case h_1 => exact hR.throw_bind _ _
  case h_2 =>
    split
    case h_1 => exact hR.throw_bind _ _
    case h_2 =>
      refine hR.bind (onServer fun s => hStore s _) fun record? => ?_
      split
      case h_1 => exact hR.throw _
      case h_2 record _ =>
        split
        case isTrue => exact hR.throw_bind _ _
        case isFalse => exact hR.pure record

theorem judge (hStore : ∀ s store, R s { s with store }) (id : ConnectionId)
    (peer : SocketAddress) : (Handshake.judge id peer).Within R := by
  refine hR.bind (hR.ensureOpen id) fun _ => hR.bind (hR.openRequest id) fun prelude => ?_
  refine hR.bind (hR.reading _ _) fun credentials => hR.bind (hR.takeChallenge id) fun issued? => ?_
  dsimp only
  split
  case isTrue => exact hR.throw_bind _ _
  case isFalse =>
    refine hR.bind (hR.authenticate hStore peer.ip credentials) fun record => ?_
    exact hR.bind hR.server fun s => hR.pure _

theorem enter (id : ConnectionId) (r : Reply) : (Handshake.enter id r).Within R := by
  cases r with
  | found | stopped => exact hR.throw_bind _ _
  | outcome o =>
    cases o with
    | attached handle =>
      refine hR.bind (hR.ensureOpen id) fun _ => hR.bind (hR.send id _) fun _ => ?_
      exact hR.bind (hR.flush id) fun _ => changeServer fun s => hR.add s id
    | waiting slot retrySeconds =>
      refine hR.bind (hR.send id _) fun _ => ?_
      refine hR.bind (changeServer fun s => hR.close s id) fun _ => hR.throw_bind _ _
    | rejected | abandoned => exact hR.throw_bind _ _

theorem answered (id : ConnectionId) (now : Nat) (r : Reply) :
    (Reader.answered id now r).Within R := by
  refine hR.bind (changeServer fun s => hR.withReplies s _) fun _ => ?_
  refine hR.bind (hR.enter id r) fun _ => hR.bind (hR.changeFrame _) fun _ => ?_
  exact hR.bind hR.server fun s => hR.pure _

/-! ## The steady state -/

theorem declare (id : ConnectionId) : (Steady.declare id).Within R := by
  refine hR.bind (hR.ensureOpen id) fun _ => hR.bind hR.frame fun frame => ?_
  dsimp only
  split
  case isTrue =>
    refine hR.bind hR.server fun s => ?_
    split <;> exact hR.throw_bind _ _
  case isFalse => exact hR.changeFrame _

theorem dispatch (hCalls : ∀ s calls, R s { s with calls }) (id : ConnectionId) (opcode : UInt8)
    (session : SessionHandle) : (Steady.dispatch id opcode session).Within R := by
  intro t
  rw [Steady.dispatch, bind_of_ok (get_eq t)]
  cases t.server.handlers.handler? opcode with
  | none => exact hR.refl t.server
  | some handler => exact hR.trans (hCalls t.server _) (hR.performAll _ id _)

theorem handle (hCalls : ∀ s calls, R s { s with calls }) (id : ConnectionId) :
    (Steady.handle id).Within R := by
  refine hR.bind (hR.ensureOpen id) fun _ => ?_
  intro t
  rw [bind_of_ok (get_eq t)]
  cases t.server.connection? id with
  | none => exact hR.refl t.server
  | some c =>
    dsimp only
    generalize (Steady.read c t.server.game.sessions).run t.frame = result
    obtain ⟨verdict, frame⟩ := result
    cases verdict with
    | ignored => exact hR.refl t.server
    | disconnect => exact hR.close t.server id
    | dispatched opcode session =>
      exact hR.bind (hR.dispatch hCalls id opcode session) (fun _ => hR.ensureOpen id)
        { t with frame }

section

variable (hStore : ∀ s store, R s { s with store }) {T : Server → Server → Prop}
  (hOf : ∀ {s t}, R s t → T s t) (hAfter : ∀ {s t u}, T s t → R t u → T s u) {id : ConnectionId}
  (hHandle : (Steady.handle id).Within T)

include hStore hOf hAfter hHandle

theorem complete_of (now : Nat) (stage : Stage) (part : Part) :
    (Reader.complete id now stage part).Within T := by
  intro t
  rw [Reader.complete, bind_of_ok (server_eq t)]
  cases stage with
  | login =>
    refine hOf ?_
    cases part with
    | header =>
      exact hR.bind (hR.declareLogin id) (fun _ => hR.bind hR.frame fun frame => hR.pure _) t
    | body =>
      refine hR.bind hR.server (fun s => ?_) t
      split
      case h_1 => exact hR.throw .closed
      case h_2 c _ =>
        refine hR.bind (hR.judge hStore id c.peer) fun request => ?_
        refine hR.bind (onServer fun s => hR.post s _) fun posted => ?_
        split
        case isTrue => exact hR.pure _
        case isFalse => exact hR.throw .abort
  | steady =>
    cases part with
    | header =>
      refine hOf (hR.bind (hR.declare id) (fun _ => ?_) t)
      exact hR.bind hR.frame fun frame => hR.pure _
    | body =>
      have hRest : (do
          Talking.changeFrame (·.reset)
          return Reader.fillHeader .steady (some (now + Reader.readTimeout t.server.config)) :
            Talking ReaderPhase).Within R :=
        hR.bind (hR.changeFrame _) fun _ => hR.pure _
      exact bind_of (S := T) (fun h => h) hAfter hHandle (fun _ => hRest) t

theorem receive_of (now : Nat) (challenge : Login.Challenge) (phase : ReaderPhase) (bs : Octets) :
    (Reader.receive id now challenge phase bs).Within T := by
  intro t
  cases phase with
  | greeting =>
    refine hOf (hR.bind (hR.changeFrame _) (fun _ => ?_) t)
    exact hR.bind (hR.greet id challenge bs.length) fun _ => hR.pure _
  | filling stage part start stop deadline? =>
    rw [Reader.receive_filling]
    split
    case isTrue => exact hOf (hR.refl t.server)
    case isFalse =>
      exact hR.complete_of hStore hOf hAfter hHandle now stage part
        ⟨t.server, t.frame.write start bs⟩
  | attaching | stalled | ended => exact hOf (hR.refl t.server)

end

theorem receive (hStore : ∀ s store, R s { s with store })
    (hCalls : ∀ s calls, R s { s with calls }) (id : ConnectionId) (now : Nat)
    (challenge : Login.Challenge) (phase : ReaderPhase) (bs : Octets) :
    (Reader.receive id now challenge phase bs).Within R :=
  hR.receive_of hStore (T := R) (fun h => h) hR.trans (hR.handle hCalls id) now challenge phase bs

theorem run_of {T : Server → Server → Prop} (hAfter : ∀ {s t u}, T s t → R t u → T s u)
    {step : Talking ReaderPhase} (hStep : step.Within T) (id : ConnectionId) (now : Nat)
    (r : Reader) (s : Server) : T s (r.run id now step s).2 := by
  have hServer := hStep ⟨s, r.frame⟩
  rcases hResult : step ⟨s, r.frame⟩ with ⟨halt | phase, t⟩
  · rw [hResult] at hServer
    rw [Reader.run_of_error hResult]
    exact hAfter hServer (hR.finish t.server id now halt)
  · rw [hResult] at hServer
    rw [Reader.run_of_ok hResult]
    exact hServer

theorem run {step : Talking ReaderPhase} (hStep : step.Within R) (id : ConnectionId) (now : Nat)
    (r : Reader) (s : Server) : R s (r.run id now step s).2 :=
  hR.run_of (T := R) hR.trans hStep id now r s

/-! ## Turns of the game -/

theorem closeAll (ids : List ConnectionId) (s : Server) : R s (s.closeAll ids) :=
  hR.foldl s hR.close ids

theorem replyTo? (caller? : Option Caller) (r : Reply) (s : Server) :
    R s (s.replyTo? caller? r) := by
  cases caller? with
  | none => exact hR.refl s
  | some caller => exact hR.withReplies s _

theorem replyAll (callers : List Caller) (r : Reply) (s : Server) :
    R s (callers.foldl (fun s caller => s.reply caller r) s) :=
  hR.foldl s (fun s _ => hR.withReplies s _) callers

theorem flushes (ids : List ConnectionId) (count : Nat) (s : Server) :
    R s (ids.foldl (fun (count, s) id =>
      let (sent, s) := s.flush id
      (if sent then count + 1 else count, s)) (count, s)).2 := by
  induction ids generalizing count s with
  | nil => exact hR.refl s
  | cons id ids ih => exact hR.trans (hR.onOutlet s id false Outlet.flush) (ih _ _)

theorem releaseNext (now : Nat) (s : Server) : R s (s.releaseNext now) := by
  rw [Server.releaseNext]
  split
  case h_1 => exact hR.refl s
  case h_2 task tasks _ =>
    have hPosted := hR.trans (hR.withTasks s tasks) (hR.post _ task)
    dsimp only
    split
    case isTrue => exact hPosted
    case isFalse => exact hR.trans hPosted (hR.replyTo? _ _ _)

variable (hGame : ∀ s game, R s { s with game })

include hGame

theorem conclude (now : Nat) (request : AttachRequest) (caller : Caller) (step : Game.AttachStep)
    (s : Server) : R s (s.conclude now request caller step) := by
  cases step with
  | done => exact hR.withReplies s _
  | offered offer =>
    have hOffered : ∀ f : Outlet → Bool × Outlet, R s (s.onOutlet offer.connection false f).2 :=
      hR.onOutlet s offer.connection false
    rw [Server.conclude]
    dsimp only
    split
    case isTrue => exact hR.trans (hOffered _) (hR.withReplies _ _)
    case isFalse => exact hR.trans (hOffered _) (hR.trans (hGame _ _) (hR.withReplies _ _))
  | kicked old session => exact hR.trans (hR.close s old) (hR.withTasks _ _)

theorem runTask (now wall : Nat) (task : GameTask) (s : Server) :
    R s (s.runTask now wall task) := by
  cases task with
  | attach request caller | reattach session request caller =>
    exact hR.trans (hGame s _) (hR.conclude hGame now request caller _ _)
  | detach session connection => exact hGame s _
  | logout session character => exact hGame s _
  | setDead session dead caller? => exact hR.trans (hGame s _) (hR.replyTo? caller? _ _)
  | removeSession session caller? => exact hR.trans (hGame s _) (hR.replyTo? caller? _ _)

theorem turn (seen : ConnectionId → Bool) (closing : List ConnectionId) (now wall : Nat)
    (task : GameTask) (s : Server) : R s (s.turn seen closing now wall task) := by
  have hAnswer : ∀ (game : Game) (request : AttachRequest) (caller : Caller)
      (step : Game.AttachStep),
      R s ((Server.closeAll closing { s with game }).conclude now request caller step) :=
    fun game request caller step => hR.trans (hGame s game)
      (hR.trans (hR.closeAll closing _) (hR.conclude hGame now request caller step _))
  cases task with
  | attach request caller | reattach session request caller => exact hAnswer _ request caller _
  | detach | logout | setDead | removeSession =>
    exact hR.trans (hR.runTask hGame now wall _ s) (hR.closeAll closing _)

theorem runNext (now wall : Nat) (s : Server) : R s (s.runNext now wall) := by
  rw [Server.runNext]
  split
  case h_1 => exact hR.refl s
  case h_2 task tasks _ => exact hR.trans (hR.withTasks s tasks) (hR.runTask hGame now wall task _)

theorem stopGame (s : Server) : R s s.stopGame := by
  have hCleared := hGame s { s.game with sessions := s.game.sessions.clear }
  exact hR.trans (hR.trans hCleared (hR.withTasks _ s.tasks.stop)) (hR.replyAll _ _ _)

end Server.Tolerant

end Gatehouse
