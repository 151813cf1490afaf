import Gatehouse.Proofs.Attaching
import Gatehouse.Proofs.Seats

/-!
# Traffic

Runs of a server as the game sees them. Connections come, ask for a character once, and close at any
time, also while a task runs. Tasks run one at a time, and a delayed one is posted at any time.
What the game cannot see may happen in between.
-/

namespace Gatehouse

namespace Server

def closeAll (ids : List ConnectionId) (s : Server) : Server :=
  ids.foldl (fun s id => s.close id) s

/-- Posts the delayed task at a place, whether or not it is due. -/
def releaseAt (n : Nat) (s : Server) : Server :=
  match s.tasks.delayed[n]? with
  | none => s
  | some d => (post d.task
      { s with tasks := { s.tasks with delayed := s.tasks.delayed.eraseIdx n } }).2

/-- Runs a task in the course of which connections close. What the task gets to see of them is from
before or from after that. -/
def turn (seen : ConnectionId → Bool) (closing : List ConnectionId) (now wall : Nat)
    (task : GameTask) (s : Server) : Server :=
  match task with
  | .attach request caller =>
    let (step, game) := s.game.attach s.config s.state seen wall request
    (closeAll closing { s with game }).conclude now request caller step
  | .reattach session request caller =>
    let (step, game) := s.game.reattach seen session request
    (closeAll closing { s with game }).conclude now request caller step
  | task => (s.runTask now wall task).closeAll closing

/-- What a task can have seen of the connections if these have closed in its course. -/
structure Sees (s : Server) (closing : List ConnectionId) (seen : ConnectionId → Bool) : Prop where
  before : ∀ id, seen id = true → s.isOpen id = true
  after : ∀ id, seen id = false → (s.closeAll closing).isOpen id = false

end Server

inductive Event where
  | accept (peer : SocketAddress)
  | request (r : AttachRequest) (caller : Caller)
  | close (id : ConnectionId)
  /-- A message has been taken up for a connection that holds this session. -/
  | takeUp (id : ConnectionId) (handle : SessionHandle)
  /-- A message that was taken up is handled as a logout. -/
  | logout (id : ConnectionId) (handle : SessionHandle)
  | release (n : Nat)
  | turn (task : GameTask) (seen : ConnectionId → Bool) (closing : List ConnectionId)
    (now wall : Nat)
  /-- Something that the game cannot see. -/
  | aside (next : Server)

namespace Event

def apply (s : Server) : Event → Server
  | accept peer => (s.accept peer).2
  | request r caller => (s.post (.attach r caller)).2
  | close id => s.close id
  | takeUp _ _ => s
  | logout _ handle => (s.post (.logout handle.id handle.characterId)).2
  | release n => s.releaseAt n
  | turn task seen closing now wall =>
    match s.tasks.take? with
    | none => s
    | some (_, tasks) => { s with tasks }.turn seen closing now wall task
  | aside next => next

def asker? : Event → Option ConnectionId
  | request r _ => some r.connection
  | _ => none

/-- Whether an event can happen now, after others of which the latest stands first. -/
def Allowed (past : List Event) (s : Server) : Event → Prop
  | request r _ => r.connection ∉ past.filterMap asker?
  | takeUp id handle => s.held? id = some handle
  | logout id handle => takeUp id handle ∈ past
  | turn task seen closing _ _ => s.tasks.ready.head? = some task ∧ s.Sees closing seen
  | aside next => s.Alike next
  | accept _ | close _ | release _ => True

end Event

/-- What has happened to a server since its start, the latest first. -/
inductive Run (start : Server) : List Event → Server → Prop where
  | start : Run start [] start
  | step {past : List Event} {s : Server} (event : Event) (hRun : Run start past s)
      (hAllowed : event.Allowed past s) : Run start (event :: past) (event.apply s)

/-! ## Connections that close together -/

namespace Server

theorem closeAll_withGame (ids : List ConnectionId) (s : Server) (game : Game) :
    closeAll ids { s with game } = { s.closeAll ids with game } := by
  induction ids generalizing s with
  | nil => rfl
  | cons id ids ih =>
    change closeAll ids (close id { s with game }) = { closeAll ids (s.close id) with game }
    rw [close_withGame, ih]

theorem game_closeAll (ids : List ConnectionId) (s : Server) : (s.closeAll ids).game = s.game := by
  have hSame := congrArg Server.game (closeAll_withGame ids s s.game)
  exact hSame

theorem closeAll_spec (ids : List ConnectionId) {s : Server} (hRunning : s.tasks.stopped = false) :
    (s.closeAll ids).tasks.stopped = false ∧ (s.closeAll ids).config = s.config ∧
      (s.closeAll ids).game = s.game ∧
      ∀ other, (s.closeAll ids).seat? other =
        (s.seat? other).map fun seat => if other ∈ ids then .gone else seat := by
  induction ids generalizing s with
  | nil => exact ⟨hRunning, rfl, rfl, fun other => by simp [closeAll]⟩
  | cons id ids ih =>
    obtain ⟨hConfig, hGame, hTasks, hSeat⟩ := s.close_spec id hRunning
    have hStill : (s.close id).tasks.stopped = false := by rw [hTasks, hRunning]
    obtain ⟨hLast, hConfigs, hGames, hSeats⟩ := ih hStill
    refine ⟨hLast, hConfigs.trans hConfig, hGames.trans hGame, fun other => ?_⟩
    refine (hSeats other).trans ?_
    rw [hSeat, Option.map_map]
    congr 1
    funext seat
    simp only [Function.comp_apply, List.mem_cons]
    split <;> split <;> simp_all

theorem isOpen_closeAll_withTasks {s : Server} {tasks : TaskQueue GameTask}
    (hRunning : s.tasks.stopped = false) (hStill : tasks.stopped = false)
    (ids : List ConnectionId) (id : ConnectionId) :
    (closeAll ids { s with tasks }).isOpen id = (s.closeAll ids).isOpen id := by
  obtain ⟨-, -, -, hSeats⟩ := closeAll_spec ids hRunning
  obtain ⟨-, -, -, hOther⟩ := closeAll_spec ids (s := { s with tasks }) hStill
  rw [Bool.eq_iff_iff, isOpen_iff, isOpen_iff, hSeats, hOther]
  rfl

end Server

/-! ## The calls of the server are such events -/

theorem Server.turn_isOpen (now wall : Nat) (task : GameTask) (s : Server) :
    s.turn s.isOpen [] now wall task = s.runTask now wall task := by
  cases task <;> rfl

theorem Server.sees_isOpen (s : Server) : s.Sees [] s.isOpen :=
  ⟨fun _ hOpen => hOpen, fun _ hClosed => hClosed⟩

theorem Event.apply_turn {s : Server} {task : GameTask} (hFirst : s.tasks.ready.head? = some task)
    (seen : ConnectionId → Bool) (closing : List ConnectionId) (now wall : Nat) :
    ∃ ready, s.tasks.ready = task :: ready ∧
      (Event.turn task seen closing now wall).apply s =
        Server.turn seen closing now wall task { s with tasks := { s.tasks with ready } } := by
  cases hReady : s.tasks.ready with
  | nil =>
    rw [hReady] at hFirst
    cases hFirst
  | cons first ready =>
    rw [hReady] at hFirst
    cases hFirst
    exact ⟨ready, rfl, by rw [Event.apply, TaskQueue.take?, hReady]⟩

theorem Event.apply_turn_isOpen {s : Server} {task : GameTask}
    (hFirst : s.tasks.ready.head? = some task) (now wall : Nat) :
    (Event.turn task s.isOpen [] now wall).apply s = s.runNext now wall := by
  obtain ⟨ready, hReady, hTurn⟩ := Event.apply_turn hFirst s.isOpen [] now wall
  rw [hTurn, Server.runNext, TaskQueue.take?, hReady]
  exact Server.turn_isOpen now wall task _

theorem TaskQueue.splitDue_eq {τ : Type} {now : Nat} {delayed rest : List (Delayed τ)} {task : τ}
    (hSplit : splitDue now delayed = some (task, rest)) :
    ∃ n d, delayed[n]? = some d ∧ d.task = task ∧ delayed.eraseIdx n = rest := by
  induction delayed generalizing rest with
  | nil => cases hSplit
  | cons first delayed ih =>
    rw [splitDue] at hSplit
    split at hSplit
    case isTrue =>
      cases hSplit
      exact ⟨0, first, rfl, rfl, rfl⟩
    case isFalse =>
      rw [Option.map_eq_some_iff] at hSplit
      obtain ⟨⟨found, left⟩, hFound, hPair⟩ := hSplit
      cases hPair
      obtain ⟨n, d, hAt, hTask, hRest⟩ := ih hFound
      exact ⟨n + 1, d, hAt, hTask, by rw [List.eraseIdx_cons_succ, hRest]⟩

theorem Event.apply_release (s : Server) (now : Nat) (hRunning : s.tasks.stopped = false) :
    s.releaseNext now = s ∨ ∃ n, s.releaseNext now = (Event.release n).apply s := by
  rw [Server.releaseNext, TaskQueue.takeDue?]
  cases hSplit : TaskQueue.splitDue now s.tasks.delayed with
  | none => exact Or.inl rfl
  | some found =>
    obtain ⟨n, d, hAt, hTask, hRest⟩ := TaskQueue.splitDue_eq hSplit
    refine Or.inr ⟨n, ?_⟩
    have hPosted := Server.post_eq
      (s := { s with tasks := { s.tasks with delayed := found.2 } }) hRunning found.1
    rw [Event.apply, Server.releaseAt, hAt]
    simp only [Option.map_some, hTask, hRest]
    exact if_pos (congrArg (·.1) hPosted)

/-- The effects of the handler of logouts are a removal and a closing. -/
theorem Event.apply_logout (s : Server) (id : ConnectionId) (handle : SessionHandle)
    (r : Wire.FrameReader) :
    s.performAll id (Handler.logout handle r).2 =
      (Event.close id).apply ((Event.logout id handle).apply s) :=
  rfl

end Gatehouse
