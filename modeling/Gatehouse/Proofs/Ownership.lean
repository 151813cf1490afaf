import Mathlib.Data.List.Perm.Basic
import Gatehouse.Proofs.Traffic

/-!
# Who holds a session

A session refers to its connection and a connection refers to its session, and different tasks write
the two references. What keeps them together is that a connection asks once, that an open connection
which holds a session is the one that the session refers to, and that a reference to a connection
which has closed is owed a detaching.
-/

namespace Gatehouse

def GameTask.asker? : GameTask → Option ConnectionId
  | attach request _ | reattach _ request _ => some request.connection
  | detach .. | logout .. | setDead .. | removeSession .. => none

def TaskQueue.askers (q : TaskQueue GameTask) : List ConnectionId :=
  (q.ready ++ q.delayed.map (·.task)).filterMap GameTask.asker?

namespace TaskQueue

/-- Tasks that do not count are posted unnoticed. -/
theorem filterMap_post {β : Type} {f : GameTask → Option β} (q : TaskQueue GameTask)
    {posted : List GameTask} (hPosted : ∀ task ∈ posted, f task = none) :
    (q.ready ++ posted ++ q.delayed.map (·.task)).filterMap f =
      (q.ready ++ q.delayed.map (·.task)).filterMap f := by
  have hNone : posted.filterMap f = [] := List.filterMap_eq_nil_iff.mpr hPosted
  simp only [List.filterMap_append, hNone, List.append_nil]

theorem perm_release (q : TaskQueue GameTask) {n : Nat} {d : Delayed GameTask}
    (hAt : q.delayed[n]? = some d) :
    (q.ready ++ [d.task] ++ (q.delayed.eraseIdx n).map (·.task)).Perm
      (q.ready ++ q.delayed.map (·.task)) := by
  obtain ⟨hInside, rfl⟩ := List.getElem?_eq_some_iff.mp hAt
  rw [List.append_assoc, List.singleton_append, ← List.map_cons]
  exact ((List.getElem_cons_eraseIdx_perm hInside).map _).append_left _

end TaskQueue

namespace Server

/-- A connection that has asked and has been answered. -/
structure Answered (asked : List ConnectionId) (s : Server) (c : ConnectionId) : Prop where
  asked : c ∈ asked
  notWaiting : c ∉ s.tasks.askers

structure Idle (s : Server) (c : ConnectionId) : Prop where
  notHolding : s.held? c = none
  notLinked : ∀ id h, s.game.sessions.link? id ≠ some (h, some c)

/-- What holds between the tasks of a game, after some connections have asked and some sessions have
been removed by a logout. -/
structure Owned (asked : List ConnectionId) (removed : List SessionId) (s : Server) : Prop where
  running : s.tasks.stopped = false
  delayed : ∀ d ∈ s.tasks.delayed, d.task.asker?.isSome = true
  asksOnce : s.tasks.askers.Nodup
  hasAsked : ∀ c ∈ s.tasks.askers, c ∈ asked
  nextId : s.game.sessions.nextId = UInt32.ofNat (s.game.sessions.created + 1)
  link_le : ∀ id e, s.game.sessions.link? id = some e → id.toNat ≤ s.game.sessions.created
  held_le : ∀ c h, s.held? c = some h → h.id.toNat ≤ s.game.sessions.created
  link_answered : ∀ id h c, s.game.sessions.link? id = some (h, some c) → s.Answered asked c
  held_answered : ∀ c h, s.held? c = some h → s.Answered asked c
  unique : ∀ c d h k, s.held? c = some h → s.held? d = some k → h.id = k.id → c = d
  back : ∀ c h e, s.held? c = some h → s.game.sessions.link? h.id = some e → e = (h, some c)
  /-- The connection of a session holds it or is going to be detached. -/
  owed : ∀ id h c, s.game.sessions.link? id = some (h, some c) →
    s.held? c = some h ∨ .detach id c ∈ s.tasks.ready
  /-- Detaching is for connections that have closed. -/
  left : ∀ id c, .detach id c ∈ s.tasks.ready → s.seat? c = some .gone
  removed_le : ∀ id ∈ removed, id.toNat ≤ s.game.sessions.created
  removed_gone : ∀ id ∈ removed, s.game.sessions.link? id = none
  lost : ∀ c h, s.held? c = some h → s.game.sessions.link? h.id = none → h.id ∈ removed

variable {asked : List ConnectionId} {removed : List SessionId} {s t : Server}

theorem held?_of_seat? {id : ConnectionId} (hSeat : t.seat? id = s.seat? id) :
    t.held? id = s.held? id := by
  rw [held?, held?, hSeat]

/-- Nobody holds a session that refers to no connection or to one that has closed. -/
theorem Owned.not_held (hs : s.Owned asked removed) {id : SessionId} {h : SessionHandle}
    {connection? : Option ConnectionId}
    (hLink : s.game.sessions.link? id = some (h, connection?))
    (hClosed : ∀ c, connection? = some c → s.isOpen c = false) :
    ∀ c k, s.held? c = some k → k.id ≠ id := by
  rintro c k hHeld rfl
  have hSame := hs.back c k _ hHeld hLink
  cases hSame
  have hShut := hClosed c rfl
  rw [isOpen_of_held? hHeld] at hShut
  cases hShut

/-! ## Steps that take nothing up -/

/-- Sessions may go if they count as removed, and those that nobody holds may forget their
connections. -/
theorem Owned.mono (hs : s.Owned asked removed) {removed' : List SessionId}
    (hTasks : t.tasks = s.tasks) (hHeld : ∀ c, t.held? c = s.held? c)
    (hGone : ∀ c, s.seat? c = some .gone → t.seat? c = some .gone)
    (hCreated : s.game.sessions.created ≤ t.game.sessions.created)
    (hNext : t.game.sessions.nextId = UInt32.ofNat (t.game.sessions.created + 1))
    (hLink : ∀ id h connection?, t.game.sessions.link? id = some (h, connection?) →
      ∃ before?, s.game.sessions.link? id = some (h, before?) ∧
        (connection? = before? ∨
          connection? = none ∧ ∀ c k, s.held? c = some k → k.id ≠ id))
    (hMore : ∀ id ∈ removed, id ∈ removed')
    (hRemoved : ∀ id ∈ removed', id ∈ removed ∨
      id.toNat ≤ t.game.sessions.created ∧ t.game.sessions.link? id = none)
    (hLost : ∀ id e, s.game.sessions.link? id = some e →
      t.game.sessions.link? id = none → id ∈ removed') :
    t.Owned asked removed' := by
  have hOwner : ∀ id h c, t.game.sessions.link? id = some (h, some c) →
      s.game.sessions.link? id = some (h, some c) := by
    intro id h c hAfter
    obtain ⟨before?, hBefore, hSame | ⟨hNone, -⟩⟩ := hLink id h (some c) hAfter
    · rw [hBefore, ← hSame]
    · cases hNone
  have hAnswered : ∀ c, s.Answered asked c → t.Answered asked c := by
    intro c hAnswer
    exact ⟨hAnswer.asked, hTasks ▸ hAnswer.notWaiting⟩
  constructor
  case running => rw [hTasks, hs.running]
  case delayed => exact hTasks ▸ hs.delayed
  case asksOnce => exact hTasks ▸ hs.asksOnce
  case hasAsked => exact hTasks ▸ hs.hasAsked
  case nextId => exact hNext
  case link_le =>
    rintro id ⟨h, connection?⟩ hAfter
    obtain ⟨before?, hBefore, -⟩ := hLink id h connection? hAfter
    exact (hs.link_le id _ hBefore).trans hCreated
  case held_le =>
    intro c h hAfter
    exact (hs.held_le c h (hHeld c ▸ hAfter)).trans hCreated
  case link_answered =>
    intro id h c hAfter
    exact hAnswered c (hs.link_answered id h c (hOwner id h c hAfter))
  case held_answered =>
    intro c h hAfter
    exact hAnswered c (hs.held_answered c h (hHeld c ▸ hAfter))
  case unique =>
    intro c d h k hFirst hSecond
    exact hs.unique c d h k (hHeld c ▸ hFirst) (hHeld d ▸ hSecond)
  case back =>
    rintro c h ⟨k, connection?⟩ hAfter hHas
    rw [hHeld] at hAfter
    obtain ⟨before?, hBefore, hSame | ⟨-, hFree⟩⟩ := hLink h.id k connection? hHas
    · rw [hSame]
      exact hs.back c h _ hAfter hBefore
    · exact absurd rfl (hFree c h hAfter)
  case owed =>
    intro id h c hAfter
    rw [hHeld, hTasks]
    exact hs.owed id h c (hOwner id h c hAfter)
  case left =>
    intro id c hQueued
    exact hGone c (hs.left id c (hTasks ▸ hQueued))
  case removed_le =>
    intro id hId
    rcases hRemoved id hId with hBefore | ⟨hLe, -⟩
    · exact (hs.removed_le id hBefore).trans hCreated
    · exact hLe
  case removed_gone =>
    intro id hId
    rcases hRemoved id hId with hBefore | ⟨-, hNone⟩
    · refine Option.eq_none_iff_forall_ne_some.mpr fun ⟨h, connection?⟩ hAfter => ?_
      obtain ⟨before?, hHas, -⟩ := hLink id h connection? hAfter
      rw [hs.removed_gone id hBefore] at hHas
      cases hHas
    · exact hNone
  case lost =>
    intro c h hAfter hNone
    rw [hHeld] at hAfter
    cases hBefore : s.game.sessions.link? h.id with
    | none => exact hMore _ (hs.lost c h hAfter hBefore)
    | some e => exact hLost h.id e hBefore hNone

theorem Owned.alike (hs : s.Owned asked removed) (hAlike : s.Alike t) : t.Owned asked removed := by
  have hSessions : t.game.sessions = s.game.sessions := by rw [hAlike.game]
  refine hs.mono hAlike.tasks (fun c => held?_of_seat? (hAlike.seat? c)) ?_ ?_ ?_ ?_
    (fun _ hId => hId) (fun _ hId => Or.inl hId) ?_
  · intro c hGone
    rw [hAlike.seat?, hGone]
  · rw [hSessions]
  · rw [hSessions, hs.nextId]
  · intro id h connection? hLink
    exact ⟨connection?, hSessions ▸ hLink, Or.inl rfl⟩
  · intro id e hBefore hNone
    rw [hSessions, hBefore] at hNone
    cases hNone

theorem held?_accept (s : Server) (peer : SocketAddress) (id : ConnectionId) :
    (s.accept peer).2.held? id = s.held? id := by
  rw [held?, held?, seat?_accept]
  cases s.seat? id with
  | none =>
    rw [Option.none_or]
    by_cases hNew : id = s.connections.length + 1
    · rw [if_pos hNew]
    · rw [if_neg hNew]
  | some seat => rw [Option.some_or]

theorem Owned.accept (hs : s.Owned asked removed) (peer : SocketAddress) :
    Owned asked removed (s.accept peer).2 := by
  refine hs.mono rfl (s.held?_accept peer) ?_ le_rfl hs.nextId ?_ (fun _ hId => hId)
    (fun _ hId => Or.inl hId) ?_
  · intro c hGone
    rw [seat?_accept, hGone, Option.some_or]
  · exact fun id h connection? hLink => ⟨connection?, hLink, Or.inl rfl⟩
  · intro id e hBefore hNone
    cases hBefore.symm.trans hNone

theorem owned_start (config : Config) (key : Rsa.Key) (state : WorldState) (world : World)
    (handlers : HandlerTable) (capacity : Nat) :
    Owned [] [] (start config key state world handlers capacity) where
  running := rfl
  delayed := fun _ hLater => nomatch hLater
  asksOnce := List.nodup_nil
  hasAsked := fun _ hWaits => nomatch hWaits
  nextId := rfl
  link_le := fun _ _ hLink => nomatch hLink
  held_le := fun _ _ hHeld => nomatch hHeld
  link_answered := fun _ _ _ hLink => nomatch hLink
  held_answered := fun _ _ hHeld => nomatch hHeld
  unique := fun _ _ _ _ hHeld => nomatch hHeld
  back := fun _ _ _ hHeld => nomatch hHeld
  owed := fun _ _ _ hLink => nomatch hLink
  left := fun _ _ hQueued => nomatch hQueued
  removed_le := fun _ hId => nomatch hId
  removed_gone := fun _ hId => nomatch hId
  lost := fun _ _ hHeld => nomatch hHeld

/-- A game that has kept its sessions, of which those that nobody holds may have forgotten their
connections. -/
theorem Owned.withGame (hs : s.Owned asked removed) {game : Game}
    (hCreated : s.game.sessions.created ≤ game.sessions.created)
    (hNext : game.sessions.nextId = UInt32.ofNat (game.sessions.created + 1))
    (hLink : ∀ id h connection?, game.sessions.link? id = some (h, connection?) →
      ∃ before?, s.game.sessions.link? id = some (h, before?) ∧
        (connection? = before? ∨
          connection? = none ∧ ∀ c k, s.held? c = some k → k.id ≠ id))
    (hKept : ∀ id e, s.game.sessions.link? id = some e → game.sessions.link? id ≠ none) :
    Owned asked removed { s with game } :=
  hs.mono (t := { s with game }) rfl (fun _ => rfl) (fun _ hGone => hGone) hCreated hNext hLink
    (fun _ hId => hId) (fun _ hId => Or.inl hId)
    fun id e hBefore hNone => absurd hNone (hKept id e hBefore)

theorem Owned.withLinks (hs : s.Owned asked removed) {game : Game}
    (hCreated : s.game.sessions.created ≤ game.sessions.created)
    (hNext : game.sessions.nextId = UInt32.ofNat (game.sessions.created + 1))
    (hSame : ∀ id, game.sessions.link? id = s.game.sessions.link? id) :
    Owned asked removed { s with game } := by
  refine hs.withGame hCreated hNext ?_ ?_
  · intro id h connection? hLink
    rw [hSame] at hLink
    exact ⟨connection?, hLink, Or.inl rfl⟩
  · intro id e hLink
    rw [hSame, hLink]
    exact Option.some_ne_none e

/-! ## Steps of the queue -/

/-- Tasks that are posted, for requests of connections that have not asked before. -/
theorem Owned.withTasks (hs : s.Owned asked removed) {asked' : List ConnectionId}
    {tasks : TaskQueue GameTask} (hRunning : tasks.stopped = false)
    (hDelayed : ∀ d ∈ tasks.delayed, d.task.asker?.isSome = true)
    (hOnce : tasks.askers.Nodup) (hAsked : ∀ c ∈ tasks.askers, c ∈ asked')
    (hMore : ∀ c ∈ asked, c ∈ asked')
    (hAnswered : ∀ c, s.Answered asked c → c ∈ tasks.askers → s.Idle c)
    (hDetach : ∀ id c, .detach id c ∈ s.tasks.ready → .detach id c ∈ tasks.ready ∨
      ∀ h, s.game.sessions.link? id ≠ some (h, some c))
    (hNoMore : ∀ id c, .detach id c ∈ tasks.ready → .detach id c ∈ s.tasks.ready) :
    Owned asked' removed { s with tasks } := by
  have hAnswers : ∀ c, s.Answered asked c → ¬ s.Idle c → Answered asked' { s with tasks } c :=
    fun c hAnswer hBusy => ⟨hMore c hAnswer.asked, fun hWaits => hBusy (hAnswered c hAnswer hWaits)⟩
  constructor
  case running => exact hRunning
  case delayed => exact hDelayed
  case asksOnce => exact hOnce
  case hasAsked => exact hAsked
  case nextId => exact hs.nextId
  case link_le => exact hs.link_le
  case held_le => exact hs.held_le
  case link_answered =>
    intro id h c hLink
    exact hAnswers c (hs.link_answered id h c hLink) fun hIdle => hIdle.notLinked id h hLink
  case held_answered =>
    intro c h hHeld
    refine hAnswers c (hs.held_answered c h hHeld) fun hIdle => ?_
    exact absurd (hIdle.notHolding.symm.trans hHeld) (Option.some_ne_none h).symm
  case unique => exact hs.unique
  case back => exact hs.back
  case owed =>
    intro id h c hLink
    refine (hs.owed id h c hLink).imp_right fun hQueued => ?_
    rcases hDetach id c hQueued with hStill | hForgotten
    · exact hStill
    · exact absurd hLink (hForgotten h)
  case left => exact fun id c hQueued => hs.left id c (hNoMore id c hQueued)
  case removed_le => exact hs.removed_le
  case removed_gone => exact hs.removed_gone
  case lost => exact hs.lost

theorem Owned.post_attach (hs : s.Owned asked removed) {request : AttachRequest} {caller : Caller}
    (hNew : request.connection ∉ asked) :
    Owned (request.connection :: asked) removed (s.post (.attach request caller)).2 := by
  have hAskers : (TaskQueue.askers
      { s.tasks with ready := s.tasks.ready ++ [.attach request caller] }).Perm
        (request.connection :: s.tasks.askers) := by
    rw [TaskQueue.askers, List.append_assoc, List.filterMap_append]
    exact List.perm_middle.trans (by rw [← List.filterMap_append]; rfl)
  rw [post_eq hs.running]
  refine hs.withTasks hs.running hs.delayed ?_ ?_ ?_ ?_ ?_ ?_
  · rw [hAskers.nodup_iff, List.nodup_cons]
    exact ⟨fun hWaits => hNew (hs.hasAsked _ hWaits), hs.asksOnce⟩
  · intro c hWaits
    rcases List.mem_cons.mp (hAskers.mem_iff.mp hWaits) with rfl | hWaits
    · exact List.mem_cons_self
    · exact List.mem_cons_of_mem _ (hs.hasAsked c hWaits)
  · exact fun c hAsked => List.mem_cons_of_mem _ hAsked
  · intro c hAnswer hWaits
    rcases List.mem_cons.mp (hAskers.mem_iff.mp hWaits) with rfl | hWaits
    · exact absurd hAnswer.asked hNew
    · exact absurd hWaits hAnswer.notWaiting
  · exact fun id c hQueued => Or.inl (List.mem_append_left _ hQueued)
  · intro id c hQueued
    simpa using hQueued

theorem Owned.post_logout (hs : s.Owned asked removed) (id : SessionId) (character : CharacterId) :
    Owned asked removed (s.post (.logout id character)).2 := by
  have hAskers : TaskQueue.askers
      { s.tasks with ready := s.tasks.ready ++ [.logout id character] } = s.tasks.askers :=
    s.tasks.filterMap_post (by simp [GameTask.asker?])
  rw [post_eq hs.running]
  refine hs.withTasks hs.running hs.delayed ?_ ?_ (fun _ hAsked => hAsked) ?_ ?_ ?_
  · exact hAskers ▸ hs.asksOnce
  · exact hAskers ▸ hs.hasAsked
  · exact fun c hAnswer hWaits => absurd (hAskers ▸ hWaits) hAnswer.notWaiting
  · exact fun id c hQueued => Or.inl (List.mem_append_left _ hQueued)
  · intro id c hQueued
    simpa using hQueued

theorem Owned.releaseAt (hs : s.Owned asked removed) (n : Nat) :
    Owned asked removed (s.releaseAt n) := by
  rw [Server.releaseAt]
  split
  case h_1 => exact hs
  case h_2 d hAt =>
    have hTask := hs.delayed d (List.mem_of_getElem? hAt)
    have hAskers : (TaskQueue.askers
        { s.tasks with
          ready := s.tasks.ready ++ [d.task], delayed := s.tasks.delayed.eraseIdx n }).Perm
        s.tasks.askers :=
      (s.tasks.perm_release hAt).filterMap _
    have hPosted := post_eq
      (s := { s with tasks := { s.tasks with delayed := s.tasks.delayed.eraseIdx n } }) hs.running
      d.task
    rw [hPosted]
    refine hs.withTasks hs.running ?_ ?_ ?_ (fun _ hAsked => hAsked) ?_ ?_ ?_
    · exact fun e hLater => hs.delayed e (List.mem_of_mem_eraseIdx hLater)
    · exact hAskers.nodup_iff.mpr hs.asksOnce
    · exact fun c hWaits => hs.hasAsked c (hAskers.mem_iff.mp hWaits)
    · exact fun c hAnswer hWaits => absurd (hAskers.mem_iff.mp hWaits) hAnswer.notWaiting
    · exact fun id c hQueued => Or.inl (List.mem_append_left _ hQueued)
    · intro id c hQueued
      rcases List.mem_append.mp hQueued with hQueued | hQueued
      · exact hQueued
      · rw [← List.mem_singleton.mp hQueued] at hTask
        cases hTask

theorem held?_close (s : Server) (c other : ConnectionId) (hRunning : s.tasks.stopped = false) :
    (s.close c).held? other = if other = c then none else s.held? other := by
  rw [held?, held?, (s.close_spec c hRunning).2.2.2]
  by_cases hHere : other = c
  · simp only [if_pos hHere]
    cases s.seat? other <;> rfl
  · simp only [if_neg hHere, Option.map_id']

theorem filterMap_tasks_close {β : Type} {f : GameTask → Option β}
    (hDetach : ∀ id c, f (.detach id c) = none) (s : Server) (c : ConnectionId)
    (hRunning : s.tasks.stopped = false) :
    ((s.close c).tasks.ready ++ (s.close c).tasks.delayed.map (·.task)).filterMap f =
      (s.tasks.ready ++ s.tasks.delayed.map (·.task)).filterMap f := by
  rw [(s.close_spec c hRunning).2.2.1]
  refine s.tasks.filterMap_post fun task hTask => ?_
  obtain ⟨h, -, rfl⟩ : ∃ h, s.held? c = some h ∧ .detach h.id c = task := by
    simpa [farewell] using hTask
  exact hDetach h.id c

theorem askers_close (s : Server) (c : ConnectionId) (hRunning : s.tasks.stopped = false) :
    (s.close c).tasks.askers = s.tasks.askers :=
  filterMap_tasks_close (fun _ _ => rfl) s c hRunning

theorem Answered.close {c : ConnectionId} (hAnswered : s.Answered asked c)
    (hRunning : s.tasks.stopped = false) (other : ConnectionId) :
    (s.close other).Answered asked c :=
  ⟨hAnswered.asked, s.askers_close other hRunning ▸ hAnswered.notWaiting⟩

theorem Idle.close {c : ConnectionId} (hIdle : s.Idle c) (hRunning : s.tasks.stopped = false)
    (other : ConnectionId) : (s.close other).Idle c := by
  refine ⟨?_, ?_⟩
  · rw [held?_close s other c hRunning, hIdle.notHolding, ite_self]
  · rw [game_close]
    exact hIdle.notLinked

theorem Owned.close (hs : s.Owned asked removed) (c : ConnectionId) :
    Owned asked removed (s.close c) := by
  obtain ⟨-, hGame, hTasks, hSeat⟩ := s.close_spec c hs.running
  have hHeld := fun other => s.held?_close c other hs.running
  have hAskers := s.askers_close c hs.running
  have hStill : ∀ other h, (s.close c).held? other = some h → s.held? other = some h := by
    intro other h hAfter
    rw [hHeld] at hAfter
    split at hAfter
    · cases hAfter
    · exact hAfter
  have hAnswered : ∀ other, s.Answered asked other → (s.close c).Answered asked other :=
    fun other hAnswer => hAnswer.close hs.running c
  constructor
  case running => rw [hTasks]; exact hs.running
  case delayed => rw [hTasks]; exact hs.delayed
  case asksOnce => exact hAskers ▸ hs.asksOnce
  case hasAsked => exact hAskers ▸ hs.hasAsked
  case nextId => rw [hGame, hs.nextId]
  case link_le => rw [hGame]; exact hs.link_le
  case held_le =>
    intro other h hAfter
    rw [hGame]
    exact hs.held_le other h (hStill other h hAfter)
  case link_answered =>
    rw [hGame]
    exact fun id h other hLink => hAnswered other (hs.link_answered id h other hLink)
  case held_answered =>
    exact fun other h hAfter => hAnswered other (hs.held_answered other h (hStill other h hAfter))
  case unique =>
    exact fun c d h k hFirst hSecond =>
      hs.unique c d h k (hStill c h hFirst) (hStill d k hSecond)
  case back =>
    rw [hGame]
    exact fun other h e hAfter => hs.back other h e (hStill other h hAfter)
  case owed =>
    intro id h other hLink
    rw [hGame] at hLink
    rw [hHeld, hTasks]
    rcases hs.owed id h other hLink with hHolds | hQueued
    · split
      case isTrue hHere =>
        -- the connection that holds it is the one that closes
        refine Or.inr (List.mem_append_right _ ?_)
        rw [farewell, ← hHere, hHolds, ← SessionRegistry.id_of_link? hLink]
        exact List.mem_singleton_self _
      case isFalse => exact Or.inl hHolds
    · exact Or.inr (List.mem_append_left _ hQueued)
  case left =>
    intro id other hQueued
    rw [hTasks] at hQueued
    rw [hSeat]
    rcases List.mem_append.mp hQueued with hQueued | hQueued
    · rw [hs.left id other hQueued, Option.map_some, ite_self]
    · obtain ⟨h, hHolds, hTask⟩ : ∃ h, s.held? c = some h ∧
          GameTask.detach h.id c = .detach id other := by
        simpa [farewell] using hQueued
      cases hTask
      rw [held?_eq_some_iff.mp hHolds, Option.map_some, if_pos rfl]
  case removed_le => rw [hGame]; exact hs.removed_le
  case removed_gone => rw [hGame]; exact hs.removed_gone
  case lost =>
    rw [hGame]
    exact fun other h hAfter => hs.lost other h (hStill other h hAfter)

theorem Owned.drop (hs : s.Owned asked removed) {task : GameTask} {ready : List GameTask}
    (hReady : s.tasks.ready = task :: ready)
    (hDetach : ∀ id c, task = .detach id c → ∀ h, s.game.sessions.link? id ≠ some (h, some c)) :
    Owned asked removed { s with tasks := { s.tasks with ready } } := by
  have hAskers : List.Sublist (TaskQueue.askers { s.tasks with ready }) s.tasks.askers := by
    rw [TaskQueue.askers, TaskQueue.askers, hReady]
    exact (List.sublist_cons_self task _).filterMap _
  refine hs.withTasks hs.running hs.delayed (hs.asksOnce.sublist hAskers) ?_
    (fun _ hAsked => hAsked) ?_ ?_ ?_
  · exact fun c hWaits => hs.hasAsked c (hAskers.subset hWaits)
  · exact fun c hAnswer hWaits => absurd (hAskers.subset hWaits) hAnswer.notWaiting
  · intro id c hQueued
    rw [hReady] at hQueued
    rcases List.mem_cons.mp hQueued with hFirst | hQueued
    · exact Or.inr (hDetach id c hFirst.symm)
    · exact Or.inl hQueued
  · intro id c hQueued
    rw [hReady]
    exact List.mem_cons_of_mem _ hQueued

/-- A connection of which the request is taken up does not wait any more, and has nothing yet. -/
theorem Owned.taken_up (hs : s.Owned asked removed) {task : GameTask} {ready : List GameTask}
    (hReady : s.tasks.ready = task :: ready) {c : ConnectionId} (hAsker : task.asker? = some c) :
    Answered asked { s with tasks := { s.tasks with ready } } c ∧ s.Idle c := by
  have hAskers : s.tasks.askers = c :: TaskQueue.askers { s.tasks with ready } := by
    rw [TaskQueue.askers, hReady, List.cons_append, List.filterMap_cons_some hAsker]
    rfl
  have hWaits : c ∈ s.tasks.askers := hAskers ▸ List.mem_cons_self
  have hOnce := hs.asksOnce
  rw [hAskers, List.nodup_cons] at hOnce
  refine ⟨⟨hs.hasAsked c hWaits, hOnce.1⟩, ?_, ?_⟩
  · rw [Option.eq_none_iff_forall_ne_some]
    exact fun h hHeld => (hs.held_answered c h hHeld).notWaiting hWaits
  · exact fun id h hLink => (hs.link_answered id h c hLink).notWaiting hWaits

theorem Owned.closeAll (hs : s.Owned asked removed) (ids : List ConnectionId) :
    Owned asked removed (s.closeAll ids) := by
  induction ids generalizing s with
  | nil => exact hs
  | cons id ids ih => exact ih (hs.close id)

theorem Owned.answered_closeAll (hs : s.Owned asked removed) {c : ConnectionId}
    (hAnswered : s.Answered asked c) (hIdle : s.Idle c) (ids : List ConnectionId) :
    (s.closeAll ids).Answered asked c ∧ (s.closeAll ids).Idle c := by
  induction ids generalizing s with
  | nil => exact ⟨hAnswered, hIdle⟩
  | cons id ids ih =>
    exact ih (hs.close id) (hAnswered.close hs.running id) (hIdle.close hs.running id)

theorem Owned.schedule (hs : s.Owned asked removed) {session : SessionId} {request : AttachRequest}
    {caller : Caller} (hAnswered : s.Answered asked request.connection)
    (hIdle : s.Idle request.connection) (due : Nat) :
    Owned asked removed
      { s with tasks := s.tasks.schedule due (.reattach session request caller) } := by
  have hAskers : (s.tasks.schedule due (.reattach session request caller)).askers =
      s.tasks.askers ++ [request.connection] := by
    simp [TaskQueue.askers, TaskQueue.schedule, GameTask.asker?]
  refine hs.withTasks hs.running ?_ ?_ ?_ (fun _ hAsked => hAsked) ?_ ?_ ?_
  · intro d hLater
    rcases List.mem_append.mp hLater with hLater | hLater
    · exact hs.delayed d hLater
    · rw [List.mem_singleton.mp hLater]
      rfl
  · rw [hAskers, (List.perm_append_singleton _ _).nodup_iff, List.nodup_cons]
    exact ⟨hAnswered.notWaiting, hs.asksOnce⟩
  · intro c hWaits
    rw [hAskers] at hWaits
    rcases List.mem_append.mp hWaits with hWaits | hWaits
    · exact hs.hasAsked c hWaits
    · exact List.mem_singleton.mp hWaits ▸ hAnswered.asked
  · intro c hAnswer hWaits
    rw [hAskers] at hWaits
    rcases List.mem_append.mp hWaits with hWaits | hWaits
    · exact absurd hWaits hAnswer.notWaiting
    · exact List.mem_singleton.mp hWaits ▸ hIdle
  · exact fun id c hQueued => Or.inl hQueued
  · exact fun id c hQueued => hQueued

/-! ## Giving a session to a connection -/

/-- A session that nobody holds goes to an open connection that has nothing. -/
theorem Owned.give (hs : s.Owned asked removed) {c : ConnectionId} {h : SessionHandle}
    (hAnswered : s.Answered asked c) (hIdle : s.Idle c) (hOpen : s.seat? c ≠ some .gone)
    (hFree : ∀ d k, s.held? d = some k → k.id ≠ h.id) (hNotRemoved : ∀ id ∈ removed, id ≠ h.id)
    (hTasks : t.tasks = s.tasks)
    (hSeat : ∀ d, t.seat? d = if d = c then some (.live (some h)) else s.seat? d)
    (hCreated : s.game.sessions.created ≤ t.game.sessions.created)
    (hNext : t.game.sessions.nextId = UInt32.ofNat (t.game.sessions.created + 1))
    (hId : h.id.toNat ≤ t.game.sessions.created)
    (hLink : ∀ id, t.game.sessions.link? id =
      if id = h.id then some (h, some c) else s.game.sessions.link? id) :
    t.Owned asked removed := by
  have hHeld : ∀ d, t.held? d = if d = c then some h else s.held? d := by
    intro d
    rw [held?, hSeat]
    by_cases hHere : d = c
    · rw [if_pos hHere, if_pos hHere]
    · rw [if_neg hHere, if_neg hHere, held?]
  have hAnswers : ∀ d, s.Answered asked d → t.Answered asked d :=
    fun d hAnswer => ⟨hAnswer.asked, hTasks ▸ hAnswer.notWaiting⟩
  constructor
  case running => rw [hTasks, hs.running]
  case delayed => exact hTasks ▸ hs.delayed
  case asksOnce => exact hTasks ▸ hs.asksOnce
  case hasAsked => exact hTasks ▸ hs.hasAsked
  case nextId => exact hNext
  case link_le =>
    intro id e hHas
    rw [hLink] at hHas
    split at hHas
    case isTrue hHere => exact hHere ▸ hId
    case isFalse => exact (hs.link_le id e hHas).trans hCreated
  case held_le =>
    intro d k hHas
    rw [hHeld] at hHas
    split at hHas
    case isTrue => exact Option.some.inj hHas ▸ hId
    case isFalse => exact (hs.held_le d k hHas).trans hCreated
  case link_answered =>
    intro id k d hHas
    rw [hLink] at hHas
    split at hHas
    case isTrue =>
      cases hHas
      exact hAnswers c hAnswered
    case isFalse => exact hAnswers d (hs.link_answered id k d hHas)
  case held_answered =>
    intro d k hHas
    rw [hHeld] at hHas
    split at hHas
    case isTrue hHere => exact hHere ▸ hAnswers c hAnswered
    case isFalse => exact hAnswers d (hs.held_answered d k hHas)
  case unique =>
    intro d e k l hFirst hSecond hSame
    rw [hHeld] at hFirst hSecond
    split at hFirst
    case isTrue hHere =>
      cases hFirst
      split at hSecond
      case isTrue hThere => rw [hHere, hThere]
      case isFalse => exact absurd hSame.symm (hFree e l hSecond)
    case isFalse =>
      split at hSecond
      case isTrue =>
        cases hSecond
        exact absurd hSame (hFree d k hFirst)
      case isFalse => exact hs.unique d e k l hFirst hSecond hSame
  case back =>
    intro d k e hHas hThere
    rw [hHeld] at hHas
    split at hHas
    case isTrue hHere =>
      cases hHas
      rw [hLink, if_pos rfl] at hThere
      rw [hHere]
      exact (Option.some.inj hThere).symm
    case isFalse =>
      rw [hLink, if_neg (hFree d k hHas)] at hThere
      exact hs.back d k e hHas hThere
  case owed =>
    intro id k d hHas
    rw [hLink] at hHas
    rw [hHeld, hTasks]
    split at hHas
    case isTrue =>
      cases hHas
      exact Or.inl (if_pos rfl)
    case isFalse =>
      have hOther : d ≠ c := by
        rintro rfl
        exact hIdle.notLinked id k hHas
      rw [if_neg hOther]
      exact hs.owed id k d hHas
  case left =>
    intro id d hQueued
    have hGone := hs.left id d (hTasks ▸ hQueued)
    rw [hSeat, if_neg, hGone]
    rintro rfl
    exact hOpen hGone
  case removed_le => exact fun id hGone => (hs.removed_le id hGone).trans hCreated
  case removed_gone =>
    intro id hGone
    rw [hLink, if_neg (hNotRemoved id hGone), hs.removed_gone id hGone]
  case lost =>
    intro d k hHas hNone
    rw [hHeld] at hHas
    rw [hLink] at hNone
    split at hHas
    case isTrue =>
      cases hHas
      rw [if_pos rfl] at hNone
      cases hNone
    case isFalse =>
      rw [if_neg (hFree d k hHas)] at hNone
      exact hs.lost d k hHas hNone

end Server

end Gatehouse
