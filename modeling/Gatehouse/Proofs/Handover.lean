import Gatehouse.Proofs.Ownership
import Gatehouse.Proofs.Roll

/-!
# Sessions that change hands

A task that answers a request leaves the references in order, whichever connections close while it
runs. So do a detaching, which asks whose the session is by now, and a logout, which does not ask.
-/

namespace Gatehouse

namespace SessionRegistry

theorem freshId_eq {r : SessionRegistry} (hNext : r.nextId = UInt32.ofNat (r.created + 1))
    (hFew : r.created + 1 < 2 ^ 32) : r.freshId = UInt32.ofNat (r.created + 1) := by
  have hValue : (UInt32.ofNat (r.created + 1)).toNat = r.created + 1 :=
    UInt32.toNat_ofNat_of_lt' hFew
  rw [freshId, hNext]
  change (if UInt32.ofNat (r.created + 1) ≤ 1 then 1 else UInt32.ofNat (r.created + 1)) = _
  split
  case isTrue hSmall =>
    rw [UInt32.le_iff_toNat_le, hValue] at hSmall
    have hZero : r.created = 0 := Nat.le_zero.mp (Nat.le_of_succ_le_succ hSmall)
    rw [hZero]
    rfl
  case isFalse => rfl

theorem toNat_freshId {r : SessionRegistry} (hNext : r.nextId = UInt32.ofNat (r.created + 1))
    (hFew : r.created + 1 < 2 ^ 32) : r.freshId.toNat = r.created + 1 := by
  rw [freshId_eq hNext hFew, UInt32.toNat_ofNat_of_lt' hFew]

theorem nextId_insert {r : SessionRegistry} (hNext : r.nextId = UInt32.ofNat (r.created + 1))
    (hFew : r.created + 1 < 2 ^ 32) (character : Character) (system : UInt16)
    (connection : ConnectionId) :
    (r.insert character system connection).2.nextId = UInt32.ofNat (r.created + 1 + 1) := by
  change r.freshId + 1 = _
  rw [freshId_eq hNext hFew]
  exact (UInt32.ofNat_add (r.created + 1) 1).symm

end SessionRegistry

namespace Server

variable {asked : List ConnectionId} {removed : List SessionId} {s : Server}
  {seen : ConnectionId → Bool} {now : Nat} {existing : SessionId} {request : AttachRequest}
  {caller : Caller} {step : Game.AttachStep} {game : Game}

/-! ## Answers -/

theorem Owned.setPending (hs : s.Owned asked removed) (id : SessionId) (pending : Bool) :
    Owned asked removed
      { s with game := { s.game with sessions := s.game.sessions.setPending id pending } } :=
  hs.withLinks le_rfl hs.nextId (s.game.sessions.link?_setPending id pending)

theorem not_live_of_not_open {c : ConnectionId} (hClosed : ¬ s.isOpen c = true) :
    ∀ session?, s.seat? c ≠ some (.live session?) :=
  fun session? hLive => hClosed (isOpen_iff.mpr ⟨session?, hLive⟩)

/-- Nobody holds a session of which the connection has been seen to be closed. -/
theorem Owned.not_held_of_free (hs : s.Owned asked removed) {session : Session}
    (hSession : s.game.sessions.get? existing = some session)
    (hFree : session.liveConnection? seen = none)
    (hSeen : ∀ c, seen c = false → s.isOpen c = false) :
    ∀ c k, s.held? c = some k → k.id ≠ existing := by
  refine hs.not_held (SessionRegistry.link?_of_get? hSession) fun c hConnection => hSeen c ?_
  rw [Session.liveConnection?, hConnection, Option.filter_some] at hFree
  simpa using hFree

theorem link?_takenOver {r : SessionRegistry} {session : Session}
    (hSession : r.get? existing = some session) (pending : Bool) (c : ConnectionId)
    (system : UInt16) (id : SessionId) :
    ((r.setPending existing pending).modify existing (·.attach c system)).link? id =
      if id = session.handle.id then some (session.handle, some c) else r.link? id := by
  have hId : session.handle.id = existing := SessionRegistry.id_of_get? hSession
  rw [SessionRegistry.link?_attach, SessionRegistry.link?_setPending, hId]
  split
  case isTrue hHere => rw [hHere, SessionRegistry.link?_of_get? hSession, Option.map_some]
  case isFalse => rfl

/-- The reference to the new connection is forgotten, and the one before is not restored. -/
theorem Owned.withdraw_takenOver (hs : s.Owned asked removed) {session : Session}
    (hSession : s.game.sessions.get? existing = some session)
    (hNobody : ∀ c k, s.held? c = some k → k.id ≠ existing) (c : ConnectionId) (system : UInt16) :
    Owned asked removed
      { s with game := { s.game with sessions :=
          ((s.game.sessions.setPending existing false).modify existing
            (·.attach c system)).detach session.handle.id c } } := by
  have hBefore := SessionRegistry.link?_of_get? hSession
  have hId : session.handle.id = existing := SessionRegistry.id_of_get? hSession
  have hAfter : ∀ id, (((s.game.sessions.setPending existing false).modify existing
      (·.attach c system)).detach session.handle.id c).link? id =
        if id = session.handle.id then some (session.handle, none)
        else s.game.sessions.link? id := by
    intro id
    rw [SessionRegistry.link?_detach, link?_takenOver hSession false c system]
    split
    · simp
    · rfl
  refine hs.withGame le_rfl hs.nextId ?_ ?_
  · intro id h connection? hHas
    rw [hAfter] at hHas
    split at hHas
    case isTrue hHere =>
      cases hHas
      exact ⟨_, by rw [hHere, hId, hBefore], Or.inr ⟨rfl, by rwa [hHere, hId]⟩⟩
    case isFalse => exact ⟨connection?, hHas, Or.inl rfl⟩
  · intro id e hHas
    rw [hAfter]
    split
    · exact Option.some_ne_none _
    · rw [hHas]
      exact Option.some_ne_none e

/-- An offer of a session that nobody holds, which the connection takes or which is taken back. -/
theorem Owned.conclude_offered (hs : s.Owned asked removed) {offer : Game.Offer}
    (hAnswered : s.Answered asked offer.connection) (hIdle : s.Idle offer.connection)
    (hFree : ∀ c k, s.held? c = some k → k.id ≠ offer.handle.id)
    (hNotRemoved : ∀ id ∈ removed, id ≠ offer.handle.id)
    (hCreated : s.game.sessions.created ≤ game.sessions.created)
    (hNext : game.sessions.nextId = UInt32.ofNat (game.sessions.created + 1))
    (hId : offer.handle.id.toNat ≤ game.sessions.created)
    (hLink : ∀ id, game.sessions.link? id =
      if id = offer.handle.id then some (offer.handle, some offer.connection)
      else s.game.sessions.link? id)
    (hWithdrawn : Owned asked removed { s with game := game.withdraw offer }) :
    Owned asked removed (conclude now request caller (.offered offer) { s with game }) := by
  by_cases hLive : s.isOpen offer.connection = true
  · obtain ⟨session?, hSeat⟩ := isOpen_iff.mp hLive
    obtain ⟨-, hGame, hTasks, hSeats⟩ :=
      conclude_offered_live now request caller (s := { s with game }) hSeat
    refine hs.give hAnswered hIdle ?_ hFree hNotRemoved hTasks hSeats ?_ ?_ ?_ ?_
    · rw [hSeat]
      exact nofun
    · rwa [hGame]
    · rwa [hGame]
    · rwa [hGame]
    · rwa [hGame]
  · have hGone := not_live_of_not_open hLive
    exact hWithdrawn.alike (conclude_offered_gone (s := { s with game }) hGone)

theorem Owned.conclude_reattach (hs : s.Owned asked removed)
    (hAnswered : s.Answered asked request.connection) (hIdle : s.Idle request.connection)
    (hSeen : ∀ c, seen c = false → s.isOpen c = false)
    (hSteps : Game.Reattaching seen existing request s.game step game) :
    Owned asked removed (conclude now request caller step { s with game }) := by
  cases hSteps with
  | missing => exact hs.alike (alike_reply _ _ _)
  | givenUp => exact (hs.setPending existing false).alike (alike_reply _ _ _)
  | occupied => exact (hs.setPending existing false).alike (alike_reply _ _ _)
  | takenOver session hSession hOpen hFree =>
    have hBefore := SessionRegistry.link?_of_get? hSession
    have hId : session.handle.id = existing := SessionRegistry.id_of_get? hSession
    have hNobody := hs.not_held_of_free hSession hFree hSeen
    have hLink := link?_takenOver hSession false request.connection request.system
    refine hs.conclude_offered hAnswered hIdle ?_ ?_ le_rfl hs.nextId ?_ hLink ?_
    · rwa [hId]
    · rintro id hGone rfl
      rw [← hId, hs.removed_gone _ hGone] at hBefore
      cases hBefore
    · rw [hId]
      exact hs.link_le existing _ hBefore
    · exact hs.withdraw_takenOver hSession hNobody request.connection request.system

theorem link?_freshId (hs : s.Owned asked removed)
    (hFew : s.game.sessions.created + 1 < 2 ^ 32) :
    s.game.sessions.link? s.game.sessions.freshId = none := by
  refine Option.eq_none_iff_forall_ne_some.mpr fun e hHas => ?_
  have hLe := hs.link_le _ e hHas
  rw [SessionRegistry.toNat_freshId hs.nextId hFew] at hLe
  omega

theorem Owned.conclude_attach (hs : s.Owned asked removed) {config : Config} {state : WorldState}
    {wall : Nat} (hAnswered : s.Answered asked request.connection)
    (hIdle : s.Idle request.connection) (hSeen : ∀ c, seen c = false → s.isOpen c = false)
    (hSteps : Game.Attaching config state seen wall request s.game step game)
    (hFew : game.sessions.created < 2 ^ 32) :
    Owned asked removed (conclude now request caller step { s with game }) := by
  cases hSteps with
  | turnedAway outcome waiting hOutcome =>
    have hWaiting : Owned asked removed { s with game := { s.game with waiting } } :=
      hs.withLinks le_rfl hs.nextId fun _ => rfl
    exact hWaiting.alike (alike_reply _ _ _)
  | created c waiting world hNone hOpen hCharacter hObstacle hPlace hWorld =>
    have hFew : s.game.sessions.created + 1 < 2 ^ 32 := hFew
    have hFresh := SessionRegistry.toNat_freshId hs.nextId hFew
    have hNext := SessionRegistry.nextId_insert hs.nextId hFew c request.system request.connection
    have hLink := s.game.sessions.link?_insert c request.system request.connection
    have hNoEntry := link?_freshId hs hFew
    refine hs.conclude_offered hAnswered hIdle ?_ ?_ (Nat.le_succ _) hNext hFresh.le hLink ?_
    · intro d k hHas hSame
      have hLe := hs.held_le d k hHas
      change k.id = s.game.sessions.freshId at hSame
      rw [hSame, hFresh] at hLe
      omega
    · intro id hGone hSame
      have hLe := hs.removed_le id hGone
      change id = s.game.sessions.freshId at hSame
      rw [hSame, hFresh] at hLe
      omega
    · -- the new session is removed again, and its id is lost
      have hAfter : ∀ id, ((s.game.sessions.insert c request.system request.connection).2.remove
          s.game.sessions.freshId).2.link? id = s.game.sessions.link? id := by
        intro id
        rw [SessionRegistry.link?_remove, hLink]
        split
        case isTrue hHere => rw [hHere, hNoEntry]
        case isFalse => rfl
      exact hs.withLinks (Nat.le_succ _) hNext hAfter
  | again existing session hClaims hFree hSteps =>
    exact hs.conclude_reattach hAnswered hIdle hSeen hSteps
  | kicked existing session old hClaims hOld =>
    have hMarked := hs.setPending existing true
    have hIdle : Idle { s with game := { s.game with
        sessions := s.game.sessions.setPending existing true } } request.connection := by
      refine ⟨hIdle.notHolding, fun id h hHas => ?_⟩
      rw [SessionRegistry.link?_setPending] at hHas
      exact hIdle.notLinked id h hHas
    have hAnswered : Answered asked { s with game := { s.game with
        sessions := s.game.sessions.setPending existing true } } request.connection :=
      ⟨hAnswered.asked, hAnswered.notWaiting⟩
    rw [conclude_kicked]
    exact (hMarked.close old).schedule (hAnswered.close hs.running old)
      (hIdle.close hs.running old) _

/-! ## Events -/

theorem Owned.conclude_closeAll (hs : s.Owned asked removed) {task : GameTask}
    {ready : List GameTask} (hReady : s.tasks.ready = task :: ready)
    (hAsker : task.asker? = some request.connection) {closing : List ConnectionId}
    (hSees : s.Sees closing seen)
    (hSteps : ∀ m : Server, m.Owned asked removed → m.Answered asked request.connection →
      m.Idle request.connection → (∀ c, seen c = false → m.isOpen c = false) →
      m.game = s.game → Owned asked removed (conclude now request caller step { m with game })) :
    Owned asked removed (conclude now request caller step
      (Server.closeAll closing { s with game, tasks := { s.tasks with ready } })) := by
  have hDrop : Owned asked removed { s with tasks := { s.tasks with ready } } := by
    refine hs.drop hReady fun id c hDetach => ?_
    rw [hDetach] at hAsker
    cases hAsker
  obtain ⟨hAnswered, hIdle⟩ := hs.taken_up hReady hAsker
  have hStill : Idle { s with tasks := { s.tasks with ready } } request.connection :=
    ⟨hIdle.notHolding, hIdle.notLinked⟩
  obtain ⟨hAnswered, hIdle⟩ := hDrop.answered_closeAll hAnswered hStill closing
  obtain ⟨-, -, hGame, -⟩ := closeAll_spec closing hDrop.running
  have hSeen : ∀ c, seen c = false →
      (Server.closeAll closing { s with tasks := { s.tasks with ready } }).isOpen c = false := by
    intro c hClosed
    rw [isOpen_closeAll_withTasks hs.running hDrop.running]
    exact hSees.after c hClosed
  have hSwap := closeAll_withGame closing { s with tasks := { s.tasks with ready } } game
  rw [hSwap]
  exact hSteps _ (hDrop.closeAll closing) hAnswered hIdle hSeen hGame

variable {closing : List ConnectionId} {wall : Nat} {ready : List GameTask}

theorem Owned.turn_attach (hs : s.Owned asked removed)
    (hReady : s.tasks.ready = .attach request caller :: ready) (hSees : s.Sees closing seen)
    (hFew : (s.game.attach s.config s.state seen wall request).2.sessions.created < 2 ^ 32) :
    Owned asked removed (turn seen closing now wall (.attach request caller)
      { s with tasks := { s.tasks with ready } }) := by
  refine hs.conclude_closeAll hReady rfl hSees fun m hm hAnswered hIdle hSeen hGame => ?_
  have hSteps := Game.attach_cases s.config s.state seen wall request s.game
  rw [← hGame] at hSteps hFew ⊢
  exact hm.conclude_attach hAnswered hIdle hSeen hSteps hFew

theorem Owned.turn_reattach (hs : s.Owned asked removed)
    (hReady : s.tasks.ready = .reattach existing request caller :: ready)
    (hSees : s.Sees closing seen) :
    Owned asked removed (turn seen closing now wall (.reattach existing request caller)
      { s with tasks := { s.tasks with ready } }) := by
  refine hs.conclude_closeAll hReady rfl hSees fun m hm hAnswered hIdle hSeen hGame => ?_
  have hSteps := Game.reattach_cases seen existing request s.game
  rw [← hGame] at hSteps ⊢
  exact hm.conclude_reattach hAnswered hIdle hSeen hSteps

theorem Owned.detach (hs : s.Owned asked removed) (id : SessionId) {c : ConnectionId}
    (hClosed : s.isOpen c = false) : Owned asked removed { s with game := s.game.detach id c } := by
  have hAfter : ∀ other, (s.game.detach id c).sessions.link? other = _ :=
    s.game.sessions.link?_detach id c
  refine hs.withGame le_rfl hs.nextId ?_ ?_
  · intro other h connection? hHas
    rw [hAfter] at hHas
    split at hHas
    case isTrue hHere =>
      obtain ⟨⟨k, before?⟩, hBefore, hPair⟩ := Option.map_eq_some_iff.mp hHas
      cases hPair
      refine ⟨before?, hBefore, ?_⟩
      simp only
      split
      case isTrue hSame =>
        refine Or.inr ⟨rfl, hs.not_held hBefore ?_⟩
        rintro d hd
        rw [hSame] at hd
        cases hd
        exact hClosed
      case isFalse => exact Or.inl rfl
    case isFalse => exact ⟨connection?, hHas, Or.inl rfl⟩
  · intro other e hHas
    rw [hAfter, hHas]
    split <;> exact Option.some_ne_none _

/-- A detaching comes too late for a session that has another connection by now. -/
theorem Owned.turn_detach (hs : s.Owned asked removed) {id : SessionId} {c : ConnectionId}
    (hReady : s.tasks.ready = .detach id c :: ready) :
    Owned asked removed (turn seen closing now wall (.detach id c)
      { s with tasks := { s.tasks with ready } }) := by
  have hGone := hs.left id c (hReady ▸ List.mem_cons_self)
  refine ((hs.detach id (isOpen_of_gone hGone)).drop hReady ?_).closeAll closing
  rintro _ _ hSame h
  cases hSame
  exact s.game.sessions.link?_detach_ne id c h

theorem logout_spec (g : Game) (id : SessionId) (character : CharacterId) :
    (g.logout id character).sessions.created = g.sessions.created ∧
      (g.logout id character).sessions.nextId = g.sessions.nextId ∧
      ∀ other, (g.logout id character).sessions.link? other =
        if other = id then none else g.sessions.link? other := by
  rw [g.sessions_logout]
  exact ⟨rfl, rfl, g.sessions.link?_remove id⟩

/-- A session is removed whoever holds it by now. -/
theorem Owned.logout (hs : s.Owned asked removed) {id : SessionId} (character : CharacterId)
    (hId : id.toNat ≤ s.game.sessions.created) :
    Owned asked (id :: removed) { s with game := s.game.logout id character } := by
  obtain ⟨hCreated, hNext, hLink⟩ := logout_spec s.game id character
  refine hs.mono rfl (fun _ => rfl) (fun _ hGone => hGone) hCreated.ge ?_ ?_ ?_ ?_ ?_
  · rw [hNext, hCreated]
    exact hs.nextId
  · intro other h connection? hHas
    rw [hLink] at hHas
    split at hHas
    case isTrue => cases hHas
    case isFalse => exact ⟨connection?, hHas, Or.inl rfl⟩
  · exact fun other hBefore => List.mem_cons_of_mem _ hBefore
  · intro other hOther
    rcases List.mem_cons.mp hOther with rfl | hBefore
    · refine Or.inr ⟨?_, ?_⟩
      · rwa [hCreated]
      · rw [hLink, if_pos rfl]
    · exact Or.inl hBefore
  · intro other e hHas hNone
    rw [hLink] at hNone
    split at hNone
    case isTrue hHere => exact hHere ▸ List.mem_cons_self
    case isFalse =>
      rw [hHas] at hNone
      cases hNone

theorem Owned.turn_logout (hs : s.Owned asked removed) {id : SessionId} {character : CharacterId}
    (hReady : s.tasks.ready = .logout id character :: ready)
    (hId : id.toNat ≤ s.game.sessions.created) :
    Owned asked (id :: removed) (turn seen closing now wall (.logout id character)
      { s with tasks := { s.tasks with ready } }) := by
  refine ((hs.logout character hId).drop hReady fun _ _ hDetach => ?_).closeAll closing
  cases hDetach

end Server

end Gatehouse
