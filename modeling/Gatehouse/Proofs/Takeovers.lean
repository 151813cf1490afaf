import Gatehouse.Proofs.Population
import Gatehouse.Proofs.Promises

/-!
# Takeovers

A request for a character that plays closes the old connection and comes back after a delay, to take
the session over. The session is promised to that request alone, and the request comes in vain only
if the session or the connection that has asked is gone by then.
-/

namespace Gatehouse

/-- The session that a request is to take over. -/
def GameTask.takenOver? : GameTask → Option SessionId
  | reattach session _ _ => some session
  | attach .. | detach .. | logout .. | setDead .. | removeSession .. => none

/-- The sessions that are to be taken over, now or after a delay. -/
def TaskQueue.promised (q : TaskQueue GameTask) : List SessionId :=
  q.tasks.filterMap GameTask.takenOver?

namespace Server

variable {asked : List ConnectionId} {removed : List SessionId} {s t : Server}
  {seen : ConnectionId → Bool} {closing : List ConnectionId} {now wall : Nat}
  {existing : SessionId} {request : AttachRequest} {caller : Caller} {step : Game.AttachStep}
  {game : Game} {task : GameTask} {ready : List GameTask} {session : Session}

/-- No session is promised twice, and those that are promised wait for it. -/
structure Promises (removed : List SessionId) (s : Server) : Prop where
  once : s.tasks.promised.Nodup
  honours : s.game.sessions.Honours s.tasks.promised removed (s.seat? · = some .gone)

theorem promises_start (config : Config) (key : Rsa.Key) (state : WorldState) (world : World)
    (handlers : HandlerTable) (capacity : Nat) :
    Promises [] (start config key state world handlers capacity) where
  once := List.nodup_nil
  honours := ⟨List.nodup_nil, nofun, nofun⟩

namespace Promises

theorem mono (h : s.Promises removed) (hPromised : t.tasks.promised.Perm s.tasks.promised)
    (hSessions : t.game.sessions = s.game.sessions)
    (hGone : ∀ c, s.seat? c = some .gone → t.seat? c = some .gone) : t.Promises removed where
  once := hPromised.nodup_iff.mpr h.once
  honours := by
    rw [hSessions]
    exact h.honours.mono (fun id => hPromised.mem_iff) hGone

theorem alike (h : s.Promises removed) (hAlike : s.Alike t) : t.Promises removed := by
  refine h.mono (by rw [hAlike.tasks]) (by rw [hAlike.game]) fun c hGone => ?_
  rw [hAlike.seat?, hGone]

theorem accept (h : s.Promises removed) (peer : SocketAddress) :
    Promises removed (s.accept peer).2 := by
  refine h.mono (.refl _) rfl fun c hGone => ?_
  rw [seat?_accept, hGone, Option.some_or]

/-! ## Steps of the queue -/

theorem post (h : s.Promises removed) (hRunning : s.tasks.stopped = false)
    (hTask : task.takenOver? = none) : Promises removed (s.post task).2 := by
  rw [post_eq hRunning]
  refine h.mono (.of_eq (s.tasks.filterMap_post ?_)) rfl fun _ hGone => hGone
  simpa using hTask

theorem releaseAt (h : s.Promises removed) (hRunning : s.tasks.stopped = false) (n : Nat) :
    Promises removed (s.releaseAt n) := by
  rw [Server.releaseAt]
  split
  case h_1 => exact h
  case h_2 d hAt =>
    have hPosted := post_eq
      (s := { s with tasks := { s.tasks with delayed := s.tasks.delayed.eraseIdx n } }) hRunning
      d.task
    rw [hPosted]
    exact h.mono ((s.tasks.perm_release hAt).filterMap _) rfl fun _ hGone => hGone

end Promises

theorem promised_close (s : Server) (c : ConnectionId) (hRunning : s.tasks.stopped = false) :
    (s.close c).tasks.promised = s.tasks.promised :=
  filterMap_tasks_close (fun _ _ => rfl) s c hRunning

theorem promised_closeAll (ids : List ConnectionId) (hRunning : s.tasks.stopped = false) :
    (s.closeAll ids).tasks.promised = s.tasks.promised := by
  induction ids generalizing s with
  | nil => rfl
  | cons id ids ih =>
    have hStill : (s.close id).tasks.stopped = false := by
      rw [(s.close_spec id hRunning).2.2.1, hRunning]
    exact (ih hStill).trans (s.promised_close id hRunning)

theorem gone_closeAll (ids : List ConnectionId) (hRunning : s.tasks.stopped = false)
    {c : ConnectionId} (hGone : s.seat? c = some .gone) :
    (s.closeAll ids).seat? c = some .gone := by
  obtain ⟨-, -, -, hSeat⟩ := closeAll_spec ids hRunning
  rw [hSeat, hGone, Option.map_some, ite_self]

namespace Promises

theorem closeAll (h : s.Promises removed) (hRunning : s.tasks.stopped = false)
    (ids : List ConnectionId) : Promises removed (s.closeAll ids) :=
  h.mono (.of_eq (promised_closeAll ids hRunning)) (by rw [game_closeAll])
    fun _ hGone => gone_closeAll ids hRunning hGone

theorem drop (h : s.Promises removed) (hReady : s.tasks.ready = task :: ready)
    (hTask : task.takenOver? = none) :
    Promises removed { s with tasks := { s.tasks with ready } } := by
  refine h.mono (.of_eq ?_) rfl fun _ hGone => hGone
  rw [TaskQueue.promised, TaskQueue.promised, TaskQueue.tasks, TaskQueue.tasks, hReady,
    List.cons_append, List.filterMap_cons_none hTask]

/-! ## Answers -/

theorem conclude_offered {offer : Game.Offer} (h : Promises removed { s with game })
    (hWithdrawn : Promises removed { s with game := game.withdraw offer }) :
    Promises removed (conclude now request caller (.offered offer) { s with game }) := by
  by_cases hLive : ∃ session?, s.seat? offer.connection = some (.live session?)
  · obtain ⟨session?, hLive⟩ := hLive
    obtain ⟨-, hGame, hTasks, hSeat⟩ :=
      conclude_offered_live now request caller (s := { s with game }) hLive
    refine h.mono (by rw [hTasks]) (by rw [hGame]) fun c hGone => ?_
    rw [hSeat, if_neg, hGone]
    rintro rfl
    cases hLive.symm.trans hGone
  · exact hWithdrawn.alike (conclude_offered_gone (s := { s with game }) (not_exists.mp hLive))

/-- A request for a session that is there, whether or not it was promised to that request. -/
theorem conclude_reattach {promised : List SessionId} (hOnce : s.tasks.promised.Nodup)
    (hHonours : s.game.sessions.Honours promised removed (s.seat? · = some .gone))
    (hPromised : ∀ other, other ∈ s.tasks.promised ↔ other ∈ promised ∧ other ≠ existing)
    (hSteps : Game.Reattaching seen existing request s.game step game) :
    Promises removed (conclude now request caller step { s with game }) := by
  have hSettled := hHonours.settle existing hPromised
  cases hSteps with
  | missing hNone => exact ⟨hOnce, hHonours.forget hNone hPromised⟩
  | givenUp => exact ⟨hOnce, hSettled⟩
  | occupied => exact ⟨hOnce, hSettled⟩
  | takenOver session hSession hOpen hFree =>
    have hNotPromised : existing ∉ s.tasks.promised :=
      fun hId => ((hPromised existing).mp hId).2 rfl
    have hTaken := hSettled.attach hNotPromised request.connection request.system
    exact conclude_offered ⟨hOnce, hTaken⟩ ⟨hOnce, hTaken.detach _ request.connection⟩

theorem toNat_le (h : s.Promises removed) (hs : s.Owned asked removed) {id : SessionId}
    (hId : id ∈ s.tasks.promised) : id.toNat ≤ s.game.sessions.created := by
  rcases h.honours.held id hId with ⟨session, hAwaits⟩ | ⟨-, hRemoved⟩
  · exact hs.link_le id _ (SessionRegistry.link?_of_get? hAwaits.there)
  · exact hs.removed_le id hRemoved

theorem conclude_attach (h : s.Promises removed) (hs : s.Owned asked removed) {config : Config}
    {state : WorldState} (hSeen : ∀ c, seen c = true → s.seat? c ≠ none)
    (hSteps : Game.Attaching config state seen wall request s.game step game)
    (hFew : game.sessions.created < 2 ^ 32) :
    Promises removed (conclude now request caller step { s with game }) := by
  cases hSteps with
  | turnedAway => exact ⟨h.once, h.honours⟩
  | created c waiting world =>
    -- a promise may outlive its session, but the id of that one is not given again
    have hFresh : s.game.sessions.freshId ∉ s.tasks.promised := by
      intro hId
      have hLe := h.toNat_le hs hId
      rw [SessionRegistry.toNat_freshId hs.nextId hFew] at hLe
      omega
    have hInserted := h.honours.insert hFresh c request.system request.connection
    exact conclude_offered ⟨h.once, hInserted⟩
      ⟨h.once, hInserted.remove _ (fun _ hId => hId) fun hId => absurd hId hFresh⟩
  | again existing session hClaims hFree hSteps =>
    have hNotPromised := h.honours.not_promised hClaims.there hClaims.idle
    refine conclude_reattach h.once h.honours (fun other => ⟨fun hId => ⟨hId, ?_⟩, And.left⟩) hSteps
    rintro rfl
    exact hNotPromised hId
  | kicked existing session old hClaims hOld =>
    -- the old connection closes within this task, so that nobody is attached afterwards
    obtain ⟨hConnection, hSeenOld⟩ := Option.filter_eq_some_iff.mp hOld
    obtain ⟨-, -, -, hSeat⟩ := s.close_spec old hs.running
    have hOldGone : (s.close old).seat? old = some .gone := by
      obtain ⟨seat, hThere⟩ := Option.ne_none_iff_exists'.mp (hSeen old hSeenOld)
      rw [hSeat, hThere, Option.map_some, if_pos rfl]
    have hClosed : (s.close old).Promises removed := h.closeAll hs.running [old]
    have hPromised : ∀ due, ((s.close old).tasks.schedule due
        (.reattach existing request caller)).promised =
          (s.close old).tasks.promised ++ [existing] := by
      intro due
      simp [TaskQueue.promised, TaskQueue.tasks, TaskQueue.schedule, GameTask.takenOver?]
    have hNotPromised : existing ∉ (s.close old).tasks.promised := by
      rw [promised_close s old hs.running]
      exact h.honours.not_promised hClaims.there hClaims.idle
    have hHonours := hClosed.honours
    rw [game_close] at hHonours
    rw [conclude_kicked, close_withGame]
    constructor
    case once =>
      rw [hPromised, (List.perm_append_singleton _ _).nodup_iff, List.nodup_cons]
      exact ⟨hNotPromised, hClosed.once⟩
    case honours =>
      rw [hPromised]
      refine hHonours.promise hClaims.there (fun c hAttached => ?_) hClaims.found
      cases hConnection.symm.trans hAttached
      exact hOldGone

/-! ## Tasks that run -/

theorem conclude_closeAll
    (hAnswer : ∀ m : Server,
      m = Server.closeAll closing { s with tasks := { s.tasks with ready } } → m.game = s.game →
        Promises removed (conclude now request caller step { m with game })) :
    Promises removed (conclude now request caller step
      (Server.closeAll closing { s with game, tasks := { s.tasks with ready } })) := by
  have hSwap := closeAll_withGame closing { s with tasks := { s.tasks with ready } } game
  rw [hSwap]
  exact hAnswer _ rfl (game_closeAll ..)

theorem turn_attach (h : s.Promises removed) (hs : s.Owned asked removed)
    (hReady : s.tasks.ready = .attach request caller :: ready) (hSees : s.Sees closing seen)
    (hFew : (s.game.attach s.config s.state seen wall request).2.sessions.created < 2 ^ 32) :
    Promises removed (turn seen closing now wall (.attach request caller)
      { s with tasks := { s.tasks with ready } }) := by
  refine conclude_closeAll fun m hm hGame => ?_
  have hDrop : Owned asked removed { s with tasks := { s.tasks with ready } } :=
    hs.drop hReady fun _ _ hDetach => nomatch hDetach
  have hThere : ∀ c, seen c = true → m.seat? c ≠ none := by
    intro c hSeen
    obtain ⟨session?, hLive⟩ := isOpen_iff.mp (hSees.before c hSeen)
    obtain ⟨-, -, -, hSeat⟩ := closeAll_spec closing hDrop.running
    have hBefore : seat? { s with tasks := { s.tasks with ready } } c = _ := hLive
    rw [hm, hSeat, hBefore]
    exact Option.some_ne_none _
  have hOwned : m.Owned asked removed := hm ▸ hDrop.closeAll closing
  have hStill : m.Promises removed := hm ▸ (h.drop hReady rfl).closeAll hDrop.running closing
  have hSteps := Game.attach_cases s.config s.state seen wall request s.game
  rw [← hGame] at hSteps hFew ⊢
  exact hStill.conclude_attach hOwned hThere hSteps hFew

theorem turn_reattach (h : s.Promises removed) (hRunning : s.tasks.stopped = false)
    (hReady : s.tasks.ready = .reattach existing request caller :: ready) :
    Promises removed (turn seen closing now wall (.reattach existing request caller)
      { s with tasks := { s.tasks with ready } }) := by
  refine conclude_closeAll fun m hm hGame => ?_
  have hLeft : m.tasks.promised = TaskQueue.promised { s.tasks with ready } := by
    rw [hm]
    exact promised_closeAll closing (s := { s with tasks := { s.tasks with ready } }) hRunning
  -- as no session is promised twice, the promise goes with the task
  have hPromised : s.tasks.promised = existing :: m.tasks.promised := by
    rw [hLeft, TaskQueue.promised, TaskQueue.tasks, hReady]
    rfl
  have hGone : ∀ c, s.seat? c = some .gone → m.seat? c = some .gone := by
    intro c hBefore
    rw [hm]
    exact gone_closeAll closing (s := { s with tasks := { s.tasks with ready } }) hRunning hBefore
  have hOnce := h.once
  rw [hPromised, List.nodup_cons] at hOnce
  have hHonours := h.honours.mono (fun _ => Iff.rfl) hGone
  have hSteps := Game.reattach_cases seen existing request s.game
  rw [← hGame] at hSteps hHonours ⊢
  refine conclude_reattach hOnce.2 hHonours (fun other => ?_) hSteps
  rw [hPromised, List.mem_cons]
  constructor
  · intro hId
    refine ⟨Or.inr hId, ?_⟩
    rintro rfl
    exact hOnce.1 hId
  · rintro ⟨hHere | hId, hOther⟩
    · exact absurd hHere hOther
    · exact hId

theorem turn_detach (h : s.Promises removed) (hRunning : s.tasks.stopped = false) {id : SessionId}
    {c : ConnectionId} (hReady : s.tasks.ready = .detach id c :: ready) :
    Promises removed (turn seen closing now wall (.detach id c)
      { s with tasks := { s.tasks with ready } }) := by
  have hDetached : Promises removed { s with game := s.game.detach id c } :=
    ⟨h.once, h.honours.detach id c⟩
  exact (hDetached.drop hReady rfl).closeAll hRunning closing

theorem turn_logout (h : s.Promises removed) (hRunning : s.tasks.stopped = false) {id : SessionId}
    {character : CharacterId} (hReady : s.tasks.ready = .logout id character :: ready) :
    Promises (id :: removed) (turn seen closing now wall (.logout id character)
      { s with tasks := { s.tasks with ready } }) := by
  have hRemoved : Promises (id :: removed) { s with game := s.game.logout id character } := by
    refine ⟨h.once, ?_⟩
    have hSessions : (s.game.logout id character).sessions = (s.game.sessions.remove id).2 :=
      Game.sessions_logout ..
    rw [hSessions]
    exact h.honours.remove id (fun _ hBefore => List.mem_cons_of_mem _ hBefore)
      fun _ => List.mem_cons_self
  exact (hRemoved.drop hReady rfl).closeAll hRunning closing

end Promises

/-! ## What is answered -/

theorem replies_closeAll (ids : List ConnectionId) (s : Server) :
    (s.closeAll ids).replies = s.replies := by
  induction ids generalizing s with
  | nil => rfl
  | cons id ids ih => exact (ih (s.close id)).trans (s.replies_close id)

theorem replies_conclude_offered (s : Server) (offer : Game.Offer) :
    (s.conclude now request caller (.offered offer)).replies = s.replies ++
      [(caller, .outcome
        (if s.isOpen offer.connection then .attached offer.handle else .abandoned))] := by
  have hReplies := s.replies_onOutlet offer.connection false (takeOffer offer)
  by_cases hOpen : s.isOpen offer.connection = true
  · have hTaken := (onOutlet_takeOffer s offer).mpr (isOpen_iff.mp hOpen)
    have hResult : s.conclude now request caller (.offered offer) =
        (s.onOutlet offer.connection false (takeOffer offer)).2.reply caller
          (.outcome (.attached offer.handle)) :=
      if_pos hTaken
    rw [hResult, if_pos hOpen]
    exact congrArg (· ++ _) hReplies
  · have hRefused : ¬ (s.onOutlet offer.connection false (takeOffer offer)).1 = true :=
      fun hTaken => hOpen (isOpen_iff.mpr ((onOutlet_takeOffer s offer).mp hTaken))
    have hResult : s.conclude now request caller (.offered offer) =
        reply caller (.outcome .abandoned)
          { (s.onOutlet offer.connection false (takeOffer offer)).2 with
            game := (s.onOutlet offer.connection false (takeOffer offer)).2.game.withdraw offer } :=
      if_neg hRefused
    rw [hResult, if_neg hOpen]
    exact congrArg (· ++ _) hReplies

theorem turn_attach_of_pending (hClones : s.config.allowClones = false)
    (hFound : s.game.sessions.findByCharacter request.characterId = some existing)
    (hSession : s.game.sessions.get? existing = some session)
    (hPending : session.reconnectPending = true) :
    (turn seen closing now wall (.attach request caller) s).game = s.game ∧
      (turn seen closing now wall (.attach request caller) s).replies =
        s.replies ++ [(caller, .outcome (.rejected .alreadyLoggedIn))] := by
  have hStep : s.game.attach s.config s.state seen wall request =
      (Game.reject .alreadyLoggedIn, s.game) := by
    simp [Game.attach, hClones, hFound, Game.kickOrReattach, hSession, hPending]
  rw [turn, hStep]
  exact ⟨s.game_closeAll closing, congrArg (· ++ _) (s.replies_closeAll closing)⟩

theorem replies_turn_missing (hNone : s.game.sessions.get? existing = none) :
    (turn seen closing now wall (.reattach existing request caller) s).replies =
      s.replies ++ [(caller, .outcome (.rejected .alreadyLoggedIn))] := by
  have hStep : s.game.reattach seen existing request = (Game.reject .alreadyLoggedIn, s.game) := by
    rw [Game.reattach, hNone]
  rw [turn, hStep]
  exact congrArg (· ++ _) (s.replies_closeAll closing)

theorem replies_turn_awaited (hSession : s.game.sessions.get? existing = some session)
    (hFree : session.liveConnection? seen = none)
    (hAfter : seen request.connection = false →
      (s.closeAll closing).isOpen request.connection = false) :
    (turn seen closing now wall (.reattach existing request caller) s).replies = s.replies ++
      [(caller, .outcome
        (if (s.closeAll closing).isOpen request.connection then .attached session.handle
          else .abandoned))] := by
  have hSteps := Game.reattach_cases seen existing request s.game
  have hTurn : turn seen closing now wall (.reattach existing request caller) s =
      conclude now request caller (s.game.reattach seen existing request).1
        { s.closeAll closing with game := (s.game.reattach seen existing request).2 } := by
    rw [← closeAll_withGame]
    rfl
  rw [hTurn, ← s.replies_closeAll closing]
  generalize s.game.reattach seen existing request = result at hSteps
  obtain ⟨step, game⟩ := result
  cases hSteps with
  | missing hNone => cases hSession.symm.trans hNone
  | givenUp other hOther hClosed =>
    rw [hAfter hClosed]
    rfl
  | occupied other hOther hOpen hLive =>
    cases hSession.symm.trans hOther
    exact absurd hFree hLive
  | takenOver other hOther hOpen hStillFree =>
    cases hSession.symm.trans hOther
    exact replies_conclude_offered _ _

theorem Promises.replies_turn_reattach (h : s.Promises removed) (hRunning : s.tasks.stopped = false)
    (hReady : s.tasks.ready = .reattach existing request caller :: ready)
    (hSees : s.Sees closing seen) (now wall : Nat) :
    ∃ outcome, (turn seen closing now wall (.reattach existing request caller)
        { s with tasks := { s.tasks with ready } }).replies =
          s.replies ++ [(caller, .outcome outcome)] ∧
      match s.game.sessions.get? existing with
      | some session =>
        outcome =
          if (s.closeAll closing).isOpen request.connection then .attached session.handle
          else .abandoned
      | none => outcome = .rejected .alreadyLoggedIn ∧ existing ∈ removed := by
  have hPromised : existing ∈ s.tasks.promised := by
    rw [TaskQueue.promised, TaskQueue.tasks, hReady]
    exact List.mem_cons_self
  have hOpen := isOpen_closeAll_withTasks (s := s) hRunning
    (show TaskQueue.stopped { s.tasks with ready } = false from hRunning) closing request.connection
  rcases h.honours.held existing hPromised with ⟨session, hAwaits⟩ | ⟨hNone, hRemoved⟩
  · have hFree : session.liveConnection? seen = none := by
      refine hAwaits.liveConnection?_eq_none fun c hGone => ?_
      rw [← Bool.not_eq_true]
      intro hSeen
      cases (hSees.before c hSeen).symm.trans (isOpen_of_gone hGone)
    refine ⟨_, replies_turn_awaited (s := { s with tasks := { s.tasks with ready } })
      hAwaits.there hFree fun hUnseen => hOpen.trans (hSees.after _ hUnseen), ?_⟩
    rw [hAwaits.there, hOpen]
  · refine ⟨_, replies_turn_missing (s := { s with tasks := { s.tasks with ready } }) hNone, ?_⟩
    rw [hNone]
    exact ⟨rfl, hRemoved⟩

end Server

namespace Event

open Server (Owned Traced Promises)

variable {s : Server} {past : List Event}

theorem promises_apply {event : Event} {asked : List ConnectionId}
    (h : s.Promises (past.filterMap removal?)) (hs : s.Owned asked (past.filterMap removal?))
    (hTraced : s.Traced past) (hAllowed : event.Allowed past s)
    (hFew : (event.apply s).game.sessions.created < 2 ^ 32) :
    (event.apply s).Promises ((event :: past).filterMap removal?) := by
  have hRunning := hs.running
  cases event with
  | accept peer => exact h.accept peer
  | request r caller => exact h.post hRunning rfl
  | close c => exact h.closeAll hRunning [c]
  | takeUp c handle => exact h
  | logout c handle => exact h.post hRunning rfl
  | release n => exact h.releaseAt hRunning n
  | turn task seen closing now wall =>
    obtain ⟨ready, hReady, hTurn⟩ := apply_turn hAllowed.1 seen closing now wall
    have hQueued : task ∈ s.tasks.ready := hReady ▸ List.mem_cons_self
    rw [hTurn] at hFew ⊢
    cases task with
    | attach r caller =>
      rw [Server.created_turn_attach] at hFew
      exact h.turn_attach hs hReady hAllowed.2 hFew
    | reattach session r caller => exact h.turn_reattach hRunning hReady
    | detach session c => exact h.turn_detach hRunning hReady
    | logout session character => exact h.turn_logout hRunning hReady
    | setDead | removeSession => exact absurd trivial (hTraced.plain _ hQueued)
  | aside next => exact h.alike hAllowed

end Event

/-! ## A character that three connections ask for

The second of them has the first one kicked, and the third one asks before the second is back. -/

namespace Rivals

def challenged : Server := (ask 2).apply entered

def kicked : Server := (answer 2 challenged).apply challenged

def vacating : Event := .turn (.detach 1 1) kicked.isOpen [] 0 0

def pressed : Server := (ask 3).apply ((Event.accept default).apply (vacating.apply kicked))

def pressing : List Event :=
  ask 3 :: .accept default :: vacating :: answer 2 challenged :: ask 2 :: entering

theorem run_pressing : Run opened pressing pressed := by
  have hAsked := run_entering.step (ask 2) (show (2 : ConnectionId) ∉ [1] by decide)
  have hKicked := hAsked.step (answer 2 challenged) ⟨rfl, challenged.sees_isOpen⟩
  have hVacated := hKicked.step vacating ⟨rfl, kicked.sees_isOpen⟩
  have hAccepted := hVacated.step (.accept default) trivial
  exact hAccepted.step (ask 3) (show (3 : ConnectionId) ∉ [2, 1] by decide)

def returned : Server := (Event.release 0).apply ((answer 3 pressed).apply pressed)

theorem run_returning : Run opened (.release 0 :: answer 3 pressed :: pressing) returned := by
  have hTurnedAway := run_pressing.step (answer 3 pressed) ⟨rfl, pressed.sees_isOpen⟩
  exact hTurnedAway.step (.release 0) trivial

def takingOver : Event :=
  .turn (.reattach 1 (request 2) (.connection 2)) returned.isOpen [] 0 0

end Rivals

/-! ## Runs -/

section

variable {start s t : Server} {past later : List Event}

theorem Run.unique (hRun : Run start past s) (hSame : Run start past t) : s = t := by
  induction hRun generalizing t with
  | start =>
    cases hSame
    rfl
  | step event hRun hAllowed ih =>
    cases hSame with
    | step _ hBefore _ => rw [ih hBefore]

theorem Run.config_eq (hRun : Run start past s) : s.config = start.config := by
  induction hRun with
  | start => rfl
  | step event hRun hAllowed ih => exact (Event.config_apply hAllowed).trans ih

theorem Run.created_le (hRun : Run start (later ++ past) s) (hBefore : Run start past t) :
    t.game.sessions.created ≤ s.game.sessions.created := by
  induction later generalizing s with
  | nil => rw [hRun.unique hBefore]
  | cons event later ih =>
    cases hRun with
    | step _ hRun hAllowed => exact (ih hRun).trans (Event.created_le_apply hAllowed)

end

section

variable {config : Config} {key : Rsa.Key} {state : WorldState} {world : World}
  {handlers : HandlerTable} {capacity : Nat} {past : List Event} {s : Server}

theorem Run.promises (hRun : Run (Server.start config key state world handlers capacity) past s)
    (hFew : s.game.sessions.created < 2 ^ 32) :
    s.Promises (past.filterMap Event.removal?) := by
  refine hRun.invariant
    (motive := fun past s => s.Promises (past.filterMap Event.removal?)) hFew
    (Server.promises_start ..) ?_
  intro past s event hPromises hOwned hTraced hAllowed hFew
  exact Event.promises_apply hPromises hOwned hTraced hAllowed hFew

/-- A session that was there has been removed later than that, if at all. -/
theorem Run.removed_since {later : List Event} {before : Server} {id : SessionId}
    (hBefore : Run (Server.start config key state world handlers capacity) past before)
    (hFew : before.game.sessions.created < 2 ^ 32)
    (hThere : before.game.sessions.get? id ≠ none)
    (hRemoved : id ∈ (later ++ past).filterMap Event.removal?) :
    id ∈ later.filterMap Event.removal? := by
  rw [List.filterMap_append] at hRemoved
  refine (List.mem_append.mp hRemoved).resolve_right fun hEarlier => hThere ?_
  have hNone := (hBefore.sound hFew).1.removed_gone id hEarlier
  rwa [SessionRegistry.link?, Option.map_eq_none_iff] at hNone

/-- Without clones a session is pending exactly while one request is to take it over. Nobody is
attached to it then, and whoever asks for its character is turned away. The request that comes back
gets the session, unless the connection that has asked is closed or the session has been removed. -/
theorem Run.takeovers
    (hRun : Run (Server.start config key state world handlers capacity) past s)
    (hClones : config.allowClones = false) (hFew : s.game.sessions.created < 2 ^ 32) :
    (∀ id, s.tasks.promised.count id ≤ 1) ∧
    (∀ id session, s.game.sessions.get? id = some session →
      (session.reconnectPending = true ↔ s.tasks.promised.count id = 1)) ∧
    (∀ id session, s.game.sessions.get? id = some session → session.reconnectPending = true →
      session.liveConnection? s.isOpen = none ∧
      ∀ (event : Event) r caller seen closing now wall,
        event = .turn (.attach r caller) seen closing now wall → event.Allowed past s →
        r.characterId = session.character.id →
        (event.apply s).game = s.game ∧
        (event.apply s).replies =
          s.replies ++ [(caller, .outcome (.rejected .alreadyLoggedIn))]) ∧
    ∀ (event : Event) id r caller seen closing now wall,
      event = .turn (.reattach id r caller) seen closing now wall → event.Allowed past s →
      ∃ outcome, (event.apply s).replies = s.replies ++ [(caller, .outcome outcome)] ∧
        match s.game.sessions.get? id with
        | some session =>
          outcome =
            if (s.closeAll closing).isOpen r.connection then .attached session.handle
            else .abandoned
        | none =>
          outcome = .rejected .alreadyLoggedIn ∧ id ∈ past.filterMap Event.removal? ∧
          ∀ later earlier before, past = later ++ earlier →
            Run (Server.start config key state world handlers capacity) earlier before →
            before.game.sessions.get? id ≠ none → id ∈ later.filterMap Event.removal? := by
  have hPromises := hRun.promises hFew
  have hOwned := (hRun.sound hFew).1
  have hHonours := hPromises.honours
  refine ⟨List.nodup_iff_count_le_one.mp hPromises.once, ?_, ?_, ?_⟩
  · intro id session hSession
    rw [hHonours.pending_iff hSession]
    constructor
    · exact List.count_eq_one_of_mem hPromises.once
    · intro hOnce
      exact List.count_pos_iff.mp (hOnce ▸ Nat.one_pos)
  · intro id session hSession hPending
    have hAwaits := hHonours.awaits hSession hPending
    refine ⟨hAwaits.liveConnection?_eq_none fun _ => Server.isOpen_of_gone, ?_⟩
    rintro _ r caller seen closing now wall rfl hAllowed hCharacter
    obtain ⟨ready, -, hTurn⟩ := Event.apply_turn hAllowed.1 seen closing now wall
    rw [hTurn]
    exact Server.turn_attach_of_pending (s := { s with tasks := { s.tasks with ready } })
      ((congrArg _ hRun.config_eq).trans hClones) (hCharacter ▸ hAwaits.found) hSession
      hPending
  · rintro _ id r caller seen closing now wall rfl hAllowed
    obtain ⟨ready, hReady, hTurn⟩ := Event.apply_turn hAllowed.1 seen closing now wall
    rw [hTurn]
    obtain ⟨outcome, hReplies, hOutcome⟩ :=
      hPromises.replies_turn_reattach hOwned.running hReady hAllowed.2 now wall
    refine ⟨outcome, hReplies, ?_⟩
    cases hSession : s.game.sessions.get? id with
    | some session => simpa only [hSession] using hOutcome
    | none =>
      simp only [hSession] at hOutcome
      obtain ⟨hRejected, hRemoved⟩ := hOutcome
      refine ⟨hRejected, hRemoved, ?_⟩
      rintro later earlier before rfl hBefore hThere
      exact hBefore.removed_since ((hRun.created_le hBefore).trans_lt hFew) hThere hRemoved

/-- The third connection is turned away, and the second one gets the session when it comes back. -/
theorem Rivals.takeovers_of_pressed :
    pressed.game.sessions.created < 2 ^ 32 ∧ pressed.tasks.promised.count 1 = 1 ∧
      ((answer 3 pressed).apply pressed).game = pressed.game ∧
      ((answer 3 pressed).apply pressed).replies =
        pressed.replies ++ [(.connection 3, .outcome (.rejected .alreadyLoggedIn))] ∧
      returned.game.sessions.created < 2 ^ 32 ∧
      (takingOver.apply returned).replies =
        returned.replies ++ [(.connection 2, .outcome (.attached handle))] := by
  have hFew : pressed.game.sessions.created < 2 ^ 32 := by decide
  have hLater : returned.game.sessions.created < 2 ^ 32 := by decide
  have hOnce : pressed.tasks.promised.count 1 = 1 := by decide
  obtain ⟨-, hPending, hAwaits, -⟩ := run_pressing.takeovers rfl hFew
  obtain ⟨-, -, -, hReturns⟩ := run_returning.takeovers rfl hLater
  obtain ⟨hGame, hReplies⟩ := (hAwaits 1 _ rfl ((hPending 1 _ rfl).mpr hOnce)).2
    (answer 3 pressed) (request 3) _ _ _ _ _ rfl ⟨rfl, pressed.sees_isOpen⟩ rfl
  obtain ⟨outcome, hTold, hOutcome⟩ := hReturns takingOver 1 (request 2) _ _ _ _ _ rfl
    ⟨rfl, returned.sees_isOpen⟩
  have hAttached : outcome = .attached handle := hOutcome
  exact ⟨hFew, hOnce, hGame, hReplies, hLater, hAttached ▸ hTold⟩

end

end Gatehouse
