import Gatehouse.Proofs.Takeovers

/-!
# Barred requests

A character that is namelocked, or whose account is banned, gets no session. The gates stand before
new sessions only: one that the character already has is taken over past them, at once or after a
delay.
-/

namespace Gatehouse

/-- The character is namelocked, or the account is banned and the character not exempt. -/
def AttachRequest.IsBarred (r : AttachRequest) : Prop :=
  r.namelocked = true ∨
    r.accountBan?.isSome = true ∧ ∀ c, r.character? = some c → c.cannotBeBanned = false

/-! ## Steps of the game -/

namespace Game

variable {config : Config} {state : WorldState} {seen : ConnectionId → Bool} {now : Nat}
  {existing : SessionId} {r : AttachRequest} {g g' last : Game} {step : AttachStep}
  {handle : SessionHandle}

theorem obstacle_ne_none (hBarred : r.IsBarred) {c : Character}
    (hCharacter : r.character? = some c) :
    obstacle config state g r c ≠ none := by
  rw [obstacle]
  rcases hBarred with hLocked | ⟨hBan, hApplies⟩
  · rw [if_pos hLocked]
    exact Option.some_ne_none _
  · -- the ban comes last of the gates, so that another one may answer first
    obtain ⟨ban, hBan⟩ := Option.isSome_iff_exists.mp hBan
    have hLast : (if c.cannotBeBanned then none
        else r.accountBan?.map Login.Rejection.ofAccountBan) ≠ none := by
      rw [if_neg (by simp [hApplies c hCharacter]), hBan]
      exact Option.some_ne_none _
    split
    case isTrue => exact Option.some_ne_none _
    case isFalse =>
      split
      case h_1 => exact Option.some_ne_none _
      case h_2 =>
        split
        case isTrue => exact Option.some_ne_none _
        case isFalse => exact hLast

/-- The step ends in a session for the connection, if that is still open. -/
inductive Grants : AttachStep → SessionHandle → Prop where
  | done (handle : SessionHandle) : Grants (.done (.attached handle)) handle
  | offered (offer : Offer) : Grants (.offered offer) offer.handle

theorem Reattaching.of_grants (hSteps : Reattaching seen existing r g step g')
    (hGrants : Grants step handle) :
    ∃ session, g.sessions.get? existing = some session ∧ session.handle = handle ∧
      session.liveConnection? seen = none := by
  cases hSteps with
  | missing | givenUp | occupied => cases hGrants
  | takenOver session hSession hOpen hFree =>
    cases hGrants
    exact ⟨session, hSession, rfl, hFree⟩

theorem Attaching.of_grants (hBarred : r.IsBarred)
    (hSteps : Attaching config state seen now r g step g') (hGrants : Grants step handle) :
    ∃ session, Claims config r g handle.id session ∧ session.handle = handle ∧
      session.liveConnection? seen = none := by
  cases hSteps with
  | turnedAway outcome waiting hOutcome =>
    cases hGrants
    exact absurd rfl (hOutcome handle)
  | created c waiting world hNone hOpen hCharacter hObstacle =>
    exact absurd hObstacle (obstacle_ne_none hBarred hCharacter)
  | again existing session hClaims hFree hSteps =>
    obtain ⟨other, hOther, hHandle, -⟩ := hSteps.of_grants hGrants
    cases hClaims.there.symm.trans hOther
    have hId : handle.id = existing := hHandle ▸ SessionRegistry.id_of_get? hClaims.there
    exact ⟨session, hId ▸ hClaims, hHandle, hFree⟩
  | kicked => cases hGrants

theorem Attaching.samePlayers (hBarred : r.IsBarred)
    (hSteps : Attaching config state seen now r g step g') (hLast : Leaves g' step last) :
    g.SamePlayers last := by
  cases hSteps with
  | turnedAway =>
    cases hLast
    exact ⟨rfl, rfl⟩
  | created c waiting world hNone hOpen hCharacter hObstacle =>
    exact absurd hObstacle (obstacle_ne_none hBarred hCharacter)
  | again _ _ _ _ hSteps => exact hSteps.samePlayers hLast
  | kicked =>
    cases hLast
    exact ⟨SessionRegistry.roll_setPending .., rfl⟩

theorem claims_of_kicked {old : ConnectionId} {id : SessionId}
    (hStep : (g.attach config state seen now r).1 = .kicked old id) :
    ∃ session, Claims config r g id session ∧ session.liveConnection? seen = some old := by
  have hSteps := attach_cases config state seen now r g
  generalize g.attach config state seen now r = result at hStep hSteps
  obtain ⟨step, g'⟩ := result
  cases hStep
  cases hSteps with
  | again _ _ _ _ hSteps => cases hSteps
  | kicked _ session _ hClaims hOld => exact ⟨session, hClaims, hOld⟩

end Game

/-! ## Turns -/

namespace Server

variable {s : Server} {seen : ConnectionId → Bool} {closing : List ConnectionId} {now wall : Nat}
  {r : AttachRequest} {caller : Caller} {step : Game.AttachStep} {handle : SessionHandle}

/-- Only what grants a session is answered so. -/
theorem grants_of_replies (hReplies : (s.conclude now r caller step).replies =
    s.replies ++ [(caller, .outcome (.attached handle))]) : Game.Grants step handle := by
  cases step with
  | done outcome =>
    have hSame := List.append_cancel_left hReplies
    cases hSame
    exact .done handle
  | offered offer =>
    rw [replies_conclude_offered] at hReplies
    have hSame := List.append_cancel_left hReplies
    split at hSame
    case isTrue =>
      cases hSame
      exact .offered offer
    case isFalse => cases hSame
  | kicked old session =>
    have hNothing : s.replies = s.replies ++ [(caller, .outcome (.attached handle))] :=
      (s.replies_close old).symm.trans hReplies
    simp at hNothing

theorem grants_of_answer {game : Game}
    (hReplies : (conclude now r caller step (closeAll closing { s with game })).replies =
      s.replies ++ [(caller, .outcome (.attached handle))]) : Game.Grants step handle := by
  have hBefore : (closeAll closing { s with game }).replies = s.replies :=
    replies_closeAll closing { s with game }
  exact grants_of_replies (hReplies.trans (congrArg (· ++ _) hBefore.symm))

theorem turn_attach_of_isBarred (hBarred : r.IsBarred) (s : Server) :
    s.game.SamePlayers (turn seen closing now wall (.attach r caller) s).game ∧
      ∀ handle, (turn seen closing now wall (.attach r caller) s).replies =
          s.replies ++ [(caller, .outcome (.attached handle))] →
        ∃ session, Game.Claims s.config r s.game handle.id session ∧ session.handle = handle ∧
          session.liveConnection? seen = none := by
  have hSteps := Game.attach_cases s.config s.state seen wall r s.game
  rw [turn]
  generalize s.game.attach s.config s.state seen wall r = result at hSteps
  obtain ⟨step, game⟩ := result
  exact ⟨hSteps.samePlayers hBarred (leaves_answer game),
    fun handle hReplies => hSteps.of_grants hBarred (grants_of_answer hReplies)⟩

theorem turn_reattach_spec (id : SessionId) (s : Server) :
    s.game.SamePlayers (turn seen closing now wall (.reattach id r caller) s).game ∧
      ∀ handle, (turn seen closing now wall (.reattach id r caller) s).replies =
          s.replies ++ [(caller, .outcome (.attached handle))] →
        ∃ session, s.game.sessions.get? id = some session ∧ session.handle = handle ∧
          session.liveConnection? seen = none := by
  have hSteps := Game.reattach_cases seen id r s.game
  rw [turn]
  generalize s.game.reattach seen id r = result at hSteps
  obtain ⟨step, game⟩ := result
  exact ⟨hSteps.samePlayers (leaves_answer game),
    fun handle hReplies => hSteps.of_grants (grants_of_answer hReplies)⟩

/-! ## The queue goes on -/

theorem running_conclude (hRunning : s.tasks.stopped = false) :
    (s.conclude now r caller step).tasks.stopped = false := by
  cases step with
  | done => exact hRunning
  | offered offer =>
    by_cases hLive : ∃ session?, s.seat? offer.connection = some (.live session?)
    · obtain ⟨session?, hLive⟩ := hLive
      rw [(conclude_offered_live now r caller hLive).2.2.1, hRunning]
    · rw [(conclude_offered_gone (not_exists.mp hLive)).tasks]
      exact hRunning
  | kicked old session => exact (closeAll_spec [old] hRunning).1

theorem running_turn (hRunning : s.tasks.stopped = false) (task : GameTask) :
    (turn seen closing now wall task s).tasks.stopped = false := by
  have hAnswer : ∀ game : Game, (closeAll closing { s with game }).tasks.stopped = false :=
    fun game => (closeAll_spec closing (s := { s with game }) hRunning).1
  have hOther : ∀ other : GameTask, other.asker? = none →
      ((s.runTask now wall other).closeAll closing).tasks.stopped = false := by
    intro other hAsker
    refine (closeAll_spec closing ?_).1
    rw [tasks_runTask_of_asker?_eq_none hAsker, hRunning]
  cases task with
  | attach | reattach => exact running_conclude (hAnswer _)
  | detach | logout | setDead | removeSession => exact hOther _ rfl

end Server

theorem Event.running_apply {s : Server} {past : List Event} {event : Event}
    (hRunning : s.tasks.stopped = false) (hAllowed : event.Allowed past s) :
    (event.apply s).tasks.stopped = false := by
  have hPost : ∀ (t : Server) (task : GameTask), t.tasks.stopped = false →
      (t.post task).2.tasks.stopped = false := by
    intro t task hStill
    rw [Server.post_eq hStill]
    exact hStill
  cases event with
  | accept | takeUp => exact hRunning
  | request | logout => exact hPost _ _ hRunning
  | close id => exact (Server.closeAll_spec [id] hRunning).1
  | release n =>
    rw [apply, Server.releaseAt]
    split
    case h_1 => exact hRunning
    case h_2 => exact hPost _ _ hRunning
  | turn task seen closing now wall =>
    obtain ⟨ready, -, hTurn⟩ := apply_turn hAllowed.1 seen closing now wall
    rw [hTurn]
    exact Server.running_turn (s := { s with tasks := { s.tasks with ready } }) hRunning task
  | aside next =>
    rw [apply, hAllowed.tasks]
    exact hRunning

/-! ## Runs -/

/-- An earlier turn of a request has found a session that it may claim, and has put the request off
to kick the connection of that session. -/
inductive PutOff (start : Server) (id : SessionId) (r : AttachRequest) (caller : Caller) :
    List Event → Prop where
  | kicked {past : List Event} {s : Server} {seen : ConnectionId → Bool}
      {closing : List ConnectionId} {now wall : Nat} {session : Session} {old : ConnectionId}
      (hRun : Run start past s)
      (hAllowed : (Event.turn (.attach r caller) seen closing now wall).Allowed past s)
      (hClaims : Game.Claims s.config r s.game id session)
      (hOld : session.liveConnection? seen = some old) :
    PutOff start id r caller (.turn (.attach r caller) seen closing now wall :: past)
  | earlier {past : List Event} (event : Event) (h : PutOff start id r caller past) :
    PutOff start id r caller (event :: past)

section

variable {start s : Server} {past : List Event}

theorem Run.running (hRun : Run start past s) (hStart : start.tasks.stopped = false) :
    s.tasks.stopped = false := by
  induction hRun with
  | start => exact hStart
  | step event hRun hAllowed ih => exact Event.running_apply ih hAllowed

/-- Every request that comes back has been put off. -/
theorem Run.putOff (hRun : Run start past s) (hStart : start.tasks = .empty) {id : SessionId}
    {r : AttachRequest} {caller : Caller} (hTask : .reattach id r caller ∈ s.tasks.tasks) :
    PutOff start id r caller past := by
  induction hRun with
  | start =>
    rw [hStart] at hTask
    cases hTask
  | step event hRun hAllowed ih =>
    have hRunning := hRun.running (by rw [hStart]; rfl)
    rcases Event.mem_tasks_apply hRunning hAllowed hTask with hBefore | hNone |
      ⟨_, _, -, hTask⟩ | ⟨_, _, seen, closing, now, wall, old, _, rfl, hTask, hStep⟩
    · exact .earlier event (ih hBefore)
    · cases hNone
    · cases hTask
    · cases hTask
      obtain ⟨session, hClaims, hOld⟩ := Game.claims_of_kicked hStep
      exact .kicked hRun hAllowed hClaims hOld

end

/-- The request of a barred character makes no session and puts nobody into the world. It is
attached only to a session that its character has: its turn has found one to which nobody is
attached, or it has kicked the connection of one and comes back for it. -/
theorem Run.barred_request_takes_over {config : Config} {key : Rsa.Key} {state : WorldState}
    {world : World} {handlers : HandlerTable} {capacity : Nat} {past : List Event} {s : Server}
    (hRun : Run (Server.start config key state world handlers capacity) past s)
    {r : AttachRequest} (hBarred : r.IsBarred) (caller : Caller) :
    (∀ (event : Event) seen closing now wall,
      event = .turn (.attach r caller) seen closing now wall → event.Allowed past s →
      s.game.SamePlayers (event.apply s).game ∧
      ∀ handle, (event.apply s).replies = s.replies ++ [(caller, .outcome (.attached handle))] →
        ∃ session, Game.Claims s.config r s.game handle.id session ∧ session.handle = handle ∧
          session.liveConnection? seen = none) ∧
    ∀ (event : Event) id seen closing now wall,
      event = .turn (.reattach id r caller) seen closing now wall → event.Allowed past s →
      PutOff (Server.start config key state world handlers capacity) id r caller past ∧
      s.game.SamePlayers (event.apply s).game ∧
      ∀ handle, (event.apply s).replies = s.replies ++ [(caller, .outcome (.attached handle))] →
        ∃ session, s.game.sessions.get? id = some session ∧ session.handle = handle ∧
          session.liveConnection? seen = none := by
  constructor
  · rintro _ seen closing now wall rfl hAllowed
    obtain ⟨ready, -, hTurn⟩ := Event.apply_turn hAllowed.1 seen closing now wall
    rw [hTurn]
    exact Server.turn_attach_of_isBarred hBarred { s with tasks := { s.tasks with ready } }
  · rintro _ id seen closing now wall rfl hAllowed
    have hQueued := List.mem_append_left (s.tasks.delayed.map (·.task))
      (List.mem_of_head? hAllowed.1)
    obtain ⟨ready, -, hTurn⟩ := Event.apply_turn hAllowed.1 seen closing now wall
    rw [hTurn]
    exact ⟨hRun.putOff rfl hQueued,
      Server.turn_reattach_spec id { s with tasks := { s.tasks with ready } }⟩

/-! ## A barred character that plays

By the time the second connection asks, the character is namelocked and its account banned. -/

namespace Rivals.Barred

def request : AttachRequest :=
  { Rivals.request 2 with namelocked := true, accountBan? := some ⟨0, "GM", "spam"⟩ }

def answer (s : Server) : Event := .turn (.attach request (.connection 2)) s.isOpen [] 0 0

def asked : Server := (Event.request request (.connection 2)).apply entered

def asking : List Event := .request request (.connection 2) :: entering

theorem run_asking : Run opened asking asked :=
  run_entering.step (.request request (.connection 2)) (show (2 : ConnectionId) ∉ [1] by decide)

def left : Server := (Event.close 1).apply asked

/-- There is no gate before a session that is there: the request is attached to it. -/
theorem barred_request_attached :
    request.namelocked = true ∧ request.accountBan?.isSome = true ∧
      request.character? = some knight ∧ knight.cannotBeBanned = false ∧
      Run opened (.close 1 :: asking) left ∧ (answer left).Allowed (.close 1 :: asking) left ∧
      ((answer left).apply left).replies =
        left.replies ++ [(.connection 2, .outcome (.attached handle))] :=
  ⟨rfl, rfl, rfl, rfl, run_asking.step (.close 1) trivial, ⟨rfl, left.sees_isOpen⟩, rfl⟩

/-! The first connection may still be there. The second one has it kicked, and comes back. -/

def kicked : Server := (answer asked).apply asked

def vacating : Event := .turn (.detach 1 1) kicked.isOpen [] 0 0

def returned : Server := (Event.release 0).apply (vacating.apply kicked)

def returning : List Event := .release 0 :: vacating :: answer asked :: asking

theorem run_returning : Run opened returning returned := by
  have hKicked := run_asking.step (answer asked) ⟨rfl, asked.sees_isOpen⟩
  have hVacated := hKicked.step vacating ⟨rfl, kicked.sees_isOpen⟩
  exact hVacated.step (.release 0) trivial

def takingOver : Event :=
  .turn (.reattach 1 request (.connection 2)) returned.isOpen [] 0 0

theorem barred_request_takes_over_late :
    request.IsBarred ∧ PutOff opened 1 request (.connection 2) returning ∧
      returned.game.SamePlayers (takingOver.apply returned).game ∧
      (takingOver.apply returned).replies =
        returned.replies ++ [(.connection 2, .outcome (.attached handle))] ∧
      ∃ session, returned.game.sessions.get? 1 = some session ∧ session.handle = handle ∧
        session.liveConnection? returned.isOpen = none := by
  have hBarred : request.IsBarred := Or.inl rfl
  have hAttached : (takingOver.apply returned).replies =
      returned.replies ++ [(.connection 2, .outcome (.attached handle))] := rfl
  obtain ⟨-, hReturns⟩ := run_returning.barred_request_takes_over hBarred (.connection 2)
  obtain ⟨hPutOff, hSame, hTaken⟩ := hReturns takingOver 1 _ _ _ _ rfl
    ⟨rfl, returned.sees_isOpen⟩
  exact ⟨hBarred, hPutOff, hSame, hAttached, hTaken handle hAttached⟩

end Rivals.Barred

end Gatehouse
