import Gatehouse.Proofs.Runs

/-!
# What a turn makes of the game

The game changes in turns of the task queue only. A task that answers a request leaves what its step
has made, or withdraws it again; every other task does one thing.
-/

namespace Gatehouse

inductive Game.Turning (config : Config) (state : WorldState) (seen : ConnectionId → Bool)
    (wall : Nat) (g : Game) : GameTask → Game → Prop where
  | attach {request : AttachRequest} {caller : Caller} {step : AttachStep} {game last : Game}
      (hStep : g.attach config state seen wall request = (step, game))
      (hLast : Leaves game step last) :
    Turning config state seen wall g (.attach request caller) last
  | reattach {session : SessionId} {request : AttachRequest} {caller : Caller} {step : AttachStep}
      {game last : Game} (hSteps : Reattaching seen session request g step game)
      (hLast : Leaves game step last) :
    Turning config state seen wall g (.reattach session request caller) last
  | detach (session : SessionId) (connection : ConnectionId) :
    Turning config state seen wall g (.detach session connection) (g.detach session connection)
  | logout (session : SessionId) (character : CharacterId) :
    Turning config state seen wall g (.logout session character) (g.logout session character)
  | setDead (session : SessionId) (dead : Bool) (caller? : Option Caller) :
    Turning config state seen wall g (.setDead session dead caller?)
      { g with sessions := g.sessions.setDead session dead }
  | removeSession (session : SessionId) (caller? : Option Caller) :
    Turning config state seen wall g (.removeSession session caller?)
      { g with sessions := (g.sessions.remove session).2 }

theorem Game.attaching_of_eq {config : Config} {state : WorldState} {seen : ConnectionId → Bool}
    {wall : Nat} {request : AttachRequest} {g game : Game} {step : AttachStep}
    (hStep : g.attach config state seen wall request = (step, game)) :
    Attaching config state seen wall request g step game := by
  have hSteps := attach_cases config state seen wall request g
  rwa [hStep] at hSteps

namespace Server

variable {s : Server} {seen : ConnectionId → Bool} {closing : List ConnectionId} {now wall : Nat}
  {request : AttachRequest} {caller : Caller} {step : Game.AttachStep}

theorem leaves_conclude (now : Nat) (request : AttachRequest) (caller : Caller) (s : Server)
    (step : Game.AttachStep) :
    Game.Leaves s.game step (s.conclude now request caller step).game := by
  cases step with
  | done => exact .kept _
  | offered offer =>
    by_cases hLive : ∃ session?, s.seat? offer.connection = some (.live session?)
    · obtain ⟨session?, hLive⟩ := hLive
      rw [(conclude_offered_live now request caller hLive).2.1]
      exact .kept _
    · rw [(conclude_offered_gone (not_exists.mp hLive)).game]
      exact .withdrawn offer
  | kicked old session =>
    rw [conclude_kicked, game_close]
    exact .kept _

theorem leaves_answer (game : Game) : Game.Leaves game step
    (conclude now request caller step (closeAll closing { s with game })).game := by
  have hLast := leaves_conclude now request caller (closeAll closing { s with game }) step
  rwa [game_closeAll] at hLast

theorem turn_cases (seen : ConnectionId → Bool) (closing : List ConnectionId) (now wall : Nat)
    (task : GameTask) (s : Server) :
    s.game.Turning s.config s.state seen wall task (turn seen closing now wall task s).game := by
  cases task with
  | attach request caller => exact .attach rfl (leaves_answer _)
  | reattach session request caller =>
    exact .reattach (Game.reattach_cases seen session request s.game) (leaves_answer _)
  | detach session connection =>
    have hGame : (turn seen closing now wall (.detach session connection) s).game = _ :=
      game_closeAll ..
    rw [hGame]
    exact .detach session connection
  | logout session character =>
    have hGame : (turn seen closing now wall (.logout session character) s).game = _ :=
      game_closeAll ..
    rw [hGame]
    exact .logout session character
  | setDead session dead caller? =>
    have hGame : (turn seen closing now wall (.setDead session dead caller?) s).game = _ :=
      game_closeAll ..
    rw [hGame]
    cases caller? <;> exact .setDead session dead _
  | removeSession session caller? =>
    have hGame : (turn seen closing now wall (.removeSession session caller?) s).game = _ :=
      game_closeAll ..
    rw [hGame]
    cases caller? <;> exact .removeSession session _

end Server

/-! ## The sessions that there are -/

namespace Game

/-- The ways in which a task changes the list of sessions. One more comes through the gates only. -/
inductive Renewal (config : Config) (state : WorldState) (g : Game) (task : GameTask) (g' : Game) :
    Prop where
  | fewer (hLess : g'.sessions.identities.Sublist g.sessions.identities)
      (hCreated : g.sessions.created ≤ g'.sessions.created)
  | more (request : AttachRequest) (caller : Caller) (c : Character)
      (hTask : task = .attach request caller) (hCharacter : request.character? = some c)
      (hObstacle : obstacle config state g request c = none)
      (hSessions : g'.sessions.identities =
        g.sessions.identities.filter (·.1 != g.sessions.freshId) ++
          [(g.sessions.freshId, g.sessions.created, c)])
      (hCreated : g'.sessions.created = g.sessions.created + 1)

variable {config : Config} {state : WorldState} {seen : ConnectionId → Bool} {wall : Nat}
  {existing : SessionId} {request : AttachRequest} {g g' last : Game} {step : AttachStep}
  {task : GameTask}

theorem Renewal.of_eq (hSame : last.sessions.identities = g.sessions.identities)
    (hCreated : last.sessions.created = g.sessions.created) :
    g.Renewal config state task last :=
  .fewer (hSame ▸ List.Sublist.refl _) hCreated.ge

theorem Leaves.identities (hLast : Leaves g step last) :
    last.sessions.identities = g.sessions.identities ∨
      ∃ offer, step = .offered offer ∧ offer.isNew = true ∧
        last.sessions.identities = g.sessions.identities.filter (·.1 != offer.handle.id) := by
  cases hLast with
  | kept => exact Or.inl rfl
  | withdrawn offer =>
    cases hNew : offer.isNew with
    | true =>
      refine Or.inr ⟨offer, rfl, hNew, ?_⟩
      rw [withdraw, if_pos hNew]
      exact SessionRegistry.identities_remove ..
    | false =>
      refine Or.inl ?_
      rw [withdraw, if_neg (by simp [hNew])]
      exact SessionRegistry.identities_detach ..

theorem Reattaching.identities (hSteps : Reattaching seen existing request g step g')
    (hLast : Leaves g' step last) : last.sessions.identities = g.sessions.identities := by
  have hPending := g.sessions.identities_setPending existing false
  have hKept : g'.sessions.identities = g.sessions.identities := by
    cases hSteps with
    | missing => rfl
    | givenUp | occupied => exact hPending
    | takenOver => exact (SessionRegistry.identities_attach ..).trans hPending
  rcases hLast.identities with hSame | ⟨offer, rfl, hNew, -⟩
  · exact hSame.trans hKept
  · cases hSteps
    cases hNew

theorem Reattaching.created_eq (hSteps : Reattaching seen existing request g step g') :
    g'.sessions.created = g.sessions.created := by
  cases hSteps <;> rfl

theorem Turning.renewal (hTurn : g.Turning config state seen wall task last) :
    g.Renewal config state task last := by
  cases hTurn with
  | @attach request caller step game _ hStep hLast =>
    have hSteps := attaching_of_eq hStep
    have hCreated := hLast.created_eq
    cases hSteps with
    | turnedAway =>
      cases hLast
      exact .of_eq rfl rfl
    | again _ _ _ _ hSteps =>
      exact .of_eq (hSteps.identities hLast) (hCreated.trans hSteps.created_eq)
    | kicked =>
      cases hLast
      exact .of_eq (SessionRegistry.identities_setPending ..) rfl
    | created c waiting world hNone hOpen hCharacter hObstacle =>
      have hInserted := g.sessions.identities_insert c request.system request.connection
      rcases hLast.identities with hSame | ⟨offer, hOffer, -, hGone⟩
      · exact .more request caller c rfl hCharacter hObstacle (hSame.trans hInserted) hCreated
      · cases hOffer
        refine .fewer ?_ (hCreated ▸ Nat.le_succ _)
        rw [hInserted, List.filter_append] at hGone
        have hNone : [(g.sessions.freshId, g.sessions.created, c)].filter
            (·.1 != (g.sessions.insert c request.system request.connection).1.id) = [] := by
          simp [SessionRegistry.insert, Session.handle]
        rw [hNone, List.append_nil] at hGone
        rw [hGone]
        exact List.filter_sublist.trans List.filter_sublist
  | reattach hSteps hLast =>
    exact .of_eq (hSteps.identities hLast) (hLast.created_eq.trans hSteps.created_eq)
  | detach session connection => exact .of_eq (SessionRegistry.identities_detach ..) rfl
  | logout session character =>
    refine .fewer ?_ (by rw [sessions_logout]; exact le_rfl)
    rw [sessions_logout, SessionRegistry.identities_remove]
    exact List.filter_sublist
  | setDead session dead => exact .of_eq (SessionRegistry.identities_setDead ..) rfl
  | removeSession session =>
    refine .fewer ?_ le_rfl
    rw [SessionRegistry.identities_remove]
    exact List.filter_sublist

end Game

/-! ## Who plays -/

namespace Server

variable {s : Server} {asked : List ConnectionId} {removed : List SessionId}

theorem Owned.toNat_le_of_mem_roll (hs : s.Owned asked removed) {entry : SessionId × CharacterId}
    (hEntry : entry ∈ s.game.sessions.roll) : entry.1.toNat ≤ s.game.sessions.created := by
  obtain ⟨session, hSession⟩ := SessionRegistry.exists_get?_of_mem_roll hEntry
  exact hs.link_le _ _ (SessionRegistry.link?_of_get? hSession)

theorem Owned.freshId_not_mem (hs : s.Owned asked removed)
    (hFew : s.game.sessions.created + 1 < 2 ^ 32) :
    s.game.sessions.freshId ∉ s.game.sessions.roll.map Prod.fst := by
  intro hHas
  obtain ⟨entry, hEntry, hId⟩ := List.mem_map.mp hHas
  have hLe := hs.toNat_le_of_mem_roll hEntry
  rw [hId, SessionRegistry.toNat_freshId hs.nextId hFew] at hLe
  omega

end Server

namespace Game

/-- The session that a step makes, whether or not its connection takes it. -/
def AttachStep.made? : AttachStep → Option (SessionId × CharacterId)
  | offered offer =>
    if offer.isNew then some (offer.handle.id, offer.handle.characterId) else none
  | done _ | kicked .. => none

/-- The ways in which a turn changes who plays, where the first session is the one that is made. The
world has one place for each character, however many sessions that has. -/
inductive Turnover (g g' : Game) : Option (SessionId × CharacterId) → Prop where
  | same (hSame : g.SamePlayers g') : Turnover g g' none
  | entered (c : CharacterId) (hFresh : g.sessions.freshId ∉ g.sessions.roll.map Prod.fst)
      (hRoll : g'.sessions.roll = g.sessions.roll ++ [(g.sessions.freshId, c)])
      (hCreated : g'.sessions.created = g.sessions.created + 1)
      (hWorld : ∀ other, other ∈ g'.world.inhabitants ↔ other = c ∨ other ∈ g.world.inhabitants) :
    Turnover g g' (some (g.sessions.freshId, c))
  | undone (c : CharacterId) (hFresh : g.sessions.freshId ∉ g.sessions.roll.map Prod.fst)
      (hRoll : g'.sessions.roll = g.sessions.roll)
      (hWorld : ∀ other, other ∈ g'.world.inhabitants ↔ other ∈ g.world.inhabitants ∧ other ≠ c) :
    Turnover g g' (some (g.sessions.freshId, c))
  | ended (id : SessionId) (c : CharacterId) (hThere : (id, c) ∈ g.sessions.roll)
      (hRoll : g'.sessions.roll = g.sessions.roll.filter (·.1 != id))
      (hWorld : ∀ other, other ∈ g'.world.inhabitants ↔ other ∈ g.world.inhabitants ∧ other ≠ c) :
    Turnover g g' none

variable {config : Config} {state : WorldState} {seen : ConnectionId → Bool} {wall : Nat}
  {existing : SessionId} {request : AttachRequest} {g g' last : Game} {step : AttachStep}

theorem Reattaching.made?_eq_none (hSteps : Reattaching seen existing request g step g') :
    step.made? = none := by
  cases hSteps <;> rfl

theorem Attaching.turnover (hSteps : Attaching config state seen wall request g step g')
    (hFresh : g'.sessions.created = g.sessions.created + 1 →
      g.sessions.freshId ∉ g.sessions.roll.map Prod.fst)
    (hLast : Leaves g' step last) : g.Turnover last step.made? := by
  cases hSteps with
  | turnedAway =>
    cases hLast
    exact .same ⟨rfl, rfl⟩
  | again _ _ _ _ hSteps =>
    rw [hSteps.made?_eq_none]
    exact .same (hSteps.samePlayers hLast)
  | kicked =>
    cases hLast
    exact .same ⟨SessionRegistry.roll_setPending .., rfl⟩
  | created c waiting world hNone hOpen hCharacter hObstacle hPlace hWorld =>
    have hNew := hFresh rfl
    have hRoll := SessionRegistry.roll_insert_of_fresh hNew c request.system request.connection
    have hEntered := mem_inhabitants_enter hWorld
    cases hLast with
    | kept => exact .entered c.id hNew hRoll rfl hEntered
    | withdrawn =>
      refine .undone c.id hNew ?_ fun other => ?_
      · have hGone := (g.sessions.insert c request.system request.connection).2.roll_remove
          g.sessions.freshId
        rw [hRoll, List.filter_append, SessionRegistry.filter_roll_of_fresh hNew] at hGone
        refine hGone.trans ?_
        simp
      · refine (world.mem_inhabitants_remove c.id other).trans ?_
        rw [hEntered]
        tauto

theorem turnover_logout {id : SessionId} {character : CharacterId}
    (hKnown : ∀ c, (id, c) ∈ g.sessions.roll → c = character) :
    g.Turnover (g.logout id character) none := by
  cases hSession : g.sessions.get? id with
  | none =>
    have hNothing : g.logout id character = g := by
      rw [Game.logout, SessionRegistry.remove, hSession]
    rw [hNothing]
    exact .same ⟨rfl, rfl⟩
  | some session =>
    have hThere := SessionRegistry.mem_roll_of_get? hSession
    have hRemoved : g.logout id character =
        { g with sessions := (g.sessions.remove id).2, world := g.world.remove character } := by
      rw [Game.logout, SessionRegistry.remove, hSession]
    rw [hRemoved]
    exact .ended id character (hKnown _ hThere ▸ hThere) (g.sessions.roll_remove id)
      (g.world.mem_inhabitants_remove character)

end Game

namespace Event

def task? : Event → Option GameTask
  | turn task .. => some task
  | _ => none

/-- The session that an event makes, whether or not its connection takes it. -/
def made? (s : Server) : Event → Option (SessionId × CharacterId)
  | turn (.attach r _) seen _ _ wall => (s.game.attach s.config s.state seen wall r).1.made?
  | _ => none

/-- The game changes in turns only. -/
theorem game_cases {s : Server} {past : List Event} {event : Event}
    (hAllowed : event.Allowed past s) :
    (event.task? = none ∧ (event.apply s).game = s.game) ∨
    ∃ task seen closing now wall, event = .turn task seen closing now wall ∧
      task ∈ s.tasks.ready ∧
      s.game.Turning s.config s.state seen wall task (event.apply s).game := by
  have hPost : ∀ (t : Server) (task : GameTask), (t.post task).2.game = t.game :=
    fun t task => by rw [Server.post]
  cases event with
  | accept | takeUp => exact Or.inl ⟨rfl, rfl⟩
  | request | logout => exact Or.inl ⟨rfl, hPost ..⟩
  | close id => exact Or.inl ⟨rfl, s.game_close id⟩
  | release n =>
    refine Or.inl ⟨rfl, ?_⟩
    rw [apply, Server.releaseAt]
    split
    case h_1 => rfl
    case h_2 => exact hPost ..
  | turn task seen closing now wall =>
    obtain ⟨ready, hReady, hTurn⟩ := apply_turn hAllowed.1 seen closing now wall
    refine Or.inr ⟨task, seen, closing, now, wall, rfl, hReady ▸ List.mem_cons_self, ?_⟩
    rw [hTurn]
    exact Server.turn_cases seen closing now wall task { s with tasks := { s.tasks with ready } }
  | aside next => exact Or.inl ⟨rfl, hAllowed.game⟩

end Event

namespace Game.Turnover

variable {g g' : Game} {made? : Option (SessionId × CharacterId)}

theorem mem_roll (h : g.Turnover g' made?) {entry : SessionId × CharacterId}
    (hEntry : entry ∈ g'.sessions.roll) :
    entry ∈ g.sessions.roll ∨
      entry.1 = g.sessions.freshId ∧ g'.sessions.created = g.sessions.created + 1 := by
  cases h with
  | same hSame => exact Or.inl (hSame.roll ▸ hEntry)
  | entered c hFresh hRoll hCreated =>
    rw [hRoll] at hEntry
    rcases List.mem_append.mp hEntry with hBefore | hHere
    · exact Or.inl hBefore
    · cases List.mem_singleton.mp hHere
      exact Or.inr ⟨rfl, hCreated⟩
  | undone c hFresh hRoll => exact Or.inl (hRoll ▸ hEntry)
  | ended id c hThere hRoll =>
    rw [hRoll] at hEntry
    exact Or.inl (List.mem_of_mem_filter hEntry)

theorem nodup_ids (h : g.Turnover g' made?) (hIds : (g.sessions.roll.map Prod.fst).Nodup) :
    (g'.sessions.roll.map Prod.fst).Nodup := by
  cases h with
  | same hSame => exact hSame.roll ▸ hIds
  | entered c hFresh hRoll =>
    rw [hRoll, List.map_append]
    exact List.nodup_append_comm.mp (List.nodup_cons.mpr ⟨hFresh, hIds⟩)
  | undone c hFresh hRoll => exact hRoll ▸ hIds
  | ended id c hThere hRoll =>
    rw [hRoll]
    exact hIds.sublist (List.filter_sublist.map _)

end Game.Turnover

end Gatehouse
