import Gatehouse.Proofs.Handover

/-!
# What holds in every run

The references of sessions and connections are in order in every state that a server can reach, and
every removal of a session goes back to a message that was handled as a logout.
-/

namespace Gatehouse

/-- The session that an event removes because of a logout. -/
def Event.removal? : Event → Option SessionId
  | turn (.logout id _) _ _ _ _ => some id
  | _ => none

/-- A task that neither a connection nor a request leads to. -/
def GameTask.IsExternal : GameTask → Prop
  | setDead .. | removeSession .. => True
  | attach .. | reattach .. | detach .. | logout .. => False

namespace Server

variable {s : Server} {seen : ConnectionId → Bool} {closing : List ConnectionId} {now wall : Nat}
  {request : AttachRequest} {caller : Caller} {task other : GameTask}

/-! ## Sessions that have been made -/

theorem created_reattach {existing : SessionId} (g : Game) :
    (g.reattach seen existing request).2.sessions.created = g.sessions.created := by
  have hSteps := Game.reattach_cases seen existing request g
  generalize g.reattach seen existing request = result at hSteps ⊢
  obtain ⟨step, game⟩ := result
  cases hSteps <;> rfl

theorem created_le_attach {config : Config} {state : WorldState} (g : Game) :
    g.sessions.created ≤ (g.attach config state seen wall request).2.sessions.created := by
  have hSteps := Game.attach_cases config state seen wall request g
  generalize g.attach config state seen wall request = result at hSteps ⊢
  obtain ⟨step, game⟩ := result
  cases hSteps with
  | turnedAway => exact le_rfl
  | created => exact Nat.le_succ _
  | again existing session hClaims hFree hSteps =>
    cases hSteps <;> exact le_rfl
  | kicked => exact le_rfl

theorem created_turn_attach (s : Server) :
    (turn seen closing now wall (.attach request caller) s).game.sessions.created =
      (s.game.attach s.config s.state seen wall request).2.sessions.created := by
  change (conclude _ _ _ _ _).game.sessions.created = _
  rw [created_conclude, game_closeAll]
  rfl

theorem created_runTask_of_asker?_eq_none (hAsker : task.asker? = none) :
    (s.runTask now wall task).game.sessions.created = s.game.sessions.created := by
  cases task with
  | attach | reattach => cases hAsker
  | detach => rfl
  | logout session character => exact (logout_spec s.game session character).1
  | setDead session dead caller? | removeSession session caller? => cases caller? <;> rfl

theorem created_le_turn (s : Server) (task : GameTask) :
    s.game.sessions.created ≤ (turn seen closing now wall task s).game.sessions.created := by
  have hOther : ∀ other : GameTask, other.asker? = none → s.game.sessions.created ≤
      ((s.runTask now wall other).closeAll closing).game.sessions.created := by
    intro other hAsker
    rw [game_closeAll, created_runTask_of_asker?_eq_none hAsker]
  cases task with
  | attach request caller =>
    rw [created_turn_attach]
    exact created_le_attach s.game
  | reattach session request caller =>
    change _ ≤ (conclude _ _ _ _ _).game.sessions.created
    rw [created_conclude, game_closeAll]
    exact (created_reattach s.game).ge
  | detach | logout | setDead | removeSession => exact hOther _ rfl

/-! ## Tasks that are posted -/

theorem mem_ready_post (hRunning : s.tasks.stopped = false)
    (hTask : task ∈ (s.post other).2.tasks.ready) : task ∈ s.tasks.ready ∨ task = other := by
  rw [post_eq hRunning] at hTask
  exact (List.mem_append.mp hTask).imp_right List.mem_singleton.mp

theorem mem_ready_close (hRunning : s.tasks.stopped = false) {c : ConnectionId}
    (hTask : task ∈ (s.close c).tasks.ready) :
    task ∈ s.tasks.ready ∨ ∃ id d, task = .detach id d := by
  rw [(s.close_spec c hRunning).2.2.1] at hTask
  refine (List.mem_append.mp hTask).imp_right fun hLast => ?_
  obtain ⟨h, -, rfl⟩ : ∃ h, s.held? c = some h ∧ .detach h.id c = task := by
    simpa [farewell] using hLast
  exact ⟨h.id, c, rfl⟩

theorem mem_ready_closeAll (hRunning : s.tasks.stopped = false)
    (hTask : task ∈ (s.closeAll closing).tasks.ready) :
    task ∈ s.tasks.ready ∨ ∃ id d, task = .detach id d := by
  induction closing generalizing s with
  | nil => exact Or.inl hTask
  | cons c closing ih =>
    have hStill : (s.close c).tasks.stopped = false := by
      rw [(s.close_spec c hRunning).2.2.1, hRunning]
    rcases ih hStill hTask with hBefore | hDetach
    · exact mem_ready_close hRunning hBefore
    · exact Or.inr hDetach

theorem mem_ready_conclude (hRunning : s.tasks.stopped = false) {step : Game.AttachStep}
    (hTask : task ∈ (s.conclude now request caller step).tasks.ready) :
    task ∈ s.tasks.ready ∨ ∃ id d, task = .detach id d := by
  cases step with
  | done => exact Or.inl hTask
  | offered offer =>
    refine Or.inl ?_
    by_cases hLive : ∃ session?, s.seat? offer.connection = some (.live session?)
    · obtain ⟨session?, hLive⟩ := hLive
      rwa [(conclude_offered_live now request caller hLive).2.2.1] at hTask
    · rwa [(conclude_offered_gone (not_exists.mp hLive)).tasks] at hTask
  | kicked old session => exact mem_ready_close hRunning hTask

theorem tasks_runTask_of_asker?_eq_none (hAsker : task.asker? = none) :
    (s.runTask now wall task).tasks = s.tasks := by
  cases task with
  | attach | reattach => cases hAsker
  | detach | logout => rfl
  | setDead session dead caller? | removeSession session caller? => cases caller? <;> rfl

theorem mem_ready_turn (hRunning : s.tasks.stopped = false)
    (hTask : task ∈ (turn seen closing now wall other s).tasks.ready) :
    task ∈ s.tasks.ready ∨ ∃ id d, task = .detach id d := by
  have hAnswer : ∀ {request caller step game}, task ∈
      (conclude now request caller step (Server.closeAll closing { s with game })).tasks.ready →
      task ∈ s.tasks.ready ∨ ∃ id d, task = .detach id d := by
    intro request caller step game hTask
    have hStill := (closeAll_spec closing (s := { s with game }) hRunning).1
    rcases mem_ready_conclude hStill hTask with hBefore | hDetach
    · exact mem_ready_closeAll (s := { s with game }) hRunning hBefore
    · exact Or.inr hDetach
  have hOther : ∀ other : GameTask, other.asker? = none →
      task ∈ ((s.runTask now wall other).closeAll closing).tasks.ready →
      task ∈ s.tasks.ready ∨ ∃ id d, task = .detach id d := by
    intro other hAsker hTask
    have hSame : (s.runTask now wall other).tasks = s.tasks :=
      tasks_runTask_of_asker?_eq_none hAsker
    rcases mem_ready_closeAll (hSame ▸ hRunning) hTask with hBefore | hDetach
    · exact Or.inl (hSame ▸ hBefore)
    · exact Or.inr hDetach
  cases other with
  | attach request caller => exact hAnswer hTask
  | reattach session request caller => exact hAnswer hTask
  | detach | logout | setDead | removeSession => exact hOther _ rfl hTask

/-! ## Removals and their causes -/

/-- Every removal, queued or done, goes back to a logout, and that to a message taken up. -/
structure Traced (past : List Event) (s : Server) : Prop where
  takenUp_le : ∀ c h, .takeUp c h ∈ past → h.id.toNat ≤ s.game.sessions.created
  takenUp : ∀ c h, .logout c h ∈ past → .takeUp c h ∈ past
  queued : ∀ id character, .logout id character ∈ s.tasks.ready →
    ∃ c h, .logout c h ∈ past ∧ h.id = id
  done : ∀ id ∈ past.filterMap Event.removal?, ∃ c h, .logout c h ∈ past ∧ h.id = id
  plain : ∀ task ∈ s.tasks.ready, ¬ task.IsExternal

theorem traced_start (config : Config) (key : Rsa.Key) (state : WorldState) (world : World)
    (handlers : HandlerTable) (capacity : Nat) :
    Traced [] (start config key state world handlers capacity) where
  takenUp_le := fun _ _ hPast => absurd hPast List.not_mem_nil
  takenUp := fun _ _ hPast => absurd hPast List.not_mem_nil
  queued := fun _ _ hQueued => absurd hQueued List.not_mem_nil
  done := fun _ hDone => absurd hDone List.not_mem_nil
  plain := fun _ hQueued => absurd hQueued List.not_mem_nil

theorem Traced.id_le {past : List Event} (hs : s.Traced past) {id : SessionId}
    {character : CharacterId} (hQueued : .logout id character ∈ s.tasks.ready) :
    id.toNat ≤ s.game.sessions.created := by
  obtain ⟨c, h, hLogout, rfl⟩ := hs.queued id character hQueued
  exact hs.takenUp_le c h (hs.takenUp c h hLogout)

end Server

namespace Event

open Server (Owned Traced)

variable {s : Server} {past : List Event}

theorem mem_ready_apply {event : Event} {asked : List ConnectionId} {removed : List SessionId}
    (hs : s.Owned asked removed) (hAllowed : event.Allowed past s) {task : GameTask}
    (hTask : task ∈ (event.apply s).tasks.ready) :
    task ∈ s.tasks.ready ∨ (∃ id d, task = .detach id d) ∨ task.asker?.isSome = true ∨
      ∃ c h, event = .logout c h ∧ task = .logout h.id h.characterId := by
  have hRunning := hs.running
  cases event with
  | accept peer => exact Or.inl hTask
  | request r caller =>
    rcases Server.mem_ready_post hRunning hTask with hBefore | rfl
    · exact Or.inl hBefore
    · exact Or.inr (Or.inr (Or.inl rfl))
  | close c => exact (Server.mem_ready_close hRunning hTask).imp_right Or.inl
  | takeUp c h => exact Or.inl hTask
  | logout c h =>
    rcases Server.mem_ready_post hRunning hTask with hBefore | hNew
    · exact Or.inl hBefore
    · exact Or.inr (Or.inr (Or.inr ⟨c, h, rfl, hNew⟩))
  | release n =>
    rw [apply, Server.releaseAt] at hTask
    split at hTask
    case h_1 => exact Or.inl hTask
    case h_2 d hAt =>
      have hAsker := hs.delayed d (List.mem_of_getElem? hAt)
      rcases Server.mem_ready_post
        (s := { s with tasks := { s.tasks with delayed := s.tasks.delayed.eraseIdx n } }) hRunning
        hTask with hBefore | rfl
      · exact Or.inl hBefore
      · exact Or.inr (Or.inr (Or.inl hAsker))
  | turn other seen closing now wall =>
    obtain ⟨ready, hReady, hTurn⟩ := apply_turn hAllowed.1 seen closing now wall
    rw [hTurn] at hTask
    rcases Server.mem_ready_turn (s := { s with tasks := { s.tasks with ready } }) hRunning hTask
      with hBefore | hDetach
    · exact Or.inl (hReady ▸ List.mem_cons_of_mem _ hBefore)
    · exact Or.inr (Or.inl hDetach)
  | aside next =>
    rw [apply, hAllowed.tasks] at hTask
    exact Or.inl hTask

theorem created_le_apply {event : Event} (hAllowed : event.Allowed past s) :
    s.game.sessions.created ≤ (event.apply s).game.sessions.created := by
  cases event with
  | accept | takeUp | request | logout => exact le_rfl
  | close c => rw [apply, Server.game_close]
  | release n =>
    rw [apply, Server.releaseAt]
    split
    case h_1 => exact le_rfl
    case h_2 => exact le_rfl
  | turn task seen closing now wall =>
    obtain ⟨ready, -, hTurn⟩ := apply_turn hAllowed.1 seen closing now wall
    rw [hTurn]
    exact Server.created_le_turn { s with tasks := { s.tasks with ready } } task
  | aside next => rw [apply, hAllowed.game]

theorem traced_apply {event : Event} {asked : List ConnectionId} {removed : List SessionId}
    (hs : s.Owned asked removed) (hTraced : s.Traced past) (hAllowed : event.Allowed past s) :
    (event.apply s).Traced (event :: past) := by
  have hCreated := created_le_apply hAllowed
  constructor
  case takenUp_le =>
    intro c h hTaken
    rcases List.mem_cons.mp hTaken with rfl | hBefore
    · exact (hs.held_le c h hAllowed).trans hCreated
    · exact (hTraced.takenUp_le c h hBefore).trans hCreated
  case takenUp =>
    intro c h hLogout
    rcases List.mem_cons.mp hLogout with rfl | hBefore
    · exact List.mem_cons_of_mem _ hAllowed
    · exact List.mem_cons_of_mem _ (hTraced.takenUp c h hBefore)
  case queued =>
    intro id character hQueued
    rcases mem_ready_apply hs hAllowed hQueued with hBefore | ⟨_, _, hDetach⟩ | hAsker | hLogout
    · obtain ⟨c, h, hLogout, hId⟩ := hTraced.queued id character hBefore
      exact ⟨c, h, List.mem_cons_of_mem _ hLogout, hId⟩
    · cases hDetach
    · cases hAsker
    · obtain ⟨c, h, rfl, hTask⟩ := hLogout
      cases hTask
      exact ⟨c, h, List.mem_cons_self, rfl⟩
  case done =>
    intro id hRemoved
    obtain ⟨cause, hCause, hRemoval⟩ := List.mem_filterMap.mp hRemoved
    rcases List.mem_cons.mp hCause with rfl | hBefore
    · -- the removal that runs now was queued
      obtain ⟨character, hFirst⟩ : ∃ character,
          s.tasks.ready.head? = some (.logout id character) := by
        cases cause with
        | turn task => cases task <;> cases hRemoval; exact ⟨_, hAllowed.1⟩
        | _ => cases hRemoval
      obtain ⟨c, h, hLogout, hId⟩ := hTraced.queued id character (List.mem_of_head? hFirst)
      exact ⟨c, h, List.mem_cons_of_mem _ hLogout, hId⟩
    · obtain ⟨c, h, hLogout, hId⟩ :=
        hTraced.done id (List.mem_filterMap.mpr ⟨cause, hBefore, hRemoval⟩)
      exact ⟨c, h, List.mem_cons_of_mem _ hLogout, hId⟩
  case plain =>
    intro task hTask hExternal
    rcases mem_ready_apply hs hAllowed hTask with hBefore | ⟨_, _, rfl⟩ | hAsker | ⟨_, _, _, rfl⟩
    · exact hTraced.plain task hBefore hExternal
    · exact hExternal
    · cases task <;> first | exact hExternal | cases hAsker
    · exact hExternal

theorem owned_apply {event : Event}
    (hs : s.Owned (past.filterMap asker?) (past.filterMap removal?)) (hTraced : s.Traced past)
    (hAllowed : event.Allowed past s)
    (hFew : (event.apply s).game.sessions.created < 2 ^ 32) :
    (event.apply s).Owned ((event :: past).filterMap asker?)
      ((event :: past).filterMap removal?) := by
  cases event with
  | accept peer => exact hs.accept peer
  | request r caller => exact hs.post_attach hAllowed
  | close c => exact hs.close c
  | takeUp c h => exact hs
  | logout c h => exact hs.post_logout h.id h.characterId
  | release n => exact hs.releaseAt n
  | turn task seen closing now wall =>
    obtain ⟨ready, hReady, hTurn⟩ := apply_turn hAllowed.1 seen closing now wall
    have hQueued : task ∈ s.tasks.ready := hReady ▸ List.mem_cons_self
    rw [hTurn] at hFew ⊢
    cases task with
    | attach r caller =>
      rw [Server.created_turn_attach] at hFew
      exact hs.turn_attach hReady hAllowed.2 hFew
    | reattach session r caller => exact hs.turn_reattach hReady hAllowed.2
    | detach session c => exact hs.turn_detach hReady
    | logout session character => exact hs.turn_logout hReady (hTraced.id_le hQueued)
    | setDead | removeSession => exact absurd trivial (hTraced.plain _ hQueued)
  | aside next => exact hs.alike hAllowed

end Event

/-- In every run, as long as the ids have not run out, the references are in order and removals have
their causes. -/
theorem Run.sound {config : Config} {key : Rsa.Key} {state : WorldState} {world : World}
    {handlers : HandlerTable} {capacity : Nat} {past : List Event} {s : Server}
    (hRun : Run (Server.start config key state world handlers capacity) past s)
    (hFew : s.game.sessions.created < 2 ^ 32) :
    s.Owned (past.filterMap Event.asker?) (past.filterMap Event.removal?) ∧ s.Traced past := by
  induction hRun with
  | start =>
    exact ⟨Server.owned_start .., Server.traced_start ..⟩
  | step event hRun hAllowed ih =>
    obtain ⟨hOwned, hTraced⟩ := ih ((Event.created_le_apply hAllowed).trans_lt hFew)
    exact ⟨Event.owned_apply hOwned hTraced hAllowed hFew,
      Event.traced_apply hOwned hTraced hAllowed⟩

/-- What every event keeps holds in every run, as long as the ids have not run out. -/
theorem Run.invariant {config : Config} {key : Rsa.Key} {state : WorldState} {world : World}
    {handlers : HandlerTable} {capacity : Nat} {past : List Event} {s : Server}
    {motive : List Event → Server → Prop}
    (hRun : Run (Server.start config key state world handlers capacity) past s)
    (hFew : s.game.sessions.created < 2 ^ 32)
    (hStart : motive [] (Server.start config key state world handlers capacity))
    (hStep : ∀ {past : List Event} {s : Server} (event : Event), motive past s →
      s.Owned (past.filterMap Event.asker?) (past.filterMap Event.removal?) → s.Traced past →
      event.Allowed past s → (event.apply s).game.sessions.created < 2 ^ 32 →
      motive (event :: past) (event.apply s)) :
    motive past s := by
  induction hRun with
  | start => exact hStart
  | step event hRun hAllowed ih =>
    have hBefore := (Event.created_le_apply hAllowed).trans_lt hFew
    obtain ⟨hOwned, hTraced⟩ := hRun.sound hBefore
    exact hStep event (ih hBefore) hOwned hTraced hAllowed hFew

end Gatehouse
