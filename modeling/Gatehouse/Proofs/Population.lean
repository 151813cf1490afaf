import Gatehouse.Proofs.Attachment
import Gatehouse.Proofs.Tolerance
import Gatehouse.Proofs.Turns

/-!
# Who is in the world

Between the tasks of a game no character has two sessions, and the characters in the world are those
that have a session. What keeps it so is that every queued request goes back to one that was made,
and that a logout speaks of the character whose session it removes, as ids do not come back.
-/

namespace Gatehouse

def GameTask.wish? : GameTask → Option AttachRequest
  | attach request _ | reattach _ request _ => some request
  | detach .. | logout .. | setDead .. | removeSession .. => none

def TaskQueue.tasks {τ : Type} (q : TaskQueue τ) : List τ :=
  q.ready ++ q.delayed.map (·.task)

namespace Server

variable {s : Server} {seen : ConnectionId → Bool} {closing : List ConnectionId} {now wall : Nat}
  {request : AttachRequest} {caller : Caller} {task other : GameTask}

/-! ## Requests that are queued -/

theorem mem_tasks_post (hRunning : s.tasks.stopped = false)
    (hTask : task ∈ (s.post other).2.tasks.tasks) : task ∈ s.tasks.tasks ∨ task = other := by
  rw [post_eq hRunning] at hTask
  simp only [TaskQueue.tasks, List.mem_append, List.mem_singleton] at hTask ⊢
  tauto

theorem wish?_close (hRunning : s.tasks.stopped = false) {c : ConnectionId}
    (hTask : task ∈ (s.close c).tasks.tasks) : task ∈ s.tasks.tasks ∨ task.wish? = none := by
  rw [(s.close_spec c hRunning).2.2.1] at hTask
  simp only [TaskQueue.tasks, List.mem_append] at hTask ⊢
  rcases hTask with (hBefore | hLast) | hLater
  · exact Or.inl (Or.inl hBefore)
  · obtain ⟨h, -, rfl⟩ : ∃ h, s.held? c = some h ∧ .detach h.id c = task := by
      simpa [farewell] using hLast
    exact Or.inr rfl
  · exact Or.inl (Or.inr hLater)

theorem wish?_closeAll (hRunning : s.tasks.stopped = false)
    (hTask : task ∈ (s.closeAll closing).tasks.tasks) :
    task ∈ s.tasks.tasks ∨ task.wish? = none := by
  induction closing generalizing s with
  | nil => exact Or.inl hTask
  | cons c closing ih =>
    have hStill : (s.close c).tasks.stopped = false := by
      rw [(s.close_spec c hRunning).2.2.1, hRunning]
    rcases ih hStill hTask with hBefore | hNone
    · exact wish?_close hRunning hBefore
    · exact Or.inr hNone

/-- A request that is put off comes back as a task of its own. -/
theorem mem_tasks_conclude (hRunning : s.tasks.stopped = false) {step : Game.AttachStep}
    (hTask : task ∈ (s.conclude now request caller step).tasks.tasks) :
    task ∈ s.tasks.tasks ∨ task.wish? = none ∨
      ∃ old session, step = .kicked old session ∧ task = .reattach session request caller := by
  cases step with
  | done => exact Or.inl hTask
  | offered offer =>
    refine Or.inl ?_
    by_cases hLive : ∃ session?, s.seat? offer.connection = some (.live session?)
    · obtain ⟨session?, hLive⟩ := hLive
      rwa [(conclude_offered_live now request caller hLive).2.2.1] at hTask
    · rwa [(conclude_offered_gone (not_exists.mp hLive)).tasks] at hTask
  | kicked old session =>
    have hSchedule : task ∈ (s.close old).tasks.tasks ∨
        task = .reattach session request caller := by
      rw [conclude_kicked] at hTask
      simp only [TaskQueue.tasks, TaskQueue.schedule, List.map_append, List.mem_append,
        List.map_singleton, List.mem_singleton] at hTask ⊢
      tauto
    rcases hSchedule with hClosed | rfl
    · exact (wish?_close hRunning hClosed).imp_right Or.inl
    · exact Or.inr (Or.inr ⟨old, session, rfl, rfl⟩)

theorem mem_tasks_turn (hRunning : s.tasks.stopped = false)
    (hTask : task ∈ (turn seen closing now wall other s).tasks.tasks) :
    task ∈ s.tasks.tasks ∨ task.wish? = none ∨
      ∃ r caller old id, other = .attach r caller ∧ task = .reattach id r caller ∧
        (s.game.attach s.config s.state seen wall r).1 = .kicked old id := by
  have hAnswer : ∀ {request caller step game}, task ∈
      (conclude now request caller step (Server.closeAll closing { s with game })).tasks.tasks →
      task ∈ s.tasks.tasks ∨ task.wish? = none ∨
        ∃ old id, step = .kicked old id ∧ task = .reattach id request caller := by
    intro request caller step game hTask
    have hStill := (closeAll_spec closing (s := { s with game }) hRunning).1
    rcases mem_tasks_conclude hStill hTask with hBefore | hLater
    · exact (wish?_closeAll (s := { s with game }) hRunning hBefore).imp_right Or.inl
    · exact Or.inr hLater
  have hOther : ∀ other : GameTask, other.asker? = none →
      task ∈ ((s.runTask now wall other).closeAll closing).tasks.tasks →
      task ∈ s.tasks.tasks ∨ task.wish? = none := by
    intro other hAsker hTask
    have hSame : (s.runTask now wall other).tasks = s.tasks :=
      tasks_runTask_of_asker?_eq_none hAsker
    rcases wish?_closeAll (hSame ▸ hRunning) hTask with hBefore | hNone
    · exact Or.inl (hSame ▸ hBefore)
    · exact Or.inr hNone
  cases other with
  | attach request caller =>
    rcases hAnswer hTask with hBefore | hNone | ⟨old, id, hStep, rfl⟩
    · exact Or.inl hBefore
    · exact Or.inr (Or.inl hNone)
    · exact Or.inr (Or.inr ⟨request, caller, old, id, rfl, rfl, hStep⟩)
  | reattach session request caller =>
    rcases hAnswer hTask with hBefore | hNone | ⟨old, id, hStep, -⟩
    · exact Or.inl hBefore
    · exact Or.inr (Or.inl hNone)
    · exact absurd hStep (s.game.reattach_ne_kicked seen session request old id)
  | detach | logout | setDead | removeSession => exact (hOther _ rfl hTask).imp_right Or.inl

/-! ## The configuration stays -/

theorem tolerant_sameConfig : Tolerant fun s t => t.config = s.config :=
  tolerant_same Server.config fun _ _ _ _ _ _ => rfl

/-! ## Ids that are known -/

structure Knows (s : Server) (id : SessionId) (character : CharacterId) : Prop where
  id_le : id.toNat ≤ s.game.sessions.created
  only : ∀ c, (id, c) ∈ s.game.sessions.roll → c = character

variable {asked : List ConnectionId} {removed : List SessionId} {t : Server}

/-- An id does not come back. -/
theorem Knows.turnover (hs : s.Owned asked removed) {id : SessionId} {character : CharacterId}
    (h : s.Knows id character) {made? : Option (SessionId × CharacterId)}
    (hTurnover : s.game.Turnover t.game made?)
    (hCreated : s.game.sessions.created ≤ t.game.sessions.created)
    (hFew : t.game.sessions.created < 2 ^ 32) : t.Knows id character := by
  refine ⟨h.id_le.trans hCreated, fun c hHas => ?_⟩
  rcases hTurnover.mem_roll hHas with hBefore | ⟨hFresh, hOne⟩
  · exact h.only c hBefore
  · have hLe := h.id_le
    dsimp only at hFresh
    rw [hFresh, SessionRegistry.toNat_freshId hs.nextId (hOne ▸ hFew)] at hLe
    omega

theorem Owned.knows_held (hs : s.Owned asked removed)
    (hIds : (s.game.sessions.roll.map Prod.fst).Nodup) {c : ConnectionId} {h : SessionHandle}
    (hHeld : s.held? c = some h) : s.Knows h.id h.characterId := by
  refine ⟨hs.held_le c h hHeld, fun character hHas => ?_⟩
  obtain ⟨session, hSession⟩ := SessionRegistry.exists_get?_of_mem_roll hHas
  obtain ⟨hHandle, -⟩ := hs.session_of_held hHeld hSession
  have hSame := List.inj_on_of_nodup_map hIds hHas (SessionRegistry.mem_roll_of_get? hSession) rfl
  rw [(Prod.mk.inj hSame).2, ← hHandle]
  rfl

structure Names (past : List Event) (s : Server) : Prop where
  ids : (s.game.sessions.roll.map Prod.fst).Nodup
  takenUp : ∀ c h, .takeUp c h ∈ past → s.Knows h.id h.characterId
  logout : ∀ id character, .logout id character ∈ s.tasks.ready → s.Knows id character

theorem names_start (config : Config) (key : Rsa.Key) (state : WorldState) (world : World)
    (handlers : HandlerTable) (capacity : Nat) :
    Names [] (start config key state world handlers capacity) where
  ids := List.nodup_nil
  takenUp := fun _ _ hPast => absurd hPast List.not_mem_nil
  logout := fun _ _ hQueued => absurd hQueued List.not_mem_nil

/-! ## Who plays -/

/-- What holds between the tasks of a game without clones. -/
structure Populated (s : Server) : Prop where
  clones : s.config.allowClones = false
  inStep : s.game.InStep
  loaded : ∀ task ∈ s.tasks.tasks, ∀ r, task.wish? = some r → r.IsLoaded

theorem populated_start {config : Config} (hClones : config.allowClones = false) (key : Rsa.Key)
    (state : WorldState) {world : World} (hEmpty : world.placed = []) (handlers : HandlerTable)
    (capacity : Nat) : Populated (start config key state world handlers capacity) where
  clones := hClones
  inStep := by
    refine ⟨List.nodup_nil, List.nodup_nil, fun c => ?_⟩
    have hNobody : c ∉ world.inhabitants := by
      rw [World.inhabitants, hEmpty]
      exact List.not_mem_nil
    exact iff_of_false hNobody List.not_mem_nil
  loaded := fun _ hTask => absurd hTask List.not_mem_nil

theorem Populated.inStep_turn {past : List Event} (h : s.Populated) (hs : s.Owned asked removed)
    (hNames : s.Names past) (hTask : task ∈ s.tasks.ready) (hPlain : ¬ task.IsExternal)
    {state : WorldState} {last : Game} (hTurn : s.game.Turning s.config state seen wall task last)
    (hFew : last.sessions.created < 2 ^ 32) : last.InStep := by
  have hWish : ∀ r, task.wish? = some r → r.IsLoaded :=
    h.loaded task (List.mem_append_left _ hTask)
  cases hTurn with
  | attach hStep hLast =>
    rw [hLast.created_eq] at hFew
    exact h.inStep.attach h.clones (hWish _ rfl) (fun hOne => hs.freshId_not_mem (hOne ▸ hFew))
      (Game.attaching_of_eq hStep) hLast
  | reattach hSteps hLast => exact h.inStep.reattach hSteps hLast
  | detach session c => exact h.inStep.detach session c
  | logout session character =>
    exact h.inStep.logout (hNames.logout session character hTask).only
  | setDead | removeSession => exact absurd trivial hPlain

end Server

namespace Event

open Server (Owned Traced Names Populated)

variable {s : Server} {past : List Event} {asked : List ConnectionId} {removed : List SessionId}

/-- What an event makes of who plays, if the ids have not run out. -/
theorem turnover {event : Event} (hs : s.Owned asked removed) (hTraced : s.Traced past)
    (hNames : s.Names past) (hAllowed : event.Allowed past s)
    (hFew : (event.apply s).game.sessions.created < 2 ^ 32) :
    s.game.Turnover (event.apply s).game (event.made? s) := by
  rcases game_cases hAllowed with ⟨hNone, hGame⟩ |
    ⟨task, seen, closing, now, wall, rfl, hTask, hTurn⟩
  · have hMade : event.made? s = none := by
      cases event with
      | turn => cases hNone
      | _ => rfl
    rw [hMade, hGame]
    exact .same ⟨rfl, rfl⟩
  · generalize ((turn task seen closing now wall).apply s).game = last at hTurn hFew ⊢
    cases hTurn with
    | attach hStep hLast =>
      rw [hLast.created_eq] at hFew
      rw [made?, hStep]
      exact (Game.attaching_of_eq hStep).turnover
        (fun hOne => hs.freshId_not_mem (hOne ▸ hFew)) hLast
    | reattach hSteps hLast => exact .same (hSteps.samePlayers hLast)
    | detach session connection => exact .same ⟨SessionRegistry.roll_detach .., rfl⟩
    | logout session character =>
      exact Game.turnover_logout (hNames.logout session character hTask).only
    | setDead | removeSession => exact absurd trivial (hTraced.plain _ hTask)

theorem names_apply {event : Event} (h : s.Names past) (hs : s.Owned asked removed)
    (hTraced : s.Traced past) (hAllowed : event.Allowed past s)
    (hFew : (event.apply s).game.sessions.created < 2 ^ 32) :
    (event.apply s).Names (event :: past) := by
  have hTurnover := turnover hs hTraced h hAllowed hFew
  -- this is where the number of sessions matters: an id that wrapped around would name another one
  have hKnows : ∀ {id character}, s.Knows id character → (event.apply s).Knows id character :=
    fun hKnown => hKnown.turnover hs hTurnover (created_le_apply hAllowed) hFew
  constructor
  case ids => exact hTurnover.nodup_ids h.ids
  case takenUp =>
    intro c handle hTaken
    rcases List.mem_cons.mp hTaken with rfl | hBefore
    · exact hs.knows_held h.ids hAllowed
    · exact hKnows (h.takenUp c handle hBefore)
  case logout =>
    intro id character hQueued
    rcases mem_ready_apply hs hAllowed hQueued with hBefore | ⟨_, _, hDetach⟩ | hAsker | hLogout
    · exact hKnows (h.logout id character hBefore)
    · cases hDetach
    · cases hAsker
    · obtain ⟨c, handle, rfl, hTask⟩ := hLogout
      cases hTask
      exact hKnows (h.takenUp c handle hAllowed)

/-- A task that is new has no request to answer, or comes from a request, or from one that is put
off. -/
theorem mem_tasks_apply {event : Event} (hRunning : s.tasks.stopped = false)
    (hAllowed : event.Allowed past s) {task : GameTask}
    (hTask : task ∈ (event.apply s).tasks.tasks) :
    task ∈ s.tasks.tasks ∨ task.wish? = none ∨
      (∃ r caller, event = .request r caller ∧ task = .attach r caller) ∨
      ∃ r caller seen closing now wall old id,
        event = .turn (.attach r caller) seen closing now wall ∧ task = .reattach id r caller ∧
          (s.game.attach s.config s.state seen wall r).1 = .kicked old id := by
  cases event with
  | accept | takeUp => exact Or.inl hTask
  | request r caller =>
    rcases Server.mem_tasks_post hRunning hTask with hBefore | rfl
    · exact Or.inl hBefore
    · exact Or.inr (Or.inr (Or.inl ⟨r, caller, rfl, rfl⟩))
  | close c => exact (Server.wish?_close hRunning hTask).imp_right Or.inl
  | logout c h =>
    rcases Server.mem_tasks_post hRunning hTask with hBefore | rfl
    · exact Or.inl hBefore
    · exact Or.inr (Or.inl rfl)
  | release n =>
    refine Or.inl ?_
    rw [apply, Server.releaseAt] at hTask
    split at hTask
    case h_1 => exact hTask
    case h_2 d hAt =>
      rcases Server.mem_tasks_post
        (s := { s with tasks := { s.tasks with delayed := s.tasks.delayed.eraseIdx n } }) hRunning
        hTask with hTask | rfl
      · refine (List.mem_append.mp hTask).elim (List.mem_append_left _) fun hLater => ?_
        exact List.mem_append_right _ (List.map_subset _ (List.eraseIdx_subset ..) hLater)
      · exact List.mem_append_right _ (List.mem_map_of_mem (List.mem_of_getElem? hAt))
  | turn first seen closing now wall =>
    obtain ⟨ready, hReady, hTurn⟩ := apply_turn hAllowed.1 seen closing now wall
    rw [hTurn] at hTask
    rcases Server.mem_tasks_turn (s := { s with tasks := { s.tasks with ready } }) hRunning hTask
      with hTask | hNone | ⟨r, caller, old, id, rfl, rfl, hStep⟩
    · refine Or.inl ?_
      rw [TaskQueue.tasks, hReady]
      exact List.mem_cons_of_mem _ hTask
    · exact Or.inr (Or.inl hNone)
    · exact Or.inr (Or.inr (Or.inr ⟨r, caller, seen, closing, now, wall, old, id, rfl, rfl, hStep⟩))
  | aside next =>
    rw [apply, hAllowed.tasks] at hTask
    exact Or.inl hTask

/-- Every queued request goes back to one that was made. -/
theorem wish?_apply {event : Event} (hRunning : s.tasks.stopped = false)
    (hAllowed : event.Allowed past s) {task : GameTask}
    (hTask : task ∈ (event.apply s).tasks.tasks) :
    task.wish? = none ∨ (∃ other ∈ s.tasks.tasks, task.wish? = other.wish?) ∨
      ∃ r caller, event = .request r caller ∧ task.wish? = some r := by
  rcases mem_tasks_apply hRunning hAllowed hTask with hBefore | hNone | ⟨r, caller, rfl, rfl⟩ |
    ⟨r, caller, seen, closing, now, wall, old, id, rfl, rfl, -⟩
  · exact Or.inr (Or.inl ⟨task, hBefore, rfl⟩)
  · exact Or.inl hNone
  · exact Or.inr (Or.inr ⟨r, caller, rfl, rfl⟩)
  · have hQueued := List.mem_append_left (s.tasks.delayed.map (·.task))
      (List.mem_of_head? hAllowed.1)
    exact Or.inr (Or.inl ⟨.attach r caller, hQueued, rfl⟩)

theorem config_apply {event : Event} (hAllowed : event.Allowed past s) :
    (event.apply s).config = s.config := by
  cases event with
  | accept | takeUp => rfl
  | request | logout => exact Server.tolerant_sameConfig.post s _
  | close c => exact Server.tolerant_sameConfig.close s c
  | release n =>
    rw [apply, Server.releaseAt]
    split
    case h_1 => rfl
    case h_2 => exact Server.tolerant_sameConfig.post _ _
  | turn task seen closing now wall =>
    obtain ⟨ready, -, hTurn⟩ := apply_turn hAllowed.1 seen closing now wall
    rw [hTurn]
    exact Server.tolerant_sameConfig.turn (fun _ _ => rfl) seen closing now wall task
      { s with tasks := { s.tasks with ready } }
  | aside next => exact hAllowed.config

theorem populated_apply {event : Event} (h : s.Populated) (hs : s.Owned asked removed)
    (hTraced : s.Traced past) (hNames : s.Names past) (hAllowed : event.Allowed past s)
    (hLoaded : ∀ r caller, event = .request r caller → r.IsLoaded)
    (hFew : (event.apply s).game.sessions.created < 2 ^ 32) : (event.apply s).Populated := by
  constructor
  case clones => rw [config_apply hAllowed, h.clones]
  case inStep =>
    rcases game_cases hAllowed with ⟨-, hGame⟩ |
      ⟨task, seen, closing, now, wall, -, hTask, hTurn⟩
    · exact h.inStep.congr (by rw [hGame]) (by rw [hGame])
    · exact h.inStep_turn hs hNames hTask (hTraced.plain task hTask) hTurn hFew
  case loaded =>
    intro task hTask r hWish
    rcases wish?_apply hs.running hAllowed hTask with
      hNone | ⟨other, hOther, hSame⟩ | ⟨r', caller, rfl, hSome⟩
    · cases hNone.symm.trans hWish
    · exact h.loaded other hOther r (hSame.symm.trans hWish)
    · cases hSome.symm.trans hWish
      exact hLoaded r caller rfl

end Event

section

variable {config : Config} {key : Rsa.Key} {state : WorldState} {world : World}
  {handlers : HandlerTable} {capacity : Nat} {past : List Event} {s : Server}

theorem Run.names (hRun : Run (Server.start config key state world handlers capacity) past s)
    (hFew : s.game.sessions.created < 2 ^ 32) : s.Names past := by
  refine hRun.invariant (motive := fun past s => s.Names past) hFew (Server.names_start ..) ?_
  intro past s event hNames hOwned hTraced hAllowed hFew
  exact Event.names_apply hNames hOwned hTraced hAllowed hFew

theorem Run.populated (hRun : Run (Server.start config key state world handlers capacity) past s)
    (hClones : config.allowClones = false) (hEmpty : world.placed = [])
    (hLoaded : ∀ r caller, .request r caller ∈ past → r.IsLoaded)
    (hFew : s.game.sessions.created < 2 ^ 32) : s.Populated := by
  induction hRun with
  | start => exact Server.populated_start hClones key state hEmpty handlers capacity
  | step event hRun hAllowed ih =>
    have hBefore := (Event.created_le_apply hAllowed).trans_lt hFew
    obtain ⟨hOwned, hTraced⟩ := hRun.sound hBefore
    have hPopulated := ih (fun r caller hPast => hLoaded r caller (.tail _ hPast)) hBefore
    refine Event.populated_apply hPopulated hOwned hTraced (hRun.names hBefore) hAllowed
      (fun r caller hHere => ?_) hFew
    exact hLoaded r caller (hHere ▸ .head _)

/-- Without clones no character has two sessions, and who is placed in the world is who has a
session. -/
theorem Run.sessions_and_world
    (hRun : Run (Server.start config key state world handlers capacity) past s)
    (hClones : config.allowClones = false) (hEmpty : world.placed = [])
    (hLoaded : ∀ r caller, .request r caller ∈ past → r.IsLoaded)
    (hFew : s.game.sessions.created < 2 ^ 32) :
    (s.game.sessions.sessions.map fun session => session.character.id).Nodup ∧
      ∀ c, c ∈ s.game.world.placed.map Prod.fst ↔
        ∃ session ∈ s.game.sessions.sessions, session.character.id = c := by
  have hInStep := (hRun.populated hClones hEmpty hLoaded hFew).inStep
  have hRoll : s.game.sessions.roll.map Prod.snd =
      s.game.sessions.sessions.map fun session => session.character.id := by
    rw [SessionRegistry.roll, List.map_map]
    rfl
  refine ⟨hRoll ▸ hInStep.characters, fun c => ?_⟩
  rw [← List.mem_map, ← hRoll]
  exact hInStep.placed c

/-- The character that the second connection has taken over is the only one in the world. -/
theorem Rivals.sessions_and_world_of_succeeded :
    succeeded.game.sessions.created < 2 ^ 32 ∧
      (succeeded.game.sessions.sessions.map fun session => session.character.id) = [10] ∧
      ∀ c, c ∈ succeeded.game.world.placed.map Prod.fst ↔
        ∃ session ∈ succeeded.game.sessions.sessions, session.character.id = c := by
  have hFew : succeeded.game.sessions.created < 2 ^ 32 := by decide
  have hLoaded : ∀ r caller, .request r caller ∈ succeeding → r.IsLoaded := by
    intro r caller hPast c hCharacter
    simp only [succeeding, entering, answer, ask, List.mem_cons, Event.request.injEq, reduceCtorEq,
      List.not_mem_nil, false_or, or_false] at hPast
    rcases hPast with ⟨rfl, -⟩ | ⟨rfl, -⟩ <;> cases hCharacter <;> rfl
  obtain ⟨-, hWorld⟩ := run_succeeding.sessions_and_world rfl rfl hLoaded hFew
  exact ⟨hFew, rfl, hWorld⟩

end

end Gatehouse
