import Gatehouse.Proofs.Barring

/-!
# One character per account

The gate before new sessions looks for any session of the account, and gamemasters pass it unseen.
So an account may have a session of a gamemaster beside others, but a character that is none comes
in only while its account has no session at all. Sessions that are taken over pass no gate, and
bring no character along.
-/

namespace Gatehouse

/-- The account that is asked for is that of the profile which was loaded. -/
def AttachRequest.IsOwn (r : AttachRequest) : Prop :=
  ∀ c, r.character? = some c → c.accountId = r.accountId

namespace SessionRegistry

variable {r : SessionRegistry} {account : AccountId}

def characters (r : SessionRegistry) : List Character :=
  r.identities.map fun entry => entry.2.2

theorem findByAccount_eq_none_iff :
    r.findByAccount account = none ↔ account ∉ r.characters.map (·.accountId) := by
  rw [findByAccount, Option.map_eq_none_iff, List.find?_eq_none, characters, identities,
    List.map_map, List.map_map]
  simp [Session.identity]

end SessionRegistry

/-- Among these characters no account has two that are not gamemasters. -/
def OneEach (characters : List Character) : Prop :=
  ((characters.filter (!·.isGamemaster)).map (·.accountId)).Nodup

theorem OneEach.sublist {characters others : List Character} (h : OneEach characters)
    (hLess : others.Sublist characters) : OneEach others :=
  List.Nodup.sublist ((hLess.filter _).map _) h

theorem OneEach.append {characters : List Character} {c : Character} (h : OneEach characters)
    (hNone : c.isGamemaster = false → c.accountId ∉ characters.map (·.accountId)) :
    OneEach (characters ++ [c]) := by
  rw [OneEach, List.filter_append, List.map_append]
  cases hRank : c.isGamemaster with
  | true =>
    rw [List.filter_cons_of_neg (by simp [hRank]), List.filter_nil, List.map_nil, List.append_nil]
    exact h
  | false =>
    have hOther : c.accountId ∉ (characters.filter (!·.isGamemaster)).map (·.accountId) :=
      fun hHere => hNone hRank (List.filter_sublist.map _ |>.subset hHere)
    rw [List.filter_cons_of_pos (by simp [hRank]), List.filter_nil, List.map_singleton]
    exact List.nodup_append_comm.mp (List.nodup_cons.mpr ⟨hOther, h⟩)

/-! ## Tasks -/

namespace Game

variable {config : Config} {state : WorldState} {request : AttachRequest} {g g' : Game}
  {task : GameTask}

theorem findByAccount_of_obstacle (hOne : config.onePerAccount = true) {c : Character}
    (hRank : c.isGamemaster = false) (hNone : obstacle config state g request c = none) :
    g.sessions.findByAccount request.accountId = none := by
  rw [obstacle] at hNone
  split at hNone
  case isTrue => cases hNone
  case isFalse =>
    split at hNone
    case h_1 => cases hNone
    case h_2 =>
      split at hNone
      case isTrue => cases hNone
      case isFalse hPassed => simpa [hOne, hRank] using hPassed

theorem Renewal.oneEach (hRenewal : g.Renewal config state task g')
    (hOne : config.onePerAccount = true) (hOwn : ∀ r, task.wish? = some r → r.IsOwn)
    (h : OneEach g.sessions.characters) : OneEach g'.sessions.characters := by
  cases hRenewal with
  | fewer hLess => exact h.sublist (hLess.map _)
  | more request caller c hTask hCharacter hObstacle hSessions =>
    rw [SessionRegistry.characters, hSessions, List.map_append, List.map_singleton]
    have hLess := (List.filter_sublist (l := g.sessions.identities)
      (p := (·.1 != g.sessions.freshId))).map fun entry => entry.2.2
    refine (h.sublist hLess).append fun hRank hHere => ?_
    have hNobody := findByAccount_of_obstacle hOne hRank hObstacle
    rw [SessionRegistry.findByAccount_eq_none_iff, ← hOwn request (hTask ▸ rfl) c hCharacter]
      at hNobody
    exact hNobody ((hLess.map _).subset hHere)

end Game

/-! ## Runs -/

section

variable {start s : Server} {past : List Event}

/-- Every request that is queued, or comes back, has been made. -/
theorem Run.requested (hRun : Run start past s) (hStart : start.tasks = .empty) {task : GameTask}
    {r : AttachRequest} (hTask : task ∈ s.tasks.tasks) (hWish : task.wish? = some r) :
    ∃ caller, .request r caller ∈ past := by
  induction hRun generalizing task with
  | start =>
    rw [hStart] at hTask
    cases hTask
  | step event hRun hAllowed ih =>
    have hRunning := hRun.running (by rw [hStart]; rfl)
    rcases Event.wish?_apply hRunning hAllowed hTask with
      hNone | ⟨other, hOther, hSame⟩ | ⟨made, caller, rfl, hSome⟩
    · cases hNone.symm.trans hWish
    · obtain ⟨caller, hPast⟩ := ih hOther (hSame.symm.trans hWish)
      exact ⟨caller, .tail _ hPast⟩
    · cases hSome.symm.trans hWish
      exact ⟨caller, .head _⟩

end

section

variable {config : Config} {key : Rsa.Key} {state : WorldState} {world : World}
  {handlers : HandlerTable} {capacity : Nat} {past : List Event} {s : Server}

theorem Run.oneEach (hRun : Run (Server.start config key state world handlers capacity) past s)
    (hOne : config.onePerAccount = true)
    (hOwn : ∀ r caller, .request r caller ∈ past → r.IsOwn) :
    OneEach s.game.sessions.characters := by
  induction hRun with
  | start => exact List.nodup_nil
  | @step past s event hRun hAllowed ih =>
    have hBefore := ih fun r caller hPast => hOwn r caller (.tail _ hPast)
    rcases Event.game_cases hAllowed with ⟨-, hGame⟩ |
      ⟨task, seen, closing, now, wall, -, hTask, hTurn⟩
    · rwa [hGame]
    · rw [hRun.config_eq] at hTurn
      refine hTurn.renewal.oneEach hOne (fun r hWish => ?_) hBefore
      obtain ⟨caller, hPast⟩ :=
        hRun.requested rfl (List.mem_append_left _ hTask) hWish
      exact hOwn r caller (.tail _ hPast)

/-- With one character per account no account ever has two sessions whose characters are not
gamemasters, with clones and without. -/
theorem Run.one_player_per_account
    (hRun : Run (Server.start config key state world handlers capacity) past s)
    (hOne : config.onePerAccount = true)
    (hOwn : ∀ r caller, .request r caller ∈ past → r.IsOwn) :
    ((s.game.sessions.sessions.filter fun session => !session.character.isGamemaster).map
      fun session => session.character.accountId).Nodup := by
  have hEach := hRun.oneEach hOne hOwn
  rw [OneEach, SessionRegistry.characters, SessionRegistry.identities, List.map_map,
    List.filter_map, List.map_map] at hEach
  exact hEach

end

/-! ## A gamemaster of the same account -/

namespace Rivals.Exempt

def marshal : Character :=
  { knight with id := 20, name := "Marshal", accountType := .gamemaster }

def request : AttachRequest :=
  { Rivals.request 2 with characterId := 20, character? := some marshal }

def asked : Server := (Event.request request (.connection 2)).apply entered

def answer : Event := .turn (.attach request (.connection 2)) asked.isOpen [] 0 0

def asking : List Event := .request request (.connection 2) :: entering

theorem run_answering : Run opened (answer :: asking) (answer.apply asked) := by
  have hAsked := run_entering.step (.request request (.connection 2))
    (show (2 : ConnectionId) ∉ [1] by decide)
  exact hAsked.step answer ⟨rfl, asked.sees_isOpen⟩

/-- The account has two sessions by then. -/
theorem one_player_beside_gamemaster :
    (∀ r caller, .request r caller ∈ answer :: asking → r.IsOwn) ∧
      ((answer.apply asked).game.sessions.sessions.map fun session =>
        session.character.accountId) = [1, 1] ∧
      (((answer.apply asked).game.sessions.sessions.filter fun session =>
        !session.character.isGamemaster).map fun session => session.character.accountId).Nodup := by
  have hOwn : ∀ r caller, .request r caller ∈ answer :: asking → r.IsOwn := by
    intro r caller hPast c hCharacter
    simp only [answer, asking, entering, Rivals.answer, ask, List.mem_cons, Event.request.injEq,
      reduceCtorEq, List.not_mem_nil, false_or, or_false] at hPast
    rcases hPast with ⟨rfl, -⟩ | ⟨rfl, -⟩ <;> cases hCharacter <;> rfl
  exact ⟨hOwn, rfl, run_answering.one_player_per_account rfl hOwn⟩

end Rivals.Exempt

end Gatehouse
