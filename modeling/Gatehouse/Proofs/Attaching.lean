import Gatehouse.Game.Attach
import Gatehouse.Proofs.Registry

/-!
# What a request comes to

The ways through the gates of an attach request, with what each of them requires and what it makes
of the game.
-/

namespace Gatehouse.Game

variable {config : Config} {state : WorldState} {seen : ConnectionId → Bool} {now : Nat}
  {existing : SessionId} {request : AttachRequest} {g : Game}

inductive Reattaching (seen : ConnectionId → Bool) (existing : SessionId) (request : AttachRequest)
    (g : Game) : AttachStep → Game → Prop where
  | missing (hNone : g.sessions.get? existing = none) :
    Reattaching seen existing request g (reject .alreadyLoggedIn) g
  | givenUp (session : Session) (hSession : g.sessions.get? existing = some session)
      (hClosed : seen request.connection = false) :
    Reattaching seen existing request g (.done .abandoned)
      { g with sessions := g.sessions.setPending existing false }
  | occupied (session : Session) (hSession : g.sessions.get? existing = some session)
      (hOpen : seen request.connection = true) (hLive : session.liveConnection? seen ≠ none) :
    Reattaching seen existing request g (reject .alreadyLoggedIn)
      { g with sessions := g.sessions.setPending existing false }
  | takenOver (session : Session) (hSession : g.sessions.get? existing = some session)
      (hOpen : seen request.connection = true) (hFree : session.liveConnection? seen = none) :
    Reattaching seen existing request g
      (.offered { handle := session.handle, connection := request.connection, isNew := false })
      { g with
        sessions := (g.sessions.setPending existing false).modify existing
          (·.attach request.connection request.system) }

theorem reattach_cases (seen : ConnectionId → Bool) (existing : SessionId) (request : AttachRequest)
    (g : Game) : Reattaching seen existing request g
    (g.reattach seen existing request).1 (g.reattach seen existing request).2 := by
  rw [reattach]
  cases hSession : g.sessions.get? existing with
  | none => exact .missing hSession
  | some session =>
    simp only
    split
    case isTrue hClosed => exact .givenUp session hSession (by simpa using hClosed)
    case isFalse hOpen =>
      rw [Bool.not_eq_true, Bool.not_eq_false] at hOpen
      split
      case isTrue hLive =>
        refine .occupied session hSession hOpen ?_
        rwa [← Option.isSome_iff_ne_none]
      case isFalse hFree =>
        refine .takenOver session hSession hOpen ?_
        rwa [Bool.not_eq_true, Option.isSome_eq_false_iff, Option.isNone_iff_eq_none] at hFree

theorem reattach_ne_kicked (g : Game) (seen : ConnectionId → Bool) (existing : SessionId)
    (request : AttachRequest) (old : ConnectionId) (id : SessionId) :
    (g.reattach seen existing request).1 ≠ .kicked old id := by
  have hSteps := reattach_cases seen existing request g
  generalize g.reattach seen existing request = result at hSteps
  obtain ⟨step, game⟩ := result
  cases hSteps <;> nofun

/-- A session of its character that a request may have, if nobody is attached to it by then. -/
structure Claims (config : Config) (request : AttachRequest) (g : Game) (existing : SessionId)
    (session : Session) : Prop where
  clones : config.allowClones = false
  replace : config.replaceOnLogin = true
  found : g.sessions.findByCharacter request.characterId = some existing
  there : g.sessions.get? existing = some session
  idle : session.reconnectPending = false

/-- The ways of a request that has just come. -/
inductive Attaching (config : Config) (state : WorldState) (seen : ConnectionId → Bool) (now : Nat)
    (request : AttachRequest) (g : Game) : AttachStep → Game → Prop where
  /-- A gate has turned the request away. Only the waiting list may have changed. -/
  | turnedAway (outcome : AttachOutcome) (waiting : WaitingList)
      (hOutcome : ∀ handle, outcome ≠ .attached handle) :
    Attaching config state seen now request g (.done outcome) { g with waiting }
  | created (c : Character) (waiting : WaitingList) (world : World)
      (hNone : config.allowClones = true ∨
        g.sessions.findByCharacter request.characterId = none)
      (hOpen : seen request.connection = true) (hCharacter : request.character? = some c)
      (hObstacle : obstacle config state g request c = none)
      (hPlace : g.waiting.login c g.sessions.length config.maxPlayers now = (0, waiting))
      (hWorld : enter? g.world c = some world) :
    Attaching config state seen now request g
      (.offered
        { handle := (g.sessions.insert c request.system request.connection).1
          connection := request.connection, isNew := true })
      { g with
        waiting, world
        sessions := (g.sessions.insert c request.system request.connection).2 }
  | again (existing : SessionId) (session : Session) {step : AttachStep} {g' : Game}
      (hClaims : Claims config request g existing session)
      (hFree : session.liveConnection? seen = none)
      (hSteps : Reattaching seen existing request g step g') :
    Attaching config state seen now request g step g'
  | kicked (existing : SessionId) (session : Session) (old : ConnectionId)
      (hClaims : Claims config request g existing session)
      (hOld : session.liveConnection? seen = some old) :
    Attaching config state seen now request g (.kicked old existing)
      { g with sessions := g.sessions.setPending existing true }

theorem create_cases (hNone : config.allowClones = true ∨
      g.sessions.findByCharacter request.characterId = none) :
    Attaching config state seen now request g
      (g.create config state seen now request).1 (g.create config state seen now request).2 := by
  rw [create]
  split
  case isTrue => exact .turnedAway _ g.waiting (fun _ => nofun)
  case isFalse hOpen =>
    rw [Decidable.not_not] at hOpen
    cases hCharacter : request.character? with
    | none => exact .turnedAway _ g.waiting (fun _ => nofun)
    | some c =>
      cases hObstacle : obstacle config state g request c with
      | some reason =>
        simp only [hObstacle]
        exact .turnedAway _ g.waiting (fun _ => nofun)
      | none =>
        simp only [hObstacle]
        rcases hPlace : g.waiting.login c g.sessions.length config.maxPlayers now with
          ⟨slot, waiting⟩
        simp only
        split
        case isTrue => exact .turnedAway _ waiting (fun _ => nofun)
        case isFalse hSlot =>
          cases hWorld : enter? g.world c with
          | none => exact .turnedAway _ waiting (fun _ => nofun)
          | some world =>
            rw [Nat.not_lt, Nat.le_zero] at hSlot
            exact .created c waiting world hNone hOpen hCharacter hObstacle (hSlot ▸ hPlace) hWorld

theorem kickOrReattach_cases (hClones : config.allowClones = false)
    (hFound : g.sessions.findByCharacter request.characterId = some existing) :
    Attaching config state seen now request g
      (g.kickOrReattach config seen existing request).1
      (g.kickOrReattach config seen existing request).2 := by
  rw [kickOrReattach]
  cases hSession : g.sessions.get? existing with
  | none => exact .turnedAway _ g.waiting (fun _ => nofun)
  | some session =>
    simp only
    split
    case isTrue => exact .turnedAway _ g.waiting (fun _ => nofun)
    case isFalse hFit =>
      rw [not_or, Bool.not_eq_true, Decidable.not_not] at hFit
      have hClaims : Claims config request g existing session :=
        ⟨hClones, hFit.2, hFound, hSession, hFit.1⟩
      cases hOld : session.liveConnection? seen with
      | none =>
        exact .again existing session hClaims hOld (reattach_cases ..)
      | some old => exact .kicked existing session old hClaims hOld

theorem attach_cases (config : Config) (state : WorldState) (seen : ConnectionId → Bool) (now : Nat)
    (request : AttachRequest) (g : Game) : Attaching config state seen now request g
    (g.attach config state seen now request).1 (g.attach config state seen now request).2 := by
  rw [attach]
  by_cases hClones : config.allowClones = true
  · rw [if_pos hClones]
    exact create_cases (Or.inl hClones)
  · rw [if_neg hClones]
    cases hFound : g.sessions.findByCharacter request.characterId with
    | none => exact create_cases (Or.inr hFound)
    | some existing => exact kickOrReattach_cases (Bool.not_eq_true _ ▸ hClones) hFound

end Gatehouse.Game
