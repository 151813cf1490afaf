import Gatehouse.Proofs.Barring
import Gatehouse.Proofs.Clones

/-!
# New sessions

A request for a character that has no session leaves by one of ten exits or gets a session. The last
of the exits comes after the character has been placed and the session made, and takes both back.
-/

namespace Gatehouse

/-! ## Exits -/

/-- A request for a new session as the game turns to it. -/
structure Admission where
  config : Config
  state : WorldState
  game : Game
  request : AttachRequest
  /-- Whether the connection is seen to be open at first. -/
  seen : Bool
  kept : Bool
  wall : Nat

namespace Admission

def exit (p : Prop) [Decidable p] (outcome : AttachOutcome) : Option AttachOutcome :=
  if p then some outcome else none

def entry (a : Admission) : List (Option AttachOutcome) :=
  [exit (a.seen = false) .abandoned,
    exit (a.request.character? = none) (.rejected .characterNotLoaded)]

def worldExits (a : Admission) (c : Character) : List (Option AttachOutcome) :=
  [exit (c.canAlwaysLogin = false ∧ a.state = .closing) (.rejected .goingDown),
    exit (c.canAlwaysLogin = false ∧ a.state = .closed) (.rejected .serverClosed)]

def accountExits (a : Admission) (c : Character) : List (Option AttachOutcome) :=
  [exit (a.config.onePerAccount = true ∧ c.isGamemaster = false ∧
        ∃ session ∈ a.game.sessions.sessions, session.character.accountId = a.request.accountId)
      (.rejected .oneCharacterPerAccount),
    if c.cannotBeBanned then none
    else a.request.accountBan?.map fun ban => .rejected (.ofAccountBan ban)]

/-- The exits before the waiting list. -/
def early (a : Admission) (c : Character) : List (Option AttachOutcome) :=
  exit (a.request.namelocked = true) (.rejected .namelocked) ::
    (a.worldExits c ++ a.accountExits c)

def login (a : Admission) (c : Character) : Nat × WaitingList :=
  a.game.waiting.login c a.game.sessions.length a.config.maxPlayers a.wall

def late (a : Admission) (c : Character) : List (Option AttachOutcome) :=
  [exit (0 < (a.login c).1) (.waiting (a.login c).1 (WaitingList.retryTime (a.login c).1)),
    exit (a.game.world.accepts c.login false = false ∧ a.game.world.accepts c.temple true = false)
      (.rejected .templePositionWrong)]

/-- The exits before the session is made. -/
def gates (a : Admission) : List (Option AttachOutcome) :=
  a.entry ++ a.request.character?.elim [] fun c => a.early c ++ a.late c

def exits (a : Admission) : List (Option AttachOutcome) :=
  a.gates ++ [exit (a.kept = false) .abandoned]

def first (exits : List (Option AttachOutcome)) : Option AttachOutcome :=
  exits.findSome? fun outcome? => outcome?

/-- The waiting list afterwards. It is asked if none of the exits before it is taken. -/
def waiting (a : Admission) : WaitingList :=
  match a.request.character? with
  | none => a.game.waiting
  | some c => if first (a.entry ++ a.early c) = none then (a.login c).2 else a.game.waiting

def session (a : Admission) (c : Character) : Session :=
  a.game.sessions.newSession c a.request.system a.request.connection

def offer (a : Admission) (c : Character) : Game.Offer :=
  { handle := (a.session c).handle, connection := a.request.connection, isNew := true }

def entered (a : Admission) (c : Character) (world : World) : Game :=
  { waiting := a.waiting, world
    sessions := (a.game.sessions.insert c a.request.system a.request.connection).2 }

variable {a : Admission} {c : Character}

theorem first_append (xs ys : List (Option AttachOutcome)) :
    first (xs ++ ys) = (first xs).or (first ys) :=
  List.findSome?_append

theorem first_exit (p : Prop) [Decidable p] (outcome : AttachOutcome)
    (rest : List (Option AttachOutcome)) :
    first (exit p outcome :: rest) = if p then some outcome else first rest := by
  rw [exit]
  split <;> rfl

theorem first_worldExits (a : Admission) (c : Character) :
    first (a.worldExits c) =
      (if c.canAlwaysLogin then none else Game.closedFor a.state).map .rejected := by
  rw [worldExits]
  cases c.canAlwaysLogin <;> cases a.state <;> rfl

theorem isSome_findByAccount_iff {r : SessionRegistry} {account : AccountId} :
    (r.findByAccount account).isSome = true ↔
      ∃ session ∈ r.sessions, session.character.accountId = account := by
  rw [SessionRegistry.findByAccount, Option.isSome_map, List.find?_isSome]
  simp only [beq_iff_eq]

theorem first_accountExits (a : Admission) (c : Character) :
    first (a.accountExits c) =
      (if a.config.onePerAccount ∧ ¬ c.isGamemaster ∧
          (a.game.sessions.findByAccount a.request.accountId).isSome then
        some .oneCharacterPerAccount
      else if c.cannotBeBanned then none
      else a.request.accountBan?.map Login.Rejection.ofAccountBan).map .rejected := by
  rw [accountExits, first_exit]
  simp only [isSome_findByAccount_iff, Bool.not_eq_true]
  split
  case isTrue => rfl
  case isFalse =>
    split
    case isTrue => rfl
    case isFalse => cases a.request.accountBan? <;> rfl

theorem first_early (a : Admission) (c : Character) :
    first (a.early c) = (Game.obstacle a.config a.state a.game a.request c).map .rejected := by
  rw [early, first_exit, first_append, first_worldExits, first_accountExits, Game.obstacle]
  split
  case isTrue => rfl
  case isFalse =>
    cases (if c.canAlwaysLogin then none else Game.closedFor a.state) <;> rfl

theorem enter?_eq_none_iff {w : World} :
    Game.enter? w c = none ↔ w.accepts c.login false = false ∧ w.accepts c.temple true = false := by
  rw [Game.enter?, World.place?, World.place?]
  cases w.accepts c.login false <;> cases w.accepts c.temple true <;> simp

/-! ## The game goes through the exits -/

theorem first_entry (a : Admission) :
    first a.entry =
      if a.seen = false then some .abandoned
      else if a.request.character? = none then some (.rejected .characterNotLoaded) else none := by
  rw [entry, first_exit, first_exit]
  rfl

/-- What becomes of the request before the connection is asked again. -/
inductive Created (a : Admission) : Game.AttachStep → Game → Prop where
  | refused (outcome : AttachOutcome) (hFirst : first a.gates = some outcome)
      (hOutcome : ∀ handle, outcome ≠ .attached handle) :
    Created a (.done outcome) { a.game with waiting := a.waiting }
  | offered (c : Character) (world : World) (hFirst : first a.gates = none)
      (hCharacter : a.request.character? = some c)
      (hWorld : Game.enter? a.game.world c = some world) :
    Created a (.offered (a.offer c)) (a.entered c world)

theorem waiting_of_first_entry {outcome : AttachOutcome} (hEntry : first a.entry = some outcome) :
    a.waiting = a.game.waiting := by
  rw [waiting]
  split
  case h_1 => rfl
  case h_2 c _ => rw [first_append, hEntry, Option.some_or, if_neg (Option.some_ne_none outcome)]

theorem waiting_of_character (hCharacter : a.request.character? = some c) :
    a.waiting = if first (a.entry ++ a.early c) = none then (a.login c).2 else a.game.waiting := by
  rw [waiting, hCharacter]

theorem first_gates_of_character (hCharacter : a.request.character? = some c) :
    first a.gates = (first (a.entry ++ a.early c)).or (first (a.late c)) := by
  rw [gates, hCharacter, Option.elim_some, ← List.append_assoc, first_append]

theorem first_late (a : Admission) (c : Character) :
    first (a.late c) =
      if 0 < (a.login c).1 then
        some (.waiting (a.login c).1 (WaitingList.retryTime (a.login c).1))
      else if Game.enter? a.game.world c = none then some (.rejected .templePositionWrong)
      else none := by
  rw [late, first_exit, first_exit]
  simp only [enter?_eq_none_iff]
  rfl

theorem created_of_first_entry {outcome : AttachOutcome} (hEntry : first a.entry = some outcome)
    (hOutcome : ∀ handle, outcome ≠ .attached handle) : a.Created (.done outcome) a.game := by
  have hFirst : first a.gates = some outcome := by
    rw [gates, first_append, hEntry, Option.some_or]
  have hRefused := Created.refused outcome hFirst hOutcome
  rwa [waiting_of_first_entry hEntry] at hRefused

theorem created (a : Admission) {isOpen : ConnectionId → Bool}
    (hSeen : isOpen a.request.connection = a.seen) :
    a.Created (a.game.create a.config a.state isOpen a.wall a.request).1
      (a.game.create a.config a.state isOpen a.wall a.request).2 := by
  have hEntry := a.first_entry
  rw [Game.create, hSeen]
  cases hHere : a.seen with
  | false => exact created_of_first_entry (by rw [hEntry, if_pos hHere]) (by simp)
  | true =>
    rw [if_neg (by simp [hHere])] at hEntry
    rw [if_neg (by simp)]
    cases hCharacter : a.request.character? with
    | none => exact created_of_first_entry (by rw [hEntry, if_pos hCharacter]) (by simp)
    | some c =>
      rw [hCharacter, if_neg (Option.some_ne_none c)] at hEntry
      have hEarly : first (a.entry ++ a.early c) =
          (Game.obstacle a.config a.state a.game a.request c).map .rejected := by
        rw [first_append, hEntry, Option.none_or, first_early]
      have hGates := first_gates_of_character hCharacter
      have hWaiting := waiting_of_character hCharacter
      dsimp only
      cases hObstacle : Game.obstacle a.config a.state a.game a.request c with
      | some reason =>
        rw [hObstacle, Option.map_some] at hEarly
        rw [hEarly] at hGates hWaiting
        have hRefused := Created.refused (.rejected reason) hGates (by simp)
        rwa [hWaiting] at hRefused
      | none =>
        rw [hObstacle, Option.map_none] at hEarly
        rw [hEarly, Option.none_or, first_late] at hGates
        rw [hEarly, if_pos rfl] at hWaiting
        have hLogin : a.game.waiting.login c a.game.sessions.length a.config.maxPlayers a.wall =
            a.login c := rfl
        rw [hLogin]
        dsimp only
        rw [← hWaiting]
        by_cases hSlot : 0 < (a.login c).1
        · rw [if_pos hSlot] at hGates ⊢
          exact .refused _ hGates (by simp)
        · rw [if_neg hSlot] at hGates ⊢
          cases hWorld : Game.enter? a.game.world c with
          | none =>
            rw [if_pos hWorld] at hGates
            exact .refused _ hGates (by simp)
          | some world =>
            rw [hWorld, if_neg (Option.some_ne_none world)] at hGates
            exact .offered c world hGates hCharacter hWorld

end Admission

/-! ## Taking back -/

namespace SessionRegistry

variable {r : SessionRegistry}

theorem sessions_insert (hFresh : r.freshId ∉ r.roll.map Prod.fst) (c : Character)
    (system : UInt16) (connection : ConnectionId) :
    (r.insert c system connection).2.sessions =
      r.sessions ++ [r.newSession c system connection] := by
  have hOthers : r.sessions.filter (·.id != r.freshId) = r.sessions := by
    rw [List.filter_eq_self]
    intro session hSession
    rw [bne_iff_ne]
    intro hSame
    refine hFresh ?_
    rw [roll, List.map_map, ← hSame]
    exact List.mem_map_of_mem (f := Session.id) hSession
  exact congrArg (· ++ [r.newSession c system connection]) hOthers

/-- A session that was made a moment ago and goes again leaves the others as they were. -/
theorem sessions_remove_insert (hFresh : r.freshId ∉ r.roll.map Prod.fst) (c : Character)
    (system : UInt16) (connection : ConnectionId) :
    ((r.insert c system connection).2.remove r.freshId).2.sessions = r.sessions := by
  have hInserted := sessions_insert hFresh c system connection
  have hNew : [r.newSession c system connection].filter (·.id != r.freshId) = [] := by
    simp [newSession]
  have hOthers : (r.remove r.freshId).2.sessions ++ [r.newSession c system connection] =
      r.sessions ++ [r.newSession c system connection] := hInserted
  rw [remove, hInserted, List.filter_append, hNew, List.append_nil]
  exact List.append_cancel_right hOthers

end SessionRegistry

theorem World.remove_of_not_mem {w : World} {id : CharacterId} (hAway : id ∉ w.inhabitants) :
    w.remove id = w := by
  have hOthers : w.placed.filter (·.1 != id) = w.placed := by
    rw [List.filter_eq_self]
    intro entry hEntry
    rw [bne_iff_ne]
    rintro rfl
    exact hAway (List.mem_map_of_mem hEntry)
  rw [World.remove, hOthers]

/-- A character that was not in the world is added to it, and taken out again without a trace. -/
theorem World.place_spec {w next : World} {id : CharacterId} {p : Position} {forced : Bool}
    (hAway : id ∉ w.inhabitants) (hPlaced : w.place? id p forced = some next) :
    next.placed = (id, p) :: w.placed ∧ next.remove id = w := by
  have hBefore := remove_of_not_mem hAway
  rw [place?] at hPlaced
  split at hPlaced
  case isFalse => cases hPlaced
  case isTrue =>
    cases hPlaced
    rw [hBefore, World.remove, List.filter_cons_of_neg (by simp)]
    exact ⟨rfl, hBefore⟩

theorem Game.enter_spec {w next : World} {c : Character} (hAway : c.id ∉ w.inhabitants)
    (hEntered : enter? w c = some next) :
    (∃ p, (p = c.login ∨ p = c.temple) ∧ next.placed = (c.id, p) :: w.placed) ∧
      next.remove c.id = w := by
  rw [enter?] at hEntered
  split at hEntered
  case h_1 world hPlaced =>
    cases hEntered
    obtain ⟨hNext, hBack⟩ := World.place_spec hAway hPlaced
    exact ⟨⟨c.login, Or.inl rfl, hNext⟩, hBack⟩
  case h_2 =>
    obtain ⟨hNext, hBack⟩ := World.place_spec hAway hEntered
    exact ⟨⟨c.temple, Or.inr rfl, hNext⟩, hBack⟩

/-! ## What a connection keeps -/

namespace Server

def sessionField? (s : Server) (id : ConnectionId) : Option (Option SessionHandle) :=
  (s.connection? id).map (·.session?)

variable {s : Server} {id : ConnectionId}

variable {now : Nat} {request : AttachRequest} {caller : Caller} {offer : Game.Offer}

/-- A request as the game turns to it, with what it sees of the connection. -/
def admission (s : Server) (seen : ConnectionId → Bool) (closing : List ConnectionId) (wall : Nat)
    (request : AttachRequest) : Admission where
  config := s.config
  state := s.state
  game := s.game
  request := request
  seen := seen request.connection
  kept := (s.closeAll closing).isOpen request.connection
  wall := wall

variable {seen : ConnectionId → Bool} {closing : List ConnectionId} {wall : Nat}

/-- What the turn of a request for a new session leaves. -/
inductive Settled (s : Server) (a : Admission) (caller : Caller) (t : Server) : Prop where
  | refused (outcome : AttachOutcome) (hFirst : Admission.first a.exits = some outcome)
      (hOutcome : ∀ handle, outcome ≠ .attached handle)
      (hReplies : t.replies = s.replies ++ [(caller, .outcome outcome)])
      (hGame : t.game = { a.game with waiting := a.waiting })
      (hField : s.held? a.request.connection = none →
        t.sessionField? a.request.connection = s.sessionField? a.request.connection)
  | withdrawn (c : Character) (world : World)
      (hFirst : Admission.first a.exits = some .abandoned)
      (hCharacter : a.request.character? = some c)
      (hWorld : Game.enter? a.game.world c = some world)
      (hReplies : t.replies = s.replies ++ [(caller, .outcome .abandoned)])
      (hGame : t.game = (a.entered c world).withdraw (a.offer c))
      (hField : s.held? a.request.connection = none →
        t.sessionField? a.request.connection = s.sessionField? a.request.connection)
  | attached (c : Character) (world : World) (hFirst : Admission.first a.exits = none)
      (hCharacter : a.request.character? = some c)
      (hWorld : Game.enter? a.game.world c = some world)
      (hReplies : t.replies = s.replies ++ [(caller, .outcome (.attached (a.session c).handle))])
      (hGame : t.game = a.entered c world)
      (hHeld : t.held? a.request.connection = some (a.session c).handle)

variable {n : Server} {a : Admission} {step : Game.AttachStep} {game : Game}

end Server

/-! ## Runs -/

section

variable {config : Config} {key : Rsa.Key} {state : WorldState} {world : World}
  {handlers : HandlerTable} {capacity : Nat} {past : List Event} {s : Server}

variable {seen : ConnectionId → Bool} {closing : List ConnectionId} {now wall : Nat}
  {r : AttachRequest} {caller : Caller}

/-- The sessions, the world and the session field of a connection are as they were. -/
structure Server.Untouched (s t : Server) (id : ConnectionId) : Prop where
  sessions : t.game.sessions.sessions = s.game.sessions.sessions
  world : t.game.world = s.game.world
  field : t.sessionField? id = s.sessionField? id

structure Server.Joined (s t : Server) (id : ConnectionId) (session : Session) : Prop where
  sessions : t.game.sessions.sessions = s.game.sessions.sessions ++ [session]
  placed : ∃ p, (p = session.character.login ∨ p = session.character.temple) ∧
    t.game.world.placed = (session.character.id, p) :: s.game.world.placed
  held : t.held? id = some session.handle

namespace Server

variable {t : Server}

/-- What the turn leaves, if the connection holds nothing yet, the character is not in the world,
and the id of a session that is made is not in use. -/
theorem Settled.outcome (h : s.Settled (s.admission seen closing wall r) caller t)
    (hIdle : t.game.sessions.created < 2 ^ 32 → s.held? r.connection = none)
    (hAway : t.game.sessions.created < 2 ^ 32 → ∀ c, r.character? = some c →
      c.id ∉ s.game.world.inhabitants)
    (hFresh : t.game.sessions.created < 2 ^ 32 →
      t.game.sessions.created = s.game.sessions.created + 1 →
        s.game.sessions.freshId ∉ s.game.sessions.roll.map Prod.fst) :
    t.game.waiting = (s.admission seen closing wall r).waiting ∧
    match Admission.first (s.admission seen closing wall r).exits with
    | some outcome =>
      t.replies = s.replies ++ [(caller, .outcome outcome)] ∧
        (∀ handle, outcome ≠ .attached handle) ∧
        (t.game.sessions.created < 2 ^ 32 → s.Untouched t r.connection)
    | none =>
      ∃ c, r.character? = some c ∧
        t.replies = s.replies ++
          [(caller, .outcome (.attached ((s.admission seen closing wall r).session c).handle))] ∧
        (t.game.sessions.created < 2 ^ 32 →
          s.Joined t r.connection ((s.admission seen closing wall r).session c)) := by
  cases h with
  | refused outcome hFirst hOutcome hReplies hGame hField =>
    rw [hFirst]
    refine ⟨congrArg Game.waiting hGame, hReplies, hOutcome, fun hFew => ⟨?_, ?_, ?_⟩⟩
    · exact congrArg (·.sessions.sessions) hGame
    · rw [hGame]
      rfl
    · exact hField (hIdle hFew)
  | withdrawn c world hFirst hCharacter hWorld hReplies hGame hField =>
    have hMade : t.game.sessions.created = s.game.sessions.created + 1 :=
      congrArg (·.sessions.created) hGame
    rw [hFirst]
    refine ⟨congrArg Game.waiting hGame, hReplies, nofun, fun hFew => ⟨?_, ?_, ?_⟩⟩
    · exact (congrArg (·.sessions.sessions) hGame).trans
        (SessionRegistry.sessions_remove_insert (hFresh hFew hMade) ..)
    · exact (congrArg Game.world hGame).trans
        (Game.enter_spec (hAway hFew c hCharacter) hWorld).2
    · exact hField (hIdle hFew)
  | attached c world hFirst hCharacter hWorld hReplies hGame hHeld =>
    have hMade : t.game.sessions.created = s.game.sessions.created + 1 :=
      congrArg (·.sessions.created) hGame
    rw [hFirst]
    refine ⟨congrArg Game.waiting hGame, c, hCharacter, hReplies, fun hFew => ⟨?_, ?_, hHeld⟩⟩
    · exact (congrArg (·.sessions.sessions) hGame).trans
        (SessionRegistry.sessions_insert (hFresh hFew hMade) ..)
    · rw [hGame]
      exact (Game.enter_spec (hAway hFew c hCharacter) hWorld).1

end Server

end

/-! ## The first of two connections closes while its character is placed -/

namespace Rivals

def asking : List Event := [ask 1, .accept default, .accept default]

theorem run_asking : Run opened asking asked := by
  have hOpened : Run opened [] opened := .start
  have hFirst := hOpened.step (.accept default) trivial
  have hBoth := hFirst.step (.accept default) trivial
  exact hBoth.step (ask 1) List.not_mem_nil

def leaving : Event := .turn (.attach (request 1) (.connection 1)) asked.isOpen [1] 0 0

def left : Server := leaving.apply asked

end Rivals

end Gatehouse
