import Mathlib.Data.List.Nodup
import Gatehouse.Proofs.Attaching

/-!
# Sessions and the world

The characters that have a session and those that are placed in the world are kept in two places.
A step of the game that changes one changes the other along with it, whether or not what it offers
is taken.
-/

namespace Gatehouse

/-- The profile that was loaded, if any was, is that of the character which is asked for. -/
def AttachRequest.IsLoaded (request : AttachRequest) : Prop :=
  ∀ c, request.character? = some c → c.id = request.characterId

/-- What a session keeps as long as it is there. -/
def Session.identity (s : Session) : SessionId × Nat × Character :=
  (s.id, s.serial, s.character)

namespace SessionRegistry

def identities (r : SessionRegistry) : List (SessionId × Nat × Character) :=
  r.sessions.map Session.identity

theorem identities_modify {f : Session → Session}
    (hSame : ∀ session, (f session).identity = session.identity) (r : SessionRegistry)
    (id : SessionId) : (r.modify id f).identities = r.identities := by
  rw [identities, modify, identities, List.map_map]
  refine List.map_congr_left fun session _ => ?_
  rw [Function.comp_apply]
  split
  · exact hSame session
  · rfl

theorem identities_setPending (r : SessionRegistry) (id : SessionId) (pending : Bool) :
    (r.setPending id pending).identities = r.identities :=
  identities_modify (f := fun session => { session with reconnectPending := pending })
    (fun _ => rfl) r id

theorem identities_setDead (r : SessionRegistry) (id : SessionId) (dead : Bool) :
    (r.setDead id dead).identities = r.identities :=
  identities_modify (f := fun session => { session with dead }) (fun _ => rfl) r id

theorem identities_detach (r : SessionRegistry) (id : SessionId) (connection : ConnectionId) :
    (r.detach id connection).identities = r.identities := by
  refine identities_modify (fun session => ?_) r id
  rw [Session.detach]
  split <;> rfl

theorem identities_attach (r : SessionRegistry) (id : SessionId) (connection : ConnectionId)
    (system : UInt16) : (r.modify id (·.attach connection system)).identities = r.identities :=
  identities_modify (f := (·.attach connection system)) (fun _ => rfl) r id

theorem identities_remove (r : SessionRegistry) (id : SessionId) :
    (r.remove id).2.identities = r.identities.filter (·.1 != id) := by
  rw [identities, remove, identities, List.filter_map]
  rfl

theorem identities_insert (r : SessionRegistry) (c : Character) (system : UInt16)
    (connection : ConnectionId) :
    (r.insert c system connection).2.identities =
      r.identities.filter (·.1 != r.freshId) ++ [(r.freshId, r.created, c)] := by
  rw [← identities_remove, identities, insert, identities, remove, List.map_append]
  rfl

def roll (r : SessionRegistry) : List (SessionId × CharacterId) :=
  r.sessions.map fun session => (session.id, session.character.id)

variable {r : SessionRegistry} {id : SessionId} {character : CharacterId}

theorem roll_eq (r : SessionRegistry) :
    r.roll = r.identities.map fun entry => (entry.1, entry.2.2.id) := by
  rw [roll, identities, List.map_map]
  rfl

theorem roll_congr {other : SessionRegistry} (hSame : other.identities = r.identities) :
    other.roll = r.roll := by
  rw [roll_eq, hSame, roll_eq]

theorem roll_setPending (r : SessionRegistry) (id : SessionId) (pending : Bool) :
    (r.setPending id pending).roll = r.roll :=
  roll_congr (identities_setPending ..)

theorem roll_detach (r : SessionRegistry) (id : SessionId) (connection : ConnectionId) :
    (r.detach id connection).roll = r.roll :=
  roll_congr (identities_detach ..)

theorem roll_attach (r : SessionRegistry) (id : SessionId) (connection : ConnectionId)
    (system : UInt16) : (r.modify id (·.attach connection system)).roll = r.roll :=
  roll_congr (identities_attach ..)

theorem roll_remove (r : SessionRegistry) (id : SessionId) :
    (r.remove id).2.roll = r.roll.filter (·.1 != id) := by
  rw [roll, remove, roll, List.filter_map]
  rfl

theorem roll_insert (r : SessionRegistry) (c : Character) (system : UInt16)
    (connection : ConnectionId) :
    (r.insert c system connection).2.roll =
      r.roll.filter (·.1 != r.freshId) ++ [(r.freshId, c.id)] := by
  rw [← roll_remove, roll, insert, roll, remove, List.map_append]
  rfl

theorem filter_roll_of_fresh (hFresh : r.freshId ∉ r.roll.map Prod.fst) :
    r.roll.filter (·.1 != r.freshId) = r.roll := by
  rw [List.filter_eq_self]
  intro entry hEntry
  rw [bne_iff_ne]
  exact fun hSame => hFresh (hSame ▸ List.mem_map_of_mem hEntry)

theorem roll_insert_of_fresh (hFresh : r.freshId ∉ r.roll.map Prod.fst) (c : Character)
    (system : UInt16) (connection : ConnectionId) :
    (r.insert c system connection).2.roll = r.roll ++ [(r.freshId, c.id)] := by
  rw [roll_insert, filter_roll_of_fresh hFresh]

theorem findByCharacter_eq_none_iff :
    r.findByCharacter character = none ↔ character ∉ r.roll.map Prod.snd := by
  rw [findByCharacter, Option.map_eq_none_iff, List.find?_eq_none, roll, List.map_map]
  simp

theorem exists_get?_of_mem_roll (hRoll : (id, character) ∈ r.roll) :
    ∃ session, r.get? id = some session := by
  obtain ⟨session, hSession, hPair⟩ := List.mem_map.mp hRoll
  cases hPair
  rw [← Option.isSome_iff_exists, get?, List.find?_isSome]
  exact ⟨session, hSession, beq_self_eq_true _⟩

theorem mem_roll_of_get? {session : Session} (hSession : r.get? id = some session) :
    (id, session.character.id) ∈ r.roll := by
  rw [← id_of_get? hSession]
  exact List.mem_map_of_mem (List.mem_of_find?_eq_some hSession)

end SessionRegistry

namespace World

def inhabitants (w : World) : List CharacterId :=
  w.placed.map Prod.fst

variable {w next : World} {id other : CharacterId} {p : Position} {forced : Bool}

theorem mem_inhabitants_remove (w : World) (id other : CharacterId) :
    other ∈ (w.remove id).inhabitants ↔ other ∈ w.inhabitants ∧ other ≠ id := by
  rw [inhabitants, remove, inhabitants, List.mem_map, List.mem_map]
  constructor
  · rintro ⟨entry, hEntry, rfl⟩
    rw [List.mem_filter, bne_iff_ne] at hEntry
    exact ⟨⟨entry, hEntry.1, rfl⟩, hEntry.2⟩
  · rintro ⟨⟨entry, hEntry, rfl⟩, hOther⟩
    exact ⟨entry, List.mem_filter.mpr ⟨hEntry, bne_iff_ne.mpr hOther⟩, rfl⟩

theorem mem_inhabitants_place (hPlaced : w.place? id p forced = some next) :
    other ∈ next.inhabitants ↔ other = id ∨ other ∈ w.inhabitants := by
  rw [place?] at hPlaced
  split at hPlaced
  case isFalse => cases hPlaced
  case isTrue =>
    cases hPlaced
    have hBefore := w.mem_inhabitants_remove id other
    rw [inhabitants] at hBefore
    rw [inhabitants, List.map_cons, List.mem_cons, hBefore]
    by_cases hHere : other = id <;> simp [hHere]

end World

namespace Game

theorem mem_inhabitants_enter {w next : World} {c : Character} (hEntered : enter? w c = some next)
    (other : CharacterId) :
    other ∈ next.inhabitants ↔ other = c.id ∨ other ∈ w.inhabitants := by
  rw [enter?] at hEntered
  split at hEntered
  case h_1 world hPlaced =>
    cases hEntered
    exact World.mem_inhabitants_place hPlaced
  case h_2 => exact World.mem_inhabitants_place hEntered

theorem sessions_logout (g : Game) (id : SessionId) (character : CharacterId) :
    (g.logout id character).sessions = (g.sessions.remove id).2 := by
  rw [Game.logout]
  cases hSession : g.sessions.get? id with
  | none =>
    rw [SessionRegistry.remove_of_get?_eq_none hSession, SessionRegistry.remove, hSession]
  | some session => rw [SessionRegistry.remove, hSession]

/-- No two sessions are of one character, and the characters of the sessions are those in the
world. -/
structure InStep (g : Game) : Prop where
  ids : (g.sessions.roll.map Prod.fst).Nodup
  characters : (g.sessions.roll.map Prod.snd).Nodup
  placed : ∀ c, c ∈ g.world.inhabitants ↔ c ∈ g.sessions.roll.map Prod.snd

namespace InStep

variable {g g' : Game} {id : SessionId} {character : CharacterId}

theorem congr (h : g.InStep) (hRoll : g'.sessions.roll = g.sessions.roll)
    (hWorld : g'.world = g.world) : g'.InStep := by
  refine ⟨?_, ?_, ?_⟩
  · exact hRoll ▸ h.ids
  · exact hRoll ▸ h.characters
  · rw [hWorld, hRoll]
    exact h.placed

theorem eq_of_id (h : g.InStep) {other : CharacterId} (hHere : (id, character) ∈ g.sessions.roll)
    (hThere : (id, other) ∈ g.sessions.roll) : character = other := by
  have hSame := List.inj_on_of_nodup_map h.ids hHere hThere rfl
  exact congrArg Prod.snd hSame

theorem eq_of_character (h : g.InStep) {other : SessionId}
    (hHere : (id, character) ∈ g.sessions.roll)
    (hThere : (other, character) ∈ g.sessions.roll) : id = other := by
  have hSame := List.inj_on_of_nodup_map h.characters hHere hThere rfl
  exact congrArg Prod.fst hSame

theorem insert (h : g.InStep) {c : Character} {world : World}
    (hFresh : g.sessions.freshId ∉ g.sessions.roll.map Prod.fst)
    (hNone : g.sessions.findByCharacter c.id = none) (hWorld : enter? g.world c = some world)
    (system : UInt16) (connection : ConnectionId) (waiting : WaitingList) :
    InStep { waiting, world, sessions := (g.sessions.insert c system connection).2 } ∧
      (g.sessions.insert c system connection).2.roll =
        g.sessions.roll ++ [(g.sessions.freshId, c.id)] := by
  have hRoll := SessionRegistry.roll_insert_of_fresh hFresh c system connection
  refine ⟨⟨?_, ?_, fun other => ?_⟩, hRoll⟩
  · rw [hRoll, List.map_append]
    exact List.nodup_append_comm.mp (List.nodup_cons.mpr ⟨hFresh, h.ids⟩)
  · rw [hRoll, List.map_append]
    exact List.nodup_append_comm.mp (List.nodup_cons.mpr
      ⟨SessionRegistry.findByCharacter_eq_none_iff.mp hNone, h.characters⟩)
  · rw [hRoll, List.map_append, List.mem_append, mem_inhabitants_enter hWorld, h.placed,
      List.map_singleton, List.mem_singleton, or_comm]

theorem remove (h : g.InStep) (hHas : (id, character) ∈ g.sessions.roll) :
    InStep { g with
      sessions := (g.sessions.remove id).2, world := g.world.remove character } := by
  have hRoll := g.sessions.roll_remove id
  have hLess : (g.sessions.remove id).2.roll.Sublist g.sessions.roll := by
    rw [hRoll]
    exact List.filter_sublist
  refine ⟨h.ids.sublist (hLess.map _), h.characters.sublist (hLess.map _), fun other => ?_⟩
  rw [World.mem_inhabitants_remove, h.placed, hRoll, List.mem_map, List.mem_map]
  constructor
  · rintro ⟨⟨⟨otherId, _⟩, hEntry, rfl⟩, hOther⟩
    refine ⟨_, List.mem_filter.mpr ⟨hEntry, bne_iff_ne.mpr ?_⟩, rfl⟩
    rintro rfl
    exact hOther (h.eq_of_id hEntry hHas)
  · rintro ⟨⟨otherId, _⟩, hEntry, rfl⟩
    rw [List.mem_filter, bne_iff_ne] at hEntry
    refine ⟨⟨_, hEntry.1, rfl⟩, ?_⟩
    rintro rfl
    exact hEntry.2 (h.eq_of_character hEntry.1 hHas)

theorem logout (h : g.InStep) (hKnown : ∀ c, (id, c) ∈ g.sessions.roll → c = character) :
    (g.logout id character).InStep := by
  cases hSession : g.sessions.get? id with
  | none =>
    have hNothing : g.logout id character = g := by
      rw [Game.logout, SessionRegistry.remove, hSession]
    rwa [hNothing]
  | some session =>
    have hRemoved : g.logout id character =
        { g with sessions := (g.sessions.remove id).2, world := g.world.remove character } := by
      rw [Game.logout, SessionRegistry.remove, hSession]
    have hHas := SessionRegistry.mem_roll_of_get? hSession
    rw [hRemoved]
    exact h.remove (hKnown _ hHas ▸ hHas)

end InStep

/-! ## Answers to requests -/

/-- The game that an answer leaves, depending on whether an offer is taken. -/
inductive Leaves (g : Game) : AttachStep → Game → Prop where
  | kept (step : AttachStep) : Leaves g step g
  | withdrawn (offer : Offer) : Leaves g (.offered offer) (g.withdraw offer)

theorem Leaves.created_eq {g last : Game} {step : AttachStep} (hLast : Leaves g step last) :
    last.sessions.created = g.sessions.created := by
  cases hLast with
  | kept => rfl
  | withdrawn offer =>
    rw [Game.withdraw]
    split <;> rfl

variable {g g' last : Game} {step : AttachStep} {request : AttachRequest} {existing : SessionId}
  {seen : ConnectionId → Bool} {config : Config} {state : WorldState} {now : Nat}

/-- No session and no character comes or goes. -/
structure SamePlayers (g g' : Game) : Prop where
  roll : g'.sessions.roll = g.sessions.roll
  world : g'.world = g.world

theorem Reattaching.samePlayers (hSteps : Reattaching seen existing request g step g')
    (hLast : Leaves g' step last) : g.SamePlayers last := by
  cases hSteps with
  | missing =>
    cases hLast
    exact ⟨rfl, rfl⟩
  | givenUp | occupied =>
    cases hLast
    exact ⟨SessionRegistry.roll_setPending .., rfl⟩
  | takenOver session hSession hOpen hFree =>
    have hRoll : ((g.sessions.setPending existing false).modify existing
        (·.attach request.connection request.system)).roll = g.sessions.roll :=
      (SessionRegistry.roll_attach ..).trans (SessionRegistry.roll_setPending ..)
    cases hLast with
    | kept => exact ⟨hRoll, rfl⟩
    | withdrawn => exact ⟨(SessionRegistry.roll_detach ..).trans hRoll, rfl⟩

theorem InStep.samePlayers (h : g.InStep) (hSame : g.SamePlayers g') : g'.InStep :=
  h.congr hSame.roll hSame.world

theorem InStep.reattach (h : g.InStep) (hSteps : Reattaching seen existing request g step g')
    (hLast : Leaves g' step last) : last.InStep :=
  h.samePlayers (hSteps.samePlayers hLast)

theorem InStep.attach (h : g.InStep) (hClones : config.allowClones = false)
    (hLoaded : request.IsLoaded)
    (hFresh : g'.sessions.created = g.sessions.created + 1 →
      g.sessions.freshId ∉ g.sessions.roll.map Prod.fst)
    (hSteps : Attaching config state seen now request g step g') (hLast : Leaves g' step last) :
    last.InStep := by
  cases hSteps with
  | turnedAway =>
    cases hLast
    exact h.congr rfl rfl
  | again _ _ _ _ hSteps => exact h.reattach hSteps hLast
  | kicked =>
    cases hLast
    exact h.congr (SessionRegistry.roll_setPending ..) rfl
  | created c waiting world hNone hOpen hCharacter hObstacle hPlace hWorld =>
    have hNew := hFresh rfl
    have hFree : g.sessions.findByCharacter c.id = none := by
      rw [hLoaded c hCharacter]
      exact hNone.resolve_left (by simp [hClones])
    obtain ⟨hNext, hRoll⟩ := h.insert hNew hFree hWorld request.system request.connection waiting
    cases hLast with
    | kept => exact hNext
    | withdrawn =>
      -- the connection closed too early, and what was inserted a moment ago goes again
      have hHas : (g.sessions.freshId, c.id) ∈
          (g.sessions.insert c request.system request.connection).2.roll := by
        rw [hRoll]
        exact List.mem_append_right _ (List.mem_singleton_self _)
      exact hNext.remove hHas

theorem InStep.detach (h : g.InStep) (id : SessionId) (c : ConnectionId) :
    (g.detach id c).InStep :=
  h.congr (SessionRegistry.roll_detach ..) rfl

end Game

end Gatehouse
