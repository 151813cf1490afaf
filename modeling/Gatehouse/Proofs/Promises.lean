import Gatehouse.Proofs.Roll

/-!
# Promised sessions

A session may be promised to a request that comes back after a delay. Until then it is marked as
pending, nobody is attached to it, and a look-up of its character leads to it. The operations of the
registry keep to this, given the list of the ids that are promised.
-/

namespace Gatehouse.SessionRegistry

variable {r r' : SessionRegistry} {promised promised' removed removed' : List SessionId}
  {gone gone' : ConnectionId → Prop} {id other : SessionId} {character : CharacterId}
  {session session' : Session}

/-! ## Looking a character up -/

theorem findByCharacter_eq (r : SessionRegistry) (character : CharacterId) :
    r.findByCharacter character = (r.roll.find? (·.2 == character)).map Prod.fst := by
  rw [findByCharacter, roll, List.find?_map, Option.map_map]
  rfl

theorem findByCharacter_congr (hRoll : r'.roll = r.roll) :
    r'.findByCharacter character = r.findByCharacter character := by
  rw [findByCharacter_eq, findByCharacter_eq, hRoll]

theorem mem_roll_of_findByCharacter (hFound : r.findByCharacter character = some id) :
    (id, character) ∈ r.roll := by
  rw [findByCharacter_eq, Option.map_eq_some_iff] at hFound
  obtain ⟨⟨found, c⟩, hFind, rfl⟩ := hFound
  obtain rfl : c = character := by simpa using List.find?_some hFind
  exact List.mem_of_find?_eq_some hFind

/-- The first session of a character stays the first one when others go. -/
theorem findByCharacter_remove (hFound : r.findByCharacter character = some id)
    (hOther : id ≠ other) : (r.remove other).2.findByCharacter character = some id := by
  rw [findByCharacter_eq, Option.map_eq_some_iff] at hFound
  obtain ⟨⟨found, c⟩, hFind, rfl⟩ := hFound
  obtain ⟨hHere, before, behind, hSplit, hFirst⟩ := List.find?_eq_some_iff_append.mp hFind
  rw [findByCharacter_eq, roll_remove, Option.map_eq_some_iff]
  refine ⟨(found, c), List.find?_eq_some_iff_append.mpr ⟨hHere, before.filter (·.1 != other),
    behind.filter (·.1 != other), ?_, fun entry hEntry => ?_⟩, rfl⟩
  · rw [hSplit, List.filter_append, List.filter_cons_of_pos (by simpa using hOther)]
  · exact hFirst entry (List.mem_of_mem_filter hEntry)

theorem findByCharacter_insert (hFound : r.findByCharacter character = some id)
    (hOther : id ≠ r.freshId) (c : Character) (system : UInt16) (connection : ConnectionId) :
    (r.insert c system connection).2.findByCharacter character = some id := by
  have hStill := findByCharacter_remove hFound hOther
  rw [findByCharacter_eq, roll_remove, Option.map_eq_some_iff] at hStill
  obtain ⟨entry, hFind, rfl⟩ := hStill
  rw [findByCharacter_eq, roll_insert, List.find?_append, hFind]
  rfl

/-! ## What is promised -/

/-- A session that waits for a new connection. -/
structure Awaits (r : SessionRegistry) (gone : ConnectionId → Prop) (id : SessionId)
    (session : Session) : Prop where
  there : r.get? id = some session
  pending : session.reconnectPending = true
  vacant : ∀ c, session.connection? = some c → gone c
  /-- Whoever asks for its character comes upon it. -/
  found : r.findByCharacter session.character.id = some id

/-- The sessions that are promised wait, as far as they have not been removed, and no others do. -/
structure Honours (r : SessionRegistry) (promised removed : List SessionId)
    (gone : ConnectionId → Prop) : Prop where
  ids : (r.roll.map Prod.fst).Nodup
  idle : ∀ id session, r.get? id = some session → id ∉ promised → session.reconnectPending = false
  held : ∀ id ∈ promised,
    (∃ session, r.Awaits gone id session) ∨ r.get? id = none ∧ id ∈ removed

theorem Awaits.modify (h : r.Awaits gone id session) (hSession : r'.get? id = some session')
    (hPending : session'.reconnectPending = session.reconnectPending)
    (hCharacter : session'.character = session.character)
    (hConnection : ∀ c, session'.connection? = some c → session.connection? = some c)
    (hFound : r'.findByCharacter session.character.id = some id) : r'.Awaits gone id session' where
  there := hSession
  pending := hPending.trans h.pending
  vacant := fun c hAttached => h.vacant c (hConnection c hAttached)
  found := by rw [hCharacter, hFound]

theorem Awaits.congr (h : r.Awaits gone id session) (hSession : r'.get? id = r.get? id)
    (hFound : r'.findByCharacter session.character.id = some id) : r'.Awaits gone id session :=
  h.modify (hSession.trans h.there) rfl rfl (fun _ hAttached => hAttached) hFound

theorem Awaits.liveConnection?_eq_none (h : r.Awaits gone id session)
    {isOpen : ConnectionId → Bool} (hClosed : ∀ c, gone c → isOpen c = false) :
    session.liveConnection? isOpen = none := by
  rw [Session.liveConnection?, Option.filter_eq_none_iff]
  intro c hAttached
  rw [hClosed c (h.vacant c hAttached)]
  exact Bool.false_ne_true

namespace Honours

theorem mono (h : r.Honours promised removed gone)
    (hPromised : ∀ id, id ∈ promised' ↔ id ∈ promised) (hGone : ∀ c, gone c → gone' c) :
    r.Honours promised' removed gone' where
  ids := h.ids
  idle := fun id session hSession hFree => h.idle id session hSession (mt (hPromised id).mpr hFree)
  held := by
    intro id hId
    refine (h.held id ((hPromised id).mp hId)).imp_left fun ⟨session, hAwaits⟩ => ?_
    exact ⟨session, hAwaits.there, hAwaits.pending, fun c hc => hGone c (hAwaits.vacant c hc),
      hAwaits.found⟩

/-- What is promised stays so where neither the order of the sessions nor its own changes. -/
theorem held_of_roll_eq (h : r.Honours promised removed gone) (hRoll : r'.roll = r.roll)
    (hId : id ∈ promised) (hSame : r'.get? id = r.get? id) :
    (∃ session, r'.Awaits gone id session) ∨ r'.get? id = none ∧ id ∈ removed := by
  rw [hSame]
  refine (h.held id hId).imp_left fun ⟨session, hAwaits⟩ => ⟨session, hAwaits.congr hSame ?_⟩
  rw [findByCharacter_congr hRoll, hAwaits.found]

theorem not_promised (h : r.Honours promised removed gone) (hSession : r.get? id = some session)
    (hIdle : session.reconnectPending = false) : id ∉ promised := by
  intro hId
  rcases h.held id hId with ⟨waiting, hAwaits⟩ | ⟨hNone, -⟩
  · cases hSession.symm.trans hAwaits.there
    rw [hAwaits.pending] at hIdle
    cases hIdle
  · cases hSession.symm.trans hNone

theorem pending_iff (h : r.Honours promised removed gone) (hSession : r.get? id = some session) :
    session.reconnectPending = true ↔ id ∈ promised := by
  constructor
  · intro hPending
    by_contra hFree
    rw [h.idle id session hSession hFree] at hPending
    cases hPending
  · intro hId
    by_contra hIdle
    exact h.not_promised hSession (Bool.not_eq_true _ ▸ hIdle) hId

theorem awaits (h : r.Honours promised removed gone) (hSession : r.get? id = some session)
    (hPending : session.reconnectPending = true) : r.Awaits gone id session := by
  rcases h.held id ((h.pending_iff hSession).mp hPending) with ⟨waiting, hAwaits⟩ | ⟨hNone, -⟩
  · cases hSession.symm.trans hAwaits.there
    exact hAwaits
  · cases hSession.symm.trans hNone

/-- The request that a session was promised to is there, or there was none. -/
theorem settle (h : r.Honours promised removed gone) (id : SessionId)
    (hPromised : ∀ other, other ∈ promised' ↔ other ∈ promised ∧ other ≠ id) :
    (r.setPending id false).Honours promised' removed gone where
  ids := by rw [roll_setPending]; exact h.ids
  idle := by
    intro other session hSession hFree
    rw [get?_setPending] at hSession
    split at hSession
    case isTrue =>
      obtain ⟨before, -, rfl⟩ := Option.map_eq_some_iff.mp hSession
      rfl
    case isFalse hOther =>
      exact h.idle other session hSession fun hId => hFree ((hPromised other).mpr ⟨hId, hOther⟩)
  held := by
    intro other hId
    obtain ⟨hBefore, hOther⟩ := (hPromised other).mp hId
    exact h.held_of_roll_eq (r.roll_setPending id false) hBefore
      (by rw [get?_setPending, if_neg hOther])

/-- What was promised with a session that is not there any more is forgotten. -/
theorem forget (h : r.Honours promised removed gone) (hNone : r.get? id = none)
    (hPromised : ∀ other, other ∈ promised' ↔ other ∈ promised ∧ other ≠ id) :
    r.Honours promised' removed gone where
  ids := h.ids
  idle := by
    intro other session hSession hFree
    refine h.idle other session hSession fun hId => hFree ((hPromised other).mpr ⟨hId, ?_⟩)
    rintro rfl
    cases hSession.symm.trans hNone
  held := fun other hId => h.held other ((hPromised other).mp hId).1

/-- A session is promised, of which the connection has to go. -/
theorem promise (h : r.Honours promised removed gone) (hSession : r.get? id = some session)
    (hVacant : ∀ c, session.connection? = some c → gone c)
    (hFound : r.findByCharacter character = some id) :
    (r.setPending id true).Honours (promised ++ [id]) removed gone where
  ids := by rw [roll_setPending]; exact h.ids
  idle := by
    intro other session hThere hFree
    rw [List.mem_append, List.mem_singleton, not_or] at hFree
    rw [get?_setPending, if_neg hFree.2] at hThere
    exact h.idle other session hThere hFree.1
  held := by
    have hRoll := r.roll_setPending id true
    have hGet := r.get?_setPending id true
    intro other hId
    by_cases hHere : other = id
    · subst hHere
      -- the two ways to the session, by id and by character, lead to the same one
      have hSame : session.character.id = character := by
        have hPair := List.inj_on_of_nodup_map h.ids (mem_roll_of_get? hSession)
          (mem_roll_of_findByCharacter hFound) rfl
        exact congrArg Prod.snd hPair
      refine Or.inl ⟨{ session with reconnectPending := true }, ?_, rfl, hVacant, ?_⟩
      · rw [hGet, if_pos rfl, hSession, Option.map_some]
      · exact (findByCharacter_congr hRoll).trans (hSame ▸ hFound)
    · have hBefore : other ∈ promised := by
        rcases List.mem_append.mp hId with hBefore | hLast
        · exact hBefore
        · exact absurd (List.mem_singleton.mp hLast) hHere
      exact h.held_of_roll_eq hRoll hBefore (by rw [hGet, if_neg hHere])

theorem attach (h : r.Honours promised removed gone) (hFree : id ∉ promised)
    (connection : ConnectionId) (system : UInt16) :
    (r.modify id (·.attach connection system)).Honours promised removed gone where
  ids := by rw [roll_attach]; exact h.ids
  idle := by
    intro other session hSession hOther
    rw [get?_attach] at hSession
    split at hSession
    case isTrue hHere =>
      obtain ⟨before, hBefore, rfl⟩ := Option.map_eq_some_iff.mp hSession
      exact h.idle other before hBefore hOther
    case isFalse => exact h.idle other session hSession hOther
  held := by
    intro other hId
    have hOther : other ≠ id := by
      rintro rfl
      exact hFree hId
    exact h.held_of_roll_eq (r.roll_attach id connection system) hId
      (by rw [get?_attach, if_neg hOther])

theorem detach (h : r.Honours promised removed gone) (id : SessionId)
    (connection : ConnectionId) : (r.detach id connection).Honours promised removed gone where
  ids := by rw [roll_detach]; exact h.ids
  idle := by
    intro other session hSession hFree
    rw [get?_detach] at hSession
    split at hSession
    case isTrue hHere =>
      obtain ⟨before, hBefore, rfl⟩ := Option.map_eq_some_iff.mp hSession
      rw [Session.detach]
      split <;> exact h.idle other before hBefore hFree
    case isFalse => exact h.idle other session hSession hFree
  held := by
    intro other hId
    rcases h.held other hId with ⟨session, hAwaits⟩ | ⟨hNone, hRemoved⟩
    · left
      have hFound := (findByCharacter_congr (r.roll_detach id connection)).trans hAwaits.found
      by_cases hHere : other = id
      · refine ⟨session.detach connection, hAwaits.modify ?_ ?_ ?_ ?_ hFound⟩
        · rw [get?_detach, if_pos hHere, hAwaits.there, Option.map_some]
        · rw [Session.detach]
          split <;> rfl
        · rw [Session.detach]
          split <;> rfl
        · intro c hAttached
          rw [Session.detach] at hAttached
          split at hAttached
          · cases hAttached
          · exact hAttached
      · exact ⟨session, hAwaits.congr (by rw [get?_detach, if_neg hHere]) hFound⟩
    · right
      rw [get?_detach, hNone]
      exact ⟨ite_self _, hRemoved⟩

theorem remove (h : r.Honours promised removed gone) (id : SessionId)
    (hMore : ∀ other ∈ removed, other ∈ removed') (hId : id ∈ promised → id ∈ removed') :
    (r.remove id).2.Honours promised removed' gone where
  ids := by
    rw [roll_remove]
    exact h.ids.sublist (List.filter_sublist.map _)
  idle := by
    intro other session hSession hFree
    rw [get?_remove] at hSession
    split at hSession
    case isTrue => cases hSession
    case isFalse => exact h.idle other session hSession hFree
  held := by
    intro other hPromised
    rw [get?_remove]
    by_cases hHere : other = id
    · exact Or.inr ⟨if_pos hHere, hHere ▸ hId (hHere ▸ hPromised)⟩
    · rw [if_neg hHere]
      refine (h.held other hPromised).imp ?_ (And.imp_right (hMore other))
      rintro ⟨session, hAwaits⟩
      exact ⟨session, hAwaits.congr (by rw [get?_remove, if_neg hHere])
        (findByCharacter_remove hAwaits.found hHere)⟩

theorem insert (h : r.Honours promised removed gone) (hFresh : r.freshId ∉ promised)
    (c : Character) (system : UInt16) (connection : ConnectionId) :
    (r.insert c system connection).2.Honours promised removed gone where
  ids := by
    rw [roll_insert, List.map_append]
    refine List.nodup_append_comm.mp (List.nodup_cons.mpr ⟨?_, ?_⟩)
    · simp
    · exact h.ids.sublist (List.filter_sublist.map _)
  idle := by
    intro other session hSession hFree
    rw [get?_insert] at hSession
    split at hSession
    case isTrue =>
      cases hSession
      rfl
    case isFalse => exact h.idle other session hSession hFree
  held := by
    intro other hId
    have hOther : other ≠ r.freshId := by
      rintro rfl
      exact hFresh hId
    have hSame : (r.insert c system connection).2.get? other = r.get? other := by
      rw [get?_insert, if_neg hOther]
    rw [hSame]
    refine (h.held other hId).imp_left fun ⟨session, hAwaits⟩ => ⟨session, hAwaits.congr hSame ?_⟩
    exact findByCharacter_insert hAwaits.found hOther c system connection

end Honours

end Gatehouse.SessionRegistry
