import Gatehouse.Session.Registry

/-!
# The registry by id

What the operations of the registry do to the session that an id stands for.
-/

namespace Gatehouse.SessionRegistry

theorem id_of_get? {r : SessionRegistry} {id : SessionId} {session : Session}
    (hSession : r.get? id = some session) : session.id = id := by
  have hKey := List.find?_some (p := fun s : Session => s.id == id) hSession
  exact eq_of_beq hKey

theorem get?_modify {f : Session → Session} (hId : ∀ session, (f session).id = session.id)
    (r : SessionRegistry) (id other : SessionId) :
    (r.modify id f).get? other = if other = id then (r.get? other).map f else r.get? other := by
  have hFind : (r.modify id f).get? other =
      (r.get? other).map fun session => if session.id == id then f session else session := by
    rw [get?, modify, List.find?_map]
    have hPredicate : (fun session : Session => session.id == other) ∘
        (fun session => if session.id == id then f session else session) =
          fun session => session.id == other := by
      funext session
      rw [Function.comp_apply]
      split
      · rw [hId]
      · rfl
    rw [hPredicate]
    rfl
  rw [hFind]
  cases hSession : r.get? other with
  | none => rw [Option.map_none, Option.map_none, ite_self]
  | some session =>
    have hKey := id_of_get? hSession
    simp only [Option.map_some, hKey, beq_iff_eq]
    split <;> rfl

theorem get?_remove (r : SessionRegistry) (id other : SessionId) :
    (r.remove id).2.get? other = if other = id then none else r.get? other := by
  rw [get?, remove, List.find?_filter]
  split
  case isTrue hSame =>
    rw [List.find?_eq_none]
    intro session _ hBoth
    simp [hSame] at hBoth
  case isFalse hOther =>
    congr 1
    funext session
    by_cases hKey : session.id = other
    · simp [hKey, hOther]
    · simp [hKey]

theorem remove_of_get?_eq_none {r : SessionRegistry} {id : SessionId} (hNone : r.get? id = none) :
    (r.remove id).2 = r := by
  have hKept : r.sessions.filter (·.id != id) = r.sessions := by
    rw [List.filter_eq_self]
    simpa [get?] using hNone
  rw [remove, hKept]

def newSession (r : SessionRegistry) (character : Character) (system : UInt16)
    (connection : ConnectionId) : Session :=
  { id := r.freshId, serial := r.created, character, system, connection? := some connection
    reconnectPending := false, dead := false }

theorem get?_insert (r : SessionRegistry) (character : Character) (system : UInt16)
    (connection : ConnectionId) (other : SessionId) :
    (r.insert character system connection).2.get? other =
      if other = r.freshId then some (r.newSession character system connection)
      else r.get? other := by
  have hOld := get?_remove r r.freshId other
  rw [get?, remove] at hOld
  rw [get?, insert]
  simp only [List.find?_append, hOld]
  split
  case isTrue hSame =>
    rw [hSame, Option.none_or, List.find?_cons_of_pos (by simp)]
    rfl
  case isFalse hOther =>
    rw [List.find?_cons_of_neg (by simpa using Ne.symm hOther), List.find?_nil, Option.or_none]

theorem get?_setPending (r : SessionRegistry) (id : SessionId) (pending : Bool)
    (other : SessionId) :
    (r.setPending id pending).get? other =
      if other = id then (r.get? other).map fun s => { s with reconnectPending := pending }
      else r.get? other :=
  get?_modify (f := fun s => { s with reconnectPending := pending }) (fun _ => rfl) r id other

theorem get?_detach (r : SessionRegistry) (id : SessionId) (connection : ConnectionId)
    (other : SessionId) :
    (r.detach id connection).get? other =
      if other = id then (r.get? other).map (·.detach connection) else r.get? other := by
  refine get?_modify (fun session => ?_) r id other
  rw [Session.detach]
  split <;> rfl

theorem get?_attach (r : SessionRegistry) (id : SessionId) (connection : ConnectionId)
    (system : UInt16) (other : SessionId) :
    (r.modify id (·.attach connection system)).get? other =
      if other = id then (r.get? other).map (·.attach connection system) else r.get? other :=
  get?_modify (f := (·.attach connection system)) (fun _ => rfl) r id other

/-! ## Handles and connections

What the connections have to do with a registry: the handle that each session gives out, and the
connection that it refers to. -/

def link? (r : SessionRegistry) (id : SessionId) :
    Option (SessionHandle × Option ConnectionId) :=
  (r.get? id).map fun session => (session.handle, session.connection?)

theorem link?_of_get? {r : SessionRegistry} {id : SessionId} {session : Session}
    (hSession : r.get? id = some session) :
    r.link? id = some (session.handle, session.connection?) := by
  rw [link?, hSession, Option.map_some]

theorem id_of_link? {r : SessionRegistry} {id : SessionId} {handle : SessionHandle}
    {connection? : Option ConnectionId} (hLink : r.link? id = some (handle, connection?)) :
    handle.id = id := by
  obtain ⟨session, hSession, hPair⟩ := Option.map_eq_some_iff.mp hLink
  cases hPair
  exact id_of_get? hSession

theorem link?_setPending (r : SessionRegistry) (id : SessionId) (pending : Bool)
    (other : SessionId) : (r.setPending id pending).link? other = r.link? other := by
  rw [link?, link?, get?_setPending]
  split
  · rw [Option.map_map]
    rfl
  · rfl

theorem link?_remove (r : SessionRegistry) (id other : SessionId) :
    (r.remove id).2.link? other = if other = id then none else r.link? other := by
  rw [link?, link?, get?_remove]
  split <;> rfl

theorem link?_insert (r : SessionRegistry) (character : Character) (system : UInt16)
    (connection : ConnectionId) (other : SessionId) :
    (r.insert character system connection).2.link? other =
      if other = r.freshId then
        some ((r.insert character system connection).1, some connection)
      else r.link? other := by
  rw [link?, link?, get?_insert]
  split <;> rfl

theorem link?_detach (r : SessionRegistry) (id : SessionId) (connection : ConnectionId)
    (other : SessionId) :
    (r.detach id connection).link? other =
      if other = id then
        (r.link? other).map fun e => (e.1, if e.2 = some connection then none else e.2)
      else r.link? other := by
  rw [link?, link?, get?_detach]
  split
  · rw [Option.map_map, Option.map_map]
    congr 1
    funext session
    rw [Function.comp_apply, Function.comp_apply, Session.detach]
    split <;> rfl
  · rfl

theorem link?_detach_ne (r : SessionRegistry) (id : SessionId) (connection : ConnectionId)
    (handle : SessionHandle) :
    (r.detach id connection).link? id ≠ some (handle, some connection) := by
  intro hLink
  rw [link?_detach, if_pos rfl] at hLink
  obtain ⟨⟨_, before?⟩, -, hPair⟩ := Option.map_eq_some_iff.mp hLink
  rw [Prod.mk.injEq] at hPair
  obtain ⟨-, hForgotten⟩ := hPair
  split at hForgotten
  case isTrue => cases hForgotten
  case isFalse hOther => exact hOther hForgotten

theorem link?_attach (r : SessionRegistry) (id : SessionId) (connection : ConnectionId)
    (system : UInt16) (other : SessionId) :
    (r.modify id (·.attach connection system)).link? other =
      if other = id then (r.link? other).map fun e => (e.1, some connection)
      else r.link? other := by
  rw [link?, link?, get?_attach]
  split
  · rw [Option.map_map, Option.map_map]
    rfl
  · rfl

end Gatehouse.SessionRegistry
