import Mathlib.Algebra.Group.Nat.Defs
import Gatehouse.Proofs.Keys
import Gatehouse.Proofs.Registry

/-!
# The cycle of session ids

Ids are counted up and start over after the last one, so the session that is made next gets the id
of the one that was made a whole cycle before. If that one is still there, it is replaced; all other
sessions are younger than a cycle and have other ids.
-/

namespace Gatehouse.SessionRegistry

def idCount : Nat := 2 ^ 32 - 1

def unset : SessionRegistry :=
  { empty with nextId := 0 }

inductive Call where
  | insert (character : Character) (system : UInt16) (connection : ConnectionId)
  | remove (id : SessionId)

def Call.isInsert : Call → Bool
  | insert .. => true
  | remove _ => false

def Call.apply (r : SessionRegistry) : Call → SessionRegistry
  | insert character system connection => (r.insert character system connection).2
  | remove id => (r.remove id).2

/-- A session is known by the number of those made before it. The id goes by that number, and as
long as the session is there no more than a cycle has been made since. -/
structure Cycled (r : SessionRegistry) : Prop where
  next : r.freshId.toNat = r.created % idCount + 1
  ids : ∀ s ∈ r.sessions, s.id.toNat = s.serial % idCount + 1
  made : ∀ s ∈ r.sessions, s.serial < r.created
  recent : ∀ s ∈ r.sessions, r.created ≤ s.serial + idCount
  ordered : r.sessions.Pairwise (·.serial < ·.serial)
  alive : ∀ s ∈ r.sessions, s.dead = false

variable {r : SessionRegistry} {s : Session} {character : Character} {system : UInt16}
  {connection : ConnectionId}

theorem toNat_freshId_insert (hNext : 1 ≤ r.freshId.toNat) :
    (r.insert character system connection).2.freshId.toNat = r.freshId.toNat % idCount + 1 := by
  have hLast := r.freshId.toNat_lt
  change (if r.freshId + 1 ≤ 1 then 1 else r.freshId + 1).toNat = _
  rw [idCount]
  split
  case isTrue hSmall =>
    rw [UInt32.le_iff_toNat_le, UInt32.toNat_add] at hSmall
    change (_ + 1) % 2 ^ 32 ≤ 1 at hSmall
    change 1 = _
    omega
  case isFalse hLarge =>
    rw [UInt32.le_iff_toNat_le, UInt32.toNat_add] at hLarge
    change ¬ (_ + 1) % 2 ^ 32 ≤ 1 at hLarge
    rw [UInt32.toNat_add]
    change (_ + 1) % 2 ^ 32 = _
    omega

theorem Cycled.id_eq_iff (hr : r.Cycled) (hs : s ∈ r.sessions) :
    s.id = r.freshId ↔ s.serial + idCount = r.created := by
  have hMade := hr.made s hs
  have hRecent := hr.recent s hs
  rw [← UInt32.toNat_inj, hr.ids s hs, hr.next]
  rw [idCount] at *
  omega

theorem insert_sessions (r : SessionRegistry) (character : Character) (system : UInt16)
    (connection : ConnectionId) :
    (r.insert character system connection).2.sessions =
      r.sessions.filter (·.id != r.freshId) ++ [r.newSession character system connection] :=
  rfl

theorem Cycled.remove (hr : r.Cycled) (id : SessionId) : (r.remove id).2.Cycled := by
  have hLess : ∀ s ∈ r.sessions.filter (·.id != id), s ∈ r.sessions :=
    fun s hs => (List.mem_filter.mp hs).1
  exact
    { next := hr.next
      ids := fun s hs => hr.ids s (hLess s hs)
      made := fun s hs => hr.made s (hLess s hs)
      recent := fun s hs => hr.recent s (hLess s hs)
      ordered := hr.ordered.sublist List.filter_sublist
      alive := fun s hs => hr.alive s (hLess s hs) }

theorem Cycled.insert (hr : r.Cycled) : (r.insert character system connection).2.Cycled := by
  have hNew : (r.newSession character system connection).serial = r.created := rfl
  have hSessions : ∀ s ∈ (r.insert character system connection).2.sessions,
      s ∈ r.sessions ∧ s.serial + idCount ≠ r.created ∨
        s = r.newSession character system connection := by
    intro s hs
    rcases List.mem_append.mp hs with hOld | hLast
    · obtain ⟨hThere, hOther⟩ := List.mem_filter.mp hOld
      exact .inl ⟨hThere, fun hCycle => bne_iff_ne.mp hOther ((hr.id_eq_iff hThere).mpr hCycle)⟩
    · exact .inr (List.mem_singleton.mp hLast)
  have hCreated : (r.insert character system connection).2.created = r.created + 1 := rfl
  refine
    { next := ?next
      ids := fun s hs => ?ids
      made := fun s hs => ?made
      recent := fun s hs => ?recent
      ordered := ?ordered
      alive := fun s hs => ?alive }
  case next =>
    rw [toNat_freshId_insert (hr.next ▸ Nat.le_add_left ..), hCreated, hr.next, idCount]
    omega
  case ordered =>
    rw [insert_sessions, List.pairwise_append]
    refine ⟨hr.ordered.sublist List.filter_sublist, List.pairwise_singleton .., ?_⟩
    intro s hs last hLast
    rw [List.mem_singleton.mp hLast]
    exact hr.made s (List.mem_filter.mp hs).1
  all_goals rcases hSessions s hs with ⟨hThere, hYoung⟩ | rfl
  case ids.inl => exact hr.ids s hThere
  case ids.inr => exact hr.next
  case made.inl => exact Nat.lt_succ_of_lt (hr.made s hThere)
  case made.inr => exact Nat.lt_succ_self _
  case recent.inl =>
    have hRecent := hr.recent s hThere
    omega
  case recent.inr => exact Nat.add_le_add_left (by decide) _
  case alive.inl => exact hr.alive s hThere
  case alive.inr => rfl

/-- The counter starts at one, set or not. -/
theorem start_eq {start : SessionRegistry} (hStart : start = empty ∨ start = unset) :
    start.sessions = [] ∧ start.created = 0 ∧ start.freshId = 1 := by
  rcases hStart with rfl | rfl
  · exact ⟨rfl, rfl, by decide⟩
  · exact ⟨rfl, rfl, by decide⟩

theorem cycled_start {start : SessionRegistry} (hStart : start = empty ∨ start = unset) :
    start.Cycled := by
  obtain ⟨hSessions, hCreated, hFresh⟩ := start_eq hStart
  constructor
  case next =>
    rw [hFresh, hCreated]
    rfl
  all_goals rw [hSessions]
  case ordered => exact List.Pairwise.nil
  all_goals exact List.forall_mem_nil _

theorem cycled_calls {start : SessionRegistry} (hStart : start = empty ∨ start = unset)
    (calls : List Call) : (calls.foldl Call.apply start).Cycled := by
  have hRun : ∀ r : SessionRegistry, r.Cycled → (calls.foldl Call.apply r).Cycled := by
    induction calls with
    | nil => exact fun r hr => hr
    | cons call calls ih =>
      intro r hr
      refine ih _ ?_
      cases call with
      | insert character system connection => exact hr.insert
      | remove id => exact hr.remove id
  exact hRun start (cycled_start hStart)

theorem created_calls (calls : List Call) (start : SessionRegistry) :
    (calls.foldl Call.apply start).created = start.created + calls.countP Call.isInsert := by
  induction calls generalizing start with
  | nil => rfl
  | cons call calls ih =>
    rw [List.foldl_cons, ih, List.countP_cons]
    cases call with
    | insert character system connection =>
      change start.created + 1 + _ = _ + (_ + 1)
      omega
    | remove id => rfl

/-! ## The next id -/

theorem Cycled.serials_nodup (hr : r.Cycled) : (r.sessions.map (·.serial)).Nodup :=
  List.pairwise_map.mpr (hr.ordered.imp Nat.ne_of_lt)

/-- Of two sessions that are there the younger one was made less than a cycle after the other. -/
theorem Cycled.eq_of_id_eq (hr : r.Cycled) {t : Session} (hs : s ∈ r.sessions)
    (ht : t ∈ r.sessions) (hId : s.id = t.id) : s = t := by
  refine List.inj_on_of_nodup_map hr.serials_nodup hs ht ?_
  have hs₁ := hr.made s hs
  have hs₂ := hr.recent s hs
  have ht₁ := hr.made t ht
  have ht₂ := hr.recent t ht
  rw [← UInt32.toNat_inj, hr.ids s hs, hr.ids t ht] at hId
  rw [idCount] at *
  omega

theorem Cycled.ids_nodup (hr : r.Cycled) : (r.sessions.map (·.id)).Nodup :=
  hr.serials_nodup.of_map _ |>.map_on fun _ hs _ ht => hr.eq_of_id_eq hs ht

theorem Cycled.get?_of_mem (hr : r.Cycled) (hs : s ∈ r.sessions) : r.get? s.id = some s := by
  cases hFound : r.get? s.id with
  | none => exact absurd (beq_self_eq_true s.id) (List.find?_eq_none.mp hFound s hs)
  | some t =>
    have ht := List.mem_of_find?_eq_some hFound
    rw [hr.eq_of_id_eq ht hs (id_of_get? hFound)]

/-- A session that keeps its place keeps its handles. -/
theorem Cycled.isInactive_handle (hr : r.Cycled) (hs : s ∈ r.sessions) :
    r.isInactive s.handle = false := by
  rw [isInactive, Bool.not_eq_false', List.any_eq_true]
  refine ⟨s, hs, ?_⟩
  rw [hr.alive s hs]
  exact Bool.and_eq_true_iff.mpr ⟨beq_self_eq_true s.serial, rfl⟩

/-- A session that is not replaced is found under its id as before. -/
theorem Cycled.kept (hr : r.Cycled) (hs : s ∈ r.sessions) (hOther : s.id ≠ r.freshId)
    (character : Character) (system : UInt16) (connection : ConnectionId) :
    (r.insert character system connection).2.get? s.id = some s ∧
      (r.insert character system connection).2.isInactive s.handle = false := by
  have hSession : (r.insert character system connection).2.get? s.id = some s := by
    rw [get?_insert, if_neg hOther, hr.get?_of_mem hs]
  exact ⟨hSession, hr.insert.isInactive_handle (List.mem_of_find?_eq_some hSession)⟩

theorem Cycled.replaced (hr : r.Cycled) (hs : s ∈ r.sessions) (hSame : s.id = r.freshId)
    (character : Character) (system : UInt16) (connection : ConnectionId) :
    (r.insert character system connection).2.length = r.length ∧
      (r.insert character system connection).2.isInactive s.handle = true := by
  constructor
  · have hLength := (perm_cons_filter_key hr.ids_nodup hs).length_eq
    rw [length, insert_sessions, ← hSame, List.length_append, List.length_singleton]
    exact hLength.symm
  · rw [isInactive, Bool.not_eq_true', List.any_eq_false]
    intro t ht hBoth
    obtain ⟨hSerial, -⟩ := Bool.and_eq_true_iff.mp hBoth
    have hCycle := (hr.id_eq_iff hs).mp hSame
    rw [insert_sessions, List.mem_append, List.mem_singleton] at ht
    rcases ht with hOld | rfl
    · obtain ⟨hThere, hOther⟩ := List.mem_filter.mp hOld
      refine bne_iff_ne.mp hOther ((hr.id_eq_iff hThere).mpr ?_)
      rw [← hCycle, eq_of_beq hSerial]
      rfl
    · have hNew : r.created = s.serial := eq_of_beq hSerial
      rw [idCount] at hCycle
      omega

/-- A new session gets an id that is taken exactly if the session that was made a cycle of ids
before is still there. Otherwise there is one session more, and the others stay as they are, with
their handles. If it is, then it is the one that goes, and no other. -/
theorem id_taken_iff {start : SessionRegistry} (hStart : start = empty ∨ start = unset)
    (calls : List Call) (character : Character) (system : UInt16) (connection : ConnectionId) :
    let r := calls.foldl Call.apply start
    let handle := (r.insert character system connection).1
    let next := (r.insert character system connection).2
    r.created = calls.countP Call.isInsert ∧
    ((∃ s ∈ r.sessions, s.id = handle.id) ↔
      ∃ s ∈ r.sessions, s.serial + (2 ^ 32 - 1) = r.created) ∧
    ((∀ s ∈ r.sessions, s.serial + (2 ^ 32 - 1) ≠ r.created) →
      next.length = r.length + 1 ∧
      ∀ s ∈ r.sessions, next.get? s.id = some s ∧ next.isInactive s.handle = false) ∧
    ∀ old ∈ r.sessions, old.serial + (2 ^ 32 - 1) = r.created →
      next.length = r.length ∧ next.isInactive old.handle = true ∧
      ∀ s ∈ r.sessions, s ≠ old → next.get? s.id = some s ∧ next.isInactive s.handle = false := by
  intro r handle next
  have hr : r.Cycled := cycled_calls hStart calls
  have hTaken : ∀ s ∈ r.sessions, s.id = r.freshId ↔ s.serial + (2 ^ 32 - 1) = r.created :=
    fun s hs => hr.id_eq_iff hs
  refine ⟨?created, ?taken, fun hFree => ⟨?grows, fun s hs => ?stays⟩,
    fun old hOld hCycle => ?replaces⟩
  case created =>
    exact (created_calls calls start).trans (by rw [(start_eq hStart).2.1, Nat.zero_add])
  case taken => exact exists_congr fun s => and_congr_right fun hs => hTaken s hs
  case grows =>
    have hKept : r.sessions.filter (·.id != r.freshId) = r.sessions :=
      List.filter_eq_self.mpr fun s hs =>
        bne_iff_ne.mpr fun hSame => hFree s hs ((hTaken s hs).mp hSame)
    change (r.insert character system connection).2.sessions.length = r.sessions.length + 1
    rw [insert_sessions, hKept, List.length_append, List.length_singleton]
  case stays => exact hr.kept hs (fun hSame => hFree s hs ((hTaken s hs).mp hSame)) _ _ _
  case replaces =>
    have hSame := (hTaken old hOld).mpr hCycle
    obtain ⟨hLength, hInactive⟩ := hr.replaced hOld hSame character system connection
    refine ⟨hLength, hInactive, fun s hs hOther => hr.kept hs (fun hFresh => hOther ?_) _ _ _⟩
    exact hr.eq_of_id_eq hs hOld (hFresh.trans hSame.symm)

/-! ## A whole cycle -/

def resident : Character :=
  { id := 10, name := "Knight", accountId := 1, accountType := .normal, canAlwaysLogin := false
    cannotBeBanned := false, login := ⟨100, 100, 7⟩, temple := ⟨100, 100, 7⟩ }

def visitor : Character :=
  { resident with id := 11, name := "Paladin" }

/-- The resident has come first, and then as many visitors have come and gone. -/
def visited (visits : Nat) : List Call :=
  .insert resident 2 1 ::
    (List.range visits).flatMap fun n => [.insert visitor 2 2, .remove (UInt32.ofNat (n + 2))]

def residing : Session :=
  { id := 1, serial := 0, character := resident, system := 2, connection? := some 1
    reconnectPending := false, dead := false }

theorem foldl_visited {start : SessionRegistry} (hStart : start = empty ∨ start = unset)
    {visits : Nat} (hFew : visits + 1 < 2 ^ 32) :
    (visited visits).foldl Call.apply start =
      { sessions := [residing], nextId := UInt32.ofNat (visits + 2), created := visits + 1 } := by
  induction visits with
  | zero =>
    obtain ⟨hSessions, hCreated, hFresh⟩ := start_eq hStart
    change (start.insert resident 2 1).2 = _
    simp only [insert, hSessions, hCreated, hFresh]
    rfl
  | succ visits ih =>
    have hId : (UInt32.ofNat (visits + 2)).toNat = visits + 2 := UInt32.toNat_ofNat_of_lt' hFew
    have hFresh : max (UInt32.ofNat (visits + 2)) 1 = UInt32.ofNat (visits + 2) := by
      refine if_neg fun hSmall => ?_
      rw [UInt32.le_iff_toNat_le, hId] at hSmall
      exact absurd hSmall (by simp)
    have hKept : [residing].filter (·.id != UInt32.ofNat (visits + 2)) = [residing] := by
      refine List.filter_eq_self.mpr (List.forall_mem_singleton.mpr ?_)
      refine bne_iff_ne.mpr fun hSame => ?_
      have hOne := congrArg UInt32.toNat hSame
      rw [hId] at hOne
      exact absurd hOne (by simp [residing])
    have hVisited : visited (visits + 1) =
        visited visits ++ [.insert visitor 2 2, .remove (UInt32.ofNat (visits + 2))] := by
      rw [visited, List.range_succ, List.flatMap_append, List.flatMap_singleton]
      rfl
    have hNext : UInt32.ofNat (visits + 2) + 1 = UInt32.ofNat (visits + 1 + 2) :=
      (UInt32.ofNat_add (visits + 2) 1).symm
    rw [hVisited, List.foldl_append, ih (by omega)]
    simp only [List.foldl_cons, List.foldl_nil, Call.apply, insert, remove, freshId, hFresh]
    rw [hKept, List.filter_append, hKept, List.filter_cons_of_neg (by simp), List.filter_nil,
      List.append_nil, hNext]

/-- One visitor less than would bring the first id back: the next session gets the last id. -/
theorem last_id_free :
    let r := (visited (2 ^ 32 - 3)).foldl Call.apply unset
    let next := (r.insert visitor 2 2).2
    (∀ s ∈ r.sessions, s.serial + (2 ^ 32 - 1) ≠ r.created) ∧
      r.length = 1 ∧ next.length = 2 ∧ next.get? 1 = some residing ∧
      next.isInactive residing.handle = false := by
  intro r next
  have hVisited : r = _ := foldl_visited (.inr rfl) (by decide)
  have hSessions : r.sessions = [residing] := congrArg SessionRegistry.sessions hVisited
  have hCreated : r.created = 2 ^ 32 - 3 + 1 := congrArg SessionRegistry.created hVisited
  have hFree : ∀ s ∈ r.sessions, s.serial + (2 ^ 32 - 1) ≠ r.created := by
    rw [hSessions, hCreated, List.forall_mem_singleton]
    decide
  have hLength : r.length = 1 := congrArg List.length hSessions
  obtain ⟨-, -, hGrows, -⟩ := id_taken_iff (.inr rfl) (visited (2 ^ 32 - 3)) visitor 2 2
  obtain ⟨hMore, hStays⟩ := hGrows hFree
  obtain ⟨hSession, hActive⟩ := hStays residing (hSessions ▸ List.mem_singleton_self residing)
  refine ⟨hFree, hLength, ?_, hSession, hActive⟩
  rw [hMore, hLength]

/-- With one visitor more the next one gets the id of the resident, whose session is lost. -/
theorem resident_replaced :
    let r := (visited (2 ^ 32 - 2)).foldl Call.apply empty
    let next := (r.insert visitor 2 2).2
    r.get? 1 = some residing ∧ r.isInactive residing.handle = false ∧
      (r.insert visitor 2 2).1.id = 1 ∧ next.length = r.length ∧
      (next.get? 1).map (·.character) = some visitor ∧
      next.isInactive residing.handle = true := by
  intro r next
  have hVisited : r =
      { sessions := [residing], nextId := 0, created := 2 ^ 32 - 1 } :=
    foldl_visited (.inl rfl) (by decide)
  have hFresh : r.freshId = 1 := by
    rw [hVisited]
    rfl
  have hThere : residing ∈ r.sessions := hVisited ▸ List.mem_singleton_self residing
  have hr : r.Cycled := cycled_calls (.inl rfl) _
  -- the run is too long to be looked into
  clear_value r
  obtain ⟨hLength, hInactive⟩ := hr.replaced hThere hFresh.symm visitor 2 2
  refine ⟨hr.get?_of_mem hThere, hr.isInactive_handle hThere, hFresh, hLength, ?_, hInactive⟩
  rw [get?_insert, if_pos hFresh.symm]
  rfl

end Gatehouse.SessionRegistry
