import Mathlib.Data.List.Nodup
import Gatehouse.WaitingList

/-!
# What a login makes of the waiting list

A login drops what has expired and then turns to the entry of its own character, the first one if
there are several. What comes before that entry and what comes behind it stays as it is.
-/

namespace Gatehouse.WaitingList

variable {list : WaitingList} {c : Character} {id other : CharacterId} {online cap now : Nat}
  {front back front' back' : List WaitingEntry} {e e' : WaitingEntry}

def ids (list : WaitingList) : List CharacterId :=
  list.entries.map (·.characterId)

/-- The characters before a listed one, in their order. -/
def ahead (list : WaitingList) (id : CharacterId) : List CharacterId :=
  list.ids.takeWhile (· != id)

theorem expire_expire (list : WaitingList) (now : Nat) :
    (list.expire now).expire now = list.expire now := by
  simp [expire, List.filter_filter]

theorem entries_expire_sublist (list : WaitingList) (now : Nat) :
    (list.expire now).entries.Sublist list.entries :=
  List.filter_sublist

theorem mem_entries_expire :
    e ∈ (list.expire now).entries ↔ e ∈ list.entries ∧ now < e.expiresAt := by
  simp [expire]

/-! ## The entry of a character -/

/-- The first entry of a character, between what comes before and what comes behind. -/
structure Stands (list : WaitingList) (id : CharacterId) (front : List WaitingEntry)
    (e : WaitingEntry) (back : List WaitingEntry) : Prop where
  entries : list.entries = front ++ e :: back
  here : e.characterId = id
  first : id ∉ front.map (·.characterId)

theorem exists_stands (hListed : id ∈ list.ids) : ∃ front e back, list.Stands id front e back := by
  obtain ⟨before, behind, hIds, hFirst⟩ := List.eq_append_cons_of_mem hListed
  obtain ⟨front, rest, hEntries, rfl, hRest⟩ := List.map_eq_append_iff.mp hIds
  obtain ⟨e, back, rfl, hHere, -⟩ := List.map_eq_cons_iff.mp hRest
  exact ⟨front, e, back, hEntries, hHere, hFirst⟩

namespace Stands

theorem place? (h : list.Stands id front e back) : list.place? id = some (front.length + 1) := by
  have hFront : front.findIdx? (·.characterId == id) = none := by
    rw [List.findIdx?_eq_none_iff]
    intro entry hEntry
    rw [beq_eq_false_iff_ne]
    rintro rfl
    exact h.first (List.mem_map_of_mem hEntry)
  rw [WaitingList.place?, h.entries, List.findIdx?_append, hFront]
  simp [List.findIdx?_cons, h.here]

theorem ahead (h : list.Stands id front e back) :
    list.ahead id = front.map (·.characterId) := by
  rw [WaitingList.ahead, ids, h.entries, List.map_append, List.map_cons, h.here,
    List.takeWhile_append_of_pos]
  · simp
  · intro other hOther
    rw [bne_iff_ne]
    rintro rfl
    exact h.first hOther

theorem eraseIdx (h : list.Stands id front e back) :
    list.entries.eraseIdx front.length = front ++ back := by
  rw [h.entries, List.eraseIdx_append_of_length_le (Nat.le_refl _), Nat.sub_self,
    List.eraseIdx_cons_zero]

theorem modify (h : list.Stands id front e back) (f : WaitingEntry → WaitingEntry) :
    list.entries.modify front.length f = front ++ f e :: back := by
  rw [h.entries, List.modify_eq_take_cons_drop]
  · simp
  · simp

theorem expire (h : list.Stands id front e back) (hStays : now < e.expiresAt) :
    (list.expire now).Stands id (front.filter (now < ·.expiresAt)) e
      (back.filter (now < ·.expiresAt)) where
  entries := by simp [WaitingList.expire, h.entries, hStays]
  here := h.here
  first := fun hBefore => h.first ((List.filter_sublist.map _).subset hBefore)

/-- Of two characters that are listed one comes before the other. -/
theorem apart (h : list.Stands id front e back) (h' : list.Stands other front' e' back')
    (hOther : other ≠ id) :
    (∃ mid, front = front' ++ e' :: mid ∧ back' = mid ++ e :: back) ∨
      ∃ mid, front' = front ++ e :: mid ∧ back = mid ++ e' :: back' := by
  have hDiffer : e ≠ e' := by
    rintro rfl
    exact hOther (h'.here.symm.trans h.here)
  rcases List.append_eq_append_iff.mp (h.entries.symm.trans h'.entries) with
    ⟨mid, hFront, hBack⟩ | ⟨mid, hFront, hBack⟩
  · cases mid with
    | nil =>
      rw [List.nil_append, List.cons.injEq] at hBack
      exact absurd hBack.1 hDiffer
    | cons entry mid =>
      rw [List.cons_append, List.cons.injEq] at hBack
      obtain ⟨rfl, hBack⟩ := hBack
      exact Or.inr ⟨mid, hFront, hBack⟩
  · cases mid with
    | nil =>
      rw [List.nil_append, List.cons.injEq] at hBack
      exact absurd hBack.1.symm hDiffer
    | cons entry mid =>
      rw [List.cons_append, List.cons.injEq] at hBack
      obtain ⟨rfl, hBack⟩ := hBack
      exact Or.inl ⟨mid, hFront, hBack⟩

end Stands

theorem place?_eq_none (hUnlisted : id ∉ list.ids) : list.place? id = none := by
  rw [place?, Option.map_eq_none_iff, List.findIdx?_eq_none_iff]
  intro entry hEntry
  rw [beq_eq_false_iff_ne]
  rintro rfl
  exact hUnlisted (List.mem_map_of_mem hEntry)

/-! ## The ways of a login -/

def newEntry (id : CharacterId) (slot now : Nat) : WaitingEntry :=
  { characterId := id, expiresAt := now + timeout slot }

inductive Serving (list : WaitingList) (c : Character) (online cap now : Nat) :
    Nat → WaitingList → Prop where
  | passed (hPasses : passes c = true) : Serving list c online cap now 0 list
  /-- There is no cap, or nobody on the list while there is room. -/
  | free (hFree : cap = 0 ∨ list.entries = [] ∧ online < cap) : Serving list c online cap now 0 list
  | admitted {front back : List WaitingEntry} {e : WaitingEntry}
      (hStands : (list.expire now).Stands c.id front e back)
      (hRoom : online + (front.length + 1) ≤ cap) : Serving list c online cap now 0 ⟨front ++ back⟩
  | kept {front back : List WaitingEntry} {e : WaitingEntry}
      (hStands : (list.expire now).Stands c.id front e back) :
    Serving list c online cap now (front.length + 1)
      ⟨front ++ newEntry c.id (front.length + 1) now :: back⟩
  | queued (hUnlisted : c.id ∉ (list.expire now).ids) :
    Serving list c online cap now ((list.expire now).length + 1)
      ⟨(list.expire now).entries ++ [newEntry c.id ((list.expire now).length + 1) now]⟩

/-- A login that has to look at the list. -/
theorem login_of_busy (hPasses : passes c = false)
    (hBusy : ¬ (cap = 0 ∨ list.entries = [] ∧ online < cap)) :
    list.login c online cap now =
      match (list.expire now).place? c.id with
      | some slot =>
        if online + slot ≤ cap then (0, ⟨(list.expire now).entries.eraseIdx (slot - 1)⟩)
        else (slot, (list.expire now).renew slot now)
      | none =>
        ((list.expire now).length + 1,
          ⟨(list.expire now).entries ++ [newEntry c.id ((list.expire now).length + 1) now]⟩) := by
  rw [login, if_neg (by simp [hPasses]), if_neg hBusy]
  rfl

theorem login_of_free (hFree : cap = 0 ∨ list.entries = [] ∧ online < cap) :
    list.login c online cap now = (0, list) := by
  rw [login, if_pos hFree, ite_self]

theorem login_cases (list : WaitingList) (c : Character) (online cap now : Nat) :
    Serving list c online cap now (list.login c online cap now).1
      (list.login c online cap now).2 := by
  by_cases hPasses : passes c = true
  · rw [login, if_pos hPasses]
    exact .passed hPasses
  by_cases hFree : cap = 0 ∨ list.entries = [] ∧ online < cap
  · rw [login_of_free hFree]
    exact .free hFree
  rw [login_of_busy (by simpa using hPasses) hFree]
  by_cases hListed : c.id ∈ (list.expire now).ids
  · obtain ⟨front, e, back, hStands⟩ := exists_stands hListed
    simp only [hStands.place?]
    split
    case isTrue hRoom =>
      rw [Nat.add_sub_cancel, hStands.eraseIdx]
      exact .admitted hStands hRoom
    case isFalse =>
      rw [renew, Nat.add_sub_cancel, hStands.modify]
      have hSame : { e with expiresAt := now + timeout (front.length + 1) } =
          newEntry c.id (front.length + 1) now := by rw [newEntry, ← hStands.here]
      rw [hSame]
      exact .kept hStands
  · simp only [place?_eq_none hListed]
    exact .queued hListed

/-! ## Entries that have expired -/

/-- There is room, and nobody is listed but characters that have lost their places. -/
def Stale (list : WaitingList) (c : Character) (online cap now : Nat) : Prop :=
  passes c = false ∧ online < cap ∧ list.entries ≠ [] ∧ (list.expire now).entries = []

theorem login_of_stale (hStale : list.Stale c online cap now) :
    list.login c online cap now = (1, ⟨[newEntry c.id 1 now]⟩) ∧
      (list.expire now).login c online cap now = (0, empty) := by
  obtain ⟨hPasses, hRoom, hSome, hExpired⟩ := hStale
  have hBusy : ¬ (cap = 0 ∨ list.entries = [] ∧ online < cap) := by
    rintro (hZero | ⟨hNone, -⟩)
    · omega
    · exact hSome hNone
  have hEmpty : list.expire now = empty := congrArg WaitingList.mk hExpired
  constructor
  · rw [login_of_busy hPasses hBusy, hEmpty]
    rfl
  · rw [login_of_free (Or.inr ⟨hExpired, hRoom⟩), hEmpty]

theorem login_expire_of_not_stale (hFresh : ¬ list.Stale c online cap now) :
    (list.login c online cap now).1 = ((list.expire now).login c online cap now).1 ∧
      (list.login c online cap now).2.expire now =
        ((list.expire now).login c online cap now).2.expire now := by
  cases hPasses : passes c with
  | true =>
    rw [login, login, if_pos hPasses, if_pos hPasses]
    exact ⟨rfl, (expire_expire list now).symm⟩
  | false =>
    by_cases hFree : cap = 0 ∨ list.entries = [] ∧ online < cap
    · have hStill : cap = 0 ∨ (list.expire now).entries = [] ∧ online < cap := by
        refine hFree.imp_right fun ⟨hNone, hRoom⟩ => ⟨?_, hRoom⟩
        rw [expire, hNone, List.filter_nil]
      rw [login_of_free hFree, login_of_free hStill]
      exact ⟨rfl, (expire_expire list now).symm⟩
    · have hBusy : ¬ (cap = 0 ∨ (list.expire now).entries = [] ∧ online < cap) := by
        rintro (hZero | ⟨hNone, hRoom⟩)
        · exact hFree (Or.inl hZero)
        · exact hFresh ⟨hPasses, hRoom, fun hEmpty => hFree (Or.inr ⟨hEmpty, hRoom⟩), hNone⟩
      rw [login_of_busy hPasses hFree, login_of_busy hPasses hBusy, expire_expire]
      exact ⟨rfl, rfl⟩

/-- Entries that have expired make no difference to a login, but for one case. A newcomer to a
world with room is told to wait if nobody is listed but characters that have lost their places. -/
theorem login_expire_iff (list : WaitingList) (c : Character) (online cap now : Nat) :
    ((list.login c online cap now).1 = ((list.expire now).login c online cap now).1 ∧
      (list.login c online cap now).2.expire now =
        ((list.expire now).login c online cap now).2.expire now ↔
      ¬ list.Stale c online cap now) ∧
    (list.Stale c online cap now →
      list.login c online cap now = (1, ⟨[newEntry c.id 1 now]⟩) ∧
        (list.expire now).login c online cap now = (0, empty)) := by
  refine ⟨⟨?_, login_expire_of_not_stale⟩, login_of_stale⟩
  rintro ⟨hSlot, -⟩ hStale
  obtain ⟨hOnList, hOnRest⟩ := login_of_stale hStale
  rw [hOnList, hOnRest] at hSlot
  cases hSlot

def guest (id : CharacterId) : Character :=
  { id, name := "Guest", accountId := id, accountType := .normal, canAlwaysLogin := false
    cannotBeBanned := false, login := default, temple := default }

/-- The second guest is told to wait for the first, who came too late, in a world with room. -/
theorem second_guest_waits_for_expired :
    (∀ e ∈ [newEntry 1 1 0], e.expiresAt ≤ 21000) ∧ 1 < 2 ∧
      (login ⟨[newEntry 1 1 0]⟩ (guest 2) 1 2 21000).1 = 1 ∧
      (login (expire ⟨[newEntry 1 1 0]⟩ 21000) (guest 2) 1 2 21000).1 = 0 ∧
      (login ⟨[newEntry 1 1 0]⟩ (guest 2) 1 2 21000).2.expire 21000 ≠
        (login (expire ⟨[newEntry 1 1 0]⟩ 21000) (guest 2) 1 2 21000).2.expire 21000 := by
  decide

end Gatehouse.WaitingList
