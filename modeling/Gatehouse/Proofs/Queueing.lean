import Gatehouse.Proofs.Attaching
import Gatehouse.Proofs.Waiting

/-!
# Waiting in turn

What calls of clients, one after the other, make of a waiting list that was empty at first. Nobody
is listed twice, nobody moves back, and a place is only lost by being let in or by being late.
-/

namespace Gatehouse

namespace WaitingList

structure Call where
  character : Character
  online : Nat
  cap : Nat
  now : Nat
  deriving DecidableEq, Repr

def serve (list : WaitingList) (call : Call) : Nat × WaitingList :=
  list.login call.character call.online call.cap call.now

def after (list : WaitingList) (calls : List Call) : WaitingList :=
  calls.foldl (fun list call => (list.serve call).2) list

variable {list next : WaitingList} {c : Character} {id : CharacterId} {online cap now slot : Nat}
  {call : Call} {calls : List Call} {before : List CharacterId} {deadline : Nat}

@[simp] theorem after_nil (list : WaitingList) : list.after [] = list := rfl

@[simp] theorem after_cons (list : WaitingList) (call : Call) (calls : List Call) :
    list.after (call :: calls) = (list.serve call).2.after calls := rfl

theorem serve_cases (list : WaitingList) (call : Call) :
    Serving list call.character call.online call.cap call.now (list.serve call).1
      (list.serve call).2 :=
  list.login_cases ..

/-! ## The order of the list -/

theorem ids_expire_sublist (list : WaitingList) (now : Nat) :
    (list.expire now).ids.Sublist list.ids :=
  (list.entries_expire_sublist now).map _

/-- Whoever stays keeps its rank, and a newcomer goes to the back. -/
theorem Serving.ids (h : Serving list c online cap now slot next) :
    ∃ stayed, stayed.Sublist list.ids ∧
      (next.ids = stayed ∨ c.id ∉ stayed ∧ next.ids = stayed ++ [c.id]) := by
  cases h with
  | passed | free => exact ⟨list.ids, .refl _, Or.inl rfl⟩
  | @admitted front back e hStands hRoom =>
    refine ⟨_, ?_, Or.inl rfl⟩
    have hLess : (front ++ back).Sublist (list.expire now).entries := by
      rw [hStands.entries]
      exact (List.sublist_cons_self e back).append_left front
    exact (hLess.trans (list.entries_expire_sublist now)).map _
  | @kept front back e hStands =>
    refine ⟨_, list.ids_expire_sublist now, Or.inl ?_⟩
    simp [WaitingList.ids, hStands.entries, hStands.here, newEntry]
  | queued hUnlisted =>
    refine ⟨_, list.ids_expire_sublist now, Or.inr ⟨hUnlisted, ?_⟩⟩
    simp [WaitingList.ids, newEntry]

theorem Serving.nodup (h : Serving list c online cap now slot next) (hBefore : list.ids.Nodup) :
    next.ids.Nodup := by
  obtain ⟨stayed, hLess, hSame | ⟨hNew, hSame⟩⟩ := h.ids
  · rw [hSame]
    exact hBefore.sublist hLess
  · rw [hSame]
    exact List.nodup_append_comm.mp (List.nodup_cons.mpr ⟨hNew, hBefore.sublist hLess⟩)

theorem nodup_after (hBefore : list.ids.Nodup) (calls : List Call) :
    (list.after calls).ids.Nodup := by
  induction calls generalizing list with
  | nil => exact hBefore
  | cons call calls ih => exact ih ((list.serve_cases call).nodup hBefore)

/-- A call does nothing to the entries of others that are in time. -/
theorem Serving.mem_entries (h : Serving list c online cap now slot next) {e : WaitingEntry}
    (hListed : e ∈ list.entries) (hInTime : now < e.expiresAt) (hOther : e.characterId ≠ c.id) :
    e ∈ next.entries := by
  have hStill : e ∈ (list.expire now).entries := mem_entries_expire.mpr ⟨hListed, hInTime⟩
  cases h with
  | passed | free => exact hListed
  | admitted hStands hRoom =>
    rw [hStands.entries, List.mem_append, List.mem_cons] at hStill
    rcases hStill with hFront | rfl | hBack
    · exact List.mem_append_left _ hFront
    · exact absurd hStands.here hOther
    · exact List.mem_append_right _ hBack
  | kept hStands =>
    rw [hStands.entries, List.mem_append, List.mem_cons] at hStill
    rcases hStill with hFront | rfl | hBack
    · exact List.mem_append_left _ hFront
    · exact absurd hStands.here hOther
    · exact List.mem_append_right _ (List.mem_cons_of_mem _ hBack)
  | queued hUnlisted => exact List.mem_append_left _ hStill

/-! ## Answers -/

theorem Serving.stands (h : Serving list c online cap now slot next) (hSlot : 0 < slot) :
    ∃ front e back, next.Stands c.id front e back ∧ slot = front.length + 1 ∧
      e.expiresAt = now + timeout slot := by
  cases h with
  | passed | free | admitted => exact absurd hSlot (Nat.lt_irrefl 0)
  | @kept front back e hStands =>
    exact ⟨front, _, back, ⟨rfl, rfl, hStands.first⟩, rfl, rfl⟩
  | queued hUnlisted => exact ⟨_, _, [], ⟨rfl, rfl, hUnlisted⟩, rfl, rfl⟩

theorem Serving.room (h : Serving list c online cap now slot next) (hCounts : passes c = false)
    (hCap : 1 ≤ cap) (hSlot : slot = 0) :
    online < cap ∧ (list.entries = [] ∨
      ∃ place, (list.expire now).place? c.id = some place ∧ online + place ≤ cap) := by
  cases h with
  | passed hPasses =>
    rw [hCounts] at hPasses
    cases hPasses
  | free hFree =>
    obtain hZero | ⟨hEmpty, hRoom⟩ := hFree
    · omega
    · exact ⟨hRoom, Or.inl hEmpty⟩
  | admitted hStands hRoom => exact ⟨by omega, Or.inr ⟨_, hStands.place?, hRoom⟩⟩
  | kept | queued => cases hSlot

/-! ## Keeping a place -/

/-- A character is listed until a deadline and has no others before it than these. -/
def Waits (list : WaitingList) (id : CharacterId) (before : List CharacterId) (deadline : Nat) :
    Prop :=
  ∃ front e back, list.Stands id front e back ∧ deadline ≤ e.expiresAt ∧
    (front.map (·.characterId)).Sublist before

namespace Waits

theorem expire (h : list.Waits id before deadline) (hInTime : now < deadline) :
    (list.expire now).Waits id before deadline := by
  obtain ⟨front, e, back, hStands, hDeadline, hBefore⟩ := h
  refine ⟨_, e, _, hStands.expire (by omega), hDeadline, ?_⟩
  exact (List.filter_sublist.map _).trans hBefore

theorem ahead_sublist (h : list.Waits id before deadline) : (list.ahead id).Sublist before := by
  obtain ⟨front, e, back, hStands, -, hBefore⟩ := h
  rwa [hStands.ahead]

theorem mem_ids (h : list.Waits id before deadline) : id ∈ list.ids := by
  obtain ⟨front, e, back, hStands, -, -⟩ := h
  simp [ids, hStands.entries, hStands.here]

theorem put (h : list.Waits id before deadline) {other : CharacterId}
    {front back : List WaitingEntry} {e : WaitingEntry}
    (hTheirs : list.Stands other front e back) (hOther : other ≠ id) (more : List WaitingEntry)
    (hMore : (more.map (·.characterId)).Sublist [other]) :
    Waits ⟨front ++ (more ++ back)⟩ id before deadline := by
  obtain ⟨ownFront, own, ownBack, hOwn, hDeadline, hBefore⟩ := h
  rcases hOwn.apart hTheirs hOther with ⟨mid, rfl, rfl⟩ | ⟨mid, rfl, rfl⟩
  · -- the other one comes before
    have hLess : ((front ++ (more ++ mid)).map (·.characterId)).Sublist
        ((front ++ e :: mid).map (·.characterId)) := by
      simp only [List.map_append, List.map_cons, hTheirs.here]
      exact (hMore.append_right _).append_left _
    refine ⟨front ++ (more ++ mid), own, ownBack, ⟨by simp, hOwn.here, ?_⟩, hDeadline,
      hLess.trans hBefore⟩
    exact fun hFirst => hOwn.first (hLess.subset hFirst)
  · exact ⟨ownFront, own, mid ++ (more ++ back), ⟨by simp, hOwn.here, hOwn.first⟩, hDeadline,
      hBefore⟩

theorem append (h : list.Waits id before deadline) (more : List WaitingEntry) :
    Waits ⟨list.entries ++ more⟩ id before deadline := by
  obtain ⟨front, e, back, hStands, hDeadline, hBefore⟩ := h
  exact ⟨front, e, back ++ more, ⟨by simp [hStands.entries], hStands.here, hStands.first⟩,
    hDeadline, hBefore⟩

theorem serving (h : list.Waits id before deadline) (hOther : c.id ≠ id) (hInTime : now < deadline)
    (hServing : Serving list c online cap now slot next) : next.Waits id before deadline := by
  have hStill := h.expire hInTime
  cases hServing with
  | passed | free => exact h
  | admitted hTheirs hRoom => exact hStill.put hTheirs hOther [] (List.nil_sublist _)
  | kept hTheirs => exact hStill.put hTheirs hOther [newEntry c.id _ now] (List.Sublist.refl _)
  | queued hUnlisted => exact hStill.append _

theorem after (h : list.Waits id before deadline)
    (hOthers : ∀ call ∈ calls, call.character.id ≠ id)
    (hInTime : ∀ call ∈ calls, call.now < deadline) :
    (list.after calls).Waits id before deadline := by
  induction calls generalizing list with
  | nil => exact h
  | cons call calls ih =>
    rw [List.forall_mem_cons] at hOthers hInTime
    exact ih (h.serving hOthers.1 hInTime.1 (list.serve_cases call)) hOthers.2 hInTime.2

theorem slot_le (h : list.Waits c.id before deadline) (hInTime : now < deadline)
    (hServing : Serving list c online cap now slot next) : slot ≤ before.length + 1 := by
  have hStill := h.expire hInTime
  cases hServing with
  | passed | free | admitted => exact Nat.zero_le _
  | kept hStands =>
    have hLess := hStill.ahead_sublist.length_le
    rw [hStands.ahead, List.length_map] at hLess
    exact Nat.succ_le_succ hLess
  | queued hUnlisted => exact absurd hStill.mem_ids hUnlisted

end Waits

theorem waits_of_served (list : WaitingList) (call : Call) (hSlot : 0 < (list.serve call).1) :
    (list.serve call).2.Waits call.character.id ((list.serve call).2.ahead call.character.id)
        (call.now + timeout (list.serve call).1) ∧
      (list.serve call).1 = ((list.serve call).2.ahead call.character.id).length + 1 := by
  obtain ⟨front, e, back, hStands, hPlace, hDeadline⟩ := (list.serve_cases call).stands hSlot
  have hAhead := hStands.ahead
  refine ⟨⟨front, e, back, hStands, Nat.le_of_eq hDeadline.symm, ?_⟩, ?_⟩
  · exact hAhead ▸ List.Sublist.refl _
  · rw [hAhead, List.length_map]
    exact hPlace

/-- Whoever has been told to wait and comes back in time is still listed, behind none but those that
were before it, and is told no later place. Others may have come, gone, and come back meanwhile. -/
theorem place_kept (list : WaitingList) (call again : Call) (meanwhile : List Call)
    (hSame : again.character.id = call.character.id) (hWaits : 0 < (list.serve call).1)
    (hOthers : ∀ other ∈ meanwhile, other.character.id ≠ call.character.id)
    (hOrder : ∀ other ∈ meanwhile, other.now ≤ again.now)
    (hSoon : again.now < call.now + 1000 * (retryTime (list.serve call).1 + 15)) :
    call.character.id ∈ (((list.serve call).2.after meanwhile).expire again.now).ids ∧
      (((list.serve call).2.after meanwhile).ahead call.character.id).Sublist
        ((list.serve call).2.ahead call.character.id) ∧
      (((list.serve call).2.after meanwhile).serve again).1 ≤ (list.serve call).1 := by
  obtain ⟨hFirst, hSlot⟩ := waits_of_served list call hWaits
  have hInTime : ∀ other ∈ meanwhile, other.now < call.now + timeout (list.serve call).1 :=
    fun other hOther => Nat.lt_of_le_of_lt (hOrder other hOther) hSoon
  have hLater := hFirst.after hOthers hInTime
  refine ⟨(hLater.expire hSoon).mem_ids, hLater.ahead_sublist, ?_⟩
  rw [hSlot]
  rw [← hSame] at hLater ⊢
  exact hLater.slot_le hSoon (serve_cases _ again)

def ask (id : CharacterId) (online now : Nat) : Call :=
  { character := guest id, online, cap := 2, now }

/-- The second guest comes back at the last moment. The first one has been let in by then. -/
theorem place_kept_behind_guest :
    ((empty.after [ask 1 2 0]).serve (ask 2 2 0)).1 = 2 ∧
      2 ∈ (((empty.after [ask 1 2 0, ask 2 2 0]).after [ask 3 2 500, ask 1 1 900]).expire 19999).ids ∧
      (((empty.after [ask 1 2 0, ask 2 2 0]).after [ask 3 2 500, ask 1 1 900]).ahead 2).Sublist
        [1] ∧
      (((empty.after [ask 1 2 0, ask 2 2 0]).after [ask 3 2 500, ask 1 1 900]).serve
        (ask 2 2 19999)).1 ≤ 2 :=
  ⟨by decide, place_kept (empty.after [ask 1 2 0]) (ask 2 2 0) (ask 2 2 19999)
    [ask 3 2 500, ask 1 1 900] rfl (by decide) (by decide) (by decide) (by decide)⟩

end WaitingList

/-! ## Sessions under a cap -/

/-- A character that counts gets a new session only while there are fewer than the cap. -/
theorem Game.Attaching.length_lt {config : Config} {state : WorldState}
    {seen : ConnectionId → Bool} {now : Nat} {request : AttachRequest} {g g' : Game}
    {step : Game.AttachStep} {c : Character}
    (h : Game.Attaching config state seen now request g step g')
    (hCharacter : request.character? = some c) (hCounts : WaitingList.passes c = false)
    (hCap : 1 ≤ config.maxPlayers) (hNew : g.sessions.created < g'.sessions.created) :
    g.sessions.length < config.maxPlayers := by
  cases h with
  | turnedAway | kicked => exact absurd hNew (Nat.lt_irrefl _)
  | again _ _ _ _ hSteps => cases hSteps <;> exact absurd hNew (Nat.lt_irrefl _)
  | created d waiting world hNone hOpen hLoaded hObstacle hPlace hWorld =>
    cases hLoaded.symm.trans hCharacter
    have hServing := g.waiting.login_cases c g.sessions.length config.maxPlayers now
    rw [hPlace] at hServing
    exact (hServing.room hCounts hCap rfl).1

namespace WaitingList

/-- On a list that was empty at first no character is listed twice, who stays keeps its rank and who
comes goes to the back. A character that counts is let in if there is room for it and for all that
are before it, and else it is listed at the place that it is told. -/
theorem order_and_cap (calls : List Call) (call : Call) :
    (empty.after calls).ids.Nodup ∧
    (∃ stayed, stayed.Sublist (empty.after calls).ids ∧
      (((empty.after calls).serve call).2.ids = stayed ∨ call.character.id ∉ stayed ∧
        ((empty.after calls).serve call).2.ids = stayed ++ [call.character.id])) ∧
    (∀ e ∈ (empty.after calls).entries, call.now < e.expiresAt →
      e.characterId ≠ call.character.id → e ∈ ((empty.after calls).serve call).2.entries) ∧
    (passes call.character = false → 1 ≤ call.cap → ((empty.after calls).serve call).1 = 0 →
      call.online < call.cap ∧ ((empty.after calls).entries = [] ∨
        ∃ place, ((empty.after calls).expire call.now).place? call.character.id = some place ∧
          call.online + place ≤ call.cap)) ∧
    (0 < ((empty.after calls).serve call).1 →
      ((empty.after calls).serve call).2.place? call.character.id =
        some ((empty.after calls).serve call).1) ∧
    ∀ (config : Config) (state : WorldState) (seen : ConnectionId → Bool) (now : Nat)
      (request : AttachRequest) (g : Game) (c : Character), request.character? = some c →
      passes c = false → 1 ≤ config.maxPlayers →
      g.sessions.created < (g.attach config state seen now request).2.sessions.created →
      g.sessions.length < config.maxPlayers := by
  have hServing := (empty.after calls).serve_cases call
  refine ⟨nodup_after (show empty.ids.Nodup from List.nodup_nil) calls, hServing.ids, ?_,
    hServing.room, ?_, ?_⟩
  · exact fun e hListed hInTime hOther => hServing.mem_entries hListed hInTime hOther
  · intro hSlot
    obtain ⟨front, e, back, hStands, hPlace, -⟩ := hServing.stands hSlot
    exact hStands.place?.trans (congrArg some hPlace.symm)
  · intro config state seen now request g c hCharacter hCounts hCap hNew
    exact (Game.attach_cases config state seen now request g).length_lt hCharacter hCounts hCap hNew

/-- The first of two guests is let in as soon as there is one place, and the second one waits. -/
theorem order_and_cap_of_two_guests :
    (empty.after [ask 1 2 0, ask 2 2 0]).ids = [1, 2] ∧
      ((empty.after [ask 1 2 0, ask 2 2 0]).serve (ask 1 1 900)).1 = 0 ∧
      (∃ place, ((empty.after [ask 1 2 0, ask 2 2 0]).expire 900).place? 1 = some place ∧
        1 + place ≤ 2) ∧
      ((empty.after [ask 1 2 0, ask 2 2 0]).serve (ask 2 1 900)).1 = 2 ∧
      ((empty.after [ask 1 2 0, ask 2 2 0]).serve (ask 2 1 900)).2.place? 2 = some 2 := by
  obtain ⟨-, -, -, hRoom, -⟩ := order_and_cap [ask 1 2 0, ask 2 2 0] (ask 1 1 900)
  obtain ⟨-, -, -, -, hPlace, -⟩ := order_and_cap [ask 1 2 0, ask 2 2 0] (ask 2 1 900)
  have hLetIn : ((empty.after [ask 1 2 0, ask 2 2 0]).serve (ask 1 1 900)).1 = 0 := by decide
  have hTold : ((empty.after [ask 1 2 0, ask 2 2 0]).serve (ask 2 1 900)).1 = 2 := by decide
  obtain ⟨-, hEmpty | hFits⟩ := hRoom rfl (by decide) hLetIn
  · exact absurd hEmpty (by decide)
  · exact ⟨by decide, hLetIn, hFits, hTold, hTold ▸ hPlace (by decide)⟩

end WaitingList

end Gatehouse
