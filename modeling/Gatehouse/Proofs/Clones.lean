import Gatehouse.Proofs.Takeovers

/-!
# Sessions of one character

With clones a character may have several sessions, but the world keeps one place for it. Each
session that is made takes that place, and the end of any of them gives it up, whichever sessions
are left. So whether the character of a session is in the world depends on what came last: a session
that was made and kept, or one that ended.
-/

namespace Gatehouse

/-- A session of the character ends, be it one that has just been made and is not kept. -/
def Event.Ends (s : Server) (c : CharacterId) (event : Event) : Prop :=
  ∃ id, ((id, c) ∈ s.game.sessions.roll ∨ event.made? s = some (id, c)) ∧
    (id, c) ∉ (event.apply s).game.sessions.roll

/-- A session of the character has ended, and none has been made for it since. -/
inductive Bereft (start : Server) (c : CharacterId) : List Event → Prop where
  | ended {past : List Event} {s : Server} (event : Event) (hRun : Run start past s)
      (hAllowed : event.Allowed past s) (hEnds : event.Ends s c) : Bereft start c (event :: past)
  | since {past : List Event} {s : Server} (event : Event) (hRun : Run start past s)
      (hAllowed : event.Allowed past s) (h : Bereft start c past)
      (hNone : ∀ id, event.made? s ≠ some (id, c)) : Bereft start c (event :: past)

/-! ## Turns -/

namespace Game.Turnover

variable {g g' : Game} {made? : Option (SessionId × CharacterId)} {c : CharacterId}

/-- Whoever has a session end leaves the world, whatever other sessions there are. -/
theorem not_mem_of_ends (h : g.Turnover g' made?) (hIds : (g.sessions.roll.map Prod.fst).Nodup)
    {id : SessionId} (hHad : (id, c) ∈ g.sessions.roll ∨ made? = some (id, c))
    (hGone : (id, c) ∉ g'.sessions.roll) : c ∉ g'.world.inhabitants := by
  cases h with
  | same hSame =>
    rw [hSame.roll] at hGone
    rcases hHad with hHad | hMade
    · exact absurd hHad hGone
    · cases hMade
  | entered character hFresh hRoll =>
    rw [hRoll] at hGone
    rcases hHad with hHad | hMade
    · exact absurd (List.mem_append_left _ hHad) hGone
    · cases hMade
      exact absurd (List.mem_append_right _ (List.mem_singleton_self _)) hGone
  | undone character hFresh hRoll hWorld =>
    rw [hRoll] at hGone
    rcases hHad with hHad | hMade
    · exact absurd hHad hGone
    · cases hMade
      exact fun hPlaced => ((hWorld c).mp hPlaced).2 rfl
  | ended other character hThere hRoll hWorld =>
    rw [hRoll, List.mem_filter, not_and, bne_iff_ne, not_not] at hGone
    rcases hHad with hHad | hMade
    · have hSame := List.inj_on_of_nodup_map hIds hHad hThere (hGone hHad)
      cases hSame
      exact fun hPlaced => ((hWorld c).mp hPlaced).2 rfl
    · cases hMade

/-- Nobody enters the world without a session that is made. -/
theorem mem_before (h : g.Turnover g' made?) (hNone : ∀ id, made? ≠ some (id, c))
    (hPlaced : c ∈ g'.world.inhabitants) : c ∈ g.world.inhabitants := by
  cases h with
  | same hSame => exact hSame.world ▸ hPlaced
  | entered character hFresh hRoll hCreated hWorld =>
    rcases (hWorld c).mp hPlaced with rfl | hBefore
    · exact absurd rfl (hNone _)
    · exact hBefore
  | undone character hFresh hRoll hWorld | ended _ character hThere hRoll hWorld =>
    exact ((hWorld c).mp hPlaced).1

/-- A character with a session that is not in the world has had one end just now, or was not there
before either. -/
theorem ends_or_before (h : g.Turnover g' made?) (hThere : c ∈ g'.sessions.roll.map Prod.snd)
    (hAbsent : c ∉ g'.world.inhabitants) :
    (∃ id, ((id, c) ∈ g.sessions.roll ∨ made? = some (id, c)) ∧ (id, c) ∉ g'.sessions.roll) ∨
      (∀ id, made? ≠ some (id, c)) ∧ c ∈ g.sessions.roll.map Prod.snd ∧
        c ∉ g.world.inhabitants := by
  cases h with
  | same hSame =>
    rw [hSame.roll] at hThere
    rw [hSame.world] at hAbsent
    exact Or.inr ⟨nofun, hThere, hAbsent⟩
  | entered character hFresh hRoll hCreated hWorld =>
    rw [hWorld, not_or] at hAbsent
    rw [hRoll, List.map_append, List.mem_append] at hThere
    refine Or.inr ⟨?_, hThere.resolve_right fun hHere => ?_, hAbsent.2⟩
    · rintro id hMade
      cases hMade
      exact hAbsent.1 rfl
    · exact hAbsent.1 (List.mem_singleton.mp hHere)
  | undone character hFresh hRoll hWorld =>
    rw [hRoll] at hThere ⊢
    by_cases hSame : c = character
    · subst hSame
      refine Or.inl ⟨_, Or.inr rfl, fun hHas => ?_⟩
      exact hFresh (List.mem_map_of_mem hHas)
    · refine Or.inr ⟨?_, hThere, fun hPlaced => hAbsent ((hWorld c).mpr ⟨hPlaced, hSame⟩)⟩
      rintro id hMade
      cases hMade
      exact hSame rfl
  | ended id character hHad hRoll hWorld =>
    by_cases hSame : c = character
    · subst hSame
      refine Or.inl ⟨id, Or.inl hHad, fun hHas => ?_⟩
      rw [hRoll, List.mem_filter] at hHas
      exact bne_iff_ne.mp hHas.2 rfl
    · rw [hRoll] at hThere
      exact Or.inr ⟨nofun, (List.filter_sublist.map _).subset hThere,
        fun hPlaced => hAbsent ((hWorld c).mpr ⟨hPlaced, hSame⟩)⟩

end Game.Turnover

/-! ## Runs -/

section

variable {config : Config} {key : Rsa.Key} {state : WorldState} {world : World}
  {handlers : HandlerTable} {capacity : Nat} {past : List Event} {s : Server} {c : CharacterId}

theorem Run.turnover (hRun : Run (Server.start config key state world handlers capacity) past s)
    {event : Event} (hAllowed : event.Allowed past s)
    (hFew : (event.apply s).game.sessions.created < 2 ^ 32) :
    s.game.Turnover (event.apply s).game (event.made? s) := by
  have hBefore := (Event.created_le_apply hAllowed).trans_lt hFew
  obtain ⟨hOwned, hTraced⟩ := hRun.sound hBefore
  exact Event.turnover hOwned hTraced (hRun.names hBefore) hAllowed hFew

theorem Run.not_placed_of_bereft
    (hRun : Run (Server.start config key state world handlers capacity) past s)
    (hFew : s.game.sessions.created < 2 ^ 32)
    (hBereft : Bereft (Server.start config key state world handlers capacity) c past) :
    c ∉ s.game.world.inhabitants := by
  induction hBereft generalizing s with
  | ended event hBefore hAllowed hEnds =>
    cases hRun.unique (hBefore.step event hAllowed)
    obtain ⟨id, hHad, hGone⟩ := hEnds
    have hIds := (hBefore.names ((Event.created_le_apply hAllowed).trans_lt hFew)).ids
    exact (hBefore.turnover hAllowed hFew).not_mem_of_ends hIds hHad hGone
  | since event hBefore hAllowed _ hNone ih =>
    cases hRun.unique (hBefore.step event hAllowed)
    intro hPlaced
    exact ih hBefore ((Event.created_le_apply hAllowed).trans_lt hFew)
      ((hBefore.turnover hAllowed hFew).mem_before hNone hPlaced)

theorem Run.bereft_of_not_placed
    (hRun : Run (Server.start config key state world handlers capacity) past s)
    (hFew : s.game.sessions.created < 2 ^ 32) (hThere : c ∈ s.game.sessions.roll.map Prod.snd)
    (hAbsent : c ∉ s.game.world.inhabitants) :
    Bereft (Server.start config key state world handlers capacity) c past := by
  induction hRun with
  | start => cases hThere
  | step event hRun hAllowed ih =>
    rcases (hRun.turnover hAllowed hFew).ends_or_before hThere hAbsent with
      hEnds | ⟨hNone, hBefore, hAway⟩
    · exact .ended event hRun hAllowed hEnds
    · have hBereft := ih ((Event.created_le_apply hAllowed).trans_lt hFew) hBefore hAway
      exact .since event hRun hAllowed hBereft hNone

/-- The character of a session is in the world unless a session of that character has ended since
one was last made and kept. -/
theorem Run.placed_iff_not_bereft
    (hRun : Run (Server.start config key state world handlers capacity) past s)
    (hFew : s.game.sessions.created < 2 ^ 32) {session : Session}
    (hThere : session ∈ s.game.sessions.sessions) :
    session.character.id ∈ s.game.world.placed.map Prod.fst ↔
      ¬ Bereft (Server.start config key state world handlers capacity) session.character.id
        past := by
  constructor
  · intro hPlaced hBereft
    exact hRun.not_placed_of_bereft hFew hBereft hPlaced
  · intro hNever
    by_contra hAbsent
    refine hNever (hRun.bereft_of_not_placed hFew ?_ hAbsent)
    rw [SessionRegistry.roll, List.map_map]
    exact List.mem_map_of_mem hThere

end

/-! ## Two sessions of a knight, of which the first logs out -/

namespace Rivals.Cloned

def config : Config := { (default : Config) with allowClones := true, onePerAccount := false }

def opened : Server := .start config ⟨0, 0⟩ .running .empty .defaults 1

def asked : Server :=
  (ask 1).apply ((Event.accept default).apply ((Event.accept default).apply opened))

def doubling : Server := (ask 2).apply ((answer 1 asked).apply asked)

def doubled : Server := (answer 2 doubling).apply doubling

def entering : List Event :=
  [answer 2 doubling, ask 2, answer 1 asked, ask 1, .accept default, .accept default]

theorem run_entering : Run opened entering doubled := by
  have hOpened : Run opened [] opened := .start
  have hFirst := hOpened.step (.accept default) trivial
  have hBoth := hFirst.step (.accept default) trivial
  have hAsked := hBoth.step (ask 1) List.not_mem_nil
  have hEntered := hAsked.step (answer 1 asked) ⟨rfl, asked.sees_isOpen⟩
  have hAgain := hEntered.step (ask 2) (show (2 : ConnectionId) ∉ [1] by decide)
  exact hAgain.step (answer 2 doubling) ⟨rfl, doubling.sees_isOpen⟩

def parting : Server := (Event.close 1).apply ((Event.logout 1 handle).apply doubled)

def removal : Event := .turn (.logout 1 10) parting.isOpen [] 0 0

def parted : Server := removal.apply parting

def leaving : List Event := .close 1 :: .logout 1 handle :: .takeUp 1 handle :: entering

theorem run_leaving : Run opened leaving parting := by
  have hTaken := run_entering.step (.takeUp 1 handle) rfl
  have hLogout := hTaken.step (.logout 1 handle) List.mem_cons_self
  exact hLogout.step (.close 1) trivial

theorem run_removal : Run opened (removal :: leaving) parted :=
  run_leaving.step removal ⟨rfl, parting.sees_isOpen⟩

def second : Session :=
  { id := 2, serial := 1, character := knight, system := 2, connection? := some 2
    reconnectPending := false, dead := false }

theorem bereft_of_parted :
    parted.game.sessions.created < 2 ^ 32 ∧ second ∈ parted.game.sessions.sessions ∧
      Bereft opened 10 (removal :: leaving) ∧ parting.game.sessions.created < 2 ^ 32 ∧
      second ∈ parting.game.sessions.sessions ∧ ¬ Bereft opened 10 leaving := by
  have hFew : parted.game.sessions.created < 2 ^ 32 := by decide
  have hThere : second ∈ parted.game.sessions.sessions := by decide
  have hFewBefore : parting.game.sessions.created < 2 ^ 32 := by decide
  have hBefore : second ∈ parting.game.sessions.sessions := by decide
  have hParted := run_removal.placed_iff_not_bereft hFew hThere
  have hParting := run_leaving.placed_iff_not_bereft hFewBefore hBefore
  refine ⟨hFew, hThere, ?_, hFewBefore, hBefore, hParting.mp (by decide)⟩
  by_contra hNever
  exact absurd (hParted.mpr hNever) (by decide)

/-- The second connection holds its session and plays, and the logout of the first one has taken its
character out of the world. -/
theorem removed_from_world :
    ∃ past s, Run opened past s ∧ opened.config.allowClones = true ∧
      opened.game.world.placed = [] ∧ s.game.sessions.created < 2 ^ 32 ∧
      ∃ session ∈ s.game.sessions.sessions, s.held? 2 = some session.handle ∧
        session.character.id ∉ s.game.world.placed.map Prod.fst :=
  ⟨removal :: leaving, parted, run_removal, rfl, rfl, by decide, second, by decide, rfl, by decide⟩

end Rivals.Cloned

end Gatehouse
