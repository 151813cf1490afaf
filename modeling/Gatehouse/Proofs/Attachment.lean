import Gatehouse.Proofs.Runs

/-!
# Attached sessions

What a session and its connection can rely on between two tasks of the game. Detaching asks whether
the session still refers to the connection that has closed. The removal of a logout asks for the id
only, and so takes the session along when another connection has come to hold it.
-/

namespace Gatehouse

/-- Whether the session of a handle is marked as removed. -/
def SessionRegistry.isRemoved (r : SessionRegistry) (handle : SessionHandle) : Bool :=
  !r.sessions.any fun s => s.serial == handle.serial

theorem SessionRegistry.isRemoved_handle {r : SessionRegistry} {id : SessionId} {session : Session}
    (hSession : r.get? id = some session) : r.isRemoved session.handle = false := by
  rw [isRemoved, Bool.not_eq_false', List.any_eq_true]
  exact ⟨session, List.mem_of_find?_eq_some hSession, beq_self_eq_true _⟩

namespace Server

variable {asked : List ConnectionId} {removed : List SessionId} {s : Server}

theorem Owned.session_of_held (hs : s.Owned asked removed) {c : ConnectionId} {h : SessionHandle}
    {session : Session} (hHeld : s.held? c = some h)
    (hSession : s.game.sessions.get? h.id = some session) :
    session.handle = h ∧ session.connection? = some c := by
  have hBack := hs.back c h _ hHeld (SessionRegistry.link?_of_get? hSession)
  rw [Prod.mk.injEq] at hBack
  exact hBack

theorem Owned.detach_queued (hs : s.Owned asked removed) {id : SessionId} {c : ConnectionId}
    {session : Session} (hSession : s.game.sessions.get? id = some session)
    (hRefers : session.connection? = some c) (hClosed : s.isOpen c = false) :
    .detach id c ∈ s.tasks.ready := by
  have hLink := SessionRegistry.link?_of_get? hSession
  rw [hRefers] at hLink
  rcases hs.owed id _ c hLink with hHeld | hQueued
  · rw [isOpen_of_held? hHeld] at hClosed
    cases hClosed
  · exact hQueued

theorem Owned.get?_late_detach (hs : s.Owned asked removed) {id : SessionId} {c d : ConnectionId}
    {session : Session} (hQueued : .detach id c ∈ s.tasks.ready)
    (hSession : s.game.sessions.get? id = some session)
    (hRefers : session.connection? = some d) (hOpen : s.isOpen d = true) :
    (s.game.sessions.detach id c).get? id = some session := by
  have hOther : session.connection? ≠ some c := by
    intro hSame
    rw [hRefers, Option.some.injEq] at hSame
    subst hSame
    obtain ⟨session?, hLive⟩ := isOpen_iff.mp hOpen
    rw [hs.left id d hQueued] at hLive
    cases hLive
  rw [SessionRegistry.get?_detach, if_pos rfl, hSession, Option.map_some, Session.detach,
    if_neg hOther]

/-- A session that an open connection holds is there unless a logout has removed it. -/
theorem Owned.kept_iff (hs : s.Owned asked removed) {c : ConnectionId} {h : SessionHandle}
    (hHeld : s.held? c = some h) :
    s.game.sessions.contains h.id = true ∧ s.game.sessions.isRemoved h = false ↔
      h.id ∉ removed := by
  constructor
  · rintro ⟨hContains, -⟩ hRemoved
    obtain ⟨session, hSession⟩ := Option.isSome_iff_exists.mp hContains
    have hLink := SessionRegistry.link?_of_get? hSession
    rw [hs.removed_gone h.id hRemoved] at hLink
    cases hLink
  · intro hKept
    cases hSession : s.game.sessions.get? h.id with
    | none =>
      have hLink : s.game.sessions.link? h.id = none := by
        rw [SessionRegistry.link?, hSession, Option.map_none]
      exact absurd (hs.lost c h hHeld hLink) hKept
    | some session =>
      obtain ⟨rfl, -⟩ := hs.session_of_held hHeld hSession
      refine ⟨?_, SessionRegistry.isRemoved_handle hSession⟩
      rw [SessionRegistry.contains, hSession, Option.isSome_some]

end Server

/-! ## Two connections of one character

The first of them has entered, and the second one asks while the first one closes. -/

namespace Rivals

def knight : Character :=
  { id := 10, name := "Knight", accountId := 1, accountType := .normal, canAlwaysLogin := false
    cannotBeBanned := false, login := default, temple := default }

def request (c : ConnectionId) : AttachRequest :=
  { connection := c, accountId := 1, characterId := 10, system := 2, character? := some knight
    namelocked := false, accountBan? := none }

def ask (c : ConnectionId) : Event := .request (request c) (.connection c)

/-- The task of a request, run while no connection closes. -/
def answer (c : ConnectionId) (s : Server) : Event :=
  .turn (.attach (request c) (.connection c)) s.isOpen [] 0 0

def handle : SessionHandle := { id := 1, characterId := 10, serial := 0 }

def opened : Server := .start default ⟨0, 0⟩ .running .empty .defaults 1

def asked : Server :=
  (ask 1).apply ((Event.accept default).apply ((Event.accept default).apply opened))

def entered : Server := (answer 1 asked).apply asked

def entering : List Event := [answer 1 asked, ask 1, .accept default, .accept default]

theorem run_entering : Run opened entering entered := by
  have hOpened : Run opened [] opened := .start
  have hFirst := hOpened.step (.accept default) trivial
  have hBoth := hFirst.step (.accept default) trivial
  have hAsked := hBoth.step (ask 1) List.not_mem_nil
  exact hAsked.step (answer 1 asked) ⟨rfl, asked.sees_isOpen⟩

/-! The first connection goes by itself. -/

def deserted : Server := (Event.close 1).apply ((ask 2).apply entered)

def succeeded : Server := (answer 2 deserted).apply deserted

def succeeding : List Event := answer 2 deserted :: .close 1 :: ask 2 :: entering

theorem run_succeeding : Run opened succeeding succeeded := by
  have hAsked := run_entering.step (ask 2) (show (2 : ConnectionId) ∉ [1] by decide)
  have hClosed := hAsked.step (.close 1) trivial
  exact hClosed.step (answer 2 deserted) ⟨rfl, deserted.sees_isOpen⟩

/-! The first connection goes with a logout, the removal of which runs last. -/

def forsaken : Server :=
  (Event.close 1).apply ((Event.logout 1 handle).apply ((ask 2).apply entered))

def inherited : Server := (answer 2 forsaken).apply forsaken

def removal : Event := .turn (.logout 1 10) inherited.isOpen [] 0 0

def inheriting : List Event :=
  removal :: answer 2 forsaken :: .close 1 :: .logout 1 handle :: ask 2 :: .takeUp 1 handle ::
    entering

theorem run_inheriting : Run opened inheriting (removal.apply inherited) := by
  have hTaken := run_entering.step (.takeUp 1 handle) rfl
  have hAsked := hTaken.step (ask 2) (show (2 : ConnectionId) ∉ [1] by decide)
  have hLogout := hAsked.step (.logout 1 handle) (List.mem_cons_of_mem _ List.mem_cons_self)
  have hClosed := hLogout.step (.close 1) trivial
  have hAnswered := hClosed.step (answer 2 forsaken) ⟨rfl, forsaken.sees_isOpen⟩
  exact hAnswered.step removal ⟨rfl, inherited.sees_isOpen⟩

end Rivals

/-! ## Runs -/

section

variable {config : Config} {key : Rsa.Key} {state : WorldState} {world : World}
  {handlers : HandlerTable} {capacity : Nat} {past : List Event} {s : Server}

/-- No two open connections hold one session, the session of an open connection refers to it, a
closed connection that a session refers to is going to be detached, and a detaching that comes late
changes nothing. -/
theorem Run.references_agree
    (hRun : Run (Server.start config key state world handlers capacity) past s)
    (hFew : s.game.sessions.created < 2 ^ 32) :
    (∀ c d h k, s.held? c = some h → s.held? d = some k → h.id = k.id → c = d) ∧
    (∀ c h session, s.held? c = some h → s.game.sessions.get? h.id = some session →
      session.connection? = some c) ∧
    (∀ id session c, s.game.sessions.get? id = some session → session.connection? = some c →
      s.isOpen c = false → .detach id c ∈ s.tasks.ready) ∧
    ∀ id session c d now wall, .detach id c ∈ s.tasks.ready →
      s.game.sessions.get? id = some session → session.connection? = some d →
      s.isOpen d = true →
      (s.runTask now wall (.detach id c)).game.sessions.get? id = some session := by
  obtain ⟨hs, -⟩ := hRun.sound hFew
  refine ⟨hs.unique, ?_, ?_, ?_⟩
  · intro c h session hHeld hSession
    exact (hs.session_of_held hHeld hSession).2
  · intro id session c hSession hRefers hClosed
    exact hs.detach_queued hSession hRefers hClosed
  · intro id session c d now wall hQueued hSession hRefers hOpen
    exact hs.get?_late_detach hQueued hSession hRefers hOpen

/-- The second connection keeps the session while the first one is still to be detached. -/
theorem Rivals.references_of_succeeded :
    succeeded.game.sessions.created < 2 ^ 32 ∧ succeeded.held? 2 = some handle ∧
      .detach 1 1 ∈ succeeded.tasks.ready ∧
      ∃ session, session.connection? = some 2 ∧
        (succeeded.runTask 0 0 (.detach 1 1)).game.sessions.get? 1 = some session := by
  have hFew : succeeded.game.sessions.created < 2 ^ 32 := by decide
  have hHeld : succeeded.held? 2 = some handle := rfl
  have hQueued : .detach 1 1 ∈ succeeded.tasks.ready := by decide
  obtain ⟨session, hSession⟩ : ∃ session, succeeded.game.sessions.get? 1 = some session := ⟨_, rfl⟩
  obtain ⟨-, hBack, -, hLate⟩ := run_succeeding.references_agree hFew
  have hRefers : session.connection? = some 2 := hBack 2 handle session hHeld hSession
  exact ⟨hFew, hHeld, hQueued, session, hRefers,
    hLate 1 session 1 2 0 0 hQueued hSession hRefers rfl⟩

/-- The session of an open connection that has not logged out is there and not marked as removed
unless the removal of a logout has run for its id. That logout was handled on another connection. -/
theorem Run.kept_iff_not_logged_out
    (hRun : Run (Server.start config key state world handlers capacity) past s)
    (hFew : s.game.sessions.created < 2 ^ 32) {c : ConnectionId} {h : SessionHandle}
    (hHeld : s.held? c = some h) (hNever : ∀ k, .logout c k ∉ past) :
    (s.game.sessions.contains h.id = true ∧ s.game.sessions.isRemoved h = false ↔
      h.id ∉ past.filterMap Event.removal?) ∧
    (h.id ∈ past.filterMap Event.removal? →
      ∃ d k, d ≠ c ∧ .logout d k ∈ past ∧ k.id = h.id) := by
  obtain ⟨hs, hTraced⟩ := hRun.sound hFew
  refine ⟨hs.kept_iff hHeld, fun hRemoved => ?_⟩
  obtain ⟨d, k, hLogout, hId⟩ := hTraced.done h.id hRemoved
  refine ⟨d, k, ?_, hLogout, hId⟩
  rintro rfl
  exact hNever k hLogout

theorem Rivals.kept_of_entered :
    entered.game.sessions.created < 2 ^ 32 ∧ entered.held? 1 = some handle ∧
      (∀ k, .logout 1 k ∉ entering) ∧ entered.game.sessions.contains 1 = true ∧
      entered.game.sessions.isRemoved handle = false := by
  have hFew : entered.game.sessions.created < 2 ^ 32 := by decide
  have hHeld : entered.held? 1 = some handle := rfl
  have hNever : ∀ k, .logout 1 k ∉ entering := by
    intro k hPast
    simp [entering, answer, ask] at hPast
  obtain ⟨hKept, -⟩ := run_entering.kept_iff_not_logged_out hFew hHeld hNever
  exact ⟨hFew, hHeld, hNever, hKept.mpr (by decide)⟩

/-- The second connection is open and has not logged out, and its session has gone with the logout
of the first. -/
theorem Rivals.removed_by_other_logout :
    ∃ past s, Run opened past s ∧ s.game.sessions.created < 2 ^ 32 ∧
      s.held? 2 = some handle ∧ (∀ k, .logout 2 k ∉ past) ∧
      s.game.sessions.contains handle.id = false ∧ s.game.sessions.isRemoved handle = true := by
  refine ⟨inheriting, removal.apply inherited, run_inheriting, by decide, rfl, ?_, rfl, rfl⟩
  intro k hPast
  simp [inheriting, entering, removal, answer, ask] at hPast

end

end Gatehouse
