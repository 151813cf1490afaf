import Gatehouse.Proofs.TaskSteps

/-!
# Waking the ticking

The ticking tests the roster and waits to be woken if that is empty. Connections come and go between
any two of its steps, and one that comes to an empty roster has joined before it tells the ticking.
Until it is stopped, the ticking does not wait while somebody is there whose coming has been told.
-/

namespace Gatehouse

/-- Where the ticking is in its loop. -/
inductive TickerPlace where
  | testing
  /-- It has found nobody, and does not wait yet. -/
  | idle
  | parked
  | sleeping

namespace TickerPlace

def test (r : Roster) : TickerPlace :=
  if r.isEmpty then .idle else .sleeping

/-- Whether the ticking can only go on by being woken. -/
def Waits : TickerPlace → Prop
  | idle | parked => True
  | testing | sleeping => False

end TickerPlace

structure Ticking where
  roster : Roster
  place : TickerPlace
  /-- The connections that have come to an empty roster and have not told so yet. -/
  waking : List ConnectionId

namespace Ticking

def start : Ticking :=
  { roster := .empty, place := .testing, waking := [] }

/-- What others do. Joining happens under the lock, and waking comes after that. -/
inductive Calls (t : Ticking) : Ticking → Prop where
  | insert (id : ConnectionId) :
    Calls t { t with
      roster := (t.roster.insert id).2
      waking := if (t.roster.insert id).1 then id :: t.waking else t.waking }
  | wake (id : ConnectionId) (hWaking : id ∈ t.waking) :
    Calls t { t with roster := t.roster.notify, waking := t.waking.erase id }
  | remove (id : ConnectionId) : Calls t { t with roster := t.roster.remove id }
  | flush (isOpen : ConnectionId → Bool) : Calls t { t with roster := t.roster.tick isOpen }

/-- What the ticking does. Being woken is kept until it waits, and then used up; where it was woken
twice while it was parked, the second time may be kept for the next wait. -/
inductive Runs (t : Ticking) : Ticking → Prop where
  | test (hPlace : t.place = .testing) : Runs t { t with place := .test t.roster }
  | pass (hPlace : t.place = .idle) (hWake : t.roster.wake = true) :
    Runs t { t with roster := { t.roster with wake := false }, place := .testing }
  | park (hPlace : t.place = .idle) (hWake : t.roster.wake = false) :
    Runs t { t with place := .parked }
  | resume (again : Bool) (hPlace : t.place = .parked) (hWake : t.roster.wake = true) :
    Runs t { t with roster := { t.roster with wake := again }, place := .testing }
  | flush (isOpen : ConnectionId → Bool) (hPlace : t.place = .sleeping) :
    Runs t { t with roster := t.roster.tick isOpen, place := .testing }

def Step (t t' : Ticking) : Prop :=
  t.Calls t' ∨ t.Runs t'

/-- Of whoever is there when the ticking waits, it has been told, or it is about to be. -/
structure Kept (t : Ticking) : Prop where
  told : t.place.Waits → t.roster.wake = false → t.roster.members ≠ [] → t.waking ≠ []

theorem kept_start : start.Kept :=
  ⟨False.elim⟩

variable {t t' : Ticking}

/-! ## Steps -/

theorem Kept.calls (hKept : t.Kept) (hCalls : t.Calls t') : t'.Kept := by
  constructor
  cases hCalls with
  | insert id =>
    intro hWaits hWake _
    cases hEmpty : t.roster.isEmpty with
    | true =>
      -- the edge on which the wake-up is sent: this one is going to send it
      have hFirst : (t.roster.insert id).1 = true := hEmpty
      simp [hFirst]
    | false =>
      -- no wake-up is sent, but one has been sent or is to be sent for those who were there
      have hLater : (t.roster.insert id).1 = false := hEmpty
      have hMembers : t.roster.members ≠ [] := by
        simpa [Roster.isEmpty] using hEmpty
      simpa [hLater] using hKept.told hWaits hWake hMembers
  | wake id hWaking =>
    intro _ hWake
    cases hWake
  | remove id =>
    intro hWaits hWake hMembers
    refine hKept.told hWaits hWake fun hNobody => hMembers ?_
    rw [Roster.remove, hNobody, List.filter_nil]
  | flush isOpen =>
    intro hWaits hWake hMembers
    refine hKept.told hWaits hWake fun hNobody => hMembers ?_
    rw [Roster.tick, hNobody, List.filter_nil]

theorem Kept.runs (hKept : t.Kept) (hRuns : t.Runs t') : t'.Kept := by
  constructor
  cases hRuns with
  | test hPlace =>
    intro hWaits _ hMembers
    have hEmpty : t.roster.isEmpty = false := by simpa [Roster.isEmpty] using hMembers
    rw [TickerPlace.test, hEmpty] at hWaits
    exact hWaits.elim
  | park hPlace hWake =>
    have hWaits : t.place.Waits := hPlace ▸ trivial
    exact fun _ => hKept.told hWaits
  | pass | resume | flush => exact False.elim

theorem Kept.reaches (hKept : t.Kept) (hReaches : Relation.ReflTransGen Step t t') : t'.Kept := by
  induction hReaches with
  | refl => exact hKept
  | tail _ hStep ih =>
    rcases hStep with hCalls | hRuns
    · exact ih.calls hCalls
    · exact ih.runs hRuns

theorem Kept.wake_of_member (hKept : t.Kept) (hWaits : t.place.Waits)
    (hSome : t.roster.members ≠ []) (hTold : t.waking = []) : t.roster.wake = true := by
  by_contra hWake
  exact hKept.told hWaits (Bool.not_eq_true _ ▸ hWake) hSome hTold

/-! ## What the ticking does by itself -/

/-- However the ticking goes on by itself, it comes to a state of this kind. -/
inductive ComesTo (goal : Ticking → Prop) : Ticking → Prop where
  | here {t : Ticking} (hGoal : goal t) : ComesTo goal t
  | on {t : Ticking} (hCan : ∃ t', t.Runs t') (hAll : ∀ t', t.Runs t' → ComesTo goal t') :
    ComesTo goal t

/-- One more tick has come, and with it, everyone who was still there. -/
structure Ticked (r : Roster) (t : Ticking) : Prop where
  ticks : t.roster.ticks = r.ticks + 1
  members : ∃ isOpen, t.roster.members = r.members.filter isOpen

variable {r : Roster}

theorem comesTo_of_sleeping (hPlace : t.place = .sleeping) (hTicks : t.roster.ticks = r.ticks)
    (hMembers : t.roster.members = r.members) : t.ComesTo (Ticked r) := by
  refine .on ⟨_, .flush (fun _ => true) hPlace⟩ fun t' hRuns => .here ?_
  cases hRuns with
  | flush isOpen =>
    exact ⟨congrArg (· + 1) hTicks, isOpen, congrArg (List.filter isOpen) hMembers⟩
  | test hOther | pass hOther | park hOther | resume _ hOther => cases hPlace.symm.trans hOther

theorem comesTo_of_testing (hPlace : t.place = .testing) (hTicks : t.roster.ticks = r.ticks)
    (hMembers : t.roster.members = r.members) (hSome : r.members ≠ []) :
    t.ComesTo (Ticked r) := by
  refine .on ⟨_, .test hPlace⟩ fun t' hRuns => ?_
  cases hRuns with
  | test =>
    refine comesTo_of_sleeping ?_ hTicks hMembers
    have hEmpty : t.roster.isEmpty = false := by simpa [Roster.isEmpty, hMembers] using hSome
    change TickerPlace.test t.roster = .sleeping
    rw [TickerPlace.test, hEmpty]
    rfl
  | pass hOther | park hOther | resume _ hOther | flush _ hOther =>
    cases hPlace.symm.trans hOther

theorem comesTo_ticked (hSome : t.roster.members ≠ [])
    (hTold : t.place.Waits → t.roster.wake = true) : t.ComesTo (Ticked t.roster) := by
  cases hPlace : t.place with
  | testing => exact comesTo_of_testing hPlace rfl rfl hSome
  | sleeping => exact comesTo_of_sleeping hPlace rfl rfl
  | idle =>
    have hWake := hTold (hPlace ▸ trivial)
    refine .on ⟨_, .pass hPlace hWake⟩ fun t' hRuns => ?_
    cases hRuns with
    | pass => exact comesTo_of_testing rfl rfl rfl hSome
    | park _ hAsleep => cases hWake.symm.trans hAsleep
    | test hOther | resume _ hOther | flush _ hOther => cases hPlace.symm.trans hOther
  | parked =>
    have hWake := hTold (hPlace ▸ trivial)
    refine .on ⟨_, .resume false hPlace hWake⟩ fun t' hRuns => ?_
    cases hRuns with
    | resume again => exact comesTo_of_testing rfl rfl rfl hSome
    | test hOther | pass hOther | park hOther | flush _ hOther => cases hPlace.symm.trans hOther

/-- However the calls fall between the steps of the ticking: if somebody is there, and nobody who
has come is still to tell so, the ticking has been woken wherever it waits, and by itself it cannot
but tick. -/
theorem woken_for_members (hReaches : Relation.ReflTransGen Step start t)
    (hSome : t.roster.members ≠ []) (hTold : t.waking = []) :
    (t.place.Waits → t.roster.wake = true) ∧ t.ComesTo (Ticked t.roster) := by
  have hWoken : t.place.Waits → t.roster.wake = true :=
    fun hWaits => (kept_start.reaches hReaches).wake_of_member hWaits hSome hTold
  exact ⟨hWoken, comesTo_ticked hSome hWoken⟩

/-- The first connection has gone before it wakes the parked ticking, and another one has come. -/
theorem woken_for_second :
    let t : Ticking :=
      { roster := { members := [2], wake := true, ticks := 0 }, place := .parked, waking := [] }
    Relation.ReflTransGen Step start t ∧ t.ComesTo (Ticked t.roster) := by
  intro t
  have hParked : Relation.ReflTransGen Step start { start with place := .parked } :=
    .tail (.single (.inr (.test rfl))) (.inr (.park rfl rfl))
  have hGone : Relation.ReflTransGen Step start
      { start with place := .parked, waking := [1] } :=
    .tail (.tail hParked (.inl (.insert 1))) (.inl (.remove 1))
  have hReaches : Relation.ReflTransGen Step start t :=
    .tail (.tail (.tail hGone (.inl (.insert 2))) (.inl (.wake 1 (by decide))))
      (.inl (.wake 2 (by decide)))
  exact ⟨hReaches, (woken_for_members hReaches (List.cons_ne_nil 2 []) rfl).2⟩

/-! ## The tasks that run -/

theorem reaches_of_calls (hCalls : Relation.ReflTransGen Calls t t') :
    Relation.ReflTransGen Step t t' :=
  Relation.ReflTransGen.mono (fun _ _ => Or.inl) _ _ hCalls

theorem calls_add (t : Ticking) (id : ConnectionId) :
    Relation.ReflTransGen Calls t { t with roster := t.roster.add id } := by
  have hInsert := Calls.insert (t := t) id
  have hAdd : t.roster.add id = if (t.roster.insert id).1 then (t.roster.insert id).2.notify
      else (t.roster.insert id).2 := rfl
  rw [hAdd]
  split
  case isFalse hSome =>
    rw [if_neg hSome] at hInsert
    exact .single hInsert
  case isTrue hEmpty =>
    rw [if_pos hEmpty] at hInsert
    have hWake := Calls.wake (t := { t with
      roster := (t.roster.insert id).2, waking := id :: t.waking }) id List.mem_cons_self
    rw [List.erase_cons_head] at hWake
    exact .tail (.single hInsert) hWake

end Ticking

namespace Server

/-- The server goes on, and its roster changes by calls only. -/
structure Enrols (s u : Server) : Prop where
  shutdown : u.shutdown = s.shutdown
  calls : ∀ t : Ticking, t.roster = s.roster →
    Relation.ReflTransGen Ticking.Calls t { t with roster := u.roster }

theorem Enrols.of_same {s u : Server} (hShutdown : u.shutdown = s.shutdown)
    (hRoster : u.roster = s.roster) : s.Enrols u := by
  refine ⟨hShutdown, fun t hSame => ?_⟩
  rw [hRoster, ← hSame]

theorem tolerant_enrols : Tolerant Enrols where
  refl _ := .of_same rfl rfl
  trans hFirst hSecond := by
    refine ⟨hSecond.shutdown.trans hFirst.shutdown, fun t hSame => ?_⟩
    exact (hFirst.calls t hSame).trans (hSecond.calls _ rfl)
  withConnections _ _ _ := .of_same rfl rfl
  withTasks _ _ := .of_same rfl rfl
  withReplies _ _ := .of_same rfl rfl
  add s id := ⟨rfl, fun t hSame => hSame ▸ t.calls_add id⟩
  remove s id := ⟨rfl, fun t hSame => hSame ▸ .single (.remove id)⟩

theorem enrols_work {id : ConnectionId} {now : Nat} {step : Talking ReaderPhase} {r : Reader}
    (hWork : Reader.Work id now r.phase step) (s : Server) : s.Enrols (r.run id now step s).2 := by
  have hCalls : ∀ (s : Server) (calls : List HandlerCall), Enrols s { s with calls } :=
    fun _ _ => .of_same rfl rfl
  exact tolerant_enrols.work_of (T := Enrols) (fun _ _ => .of_same rfl rfl) (fun h => h)
    tolerant_enrols.trans (tolerant_enrols.handle hCalls id) hWork s

end Server

namespace TickerPlace

/-- A ticking task that is parked is about to wait or waits. -/
inductive Shows : TickerPlace → TickerPhase → Prop where
  | testing : Shows .testing .testing
  | idle : Shows .idle .parked
  | parked : Shows .parked .parked
  | sleeping (deadline : Nat) : Shows .sleeping (.sleeping deadline)

theorem shows_test (r : Roster) (now interval : Nat) :
    (test r).Shows (TickerPhase.test r now interval) := by
  rw [test, TickerPhase.test]
  split
  case isTrue => exact .idle
  case isFalse => exact .sleeping _

end TickerPlace

namespace Simulation.State

/-- The ticking of a server that goes on, while nobody is about to wake it. -/
structure Shows (s : State) (t : Ticking) : Prop where
  running : s.server.shutdown = false
  roster : t.roster = s.server.roster
  place : t.place.Shows s.ticker
  waking : t.waking = []

variable {s : State} {t : Ticking}

theorem ticker_stepReader (s : State) (l : Line) : (s.stepReader l).ticker = s.ticker := by
  have hRead : (s.readInward l).ticker = s.ticker := by
    rw [readInward]
    split <;> rfl
  rw [stepReader]
  dsimp only
  split
  case h_1 | h_5 => rfl
  case h_2 =>
    split
    · rfl
    · exact hRead
  case h_3 =>
    split
    · rfl
    split
    · exact hRead
    · rfl
  case h_4 =>
    split
    · rfl
    split <;> rfl

theorem ticker_stepWriter (s : State) (l : Line) : (s.stepWriter l).ticker = s.ticker := by
  rw [stepWriter]
  split
  case h_1 | h_5 => rfl
  case h_2 | h_3 => split <;> rfl
  case h_4 =>
    split
    · rfl
    split
    · rfl
    split
    · rw [writeOutward]
      dsimp only
      split <;> rfl
    · rfl

theorem ticker_stepConsole (s : State) (c : Console) : (s.stepConsole c).ticker = s.ticker := by
  rw [stepConsole]
  split
  case h_1 =>
    dsimp only
    split <;> rfl
  case h_2 => split <;> rfl

theorem ticker_step {task : TaskId} (hTask : task ≠ .ticker) (s : State) :
    (s.step task).ticker = s.ticker := by
  cases task with
  | writer id =>
    rw [step]
    cases s.line? id with
    | none => rfl
    | some l => exact s.ticker_stepWriter l
  | reader id =>
    rw [step]
    cases s.line? id with
    | none => rfl
    | some l => exact s.ticker_stepReader l
  | game =>
    rw [step, stepGame]
    split <;> rfl
  | timer => rfl
  | ticker => exact absurd rfl hTask
  | console n =>
    rw [step]
    cases s.consoles.find? (·.number == n) with
    | none => rfl
    | some c => exact s.ticker_stepConsole c

theorem enrols_step {task : TaskId} (hTask : task ≠ .ticker) (s : State) :
    s.server.Enrols (s.step task).server := by
  have hGame : ∀ (s : Server) (game : Game), s.Enrols { s with game } :=
    fun _ _ => .of_same rfl rfl
  exact tolerates_step Server.tolerant_enrols Server.enrols_work
    (fun now s => Server.tolerant_enrols.runNext hGame now 0 s)
    (fun s => Server.tolerant_enrols.stopGame hGame s) hTask s

theorem Shows.stepTicker (h : Shows s t) (hReady : s.tickerReady = true) :
    ∃ t', Relation.ReflTransGen Ticking.Step t t' ∧ Shows s.stepTicker t' := by
  obtain ⟨hRunning, hRoster, hPlace, hWaking⟩ := h
  have hUp : ¬ s.server.shutdown = true := Bool.eq_false_iff.mp hRunning
  generalize hWhere : t.place = place at hPlace
  generalize hTicker : s.ticker = phase at hPlace
  rw [tickerReady, hTicker, hRunning] at hReady
  rw [State.stepTicker, hTicker]
  cases hPlace with
  | testing =>
    have hTest : t.Runs _ := .test hWhere
    refine ⟨_, .single (.inr hTest), hRunning, hRoster, ?_, hWaking⟩
    rw [hRoster]
    exact TickerPlace.shows_test _ _ _
  | idle =>
    have hWake : t.roster.wake = true := by rwa [hRoster]
    have hPass : t.Runs _ := .pass hWhere hWake
    dsimp only
    rw [if_neg hUp]
    exact ⟨_, .single (.inr hPass), hRunning, by rw [hRoster], .testing, hWaking⟩
  | parked =>
    have hWake : t.roster.wake = true := by rwa [hRoster]
    have hResume : t.Runs _ := .resume false hWhere hWake
    dsimp only
    rw [if_neg hUp]
    exact ⟨_, .single (.inr hResume), hRunning, by rw [hRoster], .testing, hWaking⟩
  | sleeping deadline =>
    have hFlush : t.Runs _ := .flush s.server.isOpen hWhere
    have hFlushed := Server.tolerant_enrols.flushes (s.server.roster.tick s.server.isOpen).members 0
      { s.server with roster := s.server.roster.tick s.server.isOpen }
    have hCalls := hFlushed.calls { t with
      roster := t.roster.tick s.server.isOpen, place := .testing } (by rw [hRoster])
    dsimp only
    rw [if_neg hUp]
    refine ⟨_, .head (.inr hFlush) (Ticking.reaches_of_calls hCalls), ?_, rfl, .testing, hWaking⟩
    exact hFlushed.shutdown.trans hRunning

theorem Shows.enrols (h : Shows s t) {u : State} (hEnrols : s.server.Enrols u.server)
    (hTicker : u.ticker = s.ticker) :
    ∃ t', Relation.ReflTransGen Ticking.Step t t' ∧ Shows u t' := by
  refine ⟨_, Ticking.reaches_of_calls (hEnrols.calls t h.roster), ?_, rfl, ?_, h.waking⟩
  · exact hEnrols.shutdown.trans h.running
  · rw [hTicker]
    exact h.place

/-- While the server goes on, what a task does are steps of the ticking and calls. -/
theorem Shows.step (h : Shows s t) {task : TaskId} (hReady : s.isReady task = true) :
    ∃ t', Relation.ReflTransGen Ticking.Step t t' ∧ Shows (s.step task) t' := by
  by_cases hTask : task = .ticker
  · subst hTask
    exact h.stepTicker hReady
  · exact h.enrols (s.enrols_step hTask) (ticker_step hTask s)

def Ticks (s : State) : Prop :=
  ∃ t, Relation.ReflTransGen Ticking.Step .start t ∧ Shows s t

theorem ticks_start (config : Config) (key : Rsa.Key) (state : WorldState) (world : World)
    (handlers : HandlerTable) (capacity : Nat) :
    Ticks (.start (.start config key state world handlers capacity) true) :=
  ⟨.start, .refl, rfl, rfl, .testing, rfl⟩

theorem lasting_ticks : Lasting Ticks where
  withQueue _ _ := fun ⟨t, hReaches, h⟩ => ⟨t, hReaches, h.running, h.roster, h.place, h.waking⟩
  withLines _ _ := fun ⟨t, hReaches, h⟩ => ⟨t, hReaches, h.running, h.roster, h.place, h.waking⟩
  withNow _ _ := fun ⟨t, hReaches, h⟩ => ⟨t, hReaches, h.running, h.roster, h.place, h.waking⟩
  step s task hReady := by
    rintro ⟨t, hReaches, h⟩
    obtain ⟨t', hSteps, hShows⟩ := h.step hReady
    exact ⟨t', hReaches.trans hSteps, hShows⟩

theorem Ticks.advance (h : Ticks s) (ms : Nat) : Ticks (s.advance ms) :=
  lasting_ticks.advance ms h

theorem Ticks.enrols (h : Ticks s) {u : Server} (hEnrols : s.server.Enrols u) :
    Ticks { s with server := u } := by
  obtain ⟨t, hReaches, hShows⟩ := h
  obtain ⟨t', hSteps, hNext⟩ := hShows.enrols (u := { s with server := u }) hEnrols rfl
  exact ⟨t', hReaches.trans hSteps, hNext⟩

/-- A ticking task that is parked can go on as soon as somebody is there. -/
theorem Ticks.tickerReady (h : Ticks s) (hParked : s.ticker = .parked)
    (hSome : s.server.roster.members ≠ []) : s.tickerReady = true := by
  obtain ⟨t, hReaches, hShows⟩ := h
  have hWaits : t.place.Waits := by
    have hPlace := hShows.place
    generalize t.place = place at hPlace ⊢
    rw [hParked] at hPlace
    cases hPlace <;> exact trivial
  have hKept := Ticking.kept_start.reaches hReaches
  have hWake := hKept.wake_of_member hWaits (hShows.roster ▸ hSome) hShows.waking
  rw [State.tickerReady, hParked, ← hShows.roster, hWake]
  exact Bool.or_true _

end Simulation.State

end Gatehouse
