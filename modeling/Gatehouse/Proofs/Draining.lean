import Mathlib.Logic.Relation
import Gatehouse.Proofs.Books
import Gatehouse.Proofs.Outflow
import Gatehouse.Simulation.Basic

/-!
# Draining the queue

The writer of a connection looks at the queue, waits if it is empty, and writes what stands first.
Between two of its steps anything may be done to the connection by others. It is never left waiting
with something to do, and when it goes, everything that was queued has been written.
-/

namespace Gatehouse

inductive WriterPlace where
  | looking
  | idle
  | parked
  | writing (frame : Octets)
  | left

def WriterPlace.look (c : Connection) : WriterPlace :=
  match WriterPhase.look c 0 with
  | .writing frame _ _ => .writing frame
  | .looking | .parked => .idle
  | .finishing | .ended => .left

namespace WriterPlace

theorem look_eq (c : Connection) :
    look c =
      match c.queue with
      | frame :: _ => .writing frame
      | [] => if c.disconnected then .left else .idle := by
  rw [look, WriterPhase.look]
  cases c.queue with
  | cons frame queue => rfl
  | nil => cases c.disconnected <;> rfl

end WriterPlace

/-- Whether the writer has stopped looking and can only go on by being told. -/
def WriterPlace.Waits : WriterPlace → Prop
  | idle | parked => True
  | looking | writing _ | left => False

/-- A connection with its writer, and with what an observer has written down: the frames that have
been queued and those that have been written. -/
structure Drain where
  outlet : Outlet
  place : WriterPlace
  closing : Bool
  queued : List Octets
  written : List Octets

namespace Drain

def start (id : ConnectionId) (peer : SocketAddress) (capacity : Nat) : Drain where
  outlet := { connection := .new id peer, pool := .ofCapacity capacity }
  place := .looking
  closing := false
  queued := []
  written := []

def withConnection (d : Drain) (c : Connection) : Drain :=
  { d with outlet := { d.outlet with connection := c } }

/-- The outlet has changed, and the observer notes what has come into the queue. -/
def observe (d : Drain) (o : Outlet) : Drain :=
  { d with
    outlet := o
    queued := d.queued ++ o.connection.queue.drop d.outlet.connection.queue.length }

/-- What others do. Each of these happens under the lock, but for the last step of closing. -/
inductive Calls (d : Drain) : Drain → Prop where
  | act (act : Outlet.Act) (hSent : act ≠ .frameSent) (hShut : act ≠ .shut) :
    Calls d (d.observe (act.perform d.outlet).2)
  | installKey (key : Xtea.Key) (mode : ChecksumMode) :
    Calls d (d.withConnection (d.outlet.connection.installKey key mode))
  | shut :
    Calls d { d.observe d.outlet.shut.2 with closing := d.closing || d.outlet.shut.1.isSome }
  | told (hClosing : d.closing = true) :
    Calls d { d.withConnection d.outlet.connection.notify with closing := false }

/-- What the writer does. Being told is kept until it waits, and then used up; where it was told
twice while it was parked, the second time may be kept for the next wait. -/
inductive Writes (d : Drain) : Drain → Prop where
  | look (hPlace : d.place = .looking) : Writes d { d with place := .look d.outlet.connection }
  | pass (hPlace : d.place = .idle) (hWake : d.outlet.connection.wake = true) :
    Writes d { d.withConnection { d.outlet.connection with wake := false } with
      place := .looking }
  | park (hPlace : d.place = .idle) (hWake : d.outlet.connection.wake = false) :
    Writes d { d with place := .parked }
  | resume (again : Bool) (hPlace : d.place = .parked)
    (hWake : d.outlet.connection.wake = true) :
    Writes d { d.withConnection { d.outlet.connection with wake := again } with
      place := .looking }
  | finish (frame : Octets) (hPlace : d.place = .writing frame) :
    Writes d { d.withConnection d.outlet.connection.frameSent with
      place := .looking, written := d.written ++ [frame] }

def Step (d d' : Drain) : Prop :=
  d.Calls d' ∨ d.Writes d'

structure Kept (d : Drain) : Prop where
  sound : d.outlet.Sound
  books : d.written ++ d.outlet.connection.queue = d.queued
  head : ∀ frame, d.place = .writing frame → d.outlet.connection.queue.head? = some frame
  /-- What has come since the writer looked, it has been told of, or it is about to be. -/
  told : d.place.Waits → d.outlet.connection.wake = false →
    d.outlet.connection.queue = [] ∧ (d.outlet.connection.disconnected = true → d.closing = true)
  left : d.place = .left →
    d.outlet.connection.disconnected = true ∧ d.outlet.connection.queue = []

theorem kept_start (id : ConnectionId) (peer : SocketAddress) (capacity : Nat) :
    (start id peer capacity).Kept where
  sound := Outlet.sound_new id peer capacity
  books := rfl
  head _ hPlace := nomatch hPlace
  told hWaits := False.elim hWaits
  left hPlace := nomatch hPlace

variable {d d' : Drain}

/-! ## Steps -/

theorem observe_queued {o : Outlet} {frames : List Octets}
    (hGrows : d.outlet.connection.Grows o.connection frames) :
    (d.observe o).queued = d.queued ++ frames := by
  rw [observe, hGrows.queue, List.drop_left]

/-- A call that puts frames into the queue of an open connection, or leaves a closed one alone. -/
theorem Kept.observe (hKept : d.Kept) {o : Outlet} (hSound : o.Sound) {frames : List Octets}
    (hGrows : d.outlet.connection.Grows o.connection frames)
    (hClosed : d.outlet.connection.disconnected = true → frames = []) (closing : Bool)
    (hLater : o.connection.disconnected = true →
      d.outlet.connection.disconnected = true ∧ closing = d.closing ∨ closing = true)
    (hStays : d.outlet.connection.disconnected = true → o.connection.disconnected = true) :
    Kept { d.observe o with closing } := by
  refine ⟨hSound, ?_, fun frame hPlace => ?_, fun hWaits hWake => ?_, fun hPlace => ?_⟩
  · change d.written ++ o.connection.queue = (d.observe o).queued
    rw [observe_queued hGrows, hGrows.queue, ← List.append_assoc, hKept.books]
  · change o.connection.queue.head? = some frame
    rw [hGrows.queue, List.head?_append, hKept.head frame hPlace]
    rfl
  · obtain ⟨hQueue, hTold⟩ := hKept.told hWaits (hGrows.still hWake)
    refine ⟨?_, fun hMarked => ?_⟩
    · change o.connection.queue = []
      rw [hGrows.queue, hQueue, hGrows.told hWake hQueue, List.append_nil]
    · rcases hLater hMarked with ⟨hBefore, hSame⟩ | hClosing
      · exact hSame.trans (hTold hBefore)
      · exact hClosing
  · obtain ⟨hMarked, hQueue⟩ := hKept.left hPlace
    refine ⟨hStays hMarked, ?_⟩
    change o.connection.queue = []
    rw [hGrows.queue, hQueue, hClosed hMarked, List.append_nil]

theorem Kept.calls (hKept : d.Kept) (hCalls : d.Calls d') : d'.Kept := by
  cases hCalls with
  | act act hSent hShut =>
    obtain ⟨payloads, hPosts⟩ := hKept.sound.posts_perform hSent
    obtain ⟨frames, hGrows, hClosed⟩ := hPosts.grows
    have hSame := hKept.sound.disconnected_perform hShut
    exact hKept.observe (hKept.sound.perform act).1 hGrows hClosed d.closing
      (fun hMarked => Or.inl ⟨hSame.symm.trans hMarked, rfl⟩) fun hMarked => hSame.trans hMarked
  | installKey key mode =>
    exact ⟨⟨hKept.sound.buffer, hKept.sound.pool⟩, hKept.books, hKept.head, hKept.told, hKept.left⟩
  | shut =>
    have hAct : Outlet.Act.shut ≠ .frameSent := by simp
    obtain ⟨payloads, hPosts⟩ := hKept.sound.posts_perform hAct
    obtain ⟨frames, hGrows, hClosed⟩ := hPosts.grows
    have hMarks : d.outlet.connection.disconnected = false → d.outlet.shut.1.isSome = true ∧
        d.outlet.shut.2.connection.disconnected = true := by
      intro hOpen
      rw [Outlet.shut, hOpen]
      exact ⟨rfl, rfl⟩
    have hAgain : d.outlet.connection.disconnected = true → d.outlet.shut = (none, d.outlet) :=
      fun hMarked => if_pos hMarked
    refine hKept.observe (hKept.sound.perform .shut).1 hGrows hClosed _ (fun _ => ?_)
      fun hMarked => ?_
    · cases hOpen : d.outlet.connection.disconnected with
      | true => exact Or.inl ⟨rfl, by rw [hAgain hOpen]; exact Bool.or_false _⟩
      | false => exact Or.inr (by rw [(hMarks hOpen).1, Bool.or_true])
    · change d.outlet.shut.2.connection.disconnected = true
      rw [hAgain hMarked]
      exact hMarked
  | told hClosing =>
    refine ⟨⟨hKept.sound.buffer, hKept.sound.pool⟩, hKept.books, hKept.head, ?_, hKept.left⟩
    intro _ hWake
    cases hWake

theorem Kept.of_looking (hSound : d.outlet.Sound)
    (hBooks : d.written ++ d.outlet.connection.queue = d.queued) (hPlace : d.place = .looking) :
    d.Kept where
  sound := hSound
  books := hBooks
  head _ hOther := nomatch hPlace.symm.trans hOther
  told hWaits := by
    rw [hPlace] at hWaits
    exact hWaits.elim
  left hOther := nomatch hPlace.symm.trans hOther

theorem Kept.look (hKept : d.Kept) :
    Kept { d with place := .look d.outlet.connection } := by
  rw [WriterPlace.look_eq]
  cases hQueue : d.outlet.connection.queue with
  | cons frame queue =>
    refine ⟨hKept.sound, hKept.books, fun other hPlace => ?_, False.elim,
      fun hPlace => nomatch hPlace⟩
    cases hPlace
    exact congrArg List.head? hQueue
  | nil =>
    cases hMarked : d.outlet.connection.disconnected with
    | true =>
      exact ⟨hKept.sound, hKept.books, (fun _ hPlace => nomatch hPlace), False.elim,
        fun _ => ⟨hMarked, hQueue⟩⟩
    | false =>
      refine ⟨hKept.sound, hKept.books, (fun _ hPlace => nomatch hPlace), fun _ _ => ⟨hQueue, ?_⟩,
        fun hPlace => nomatch hPlace⟩
      intro hClosed
      exact absurd (hMarked.symm.trans hClosed) Bool.false_ne_true

theorem Kept.queue_of_writing (hKept : d.Kept) {frame : Octets}
    (hPlace : d.place = .writing frame) :
    d.outlet.connection.queue = frame :: d.outlet.connection.frameSent.queue := by
  obtain ⟨queue, hQueue⟩ := List.head?_eq_some_iff.mp (hKept.head frame hPlace)
  rw [Connection.frameSent, hQueue]

theorem Kept.finish (hKept : d.Kept) {frame : Octets} (hPlace : d.place = .writing frame) :
    Kept { d.withConnection d.outlet.connection.frameSent with
      place := .looking, written := d.written ++ [frame] } := by
  refine .of_looking (hKept.sound.perform .frameSent).1 ?_ rfl
  change d.written ++ [frame] ++ d.outlet.connection.frameSent.queue = d.queued
  rw [List.append_assoc, List.singleton_append, ← hKept.queue_of_writing hPlace, hKept.books]

theorem Kept.writes (hKept : d.Kept) (hWrites : d.Writes d') : d'.Kept := by
  cases hWrites with
  | look hPlace => exact hKept.look
  | pass hPlace hWake =>
    exact .of_looking ⟨hKept.sound.buffer, hKept.sound.pool⟩ hKept.books rfl
  | park hPlace hWake =>
    have hWaits : d.place.Waits := by
      rw [hPlace]
      trivial
    exact ⟨hKept.sound, hKept.books, (fun _ hOther => nomatch hOther),
      fun _ => hKept.told hWaits, fun hOther => nomatch hOther⟩
  | resume again hPlace hWake =>
    exact .of_looking ⟨hKept.sound.buffer, hKept.sound.pool⟩ hKept.books rfl
  | finish frame hPlace => exact hKept.finish hPlace

theorem Kept.reaches (hKept : d.Kept) (hReaches : Relation.ReflTransGen Step d d') : d'.Kept := by
  induction hReaches with
  | refl => exact hKept
  | tail _ hStep ih =>
    rcases hStep with hCalls | hWrites
    · exact ih.calls hCalls
    · exact ih.writes hWrites

/-! ## What the writer does by itself -/

/-- The writer has written what was queued, and has left if nothing more can come. -/
structure Drained (d d' : Drain) : Prop where
  reached : Relation.ReflTransGen Writes d d'
  queue : d'.outlet.connection.queue = []
  written : d'.written = d.queued
  left : d.outlet.connection.disconnected = true → d'.place = .left

theorem Drained.after {e : Drain} (h : Drained e d') (hFirst : d.Writes e)
    (hQueued : e.queued = d.queued)
    (hSame : e.outlet.connection.disconnected = d.outlet.connection.disconnected) :
    Drained d d' where
  reached := .head hFirst h.reached
  queue := h.queue
  written := h.written.trans hQueued
  left hMarked := h.left (hSame.trans hMarked)

theorem disconnected_frameSent (c : Connection) : c.frameSent.disconnected = c.disconnected := by
  rw [Connection.frameSent]
  split <;> rfl

theorem Kept.drain_looking {d : Drain} (hKept : d.Kept) (hPlace : d.place = .looking) :
    ∃ d', Drained d d' := by
  cases hQueue : d.outlet.connection.queue with
  | nil =>
    refine ⟨_, .single (.look hPlace), hQueue, ?_, fun hMarked => ?_⟩
    · rw [← hKept.books, hQueue, List.append_nil]
    · rw [WriterPlace.look_eq, hQueue, hMarked]
      rfl
  | cons frame queue =>
    -- one round through the loop takes the first frame off the queue
    have hWriting : WriterPlace.look d.outlet.connection = .writing frame := by
      rw [WriterPlace.look_eq, hQueue]
    have hRest : d.outlet.connection.frameSent.queue = queue := by
      rw [Connection.frameSent, hQueue]
    obtain ⟨d', hDrained⟩ := (hKept.look.finish hWriting).drain_looking rfl
    have hSame := disconnected_frameSent d.outlet.connection
    exact ⟨d', (hDrained.after (.finish frame hWriting) rfl hSame).after (.look hPlace) rfl rfl⟩
termination_by d.outlet.connection.queue.length
decreasing_by
  change d.outlet.connection.frameSent.queue.length < d.outlet.connection.queue.length
  rw [hRest, hQueue]
  exact Nat.lt_succ_self _

/-- A writer with something to do is not stuck, and without the help of others it writes all that
has been queued. -/
theorem Kept.drain (hKept : d.Kept)
    (hTold : d.place.Waits → d.outlet.connection.wake = true) : ∃ d', Drained d d' := by
  cases hPlace : d.place with
  | looking => exact hKept.drain_looking hPlace
  | idle =>
    have hWrites : d.Writes _ := .pass hPlace (hTold (hPlace ▸ trivial))
    obtain ⟨d', hDrained⟩ := (hKept.writes hWrites).drain_looking rfl
    exact ⟨d', hDrained.after hWrites rfl rfl⟩
  | parked =>
    have hWrites : d.Writes _ := .resume false hPlace (hTold (hPlace ▸ trivial))
    obtain ⟨d', hDrained⟩ := (hKept.writes hWrites).drain_looking rfl
    exact ⟨d', hDrained.after hWrites rfl rfl⟩
  | writing frame =>
    have hWrites : d.Writes _ := .finish frame hPlace
    obtain ⟨d', hDrained⟩ := (hKept.writes hWrites).drain_looking rfl
    exact ⟨d', hDrained.after hWrites rfl (disconnected_frameSent _)⟩
  | left =>
    obtain ⟨-, hQueue⟩ := hKept.left hPlace
    refine ⟨d, .refl, hQueue, ?_, fun _ => hPlace⟩
    rw [← hKept.books, hQueue, List.append_nil]

/-- Whether there is something to do: frames to be written, or a closed connection to be left, of
which the writer has been told if it had to be. -/
def HasWork (d : Drain) : Prop :=
  d.outlet.connection.queue ≠ [] ∨
    d.outlet.connection.disconnected = true ∧ d.closing = false

theorem Kept.wake_of_hasWork (hKept : d.Kept) (hWork : d.HasWork) (hWaits : d.place.Waits) :
    d.outlet.connection.wake = true := by
  by_contra hWake
  obtain ⟨hQueue, hTold⟩ := hKept.told hWaits (Bool.not_eq_true _ ▸ hWake)
  rcases hWork with hSome | ⟨hMarked, hDone⟩
  · exact hSome hQueue
  · exact absurd (hDone.symm.trans (hTold hMarked)) Bool.false_ne_true

/-- However the calls on a connection fall between the steps of its writer, the writer is not left
waiting while there is something to do, and could always finish by itself. Frames are written in the
order in which they were queued, each of them once, and a writer that has left its loop has written
them all. -/
theorem not_left_waiting (id : ConnectionId) (peer : SocketAddress) (capacity : Nat)
    (hReaches : Relation.ReflTransGen Step (start id peer capacity) d) :
    (d.HasWork → d.place.Waits → d.outlet.connection.wake = true) ∧
      (d.HasWork → ∃ d', Drained d d') ∧
      d.written ++ d.outlet.connection.queue = d.queued ∧
      (d.place = .left → d.outlet.connection.disconnected = true ∧
        d.outlet.connection.queue = [] ∧ d.written = d.queued) := by
  have hKept := (kept_start id peer capacity).reaches hReaches
  refine ⟨hKept.wake_of_hasWork, fun hWork => ?_, hKept.books, fun hPlace => ?_⟩
  · exact hKept.drain (hKept.wake_of_hasWork hWork)
  · obtain ⟨hMarked, hQueue⟩ := hKept.left hPlace
    refine ⟨hMarked, hQueue, ?_⟩
    rw [← hKept.books, hQueue, List.append_nil]

/-- A message comes and is queued when the writer has just found nothing. -/
theorem not_left_waiting_raced :
    let first : Drain := { start 1 ⟨.localhost, 0, 7172⟩ 1 with place := .idle }
    let second := first.observe (first.outlet.enqueue [1]).2
    let d := second.observe second.outlet.flush.2
    Relation.ReflTransGen Step (start 1 ⟨.localhost, 0, 7172⟩ 1) d ∧ d.HasWork ∧ d.place.Waits ∧
      d.outlet.connection.wake = true := by
  intro first second d
  have hReaches : Relation.ReflTransGen Step (start 1 ⟨.localhost, 0, 7172⟩ 1) d := by
    refine .tail (.tail (.single (.inr (.look rfl))) (.inl (.act (.enqueue [1]) ?_ ?_)))
      (.inl (.act .flush ?_ ?_))
    all_goals simp
  have hSound : first.outlet.Sound := Outlet.sound_new 1 ⟨.localhost, 0, 7172⟩ 1
  have hQueue : d.outlet.connection.queue = _ :=
    hSound.queue_enqueue_flush rfl rfl (List.cons_ne_nil 1 []) (by decide)
  have hWork : d.HasWork := Or.inl (by simp [hQueue])
  exact ⟨hReaches, hWork, trivial, (not_left_waiting 1 _ 1 hReaches).1 hWork trivial⟩

/-! ## The tasks that run -/

theorem calls_close {s : Server} {id : ConnectionId}
    (hConnection : s.connection? id = some d.outlet.connection) (hPool : s.pool = d.outlet.pool) :
    ∃ d', Relation.ReflTransGen Calls d d' ∧
      (s.close id).connection? id = some d'.outlet.connection ∧
      (s.close id).pool = d'.outlet.pool := by
  obtain ⟨hAfter, hPoolAfter⟩ := Server.connection?_close hConnection
  have hOutlet : (⟨d.outlet.connection, s.pool⟩ : Outlet) = d.outlet := by rw [hPool]
  rw [hOutlet] at hAfter hPoolAfter
  by_cases hMarked : d.outlet.connection.disconnected = true
  · have hNothing : d.outlet.shut = (none, d.outlet) := if_pos hMarked
    rw [if_pos hMarked] at hAfter
    rw [hNothing] at hPoolAfter
    exact ⟨d, .refl, hAfter, hPoolAfter⟩
  · have hSome : d.outlet.shut.1.isSome = true := by
      rw [Outlet.shut, if_neg hMarked]
      rfl
    rw [if_neg hMarked] at hAfter
    have hTold := Calls.told (d := { d.observe d.outlet.shut.2 with
      closing := d.closing || d.outlet.shut.1.isSome }) (by simp [hSome])
    exact ⟨_, .head .shut (.single hTold), hAfter, hPoolAfter⟩

end Drain

namespace WriterPlace

/-- A writer task that is parked is about to wait or waits; one that finishes has left. -/
inductive Shows : WriterPlace → WriterPhase → Prop where
  | looking : Shows .looking .looking
  | idle : Shows .idle .parked
  | parked : Shows .parked .parked
  | writing (frame rest : Octets) (deadline : Nat) :
    Shows (.writing frame) (.writing frame rest deadline)
  | finishing : Shows .left .finishing
  | ended : Shows .left .ended

theorem shows_look (c : Connection) (deadline : Nat) :
    Shows (.look c) (WriterPhase.look c deadline) := by
  rw [look_eq, WriterPhase.look]
  cases c.queue with
  | cons frame queue => exact .writing frame frame deadline
  | nil =>
    cases c.disconnected with
    | true => exact .finishing
    | false => exact .idle

end WriterPlace

namespace Simulation.State

theorem line?_modifyLine {s : State} {l : Line} (hLine : s.line? l.id = some l) {f : Line → Line}
    (hId : ∀ l, (f l).id = l.id) : (s.modifyLine l.id f).line? l.id = some (f l) := by
  have hPredicate : (fun l' : Line => l'.id == l.id) ∘
      (fun l' => if l'.id == l.id then f l' else l') = fun l' => l'.id == l.id := by
    funext l'
    rw [Function.comp_apply]
    split
    · rw [hId]
    · rfl
  rw [line?] at hLine
  rw [line?, modifyLine, List.find?_map, hPredicate, hLine]
  simp

theorem dropStream_keeps (l : Line) :
    (dropStream l).id = l.id ∧ (dropStream l).writer = l.writer := by
  rw [dropStream]
  split <;> exact ⟨rfl, rfl⟩

structure Runs (s : State) (l : Line) (d : Drain) : Prop where
  line : s.line? l.id = some l
  connection : s.server.connection? l.id = some d.outlet.connection
  place : d.place.Shows l.writer

variable {s : State} {l : Line} {d : Drain}

theorem Runs.setWriter (h : Runs s l d) (server : Server) {writer : WriterPhase} (d' : Drain)
    (hConnection : server.connection? l.id = some d'.outlet.connection)
    (hPlace : d'.place.Shows writer) :
    ∃ l' : Line, l'.id = l.id ∧ Runs ({ s with server }.setWriter l.id writer) l' d' := by
  have hLine : ({ s with server } : State).line? l.id = some l := h.line
  obtain ⟨hId, hWriter⟩ := dropStream_keeps { l with writer }
  refine ⟨_, hId, ?_, ?_, ?_⟩
  · rw [hId]
    exact line?_modifyLine hLine fun l => (dropStream_keeps { l with writer }).1
  · rw [hId]
    exact hConnection
  · rw [hWriter]
    exact hPlace

theorem Runs.connection?_modify (h : Runs s l d) {f : Connection → Connection}
    (hId : ∀ c, (f c).id = c.id) :
    (s.server.modify l.id f).connection? l.id = some (f d.outlet.connection) := by
  rw [Server.connection?_modify (fun c hc => (hId c).trans hc), if_pos rfl, h.connection,
    Option.map_some]

theorem Runs.unpark (h : Runs s l d) (hUncut : s.isCutOff l.id = false)
    (hWriter : l.writer = .parked) :
    ∃ l' : Line, l'.id = l.id ∧ Runs (s.stepWriter l) l'
      { d.withConnection { d.outlet.connection with wake := false } with place := .looking } := by
  rw [State.stepWriter, hWriter]
  simp only [hUncut, Bool.false_eq_true, if_false]
  exact h.setWriter _ _ (h.connection?_modify fun _ => rfl) .looking

theorem Runs.withOutward (h : Runs s l d) (outward : Pipe) :
    Runs (s.modifyLine l.id fun l => { l with outward }) { l with outward } d where
  line := line?_modifyLine h.line fun _ => rfl
  connection := h.connection
  place := h.place

theorem id_frameSent (c : Connection) : c.frameSent.id = c.id := by
  rw [Connection.frameSent]
  split <;> rfl

/-- As long as nothing fails and the server goes on, a step of the writer task is what its writer
does, or a part of what is written at once there. -/
theorem Runs.stepWriter (h : Runs s l d) (hUp : d.outlet.connection.shutdown = false)
    (hReady : s.writerReady l = true) (hLooping : d.place ≠ .left)
    (hWhole : l.outward.isBroken = false)
    (hRoom : ∀ frame, d.place = .writing frame → 0 < l.outward.free) :
    ∃ (l' : Line) (d' : Drain), l'.id = l.id ∧ Relation.ReflTransGen Drain.Writes d d' ∧
      Runs (s.stepWriter l) l' d' := by
  have hUncut : s.isCutOff l.id = false := by
    rw [isCutOff, h.connection]
    exact hUp
  have hWake : l.writer = .parked → d.outlet.connection.wake = true := by
    intro hParked
    rw [writerReady, hParked, hUncut, h.connection] at hReady
    exact hReady
  have hPlace := h.place
  generalize hWhere : d.place = place at hPlace
  generalize hWriter : l.writer = phase at hPlace
  cases hPlace with
  | looking =>
    have hWrites : d.Writes _ := .look hWhere
    obtain ⟨l', hId, hNext⟩ := h.setWriter s.server
      { d with place := .look d.outlet.connection } h.connection (WriterPlace.shows_look _ _)
    rw [State.stepWriter, hWriter]
    simp only [h.connection]
    exact ⟨l', _, hId, .single hWrites, hNext⟩
  | idle =>
    obtain ⟨l', hId, hNext⟩ := h.unpark hUncut hWriter
    exact ⟨l', _, hId, .single (.pass hWhere (hWake hWriter)), hNext⟩
  | parked =>
    obtain ⟨l', hId, hNext⟩ := h.unpark hUncut hWriter
    exact ⟨l', _, hId, .single (.resume false hWhere (hWake hWriter)), hNext⟩
  | writing frame rest deadline =>
    have hStep : s.stepWriter l = s.writeOutward l frame rest deadline := by
      rw [State.stepWriter, hWriter]
      simp only [hUncut, hWhole, if_pos (hRoom frame hWhere), Bool.false_eq_true, if_false]
    have hWritten := h.withOutward (l.outward.write rest).2
    rw [hStep, writeOutward]
    by_cases hWhole : (l.outward.write rest).1.isEmpty = true
    · obtain ⟨l', hId, hNext⟩ := hWritten.setWriter _
        { d.withConnection d.outlet.connection.frameSent with
          place := .looking, written := d.written ++ [frame] }
        (h.connection?_modify id_frameSent) .looking
      simp only [if_pos hWhole]
      exact ⟨l', _, hId, .single (.finish frame hWhere), hNext⟩
    · have hPlace : d.place.Shows (.writing frame (l.outward.write rest).1 deadline) :=
        hWhere ▸ .writing frame _ deadline
      obtain ⟨l', hId, hNext⟩ := hWritten.setWriter s.server d h.connection hPlace
      simp only [if_neg hWhole]
      exact ⟨l', d, hId, .refl, hNext⟩
  | finishing => exact absurd hWhere hLooping
  | ended => exact absurd hWhere hLooping

end Simulation.State

end Gatehouse
