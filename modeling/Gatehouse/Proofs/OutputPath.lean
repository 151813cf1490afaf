import Gatehouse.Connection.Basic
import Gatehouse.Proofs.Sealing

/-!
# The output path

What the steps on the way out of a connection do, in terms of payloads: each either adds to the
payload that is being gathered or puts the frame of a payload into the queue. Which buffers carry
the payloads, and what they carried before, makes no difference.
-/

namespace Gatehouse

open Wire

namespace Connection

def frameOf (c : Connection) (payload : Octets) : Octets :=
  match c.key? with
  | none => plainFrame payload
  | some key => sealedFrame key c.mode (c.sendSequence + 1) payload

/-- The connection once a frame has been sealed. -/
def counted (c : Connection) : Connection :=
  match c.key? with
  | none => c
  | some _ => { c with sendSequence := c.sendSequence + 1 }

def put (c : Connection) (payload : Octets) : Connection :=
  c.counted.push (c.frameOf payload)

/-- What counting and queueing leave alone. -/
structure SameBut (c d : Connection) : Prop where
  id : d.id = c.id
  current? : d.current? = c.current?
  key? : d.key? = c.key?
  mode : d.mode = c.mode
  session? : d.session? = c.session?
  disconnected : d.disconnected = c.disconnected

theorem sameBut_push (c : Connection) (frame : Octets) : SameBut c (c.push frame) := by
  rw [push]
  split <;> exact ⟨rfl, rfl, rfl, rfl, rfl, rfl⟩

theorem sameBut_put (c : Connection) (payload : Octets) : SameBut c (c.put payload) := by
  have hPush := sameBut_push c.counted (c.frameOf payload)
  have hCounted : SameBut c c.counted := by
    rw [counted]
    split <;> exact ⟨rfl, rfl, rfl, rfl, rfl, rfl⟩
  exact ⟨hPush.id.trans hCounted.id, hPush.current?.trans hCounted.current?,
    hPush.key?.trans hCounted.key?, hPush.mode.trans hCounted.mode,
    hPush.session?.trans hCounted.session?, hPush.disconnected.trans hCounted.disconnected⟩

theorem queue_put (c : Connection) (payload : Octets) :
    (c.put payload).queue = c.queue ++ [c.frameOf payload] := by
  have hCounted : c.counted.queue = c.queue := by
    rw [counted]
    split <;> rfl
  rw [put, push, ← hCounted]
  split <;> rfl

theorem counters_put (c : Connection) (payload : Octets) :
    (c.put payload).framesSent = c.framesSent ∧
      (c.put payload).framesQueued = c.framesQueued + 1 := by
  have hCounted : c.counted.framesSent = c.framesSent ∧
      c.counted.framesQueued = c.framesQueued := by
    rw [counted]
    split <;> exact ⟨rfl, rfl⟩
  rw [put, push, ← hCounted.1, ← hCounted.2]
  split <;> exact ⟨rfl, rfl⟩

theorem clear_current {c : Connection} (hCurrent : c.current? = none) :
    { c with current? := none } = c := by
  cases c
  cases hCurrent
  rfl

theorem sealFrame_eq {b : FrameBuffer} (hb : b.WellFormed) (c : Connection) :
    ∃ next : FrameBuffer, next.WellFormed ∧
      c.sealFrame b = (c.frameOf b.payload, next, c.counted) := by
  rw [sealFrame, frameOf, counted]
  cases c.key? with
  | none =>
    obtain ⟨hFrame, hNext, -⟩ := FrameBuffer.sealPlain_eq hb
    exact ⟨b.sealPlain.2, hNext, by rw [← hFrame]⟩
  | some key =>
    obtain ⟨hFrame, hNext, -⟩ := FrameBuffer.sealEncrypted_eq hb key c.mode (c.sendSequence + 1)
    exact ⟨_, hNext, by simp only [← hFrame]⟩

end Connection

/-! ## Buffers -/

/-- Buffers that are free are empty, whatever their stores hold. -/
def BufferPool.Sound (pool : BufferPool) : Prop :=
  ∀ b ∈ pool.free, b.buffer.WellFormed ∧ b.buffer.size = 0

theorem BufferPool.sound_ofCapacity (capacity : Nat) : (ofCapacity capacity).Sound := by
  intro b hb
  cases hb

theorem BufferPool.Sound.release {pool : BufferPool} (hPool : pool.Sound) {b : PooledBuffer}
    (hb : b.buffer.WellFormed) : (pool.release b).Sound := by
  rw [BufferPool.release]
  split
  · intro d hd
    rcases List.mem_append.mp hd with hd | hd
    · exact hPool d hd
    · cases List.mem_singleton.mp hd
      exact ⟨hb.clear, rfl⟩
  · exact hPool

theorem BufferPool.Sound.acquire {pool : BufferPool} (hPool : pool.Sound) :
    pool.acquire.1.buffer.WellFormed ∧ pool.acquire.1.buffer.size = 0 ∧
      pool.acquire.2.Sound := by
  rw [BufferPool.acquire]
  cases hFree : pool.free with
  | nil =>
    refine ⟨FrameBuffer.wellFormed_empty, rfl, ?_⟩
    intro d hd
    cases hd
  | cons b free =>
    obtain ⟨hb, hSize⟩ := hPool b (hFree ▸ List.mem_cons_self)
    refine ⟨hb, hSize, ?_⟩
    intro d hd
    exact hPool d (hFree ▸ List.mem_cons_of_mem b hd)

namespace Outlet

def pending (o : Outlet) : Octets :=
  match o.connection.current? with
  | some b => b.buffer.payload
  | none => []

structure Sound (o : Outlet) : Prop where
  buffer : ∀ b, o.connection.current? = some b → b.buffer.WellFormed
  pool : o.pool.Sound

theorem sound_new (id : ConnectionId) (peer : SocketAddress) (capacity : Nat) :
    Sound { connection := .new id peer, pool := .ofCapacity capacity } :=
  ⟨fun _ hb => (nomatch hb), BufferPool.sound_ofCapacity capacity⟩

theorem queueBuffer_eq {o : Outlet} (hPool : o.pool.Sound) {b : PooledBuffer}
    (hb : b.buffer.WellFormed) :
    (o.queueBuffer b).connection = o.connection.put b.buffer.payload ∧
      (o.queueBuffer b).pool.Sound := by
  obtain ⟨next, hNext, hSeal⟩ := Connection.sealFrame_eq hb o.connection
  rw [queueBuffer, hSeal]
  exact ⟨rfl, hPool.release hNext⟩

theorem isEmpty_iff_payload {b : FrameBuffer} (hb : b.WellFormed) :
    b.isEmpty = true ↔ b.payload = [] := by
  rw [FrameBuffer.isEmpty, beq_iff_eq, ← hb.length_payload, List.length_eq_zero_iff]

def finalized (o : Outlet) : Connection :=
  let c := { o.connection with current? := none }
  if o.pending = [] then c else c.put o.pending

theorem Sound.finalize {o : Outlet} (ho : o.Sound) :
    o.finalize.2.connection = o.finalized ∧ o.finalize.2.pool.Sound ∧
      (o.finalize.1 = true ↔ o.pending ≠ []) := by
  cases hCurrent : o.connection.current? with
  | none =>
    have hPending : o.pending = [] := by rw [pending, hCurrent]
    have hNothing : o.finalize = (false, o) := by rw [Outlet.finalize, hCurrent]
    rw [hNothing, finalized, if_pos hPending, Connection.clear_current hCurrent]
    exact ⟨rfl, ho.pool, by simp [hPending]⟩
  | some b =>
    have hb := ho.buffer b hCurrent
    have hPending : o.pending = b.buffer.payload := by rw [pending, hCurrent]
    rw [finalized, hPending]
    by_cases hEmpty : b.buffer.payload = []
    · have hFlag : b.buffer.isEmpty = true := (isEmpty_iff_payload hb).mpr hEmpty
      simp only [Outlet.finalize, hCurrent, hFlag, if_pos, if_pos hEmpty]
      exact ⟨trivial, ho.pool.release hb, by simp [hEmpty]⟩
    · have hFlag : ¬ b.buffer.isEmpty = true := fun h => hEmpty ((isEmpty_iff_payload hb).mp h)
      simp only [Outlet.finalize, hCurrent, if_neg hFlag, if_neg hEmpty]
      obtain ⟨hConnection, hPool⟩ := queueBuffer_eq (b := b)
        (o := ⟨{ o.connection with current? := none }, o.pool⟩) ho.pool hb
      exact ⟨hConnection, hPool, by simp [hEmpty]⟩

theorem current?_finalized (o : Outlet) : o.finalized.current? = none := by
  rw [finalized]
  split
  · rfl
  · exact (Connection.sameBut_put _ _).current?

theorem disconnected_finalized (o : Outlet) :
    o.finalized.disconnected = o.connection.disconnected := by
  rw [finalized]
  split
  case isTrue => rfl
  case isFalse => exact (Connection.sameBut_put _ _).disconnected

theorem Sound.finalize_sound {o : Outlet} (ho : o.Sound) : o.finalize.2.Sound := by
  obtain ⟨hConnection, hPool, -⟩ := ho.finalize
  refine ⟨fun b hb => ?_, hPool⟩
  rw [hConnection, current?_finalized] at hb
  cases hb

def HasRoom (o : Outlet) (message : Octets) : Prop :=
  o.pending.length + message.length ≤ maxPayload

instance (o : Outlet) (message : Octets) : Decidable (o.HasRoom message) :=
  inferInstanceAs (Decidable (_ ≤ _))

theorem Sound.current {o : Outlet} (ho : o.Sound) :
    o.current.1.buffer.WellFormed ∧ o.current.1.buffer.payload = o.pending ∧
      o.current.2.Sound := by
  rw [Outlet.current, pending]
  cases hCurrent : o.connection.current? with
  | none =>
    obtain ⟨hb, hSize, hPool⟩ := ho.pool.acquire
    exact ⟨hb, FrameBuffer.payload_of_size_eq_zero hSize, hPool⟩
  | some b => exact ⟨ho.buffer b hCurrent, rfl, ho.pool⟩

/-- Whether the current buffer has to be queued before a message. -/
def isFull (o : Outlet) (message : Octets) : Bool :=
  match o.connection.current? with
  | some b => !b.buffer.fits message.length
  | none => false

theorem Sound.isFull_iff {o : Outlet} (ho : o.Sound) {message : Octets}
    (hMessage : message.length ≤ maxPayload) :
    o.isFull message = true ↔ ¬ o.HasRoom message := by
  rw [isFull, HasRoom, pending]
  cases hCurrent : o.connection.current? with
  | none => simpa using hMessage
  | some b =>
    have hFits := FrameBuffer.fits_iff (ho.buffer b hCurrent) message.length
    simp only [Bool.not_eq_true', ← hFits, Bool.not_eq_true]

/-- The outlet with the buffer that a message goes into. -/
def ready (o : Outlet) (message : Octets) : Outlet :=
  if o.isFull message then o.finalize.2 else o

theorem Sound.ready {o : Outlet} (ho : o.Sound) {message : Octets}
    (hMessage : message.length ≤ maxPayload) :
    (o.ready message).Sound ∧
      (o.ready message).pending = (if o.HasRoom message then o.pending else []) ∧
      (o.ready message).connection =
        if o.HasRoom message then o.connection else o.finalized := by
  have hFull := ho.isFull_iff hMessage
  rw [Outlet.ready]
  split
  case isTrue h =>
    obtain ⟨hConnection, -, -⟩ := ho.finalize
    rw [if_neg (hFull.mp h), if_neg (hFull.mp h)]
    refine ⟨ho.finalize_sound, ?_, hConnection⟩
    rw [pending, hConnection, current?_finalized]
  case isFalse h =>
    have hRoom : o.HasRoom message := Decidable.not_not.mp fun hNot => h (hFull.mpr hNot)
    rw [if_pos hRoom, if_pos hRoom]
    exact ⟨ho, rfl, rfl⟩

def added (message : Octets) (o : Outlet) : Bool × Outlet :=
  match o.current.1.buffer.append? message with
  | some buffer =>
    (true,
      { connection := { o.connection with current? := some { o.current.1 with buffer } }
        pool := o.current.2 })
  | none =>
    (false,
      { connection := { o.connection with current? := some o.current.1 }, pool := o.current.2 })

theorem enqueue_eq_added {o : Outlet} {message : Octets}
    (hTaken : ¬ (maxPayload < message.length ∨ o.connection.disconnected = true)) :
    o.enqueue message = (o.ready message).added message :=
  if_neg hTaken

/-- An open connection takes every message that fits into a frame. Where it does not fit behind the
others, their frame is queued first. -/
theorem Sound.enqueue {o : Outlet} (ho : o.Sound) {message : Octets}
    (hOpen : o.connection.disconnected = false) (hMessage : message.length ≤ maxPayload) :
    ∃ b : PooledBuffer, b.buffer.WellFormed ∧
      b.buffer.payload = (if o.HasRoom message then o.pending else []) ++ message ∧
      (o.enqueue message).1 = true ∧ (o.enqueue message).2.pool.Sound ∧
      (o.enqueue message).2.connection =
        { (if o.HasRoom message then o.connection else o.finalized) with current? := some b } := by
  obtain ⟨hReady, hPending, hConnection⟩ := ho.ready hMessage
  obtain ⟨hb, hPayload, hPool⟩ := hReady.current
  rw [hPending] at hPayload
  have hTaken : ¬ (maxPayload < message.length ∨ o.connection.disconnected = true) := by
    rw [hOpen]
    simpa using hMessage
  obtain ⟨c, hAppend⟩ : ∃ c, (o.ready message).current.1.buffer.append? message = some c := by
    rw [← Option.isSome_iff_exists, Option.isSome_iff_ne_none, Ne,
      FrameBuffer.append?_eq_none_iff hb, hPayload]
    split
    case isTrue hRoom => exact Nat.not_lt.mpr hRoom
    case isFalse => simpa using hMessage
  obtain ⟨hc, hNew⟩ := hb.append hAppend
  refine ⟨{ (o.ready message).current.1 with buffer := c }, hc, by rw [hNew, hPayload], ?_⟩
  rw [enqueue_eq_added hTaken, added, hAppend]
  exact ⟨rfl, hPool, by rw [← hConnection]⟩

theorem enqueue_refused {o : Outlet} {message : Octets}
    (hRefused : maxPayload < message.length ∨ o.connection.disconnected = true) :
    o.enqueue message = (false, o) :=
  if_pos hRefused

end Outlet

/-! ## What stays the same -/

/-- A view on a connection that shows nothing of the buffer, the frames and how they are counted. -/
structure Connection.Unmoved {β : Type} (view : Connection → β) : Prop where
  sealFrame : ∀ c b, view (c.sealFrame b).2.2 = view c
  push : ∀ c frame, view (c.push frame) = view c
  current? : ∀ c b?, view { c with current? := b? } = view c

namespace Outlet

variable {β : Type} {view : Connection → β}

theorem view_finalize (hView : Connection.Unmoved view) (o : Outlet) :
    view o.finalize.2.connection = view o.connection := by
  rw [finalize]
  split
  case h_1 => rfl
  case h_2 b _ =>
    dsimp only
    split
    case isTrue => exact hView.current? _ _
    case isFalse =>
      rw [queueBuffer]
      exact (hView.push _ _).trans ((hView.sealFrame _ _).trans (hView.current? _ _))

theorem view_flush (hView : Connection.Unmoved view) (o : Outlet) :
    view o.flush.2.connection = view o.connection := by
  rw [flush]
  split
  · rfl
  · exact o.view_finalize hView

theorem view_enqueue (hView : Connection.Unmoved view) (o : Outlet) (message : Octets) :
    view (o.enqueue message).2.connection = view o.connection := by
  have hReady : view (o.ready message).connection = view o.connection := by
    rw [ready]
    split
    · exact o.view_finalize hView
    · rfl
  by_cases hRefused : maxPayload < message.length ∨ o.connection.disconnected = true
  · rw [enqueue_refused hRefused]
  · rw [enqueue_eq_added hRefused, added, ← hReady]
    split
    · exact hView.current? _ _
    · exact hView.current? _ _

end Outlet

/-! ## Runs -/

namespace Connection

/-- The frames that a connection with this key and mode may send. -/
def Emits (c : Connection) (frame : Octets) : Prop :=
  ∃ sequence payload, payload ≠ [] ∧ payload.length ≤ maxPayload ∧
    frame = frameOf { c with sendSequence := sequence } payload

/-- The key stays, and what comes into the queue are frames for it. -/
structure Extends (c d : Connection) : Prop where
  key? : d.key? = c.key?
  mode : d.mode = c.mode
  queue : ∀ frame ∈ d.queue, frame ∈ c.queue ∨ c.Emits frame

theorem Extends.of_queue_subset {c d : Connection} (hKey : d.key? = c.key?)
    (hMode : d.mode = c.mode) (hQueue : d.queue ⊆ c.queue) : Extends c d :=
  ⟨hKey, hMode, fun _ hFrame => Or.inl (hQueue hFrame)⟩

theorem Extends.trans {c d e : Connection} (hFirst : Extends c d) (hSecond : Extends d e) :
    Extends c e := by
  refine ⟨hSecond.key?.trans hFirst.key?, hSecond.mode.trans hFirst.mode, ?_⟩
  intro frame hFrame
  rcases hSecond.queue frame hFrame with hFrame | ⟨sequence, payload, hPayload, hLength, rfl⟩
  · exact hFirst.queue frame hFrame
  · refine Or.inr ⟨sequence, payload, hPayload, hLength, ?_⟩
    simp only [frameOf, hFirst.key?, hFirst.mode]

theorem Extends.put {c : Connection} {payload : Octets} (hPayload : payload ≠ [])
    (hLength : payload.length ≤ maxPayload) : Extends c (c.put payload) := by
  have hSame := sameBut_put c payload
  refine ⟨hSame.key?, hSame.mode, ?_⟩
  intro frame hFrame
  rw [queue_put] at hFrame
  rcases List.mem_append.mp hFrame with hFrame | hFrame
  · exact Or.inl hFrame
  · exact Or.inr ⟨c.sendSequence, payload, hPayload, hLength, List.mem_singleton.mp hFrame⟩

theorem Extends.frameSent (c : Connection) : Extends c c.frameSent := by
  rw [Connection.frameSent]
  split
  case h_1 => exact .of_queue_subset rfl rfl (List.Subset.refl _)
  case h_2 frame queue hQueue =>
    exact .of_queue_subset rfl rfl (hQueue ▸ List.subset_cons_self frame queue)

end Connection

namespace Outlet

open Connection (Extends)

theorem Sound.length_pending_le {o : Outlet} (ho : o.Sound) : o.pending.length ≤ maxPayload := by
  rw [pending]
  split
  case h_1 b hCurrent => exact (ho.buffer b hCurrent).length_payload_le
  case h_2 => exact Nat.zero_le _

theorem Sound.extends_finalized {o : Outlet} (ho : o.Sound) :
    Extends o.connection o.finalized := by
  rw [finalized]
  split
  case isTrue => exact .of_queue_subset rfl rfl (List.Subset.refl _)
  case isFalse hPending =>
    have hCleared : Extends o.connection { o.connection with current? := none } :=
      .of_queue_subset rfl rfl (List.Subset.refl _)
    exact hCleared.trans (.put hPending ho.length_pending_le)

inductive Act where
  | enqueue (message : Octets)
  /-- A buffer that was filled elsewhere. -/
  | enqueueBuffer (b : PooledBuffer) (hb : b.buffer.WellFormed)
  | flush
  | shut
  | frameSent
  /-- Other connections take buffers and give them back. -/
  | others (pool : BufferPool) (hPool : pool.Sound)

/-- The answer is whether the step was accepted. -/
def Act.perform (o : Outlet) : Act → Bool × Outlet
  | enqueue message => o.enqueue message
  | enqueueBuffer b _ => o.enqueueBuffer b
  | flush => o.flush
  | shut => (o.shut.1.isSome, o.shut.2)
  | frameSent => (true, { o with connection := o.connection.frameSent })
  | others pool _ => (true, { o with pool })

def run (o : Outlet) (acts : List Act) : Outlet :=
  acts.foldl (fun o act => (act.perform o).2) o

theorem Sound.extends_enqueue {o : Outlet} (ho : o.Sound) (message : Octets) :
    (o.enqueue message).2.Sound ∧ Extends o.connection (o.enqueue message).2.connection := by
  by_cases hRefused : maxPayload < message.length ∨ o.connection.disconnected = true
  · rw [enqueue_refused hRefused]
    exact ⟨ho, .of_queue_subset rfl rfl (List.Subset.refl _)⟩
  · rw [not_or, Nat.not_lt, Bool.not_eq_true] at hRefused
    obtain ⟨b, hb, -, -, hPool, hConnection⟩ := ho.enqueue hRefused.2 hRefused.1
    refine ⟨⟨fun d hd => ?_, hPool⟩, ?_⟩
    · rw [hConnection] at hd
      cases hd
      exact hb
    · rw [hConnection]
      have hCurrent : ∀ c : Connection, Extends c { c with current? := some b } :=
        fun c => .of_queue_subset rfl rfl (List.Subset.refl _)
      split
      · exact hCurrent _
      · exact ho.extends_finalized.trans (hCurrent _)

theorem Sound.extends_enqueueBuffer {o : Outlet} (ho : o.Sound) {b : PooledBuffer}
    (hb : b.buffer.WellFormed) :
    (o.enqueueBuffer b).2.Sound ∧ Extends o.connection (o.enqueueBuffer b).2.connection := by
  rw [Outlet.enqueueBuffer]
  split
  case isTrue =>
    exact ⟨⟨ho.buffer, ho.pool.release hb⟩, .of_queue_subset rfl rfl (List.Subset.refl _)⟩
  case isFalse hTaken =>
    have hPayload : b.buffer.payload ≠ [] := by
      rw [Ne, ← isEmpty_iff_payload hb]
      exact fun hEmpty => hTaken (Or.inr hEmpty)
    obtain ⟨hFinalized, hFinalizedPool, -⟩ := ho.finalize
    obtain ⟨hConnection, hPool⟩ := queueBuffer_eq hFinalizedPool hb
    rw [hFinalized] at hConnection
    refine ⟨⟨fun d hd => ?_, hPool⟩, ?_⟩
    · rw [hConnection, (Connection.sameBut_put _ _).current?, current?_finalized] at hd
      cases hd
    · rw [hConnection]
      exact ho.extends_finalized.trans (.put hPayload hb.length_payload_le)

theorem Sound.perform {o : Outlet} (ho : o.Sound) (act : Act) :
    (act.perform o).2.Sound ∧ Extends o.connection (act.perform o).2.connection := by
  have hSelf : Extends o.connection o.connection :=
    .of_queue_subset rfl rfl (List.Subset.refl _)
  obtain ⟨hFinalized, hFinalizedPool, -⟩ := ho.finalize
  cases act with
  | enqueue message => exact ho.extends_enqueue message
  | enqueueBuffer b hb => exact ho.extends_enqueueBuffer hb
  | flush =>
    rw [Act.perform, Outlet.flush]
    split
    · exact ⟨ho, hSelf⟩
    · exact ⟨ho.finalize_sound, hFinalized ▸ ho.extends_finalized⟩
  | shut =>
    rw [Act.perform, Outlet.shut]
    split
    · exact ⟨ho, hSelf⟩
    · have hClosed : Extends o.finalize.2.connection
          { o.finalize.2.connection with disconnected := true, session? := none } :=
        .of_queue_subset rfl rfl (List.Subset.refl _)
      refine ⟨⟨ho.finalize_sound.buffer, hFinalizedPool⟩, ?_⟩
      exact (hFinalized ▸ ho.extends_finalized).trans hClosed
  | frameSent =>
    refine ⟨⟨?_, ho.pool⟩, .frameSent o.connection⟩
    intro b hb
    apply ho.buffer b
    rw [← hb, Act.perform, Connection.frameSent]
    split <;> rfl
  | others pool hPool => exact ⟨⟨ho.buffer, hPool⟩, hSelf⟩

theorem Sound.run {o : Outlet} (ho : o.Sound) (acts : List Act) :
    (o.run acts).Sound ∧ Extends o.connection (o.run acts).connection := by
  induction acts generalizing o with
  | nil => exact ⟨ho, .of_queue_subset rfl rfl (List.Subset.refl _)⟩
  | cons act acts ih =>
    obtain ⟨hNext, hStep⟩ := ho.perform act
    obtain ⟨hLast, hRest⟩ := ih hNext
    exact ⟨hLast, hStep.trans hRest⟩

/-- A message that comes alone goes out alone. -/
theorem Sound.queue_enqueue_flush {o : Outlet} (ho : o.Sound) {message : Octets}
    (hOpen : o.connection.disconnected = false) (hPending : o.pending = [])
    (hMessage : message ≠ []) (hLength : message.length ≤ maxPayload) :
    (o.run [.enqueue message, .flush]).connection.queue =
      o.connection.queue ++ [o.connection.frameOf message] := by
  have hRoom : o.HasRoom message := by
    rw [HasRoom, hPending, List.length_nil, Nat.zero_add]
    exact hLength
  obtain ⟨b, -, hPayload, -, -, hConnection⟩ := ho.enqueue hOpen hLength
  rw [if_pos hRoom, hPending, List.nil_append] at hPayload
  rw [if_pos hRoom] at hConnection
  have hNext : (o.enqueue message).2.Sound := (ho.perform (.enqueue message)).1
  have hGathered : (o.enqueue message).2.pending = message := by
    rw [pending, hConnection]
    exact hPayload
  have hStillOpen : ¬ (o.enqueue message).2.connection.disconnected = true := by
    rw [hConnection]
    simp [hOpen]
  change ((o.enqueue message).2.flush).2.connection.queue = _
  rw [Outlet.flush, if_neg hStillOpen, hNext.finalize.1, finalized, hGathered, if_neg hMessage,
    Connection.queue_put, hConnection]
  rfl

end Outlet

end Gatehouse
