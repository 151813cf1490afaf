import Gatehouse.Proofs.OutputPath

/-!
# What goes into the queue

Whatever is done to a connection, its frames change in one of two ways: payloads are sealed one
after the other and put behind the frames that wait, or the first of these has been sent. Everything
that depends on the order of the frames follows from this.
-/

namespace Gatehouse

open Wire

namespace Connection

/-- What sealing and queueing look at. -/
structure SameFrames (c d : Connection) : Prop where
  queue : d.queue = c.queue
  key? : d.key? = c.key?
  mode : d.mode = c.mode
  sendSequence : d.sendSequence = c.sendSequence
  wake : d.wake = c.wake
  framesQueued : d.framesQueued = c.framesQueued

theorem SameFrames.refl (c : Connection) : SameFrames c c :=
  ⟨rfl, rfl, rfl, rfl, rfl, rfl⟩

theorem SameFrames.trans {c d e : Connection} (hFirst : SameFrames c d)
    (hSecond : SameFrames d e) : SameFrames c e where
  queue := hSecond.queue.trans hFirst.queue
  key? := hSecond.key?.trans hFirst.key?
  mode := hSecond.mode.trans hFirst.mode
  sendSequence := hSecond.sendSequence.trans hFirst.sendSequence
  wake := hSecond.wake.trans hFirst.wake
  framesQueued := hSecond.framesQueued.trans hFirst.framesQueued

theorem SameFrames.put {c d : Connection} (h : SameFrames c d) (payload : Octets) :
    SameFrames (c.put payload) (d.put payload) := by
  obtain ⟨hQueue, hKey, hMode, hSequence, hWake, hQueued⟩ := h
  have hFrame : d.frameOf payload = c.frameOf payload := by
    simp only [frameOf, hKey, hMode, hSequence]
  have hCounted : SameFrames c.counted d.counted := by
    cases hKeys : c.key? with
    | none =>
      simp only [counted, hKey, hKeys]
      exact ⟨hQueue, hKey, hMode, hSequence, hWake, hQueued⟩
    | some key =>
      simp only [counted, hKey, hKeys]
      exact ⟨hQueue, rfl, hMode, congrArg (· + 1) hSequence, hWake, hQueued⟩
  obtain ⟨hQueue, hKey, hMode, hSequence, hWake, hQueued⟩ := hCounted
  rw [Connection.put, Connection.put, push, push, hFrame, hQueue]
  split
  · exact ⟨rfl, hKey, hMode, hSequence, rfl, congrArg (· + 1) hQueued⟩
  · exact ⟨rfl, hKey, hMode, hSequence, hWake, congrArg (· + 1) hQueued⟩

/-- The connection once each of these payloads has been put into the queue. -/
def putAll (c : Connection) (payloads : List Octets) : Connection :=
  payloads.foldl put c

theorem putAll_concat (c : Connection) (payloads : List Octets) (payload : Octets) :
    c.putAll (payloads ++ [payload]) = (c.putAll payloads).put payload :=
  List.foldl_append ..

theorem sendSequence_put (c : Connection) (payload : Octets) :
    (c.put payload).sendSequence = c.counted.sendSequence := by
  rw [put, push]
  split <;> rfl

/-- The writer is told when there is a first frame. -/
theorem wake_put (c : Connection) (payload : Octets) :
    (c.put payload).wake = (c.wake || c.queue.isEmpty) := by
  have hCounted : c.counted.wake = c.wake ∧ c.counted.queue = c.queue := by
    rw [counted]
    split <;> exact ⟨rfl, rfl⟩
  rw [put, push, ← hCounted.1, ← hCounted.2]
  cases c.counted.queue.isEmpty <;> simp [notify]

theorem framesQueued_putAll (c : Connection) (payloads : List Octets) :
    (c.putAll payloads).framesQueued = c.framesQueued + payloads.length := by
  induction payloads generalizing c with
  | nil => rfl
  | cons payload payloads ih =>
    rw [putAll, List.foldl_cons, ← putAll, ih, (counters_put c payload).2, List.length_cons]
    omega

/-- Frames have been put behind those that were there, and if there were none the writer has been
told. -/
structure Grows (c d : Connection) (frames : List Octets) : Prop where
  queue : d.queue = c.queue ++ frames
  still : d.wake = false → c.wake = false
  told : d.wake = false → c.queue = [] → frames = []

theorem grows_put (c : Connection) (payload : Octets) :
    Grows c (c.put payload) [c.frameOf payload] := by
  refine ⟨queue_put c payload, fun hWake => ?_, fun hWake hQueue => ?_⟩
  · rw [wake_put, Bool.or_eq_false_iff] at hWake
    exact hWake.1
  · rw [wake_put, hQueue, Bool.or_eq_false_iff] at hWake
    exact nomatch hWake.2

theorem Grows.trans {c d e : Connection} {first second : List Octets} (hFirst : Grows c d first)
    (hSecond : Grows d e second) : Grows c e (first ++ second) := by
  refine ⟨?_, fun hWake => hFirst.still (hSecond.still hWake), fun hWake hQueue => ?_⟩
  · rw [hSecond.queue, hFirst.queue, List.append_assoc]
  · have hNone := hFirst.told (hSecond.still hWake) hQueue
    have hEmpty : d.queue = [] := by rw [hFirst.queue, hQueue, hNone, List.append_nil]
    rw [hNone, hSecond.told hWake hEmpty, List.append_nil]

theorem grows_putAll (c : Connection) (payloads : List Octets) :
    ∃ frames, Grows c (c.putAll payloads) frames ∧ frames.length = payloads.length := by
  induction payloads generalizing c with
  | nil => exact ⟨[], ⟨(List.append_nil _).symm, fun hWake => hWake, fun _ _ => rfl⟩, rfl⟩
  | cons payload payloads ih =>
    obtain ⟨frames, hGrows, hLength⟩ := ih (c.put payload)
    exact ⟨_, (c.grows_put payload).trans hGrows, congrArg (· + 1) hLength⟩

end Connection

namespace Outlet

open Connection (SameFrames)

/-- What queueing the current buffer sends out: nothing if nothing has been gathered. -/
def leaving (o : Outlet) : List Octets :=
  if o.pending = [] then [] else [o.pending]

theorem sameFrames_finalized (o : Outlet) :
    SameFrames (o.connection.putAll o.leaving) o.finalized := by
  rw [finalized, leaving]
  split
  case isTrue => exact ⟨rfl, rfl, rfl, rfl, rfl, rfl⟩
  case isFalse =>
    have hCleared : SameFrames o.connection { o.connection with current? := none } :=
      ⟨rfl, rfl, rfl, rfl, rfl, rfl⟩
    exact hCleared.put o.pending

/-- Payloads that a frame can hold and that are worth a frame. -/
def Payloads (payloads : List Octets) : Prop :=
  ∀ payload ∈ payloads, payload ≠ [] ∧ payload.length ≤ maxPayload

theorem payloads_nil : Payloads [] :=
  fun _ hPayload => nomatch hPayload

theorem Payloads.concat {payloads : List Octets} (hPayloads : Payloads payloads) {payload : Octets}
    (hSome : payload ≠ []) (hLength : payload.length ≤ maxPayload) :
    Payloads (payloads ++ [payload]) := by
  intro other hOther
  rcases List.mem_append.mp hOther with hOther | hOther
  · exact hPayloads other hOther
  · rw [List.mem_singleton.mp hOther]
    exact ⟨hSome, hLength⟩

theorem Sound.payloads_leaving {o : Outlet} (ho : o.Sound) : Payloads o.leaving := by
  rw [leaving]
  split
  case isTrue => exact payloads_nil
  case isFalse hSome => exact payloads_nil.concat hSome ho.length_pending_le

/-- A step that puts these payloads into the queue, in this order. A closed connection gets none. -/
structure Posts (o o' : Outlet) (payloads : List Octets) : Prop where
  fitting : Payloads payloads
  frames : SameFrames (o.connection.putAll payloads) o'.connection
  closed : o.connection.disconnected = true → payloads = []

theorem posts_nothing {o o' : Outlet} (hFrames : SameFrames o.connection o'.connection) :
    Posts o o' [] :=
  ⟨payloads_nil, hFrames, fun _ => rfl⟩

theorem Posts.grows {o o' : Outlet} {payloads : List Octets} (h : Posts o o' payloads) :
    ∃ frames, o.connection.Grows o'.connection frames ∧
      (o.connection.disconnected = true → frames = []) := by
  obtain ⟨frames, hGrows, hLength⟩ := o.connection.grows_putAll payloads
  refine ⟨frames, ⟨?_, fun hWake => ?_, fun hWake => ?_⟩, fun hClosed => ?_⟩
  · rw [h.frames.queue, hGrows.queue]
  · exact hGrows.still (h.frames.wake.symm.trans hWake)
  · exact hGrows.told (h.frames.wake.symm.trans hWake)
  · rw [h.closed hClosed] at hLength
    exact List.eq_nil_of_length_eq_zero hLength

theorem Sound.posts_finalized {o o' : Outlet} (ho : o.Sound)
    (hOpen : o.connection.disconnected = false)
    (hFrames : SameFrames o.finalized o'.connection) : Posts o o' o.leaving where
  fitting := ho.payloads_leaving
  frames := o.sameFrames_finalized.trans hFrames
  closed hClosed := absurd (hOpen.symm.trans hClosed) Bool.false_ne_true

theorem Sound.posts_enqueue {o : Outlet} (ho : o.Sound) (message : Octets) :
    ∃ payloads, Posts o (o.enqueue message).2 payloads := by
  by_cases hRefused : maxPayload < message.length ∨ o.connection.disconnected = true
  · rw [enqueue_refused hRefused]
    exact ⟨[], posts_nothing (.refl _)⟩
  · rw [not_or, Nat.not_lt, Bool.not_eq_true] at hRefused
    obtain ⟨b, -, -, -, -, hConnection⟩ := ho.enqueue hRefused.2 hRefused.1
    by_cases hRoom : o.HasRoom message
    · refine ⟨[], posts_nothing ?_⟩
      rw [hConnection, if_pos hRoom]
      exact ⟨rfl, rfl, rfl, rfl, rfl, rfl⟩
    · refine ⟨o.leaving, ho.posts_finalized hRefused.2 ?_⟩
      rw [hConnection, if_neg hRoom]
      exact ⟨rfl, rfl, rfl, rfl, rfl, rfl⟩

theorem Sound.posts_enqueueBuffer {o : Outlet} (ho : o.Sound) {b : PooledBuffer}
    (hb : b.buffer.WellFormed) : ∃ payloads, Posts o (o.enqueueBuffer b).2 payloads := by
  rw [Outlet.enqueueBuffer]
  split
  case isTrue => exact ⟨[], posts_nothing (.refl _)⟩
  case isFalse hTaken =>
    rw [not_or, isEmpty_iff_payload hb, Bool.not_eq_true] at hTaken
    obtain ⟨hFinalized, hPool, -⟩ := ho.finalize
    obtain ⟨hConnection, -⟩ := queueBuffer_eq hPool hb
    refine ⟨o.leaving ++ [b.buffer.payload],
      ho.payloads_leaving.concat hTaken.2 hb.length_payload_le, ?_, fun hClosed => ?_⟩
    · rw [Connection.putAll_concat, hConnection, hFinalized]
      exact o.sameFrames_finalized.put _
    · exact absurd (hTaken.1.symm.trans hClosed) Bool.false_ne_true

/-- Only a frame that has been sent leaves the queue; everything else puts frames behind it. -/
theorem Sound.posts_perform {o : Outlet} (ho : o.Sound) {act : Act} (hAct : act ≠ .frameSent) :
    ∃ payloads, Posts o (act.perform o).2 payloads := by
  obtain ⟨hFinalized, -, -⟩ := ho.finalize
  cases act with
  | enqueue message => exact ho.posts_enqueue message
  | enqueueBuffer b hb => exact ho.posts_enqueueBuffer hb
  | flush =>
    rw [Act.perform, Outlet.flush]
    split
    case isTrue => exact ⟨[], posts_nothing (.refl _)⟩
    case isFalse hOpen =>
      rw [Bool.not_eq_true] at hOpen
      exact ⟨o.leaving, ho.posts_finalized hOpen (hFinalized ▸ .refl _)⟩
  | shut =>
    rw [Act.perform, Outlet.shut]
    split
    case isTrue => exact ⟨[], posts_nothing (.refl _)⟩
    case isFalse hOpen =>
      rw [Bool.not_eq_true] at hOpen
      refine ⟨o.leaving, ho.posts_finalized hOpen ?_⟩
      rw [← hFinalized]
      exact ⟨rfl, rfl, rfl, rfl, rfl, rfl⟩
  | frameSent => exact absurd rfl hAct
  | others pool hPool => exact ⟨[], posts_nothing (.refl _)⟩

theorem sameFrames_frameSent (c : Connection) :
    SameFrames { c with queue := c.queue.tail } c.frameSent := by
  rw [Connection.frameSent]
  split
  case h_1 hQueue => exact ⟨by rw [hQueue]; rfl, rfl, rfl, rfl, rfl, rfl⟩
  case h_2 frame queue hQueue => exact ⟨by rw [hQueue]; rfl, rfl, rfl, rfl, rfl, rfl⟩

/-- Only closing closes. -/
theorem Sound.disconnected_perform {o : Outlet} (ho : o.Sound) {act : Act} (hAct : act ≠ .shut) :
    (act.perform o).2.connection.disconnected = o.connection.disconnected := by
  obtain ⟨hFinalized, hPool, -⟩ := ho.finalize
  cases act with
  | enqueue message =>
    by_cases hRefused : maxPayload < message.length ∨ o.connection.disconnected = true
    · rw [Act.perform, enqueue_refused hRefused]
    · rw [not_or, Nat.not_lt, Bool.not_eq_true] at hRefused
      obtain ⟨b, -, -, -, -, hConnection⟩ := ho.enqueue hRefused.2 hRefused.1
      rw [Act.perform, hConnection]
      split
      · rfl
      · exact o.disconnected_finalized
  | enqueueBuffer b hb =>
    rw [Act.perform, Outlet.enqueueBuffer]
    split
    · rfl
    · rw [(queueBuffer_eq hPool hb).1, (Connection.sameBut_put _ _).disconnected, hFinalized,
        disconnected_finalized]
  | flush =>
    rw [Act.perform, Outlet.flush]
    split
    · rfl
    · rw [hFinalized, disconnected_finalized]
  | shut => exact absurd rfl hAct
  | frameSent =>
    rw [Act.perform, Connection.frameSent]
    split <;> rfl
  | others pool hPool => rfl

end Outlet

end Gatehouse
