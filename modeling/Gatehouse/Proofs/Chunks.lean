import Gatehouse.Proofs.Hearing

/-!
# Frames in chunks

The bytes of a client come in chunks of any size. A reader in the steady state puts its frames
together from them, so what it does is given by the frames, however they are cut.
-/

namespace Gatehouse

open Wire

/-- Bytes that come together, and when. -/
structure Chunk where
  now : Nat
  bytes : Octets

namespace Reader

/-- The reader takes what has come, as much as it asks for at a time, until it asks for nothing or
nothing is left. -/
def feed (id : ConnectionId) (challenge : Login.Challenge) (now : Nat) (bs : Octets) (r : Reader)
    (s : Server) : Reader × Server :=
  if _h : bs = [] ∨ r.demand = 0 then (r, s)
  else
    let (r', s') := r.run id now (receive id now challenge r.phase (bs.take r.demand)) s
    feed id challenge now (bs.drop r.demand) r' s'
termination_by bs.length
decreasing_by
  rw [not_or] at _h
  have := List.length_pos_iff.mpr _h.1
  rw [List.length_drop]
  omega

def feedAll (id : ConnectionId) (challenge : Login.Challenge) (chunks : List Chunk)
    (start : Reader × Server) : Reader × Server :=
  chunks.foldl (fun (r, s) chunk => r.feed id challenge chunk.now chunk.bytes s) start

variable {id : ConnectionId} {challenge : Login.Challenge} {now : Nat} {r : Reader} {s : Server}

theorem feed_idle {bs : Octets} (hIdle : bs = [] ∨ r.demand = 0) :
    r.feed id challenge now bs s = (r, s) := by
  rw [feed, dif_pos hIdle]

theorem feedAll_cons (chunk : Chunk) (chunks : List Chunk) :
    feedAll id challenge (chunk :: chunks) (r, s) =
      feedAll id challenge chunks (r.feed id challenge chunk.now chunk.bytes s) := rfl

theorem feedAll_idle (hDemand : r.demand = 0) (chunks : List Chunk) :
    feedAll id challenge chunks (r, s) = (r, s) := by
  induction chunks with
  | nil => rfl
  | cons chunk chunks ih =>
    rw [feedAll_cons, feed_idle (Or.inr hDemand)]
    exact ih

theorem feedAll_of_nothing {chunks : List Chunk} (hNothing : chunks.flatMap Chunk.bytes = []) :
    feedAll id challenge chunks (r, s) = (r, s) := by
  induction chunks with
  | nil => rfl
  | cons chunk chunks ih =>
    rw [List.flatMap_cons, List.append_eq_nil_iff] at hNothing
    rw [feedAll_cons, feed_idle (Or.inl hNothing.1)]
    exact ih hNothing.2

/-! ## Filling -/

theorem write_write {f : FrameReader} (hStore : f.store.length = FrameReader.capacity)
    {start : Nat} {xs ys : Octets} (hFits : start + (xs ++ ys).length ≤ FrameReader.capacity) :
    (f.write start xs).write (start + xs.length) ys = f.write start (xs ++ ys) := by
  rw [List.length_append] at hFits
  have hTakes : xs.take (FrameReader.capacity - start) = xs ∧
      ys.take (FrameReader.capacity - (start + xs.length)) = ys ∧
      (xs ++ ys).take (FrameReader.capacity - start) = xs ++ ys := by
    refine ⟨List.take_of_length_le ?_, List.take_of_length_le ?_, List.take_of_length_le ?_⟩
    · omega
    · omega
    · rw [List.length_append]
      omega
  rw [FrameReader.write, FrameReader.write, FrameReader.write, hTakes.1, hTakes.2.1, hTakes.2.2,
    Octets.overwrite_overwrite (by omega)]

theorem run_congr {step step' : Talking ReaderPhase} {r' : Reader}
    (hStep : step ⟨s, r.frame⟩ = step' ⟨s, r'.frame⟩) :
    r.run id now step s = r'.run id now step' s := by
  have hRun : (ExceptT.run step).run ⟨s, r.frame⟩ = (ExceptT.run step').run ⟨s, r'.frame⟩ := hStep
  rw [run, run, hRun]

variable {part : Part} {start stop : Nat} {deadline? : Option Nat} {frame : FrameReader}

/-- The reader takes as much as is missing to the end of the stretch. -/
theorem feed_step {bs : Octets} (hSome : bs ≠ []) (hStart : start < stop) {r' : Reader}
    {s' : Server}
    (hRun : Reader.run id now (receive id now challenge
        (.filling .steady part start stop deadline?) (bs.take (stop - start)))
      ⟨.filling .steady part start stop deadline?, frame⟩ s = (r', s')) :
    Reader.feed id challenge now bs ⟨.filling .steady part start stop deadline?, frame⟩ s =
      r'.feed id challenge now (bs.drop (stop - start)) s' := by
  have hDemand : ¬ (bs = [] ∨
      Reader.demand ⟨.filling .steady part start stop deadline?, frame⟩ = 0) := by
    rintro (hNone | hNone)
    · exact hSome hNone
    · change stop - start = 0 at hNone
      omega
  rw [feed, dif_neg hDemand]
  exact congrArg (fun p : Reader × Server => p.1.feed id challenge now _ p.2) hRun

theorem feed_partly {bs : Octets} (hSome : bs ≠ []) (hPart : bs.length < stop - start) :
    Reader.feed id challenge now bs ⟨.filling .steady part start stop deadline?, frame⟩ s =
      (⟨.filling .steady part (start + bs.length) stop deadline?, frame.write start bs⟩, s) := by
  have hTake : bs.take (stop - start) = bs := List.take_of_length_le hPart.le
  have hReceive : receive id now challenge (.filling .steady part start stop deadline?)
        (bs.take (stop - start)) ⟨s, frame⟩ =
      (.ok (.filling .steady part (start + bs.length) stop deadline?),
        ⟨s, frame.write start bs⟩) := by
    rw [hTake, receive_filling, if_pos (by omega)]
  rw [feed_step hSome (by omega) (run_of_ok hReceive)]
  exact feed_idle (Or.inl (List.drop_of_length_le hPart.le))

theorem feed_whole {bs : Octets} (phase : ReaderPhase) (hStart : start < stop)
    (hWhole : stop - start ≤ bs.length) :
    Reader.feed id challenge now bs ⟨.filling .steady part start stop deadline?, frame⟩ s =
      (let result := Reader.run id now (complete id now .steady part)
        ⟨phase, frame.write start (bs.take (stop - start))⟩ s
      result.1.feed id challenge now (bs.drop (stop - start)) result.2) := by
  have hLength : (bs.take (stop - start)).length = stop - start := List.length_take_of_le hWhole
  have hSome : bs ≠ [] := by
    rintro rfl
    rw [List.length_nil] at hWhole
    omega
  have hReceive : receive id now challenge (.filling .steady part start stop deadline?)
        (bs.take (stop - start)) ⟨s, frame⟩ =
      complete id now .steady part ⟨s, frame.write start (bs.take (stop - start))⟩ := by
    rw [receive_filling, if_neg (by omega)]
  exact feed_step hSome hStart (run_congr hReceive)

/-- However a stretch is cut, the reader has it in the store when it goes on, and has taken nothing
of what follows. -/
theorem feedAll_filling (id : ConnectionId) (challenge : Login.Challenge) (part : Part)
    (deadline? : Option Nat) {bs rest : Octets} {chunks : List Chunk}
    (hStore : frame.store.length = FrameReader.capacity) (hStop : stop ≤ FrameReader.capacity)
    (hStart : start < stop) (hLength : start + bs.length = stop)
    (hChunks : chunks.flatMap Chunk.bytes = bs ++ rest) :
    ∃ (now : Nat) (later : List Chunk), later.flatMap Chunk.bytes = rest ∧
      ∀ phase s, feedAll id challenge chunks
          (⟨.filling .steady part start stop deadline?, frame⟩, s) =
        feedAll id challenge later (Reader.run id now (complete id now .steady part)
          ⟨phase, frame.write start bs⟩ s) := by
  induction chunks generalizing start frame bs with
  | nil =>
    have hNothing := List.append_eq_nil_iff.mp hChunks.symm
    rw [hNothing.1, List.length_nil] at hLength
    omega
  | cons chunk chunks ih =>
    rw [List.flatMap_cons] at hChunks
    by_cases hEmpty : chunk.bytes = []
    · rw [hEmpty, List.nil_append] at hChunks
      obtain ⟨now, later, hLater, hRun⟩ := ih hStore hStart hLength hChunks
      refine ⟨now, later, hLater, fun phase s => ?_⟩
      rw [feedAll_cons, feed_idle (Or.inl hEmpty)]
      exact hRun phase s
    by_cases hPart : chunk.bytes.length < stop - start
    · -- the chunk is used up and the stretch is not yet whole
      obtain ⟨more, rfl⟩ : ∃ more, bs = chunk.bytes ++ more := by
        have hPrefix := List.prefix_of_prefix_length_le (hChunks ▸ List.prefix_append ..)
          (List.prefix_append bs rest) (show chunk.bytes.length ≤ bs.length by omega)
        exact hPrefix.imp fun _ hMore => hMore.symm
      have hFits : start + (chunk.bytes ++ more).length ≤ FrameReader.capacity := by omega
      rw [List.append_assoc, List.append_cancel_left_eq] at hChunks
      rw [List.length_append, ← Nat.add_assoc] at hLength
      obtain ⟨now, later, hLater, hRun⟩ :=
        ih (FrameReader.length_store_write hStore start chunk.bytes) (by omega) hLength hChunks
      refine ⟨now, later, hLater, fun phase s => ?_⟩
      rw [feedAll_cons, feed_partly hEmpty hPart, hRun phase s, write_write hStore hFits]
    · have hWhole : stop - start ≤ chunk.bytes.length := Nat.le_of_not_lt hPart
      have hTake : chunk.bytes.take (stop - start) = bs := by
        have hSplit := congrArg (List.take (stop - start)) hChunks
        rwa [List.take_append_of_le_length hWhole, List.take_left' (by omega)] at hSplit
      have hRest : chunk.bytes.drop (stop - start) ++ chunks.flatMap Chunk.bytes = rest := by
        have hSplit := congrArg (List.drop (stop - start)) hChunks
        rwa [List.drop_append_of_le_length hWhole, List.drop_left' (by omega)] at hSplit
      refine ⟨chunk.now, ⟨chunk.now, chunk.bytes.drop (stop - start)⟩ :: chunks, ?_,
        fun phase s => ?_⟩
      · rw [List.flatMap_cons]
        exact hRest
      · rw [feedAll_cons, feed_whole phase hStart hWhole, hTake]
        rfl

/-! ## Frames -/

/-- A frame as a client may send it: within the bounds, and as long as it says. -/
structure IsFrame (frame : Octets) : Prop where
  bounds : InBounds frame
  length : frame.length = headerLength + declaredLength frame

theorem IsFrame.length_le {frame : Octets} (hFrame : IsFrame frame) :
    headerLength < frame.length ∧ frame.length ≤ FrameReader.capacity := by
  obtain ⟨⟨hPositive, hBound⟩, hLength⟩ := hFrame
  rw [hLength, FrameReader.capacity]
  omega

/-- The store once the header of a frame has come. -/
def withHeader (f : FrameReader) (frame : Octets) : FrameReader :=
  f.write 0 (frame.take headerLength)

/-- The store once the header has been understood. -/
def withLength (f : FrameReader) (frame : Octets) : FrameReader :=
  (withHeader f frame).truncate (declaredLength frame)

/-- The store once the rest of the frame has come, too. -/
def withFrame (f : FrameReader) (frame : Octets) : FrameReader :=
  (withLength f frame).write headerLength (frame.drop headerLength)

theorem take_withHeader {f : FrameReader} (hStore : f.store.length = FrameReader.capacity)
    {bs : Octets} (hFrame : IsFrame bs) :
    (withHeader f bs).store.take headerLength = bs.take headerLength := by
  have hHeader : (bs.take headerLength).length = headerLength :=
    List.length_take_of_le hFrame.length_le.1.le
  have hFits : 0 + (bs.take headerLength).length ≤ FrameReader.capacity := by
    rw [hHeader]
    decide
  have hTake := FrameReader.take_store_write hStore hFits
  rw [hHeader, Nat.zero_add] at hTake
  exact hTake

theorem length_withLength (f : FrameReader) {bs : Octets} (hFrame : IsFrame bs) :
    (withLength f bs).length = bs.length := by
  change min (declaredLength bs + headerLength) FrameReader.capacity = bs.length
  rw [Nat.add_comm, ← hFrame.length, Nat.min_eq_left hFrame.length_le.2]

theorem holds_withFrame {f : FrameReader} (hStore : f.store.length = FrameReader.capacity)
    (hPosition : f.position = headerLength) {bs : Octets} (hFrame : IsFrame bs) :
    (withFrame f bs).Holds bs := by
  have hHeader := take_withHeader hStore hFrame
  obtain ⟨hLong, hShort⟩ := hFrame.length_le
  have hFirst : (withHeader f bs).store.length = FrameReader.capacity :=
    FrameReader.length_store_write hStore 0 _
  have hRest : headerLength + (bs.drop headerLength).length = bs.length := by
    rw [List.length_drop]
    omega
  have hDeclared : (withFrame f bs).length = bs.length := length_withLength f hFrame
  have hTake : (withFrame f bs).store.take (headerLength + (bs.drop headerLength).length) =
      (withHeader f bs).store.take headerLength ++ bs.drop headerLength :=
    FrameReader.take_store_write hFirst (hRest.trans_le hShort)
  refine ⟨?_, FrameReader.length_store_write hFirst headerLength _⟩
  have hWhole : (withFrame f bs).store.take bs.length = bs := by
    rw [← hRest, hTake, hHeader, List.take_append_drop]
  rw [FrameReader.trim, FrameReader.bearing, hDeclared, hWhole]
  exact congrArg (FrameReader.mk bs · bs.length) hPosition

/-! ## The two parts of a frame -/

variable {f : FrameReader} {bs : Octets}

theorem run_header_of_closed (now : Nat) (phase : ReaderPhase) (hClosed : s.isOpen id = false) :
    Reader.run id now (complete id now .steady .header) ⟨phase, f⟩ s =
      (⟨.ended, f⟩, s.close id) := by
  have hDeclare : Steady.declare id ⟨s, f⟩ = (.error .closed, ⟨s, f⟩) := by
    rw [Steady.declare, bind_of_error (Talking.ensureOpen_of_closed hClosed)]
  have hComplete : complete id now .steady .header ⟨s, f⟩ = (.error .closed, ⟨s, f⟩) := by
    rw [complete, bind_of_ok (Talking.server_eq _)]
    exact bind_of_error hDeclare
  exact run_of_error (r := ⟨phase, f⟩) hComplete

theorem run_header_of_open (now : Nat) (phase : ReaderPhase) (hOpen : s.isOpen id = true)
    (hStore : f.store.length = FrameReader.capacity) (hFrame : IsFrame bs) :
    Reader.run id now (complete id now .steady .header) ⟨phase, withHeader f bs⟩ s =
      (⟨.filling .steady .body headerLength bs.length (some (now + readTimeout s.config)),
        withLength f bs⟩, s) := by
  have hCome : Steady.HeaderHasCome ⟨s, withHeader f bs⟩ id bs :=
    ⟨hOpen, take_withHeader hStore hFrame⟩
  have hComplete : complete id now .steady .header ⟨s, withHeader f bs⟩ =
      (.ok (fillBody .steady (withLength f bs) (now + readTimeout s.config)),
        ⟨s, withLength f bs⟩) := by
    rw [complete, bind_of_ok (Talking.server_eq _)]
    dsimp only
    rw [bind_of_ok (Steady.takes_of_inBounds hFrame.bounds _ id hCome)]
    rfl
  rw [← length_withLength f hFrame]
  exact run_of_ok (r := ⟨phase, withHeader f bs⟩) hComplete

theorem run_body (now : Nat) (phase : ReaderPhase) (hHandlers : s.handlers.ReadMessages)
    (hOpen : s.isOpen id = true) (hFrame : IsFrame bs) (hf : f.Holds bs) :
    ∃ r : Reader, r.Goes (s.heard id bs).1 ∧
      Reader.run id now (complete id now .steady .body) ⟨phase, f⟩ s =
        (r, (s.heard id bs).2) := by
  obtain ⟨hCapacity, hOn, hOff⟩ := Steady.hears hHandlers hOpen hf hFrame.length_le.1.le
  generalize hHandle : Steady.handle id ⟨s, f⟩ = result at hCapacity hOn hOff
  obtain ⟨answer, t⟩ := result
  cases hHeard : (s.heard id bs).1 with
  | true =>
    obtain ⟨hAnswer, hServer⟩ := hOn hHeard
    cases hAnswer
    have hComplete : complete id now .steady .body ⟨s, f⟩ =
        (.ok (fillHeader .steady (some (now + readTimeout s.config))),
          ⟨t.server, t.frame.reset⟩) := by
      rw [complete, bind_of_ok (Talking.server_eq _)]
      dsimp only
      rw [bind_of_ok hHandle]
      rfl
    rw [run_of_ok hComplete, ← hServer]
    exact ⟨_, ⟨⟨_, rfl⟩, rfl, hCapacity⟩, rfl⟩
  | false =>
    obtain ⟨hAnswer, hServer⟩ := hOff hHeard
    cases hAnswer
    have hComplete : complete id now .steady .body ⟨s, f⟩ = (.error .closed, t) := by
      rw [complete, bind_of_ok (Talking.server_eq _)]
      exact bind_of_error hHandle
    rw [run_of_error hComplete, ← hServer]
    exact ⟨⟨.ended, t.frame⟩, rfl, rfl⟩

/-- Chunks that begin with a frame do what the frame does, and then what the rest does. -/
theorem feedAll_frame (challenge : Login.Challenge) (hHandlers : s.handlers.ReadMessages)
    (hr : r.Waits) {rest : Octets}
    (hFrame : IsFrame bs) {chunks : List Chunk}
    (hChunks : chunks.flatMap Chunk.bytes = bs ++ rest) :
    ∃ (r' : Reader) (later : List Chunk), later.flatMap Chunk.bytes = rest ∧
      r'.Goes (s.heard id bs).1 ∧
      feedAll id challenge chunks (r, s) =
        feedAll id challenge later (r', (s.heard id bs).2) := by
  obtain ⟨⟨deadline?, hPhase⟩, hPosition, hCapacity⟩ := hr
  obtain ⟨phase, f⟩ := r
  subst hPhase
  obtain ⟨hLong, hShort⟩ := hFrame.length_le
  have hSplit : bs ++ rest = bs.take headerLength ++ (bs.drop headerLength ++ rest) := by
    rw [← List.append_assoc, List.take_append_drop]
  obtain ⟨now, behind, hBehind, hHeader⟩ := feedAll_filling id challenge .header deadline?
    hCapacity (by decide) (by decide)
    ((Nat.zero_add _).trans (List.length_take_of_le hLong.le)) (hChunks.trans hSplit)
  specialize hHeader .ended s
  cases hOpen : s.isOpen id with
  | false =>
    have hHeard := Steady.heard_of_closed hOpen bs
    rw [run_header_of_closed now .ended hOpen] at hHeader
    refine ⟨⟨.ended, withHeader f bs⟩, [⟨now, rest⟩], List.append_nil rest, ?_, ?_⟩
    · rw [hHeard]
      rfl
    · rw [hHeard]
      exact hHeader.trans ((feedAll_idle rfl behind).trans (feedAll_idle rfl _).symm)
  | true =>
    have hFirst : (withLength f bs).store.length = FrameReader.capacity :=
      FrameReader.length_store_write hCapacity 0 _
    obtain ⟨now', later, hLater, hBody⟩ := feedAll_filling id challenge .body
      (some (now + readTimeout s.config)) hFirst hShort hLong
      (by rw [List.length_drop]; omega) hBehind
    obtain ⟨r', hGoes, hRun⟩ := run_body now' .ended hHandlers hOpen hFrame
      (holds_withFrame hCapacity hPosition hFrame)
    refine ⟨r', later, hLater, hGoes, ?_⟩
    calc feedAll id challenge chunks (⟨fillHeader .steady deadline?, f⟩, s)
      _ = feedAll id challenge behind _ :=
          hHeader.trans (congrArg _ (run_header_of_open now .ended hOpen hCapacity hFrame))
      _ = feedAll id challenge later (r', (s.heard id bs).2) :=
          (hBody .ended s).trans (congrArg _ hRun)

/-- Chunks do what the frames do that they are cut from. -/
theorem feedAll_frames (challenge : Login.Challenge) {id : ConnectionId} {frames : List Octets}
    {chunks : List Chunk} {r : Reader} {s : Server} (hHandlers : s.handlers.ReadMessages)
    (hr : r.Waits) (hFrames : ∀ frame ∈ frames, IsFrame frame)
    (hChunks : chunks.flatMap Chunk.bytes = frames.flatten) :
    ∃ r' : Reader, r'.Goes (s.heardAll id frames).1 ∧
      feedAll id challenge chunks (r, s) = (r', (s.heardAll id frames).2) := by
  induction frames generalizing chunks r s with
  | nil => exact ⟨r, hr, feedAll_of_nothing hChunks⟩
  | cons frame frames ih =>
    rw [List.forall_mem_cons] at hFrames
    obtain ⟨r', later, hLater, hGoes, hFeed⟩ :=
      feedAll_frame challenge hHandlers hr hFrames.1 hChunks
    have hKept := (s.guarded_heard id frame).handlers
    rw [hFeed, Server.heardAll]
    generalize s.heard id frame = result at hGoes hKept
    obtain ⟨on, t⟩ := result
    cases on with
    | true => exact ih (hKept ▸ hHandlers) hGoes hFrames.2 hLater
    | false =>
      have hEnded : r'.demand = 0 := by
        rw [Reader.demand, show r'.phase = .ended from hGoes]
      exact ⟨r', hGoes, feedAll_idle hEnded later⟩

end Reader

end Gatehouse
