import Mathlib.Data.List.Chain
import Gatehouse.Proofs.Opening
import Gatehouse.Proofs.Outflow

/-!
# Delivery

The whole history of a connection's way out. Every message that was taken is in a frame that has
been sent, in a frame that waits, or still being gathered, and in this order; the frames account for
all messages, none of which is cut.
-/

namespace Gatehouse

open Wire

/-- What a frame was sealed with, and whether a message that did not fit behind it was the reason to
queue it. -/
structure Posting where
  key? : Option Xtea.Key
  mode : ChecksumMode
  split : Bool

/-- A frame by what is in it. -/
structure Parcel extends Posting where
  sequence : UInt32
  messages : List Octets

namespace Parcel

def payload (p : Parcel) : Octets :=
  p.messages.flatten

def frame (p : Parcel) : Octets :=
  match p.key? with
  | none => plainFrame p.payload
  | some key => sealedFrame key p.mode p.sequence p.payload

/-- With the key that a frame was sealed with, the bytes of the frame determine its payload. -/
theorem payload_eq_of_frame_eq {p q : Parcel} (hPosting : p.toPosting = q.toPosting)
    (hp : p.payload.length ≤ maxPayload) (hq : q.payload.length ≤ maxPayload)
    (hFrame : p.frame = q.frame) : p.payload = q.payload := by
  have hKeys : p.key? = q.key? := congrArg Posting.key? hPosting
  rw [frame, frame, ← hKeys] at hFrame
  cases hKey : p.key? with
  | none =>
    simp only [hKey, plainFrame] at hFrame
    refine (List.append_inj hFrame ?_).2
    simp only [List.length_append, Octets.length_littleEndian]
  | some key =>
    simp only [hKey] at hFrame
    let r : FrameReader := { store := q.frame, length := q.frame.length, position := 0 }
    have hSecond : r.Carries (sealedFrame key q.mode q.sequence q.payload) := by
      refine ⟨[], ?_, ?_⟩ <;> simp only [r, frame, ← hKeys, hKey, List.append_nil]
    have hFirst : r.Carries (sealedFrame key p.mode p.sequence p.payload) := hFrame ▸ hSecond
    exact (decrypt_sealedFrame hFirst hp).2.symm.trans (decrypt_sealedFrame hSecond hq).2

/-- If the first of two neighbours was split off, the two would not have fitted into one frame. -/
def Overflows (p q : Parcel) : Prop :=
  p.split = true → maxPayload < p.payload.length + q.payload.length

end Parcel

namespace Outlet

inductive Move where
  | act (act : Act)
  | installKey (key : Xtea.Key) (mode : ChecksumMode)

namespace Move

def perform (o : Outlet) : Move → Bool × Outlet
  | act a => a.perform o
  | installKey key mode => (true, { o with connection := o.connection.installKey key mode })

def message? : Move → Option Octets
  | act (.enqueue message) => some message
  | act (.enqueueBuffer b _) => some b.buffer.payload
  | _ => none

def splits : Move → Bool
  | act (.enqueue _) => true
  | _ => false

def sent (o : Outlet) : Move → List Octets
  | act .frameSent => o.connection.queue.take 1
  | _ => []

/-- Moves that make no frame leave the buffer on purpose. -/
def Gathers : Move → Prop
  | act (.enqueue _) | act .frameSent | act (.others ..) => True
  | _ => False

end Move

/-- An outlet with what an observer of all calls has written down: the messages that were accepted,
the frames that have been sent, and how each frame was queued. -/
structure History where
  outlet : Outlet
  accepted : List Octets
  sent : List Octets
  postings : List Posting

namespace History

def start (id : ConnectionId) (peer : SocketAddress) (capacity : Nat) : History where
  outlet := { connection := .new id peer, pool := .ofCapacity capacity }
  accepted := []
  sent := []
  postings := []

def next (h : History) (move : Move) : History where
  outlet := (move.perform h.outlet).2
  accepted := h.accepted ++ if (move.perform h.outlet).1 then move.message?.toList else []
  sent := h.sent ++ move.sent h.outlet
  postings := h.postings ++ List.replicate
    ((move.perform h.outlet).2.connection.framesQueued - h.outlet.connection.framesQueued)
    { key? := h.outlet.connection.key?, mode := h.outlet.connection.mode, split := move.splits }

def run (h : History) (moves : List Move) : History :=
  moves.foldl next h

end History

/-! ## Accounts -/

def posting (c : Connection) (split : Bool) : Posting where
  key? := c.key?
  mode := c.mode
  split := split

def parcel (c : Connection) (split : Bool) (messages : List Octets) : Parcel where
  toPosting := posting c split
  sequence := c.sendSequence + 1
  messages := messages

theorem frame_parcel (c : Connection) (split : Bool) (messages : List Octets) :
    (parcel c split messages).frame = c.frameOf messages.flatten := by
  cases hKey : c.key? <;>
    simp only [Parcel.frame, Connection.frameOf, parcel, posting, Parcel.payload, hKey]

def present (messages : List Octets) : List Octets :=
  messages.filter fun message => !message.isEmpty

theorem present_append (before after : List Octets) :
    present (before ++ after) = present before ++ present after :=
  List.filter_append ..

theorem flatten_present (messages : List Octets) :
    (present messages).flatten = messages.flatten := by
  induction messages with
  | nil => rfl
  | cons message messages ih =>
    cases message with
    | nil => exact ih
    | cons byte message => exact congrArg (byte :: message ++ ·) ih

/-- The books of a connection: the frames, whether they have been sent or wait, hold the messages
that were accepted, up to those that are being gathered. Only a connection that is open gathers. -/
structure Account (c : Connection) (accepted sent : List Octets) (postings : List Posting)
    (parcels : List Parcel) (gathered : List Octets) : Prop where
  frames : sent ++ c.queue = parcels.map Parcel.frame
  postings : parcels.map Parcel.toPosting = postings
  messages : parcels.flatMap Parcel.messages ++ gathered = present accepted
  sizes : ∀ p ∈ parcels, p.payload ≠ [] ∧ p.payload.length ≤ maxPayload
  size : gathered.flatten.length ≤ maxPayload
  framesSent : c.framesSent = sent.length
  framesQueued : c.framesQueued = parcels.length
  chain : parcels.IsChain Parcel.Overflows
  last : ∀ p ∈ parcels.getLast?, p.split = true →
    maxPayload < p.payload.length + gathered.flatten.length
  closed : c.disconnected = true → gathered = []

/-- What the books see of a connection, apart from whether it is open. -/
structure Tallies (c d : Connection) : Prop where
  queue : d.queue = c.queue
  framesSent : d.framesSent = c.framesSent
  framesQueued : d.framesQueued = c.framesQueued

variable {c : Connection} {accepted sent : List Octets} {postings : List Posting}
  {parcels : List Parcel} {gathered : List Octets}

namespace Account

theorem start (id : ConnectionId) (peer : SocketAddress) :
    Account (.new id peer) [] [] [] [] [] where
  frames := rfl
  postings := rfl
  messages := rfl
  sizes _ hp := nomatch hp
  size := Nat.zero_le _
  framesSent := rfl
  framesQueued := rfl
  chain := .nil
  last _ hp := nomatch hp
  closed _ := rfl

theorem congr (h : Account c accepted sent postings parcels gathered) {d : Connection}
    (hTallies : Tallies c d) (hClosed : d.disconnected = true → gathered = []) :
    Account d accepted sent postings parcels gathered :=
  { h with
    frames := hTallies.queue ▸ h.frames
    framesSent := hTallies.framesSent.trans h.framesSent
    framesQueued := hTallies.framesQueued.trans h.framesQueued
    closed := hClosed }

theorem pop (h : Account c accepted sent postings parcels gathered) :
    Account c.frameSent accepted (sent ++ c.queue.take 1) postings parcels gathered := by
  rw [Connection.frameSent]
  cases hQueue : c.queue with
  | nil =>
    rw [List.take_nil, List.append_nil]
    exact h
  | cons frame queue =>
    refine { h with frames := ?_, framesSent := ?_ }
    · rw [← h.frames, hQueue, List.append_assoc]
      rfl
    · rw [List.length_append, h.framesSent]
      rfl

theorem gather (h : Account c accepted sent postings parcels gathered) (message : Octets)
    (hOpen : c.disconnected = false)
    (hRoom : gathered.flatten.length + message.length ≤ maxPayload) :
    Account c (accepted ++ [message]) sent postings parcels (gathered ++ present [message]) := by
  have hLength : (gathered ++ present [message]).flatten.length =
      gathered.flatten.length + message.length := by
    rw [List.flatten_append, flatten_present, List.flatten_singleton, List.length_append]
  refine { h with messages := ?_, size := ?_, last := ?_, closed := ?_ }
  · rw [← List.append_assoc, h.messages, present_append]
  · rwa [hLength]
  · intro p hp hSplit
    have hLast := h.last p hp hSplit
    omega
  · rw [hOpen]
    exact fun hClosed => nomatch hClosed

/-- What has been gathered is queued and the message behind it is the first of the next frame. -/
theorem post (h : Account c accepted sent postings parcels gathered) (next : List Octets)
    (split : Bool) (hSome : gathered.flatten ≠ []) (hNext : next.flatten.length ≤ maxPayload)
    (hSplit : split = true → maxPayload < gathered.flatten.length + next.flatten.length)
    (hClosed : c.disconnected = true → present next = []) :
    Account (c.put gathered.flatten) (accepted ++ next) sent (postings ++ [posting c split])
      (parcels ++ [parcel c split gathered]) (present next) := by
  have hLength : (present next).flatten.length = next.flatten.length := by rw [flatten_present]
  obtain ⟨hSent, hQueued⟩ := Connection.counters_put c gathered.flatten
  refine ⟨?_, ?_, ?_, ?_, ?_, ?_, ?_, ?_, ?_, ?_⟩
  · rw [Connection.queue_put, ← List.append_assoc, h.frames, List.map_append, List.map_singleton,
      frame_parcel]
  · rw [List.map_append, h.postings]
    rfl
  · rw [List.flatMap_append, List.flatMap_singleton, present_append, ← h.messages]
    rfl
  · intro p hp
    rcases List.mem_append.mp hp with hp | hp
    · exact h.sizes p hp
    · cases List.mem_singleton.mp hp
      exact ⟨hSome, h.size⟩
  · rwa [hLength]
  · rw [hSent, h.framesSent]
  · rw [hQueued, h.framesQueued, List.length_append, List.length_singleton]
  · refine List.isChain_append.mpr ⟨h.chain, .singleton _, ?_⟩
    intro p hp q hq hSplit
    cases Option.some.inj hq
    exact h.last p hp hSplit
  · intro p hp hp'
    rw [List.getLast?_concat] at hp
    cases Option.some.inj hp
    rw [hLength]
    exact hSplit hp'
  · rwa [(Connection.sameBut_put c _).disconnected]

theorem gathered_eq_nil (h : Account c accepted sent postings parcels gathered)
    (hNone : gathered.flatten = []) : gathered = [] := by
  refine List.eq_nil_iff_forall_not_mem.mpr fun message hMessage => ?_
  have hPresent : message ∈ present accepted := by
    rw [← h.messages]
    exact List.mem_append_right _ hMessage
  have hEmpty := List.flatten_eq_nil_iff.mp hNone message hMessage
  rw [present, List.mem_filter, hEmpty] at hPresent
  exact nomatch hPresent.2

end Account

/-! ## Moves -/

theorem posting_finalized (o : Outlet) (split : Bool) :
    posting o.finalized split = posting o.connection split := by
  rw [finalized]
  split
  case isTrue => rfl
  case isFalse =>
    have hSame := Connection.sameBut_put { o.connection with current? := none } o.pending
    rw [posting, hSame.key?, hSame.mode, posting]

theorem tallies_finalized {o : Outlet} (hNone : o.pending = []) :
    Tallies o.connection o.finalized := by
  rw [finalized, if_pos hNone]
  exact ⟨rfl, rfl, rfl⟩

def wrapped (c : Connection) (gathered : List Octets) : List Parcel :=
  if gathered.flatten = [] then [] else [parcel c false gathered]

def posted (c d : Connection) (split : Bool) : List Posting :=
  List.replicate (d.framesQueued - c.framesQueued) (posting c split)

theorem posted_eq_nil {c d : Connection} (hQueued : d.framesQueued = c.framesQueued)
    (split : Bool) : posted c d split = [] := by
  rw [posted, hQueued, Nat.sub_self, List.replicate_zero]

theorem posted_eq_singleton {c d : Connection} (hQueued : d.framesQueued = c.framesQueued + 1)
    (split : Bool) : posted c d split = [posting c split] := by
  rw [posted, hQueued, Nat.add_sub_cancel_left, List.replicate_one]

theorem posted_put {c d : Connection} (hQueued : c.framesQueued ≤ d.framesQueued)
    (payload : Octets) (split : Bool) :
    posted c (d.put payload) split = posted c d split ++ [posting c split] := by
  rw [posted, posted, (Connection.counters_put d payload).2, Nat.succ_sub hQueued,
    List.replicate_succ']

namespace Account

theorem post_pending {o : Outlet}
    (h : Account o.connection accepted sent postings parcels gathered)
    (hPending : gathered.flatten = o.pending) (hSome : o.pending ≠ []) (next : List Octets)
    (split : Bool) (hNext : next.flatten.length ≤ maxPayload)
    (hSplit : split = true → maxPayload < o.pending.length + next.flatten.length)
    (hClosed : o.connection.disconnected = true → present next = []) :
    o.finalized.framesQueued = o.connection.framesQueued + 1 ∧
      Account o.finalized (accepted ++ next) sent (postings ++ [posting o.connection split])
        (parcels ++ [parcel o.connection split gathered]) (present next) := by
  have hCleared : Account { o.connection with current? := none } accepted sent postings parcels
      gathered := h.congr ⟨rfl, rfl, rfl⟩ h.closed
  rw [finalized, if_neg hSome, ← hPending]
  rw [← hPending] at hSome hSplit
  exact ⟨(Connection.counters_put _ _).2, hCleared.post next split hSome hNext hSplit hClosed⟩

theorem finalize {o : Outlet}
    (h : Account o.connection accepted sent postings parcels gathered)
    (hPending : gathered.flatten = o.pending) :
    Account o.finalized accepted sent (postings ++ posted o.connection o.finalized false)
      (parcels ++ wrapped o.connection gathered) [] := by
  rw [wrapped, hPending]
  by_cases hNone : o.pending = []
  · have hNothing := h.gathered_eq_nil (hPending.trans hNone)
    subst hNothing
    have hTallies := tallies_finalized hNone
    rw [if_pos hNone, posted_eq_nil hTallies.framesQueued, List.append_nil, List.append_nil]
    exact h.congr hTallies fun _ => rfl
  · obtain ⟨hQueued, hPost⟩ := h.post_pending hPending hNone [] false (Nat.zero_le _)
      (fun hSplit => nomatch hSplit) fun _ => rfl
    rw [List.append_nil] at hPost
    rw [if_neg hNone, posted_eq_singleton hQueued]
    exact hPost

theorem enqueue_room {o : Outlet} (ho : o.Sound)
    (h : Account o.connection accepted sent postings parcels gathered)
    (hPending : gathered.flatten = o.pending) {message : Octets}
    (hOpen : o.connection.disconnected = false) (hRoom : o.HasRoom message) :
    Account (o.enqueue message).2.connection (accepted ++ [message]) sent
        (postings ++ posted o.connection (o.enqueue message).2.connection true) parcels
        (gathered ++ present [message]) ∧
      (o.enqueue message).2.pending = o.pending ++ message ∧
      (o.enqueue message).2.connection.disconnected = false ∧
      (o.enqueue message).2.connection.frameOf = o.connection.frameOf := by
  obtain ⟨b, -, hPayload, -, -, hConnection⟩ :=
    ho.enqueue hOpen ((Nat.le_add_left ..).trans hRoom)
  rw [if_pos hRoom] at hPayload hConnection
  have hTallies : Tallies o.connection (o.enqueue message).2.connection := by
    rw [hConnection]
    exact ⟨rfl, rfl, rfl⟩
  have hGather := h.gather message hOpen (by rwa [hPending])
  refine ⟨?_, ?_, ?_, ?_⟩
  · rw [posted_eq_nil hTallies.framesQueued, List.append_nil]
    refine hGather.congr hTallies ?_
    rw [hConnection]
    exact hGather.closed
  · rw [← hPayload, pending, hConnection]
  · rw [hConnection]
    exact hOpen
  · rw [hConnection]
    rfl

theorem enqueue {o : Outlet} (ho : o.Sound)
    (h : Account o.connection accepted sent postings parcels gathered)
    (hPending : gathered.flatten = o.pending) {message : Octets}
    (hOpen : o.connection.disconnected = false) (hLength : message.length ≤ maxPayload) :
    ∃ more gathered', Account (o.enqueue message).2.connection (accepted ++ [message]) sent
        (postings ++ posted o.connection (o.enqueue message).2.connection true)
        (parcels ++ more) gathered' ∧
      gathered'.flatten = (o.enqueue message).2.pending := by
  by_cases hRoom : o.HasRoom message
  · obtain ⟨hAccount, hNext, -⟩ := h.enqueue_room ho hPending hOpen hRoom
    refine ⟨[], gathered ++ present [message], by rwa [List.append_nil], ?_⟩
    rw [hNext, List.flatten_append, flatten_present, hPending, List.flatten_singleton]
  · obtain ⟨b, -, hPayload, -, -, hConnection⟩ := ho.enqueue hOpen hLength
    have hNext : (o.enqueue message).2.pending = b.buffer.payload := by rw [pending, hConnection]
    rw [if_neg hRoom, List.nil_append] at hPayload
    rw [if_neg hRoom] at hConnection
    rw [hNext, hPayload]
    have hTallies : Tallies o.finalized (o.enqueue message).2.connection := by
      rw [hConnection]
      exact ⟨rfl, rfl, rfl⟩
    have hSome : o.pending ≠ [] := by
      intro hNone
      rw [HasRoom, hNone, List.length_nil, Nat.zero_add] at hRoom
      exact hRoom hLength
    have hFlat : [message].flatten = message := List.flatten_singleton
    have hOver : maxPayload < o.pending.length + message.length := Nat.lt_of_not_le hRoom
    obtain ⟨hQueued, hPost⟩ := h.post_pending hPending hSome [message] true
      (by rwa [hFlat]) (fun _ => by rwa [hFlat]) fun hClosed =>
        absurd (hOpen.symm.trans hClosed) Bool.false_ne_true
    refine ⟨[parcel o.connection true gathered], present [message], ?_, ?_⟩
    · rw [posted_eq_singleton (hTallies.framesQueued.trans hQueued)]
      refine hPost.congr hTallies ?_
      rw [hConnection]
      exact hPost.closed
    · rw [flatten_present, List.flatten_singleton]

theorem enqueueBuffer {o : Outlet} (ho : o.Sound)
    (h : Account o.connection accepted sent postings parcels gathered)
    (hPending : gathered.flatten = o.pending) {b : PooledBuffer} (hb : b.buffer.WellFormed)
    (hOpen : o.connection.disconnected = false) (hSome : b.buffer.payload ≠ []) :
    (o.enqueueBuffer b).1 = true ∧ (o.enqueueBuffer b).2.pending = [] ∧
      ∃ more, Account (o.enqueueBuffer b).2.connection (accepted ++ [b.buffer.payload]) sent
        (postings ++ posted o.connection (o.enqueueBuffer b).2.connection false)
        (parcels ++ more) [] := by
  have hTaken : ¬ (o.connection.disconnected = true ∨ b.buffer.isEmpty = true) := by
    rw [isEmpty_iff_payload hb, hOpen]
    simpa using hSome
  have hFinalized := h.finalize hPending
  obtain ⟨hConnection, hPool, -⟩ := ho.finalize
  obtain ⟨hQueued, -⟩ := queueBuffer_eq hPool hb
  have hOpen' : o.finalized.disconnected = false := by rw [disconnected_finalized, hOpen]
  have hFlat : (present [b.buffer.payload]).flatten = b.buffer.payload := by
    rw [flatten_present, List.flatten_singleton]
  have hGather := hFinalized.gather b.buffer.payload hOpen'
    (by simpa using hb.length_payload_le)
  rw [List.nil_append] at hGather
  have hPost := hGather.post [] false (by rwa [hFlat]) (Nat.zero_le _)
    (fun hSplit => nomatch hSplit) fun _ => rfl
  rw [hFlat, List.append_nil, posting_finalized, List.append_assoc, List.append_assoc] at hPost
  have hLe : o.connection.framesQueued ≤ o.finalized.framesQueued := by
    rw [h.framesQueued, hFinalized.framesQueued, List.length_append]
    exact Nat.le_add_right ..
  have hResult : o.enqueueBuffer b = (true, o.finalize.2.queueBuffer b) := if_neg hTaken
  rw [hResult, hQueued, hConnection, posted_put hLe]
  refine ⟨rfl, ?_, _, hPost⟩
  rw [pending, hQueued, (Connection.sameBut_put _ _).current?, hConnection, current?_finalized]

end Account

/-! ## Histories -/

namespace History

structure Kept (h : History) (parcels : List Parcel) (gathered : List Octets) : Prop where
  sound : h.outlet.Sound
  account : Account h.outlet.connection h.accepted h.sent h.postings parcels gathered
  pending : gathered.flatten = h.outlet.pending

theorem kept_start (id : ConnectionId) (peer : SocketAddress) (capacity : Nat) :
    (start id peer capacity).Kept [] [] :=
  ⟨sound_new id peer capacity, .start id peer, rfl⟩

variable {h : History}

theorem run_concat (h : History) (moves : List Move) (move : Move) :
    h.run (moves ++ [move]) = (h.run moves).next move :=
  List.foldl_append ..

theorem sound_next (hSound : h.outlet.Sound) (move : Move) : (h.next move).outlet.Sound := by
  cases move with
  | act act => exact (hSound.perform act).1
  | installKey key mode => exact ⟨hSound.buffer, hSound.pool⟩

theorem next_eq (move : Move) {answer : Bool} {o : Outlet}
    (hMove : move.perform h.outlet = (answer, o)) :
    h.next move =
      { outlet := o
        accepted := h.accepted ++ if answer then move.message?.toList else []
        sent := h.sent ++ move.sent h.outlet
        postings := h.postings ++ posted h.outlet.connection o.connection move.splits } := by
  rw [next, hMove]
  rfl

theorem Kept.idle (hKept : h.Kept parcels gathered) (move : Move) {answer : Bool} {o : Outlet}
    (hMove : move.perform h.outlet = (answer, o))
    (hMessage : (if answer then move.message?.toList else []) = [])
    (hSent : move.sent h.outlet = []) (hTallies : Tallies h.outlet.connection o.connection)
    (hClosed : o.connection.disconnected = h.outlet.connection.disconnected)
    (hPending : o.pending = h.outlet.pending) : (h.next move).Kept parcels gathered := by
  have hSound := sound_next hKept.sound move
  rw [next_eq _ hMove, hMessage, hSent, posted_eq_nil hTallies.framesQueued, List.append_nil,
    List.append_nil, List.append_nil] at hSound ⊢
  refine ⟨hSound, hKept.account.congr hTallies ?_, hKept.pending.trans hPending.symm⟩
  rw [hClosed]
  exact hKept.account.closed

theorem Kept.sealed (hKept : h.Kept parcels gathered) (move : Move) {answer : Bool} {o : Outlet}
    (hMove : move.perform h.outlet = (answer, o)) (hMessage : move.message? = none)
    (hSplits : move.splits = false) (hSent : move.sent h.outlet = [])
    (hTallies : Tallies h.outlet.finalized o.connection) (hPending : o.pending = []) :
    (h.next move).Kept (parcels ++ wrapped h.outlet.connection gathered) [] := by
  have hSound := sound_next hKept.sound move
  have hFinalized := hKept.account.finalize hKept.pending
  have hPosted : posted h.outlet.connection h.outlet.finalized false =
      posted h.outlet.connection o.connection move.splits := by
    rw [posted, posted, hTallies.framesQueued, hSplits]
  rw [hPosted] at hFinalized
  have hNothing : (if answer then move.message?.toList else []) = [] := by
    rw [hMessage, Option.toList_none, ite_self]
  rw [next_eq _ hMove, hNothing, hSent, List.append_nil, List.append_nil] at hSound ⊢
  exact ⟨hSound, hFinalized.congr hTallies fun _ => rfl, hPending.symm⟩

theorem Kept.enqueue (hKept : h.Kept parcels gathered) {message : Octets}
    (hOpen : h.outlet.connection.disconnected = false) (hLength : message.length ≤ maxPayload) :
    ∃ more gathered', (h.next (.act (.enqueue message))).Kept (parcels ++ more) gathered' := by
  have hSound := sound_next hKept.sound (.act (.enqueue message))
  obtain ⟨-, -, -, hTrue, -⟩ := hKept.sound.enqueue hOpen hLength
  obtain ⟨more, gathered', hAccount, hPending⟩ :=
    hKept.account.enqueue hKept.sound hKept.pending hOpen hLength
  have hMove : Move.perform h.outlet (.act (.enqueue message)) =
      (true, (h.outlet.enqueue message).2) := Prod.ext hTrue rfl
  have hSent : Move.sent h.outlet (.act (.enqueue message)) = [] := rfl
  refine ⟨more, gathered', hSound, ?_, hPending⟩
  rw [next_eq _ hMove, hSent, List.append_nil]
  exact hAccount

theorem Kept.enqueueBuffer (hKept : h.Kept parcels gathered) {b : PooledBuffer}
    (hb : b.buffer.WellFormed) (hOpen : h.outlet.connection.disconnected = false)
    (hSome : b.buffer.payload ≠ []) :
    ∃ more, (h.next (.act (.enqueueBuffer b hb))).Kept (parcels ++ more) [] := by
  have hSound := sound_next hKept.sound (.act (.enqueueBuffer b hb))
  obtain ⟨hTrue, hPending, more, hAccount⟩ :=
    hKept.account.enqueueBuffer hKept.sound hKept.pending hb hOpen hSome
  have hMove : Move.perform h.outlet (.act (.enqueueBuffer b hb)) =
      (true, (h.outlet.enqueueBuffer b).2) := Prod.ext hTrue rfl
  have hSent : Move.sent h.outlet (.act (.enqueueBuffer b hb)) = [] := rfl
  refine ⟨more, hSound, ?_, hPending.symm⟩
  rw [next_eq _ hMove, hSent, List.append_nil]
  exact hAccount

theorem Kept.flush (hKept : h.Kept parcels gathered)
    (hOpen : ¬ h.outlet.connection.disconnected = true) :
    (h.next (.act .flush)).Kept (parcels ++ wrapped h.outlet.connection gathered) [] := by
  obtain ⟨hConnection, -, -⟩ := hKept.sound.finalize
  have hMove : Move.perform h.outlet (.act .flush) = h.outlet.finalize := if_neg hOpen
  have hPending : h.outlet.finalize.2.pending = [] := by
    rw [Outlet.pending, hConnection, current?_finalized]
  refine hKept.sealed _ (o := h.outlet.finalize.2) (hMove.trans rfl) rfl rfl rfl ?_ hPending
  rw [hConnection]
  exact ⟨rfl, rfl, rfl⟩

theorem Kept.shut (hKept : h.Kept parcels gathered)
    (hOpen : ¬ h.outlet.connection.disconnected = true) :
    (h.next (.act .shut)).Kept (parcels ++ wrapped h.outlet.connection gathered) [] := by
  obtain ⟨hConnection, -, -⟩ := hKept.sound.finalize
  have hShut : h.outlet.shut = (some ⟨h.outlet.finalize.2.connection.session?⟩,
      { h.outlet.finalize.2 with connection :=
        { h.outlet.finalize.2.connection with disconnected := true, session? := none } }) :=
    if_neg hOpen
  have hPending : h.outlet.shut.2.pending = [] := by
    rw [hShut, Outlet.pending, hConnection, current?_finalized]
  refine hKept.sealed (.act .shut) rfl rfl rfl rfl ?_ hPending
  rw [hShut, hConnection]
  exact ⟨rfl, rfl, rfl⟩

theorem Kept.pop (hKept : h.Kept parcels gathered) :
    (h.next (.act .frameSent)).Kept parcels gathered := by
  have hSound := sound_next hKept.sound (.act .frameSent)
  have hSame : h.outlet.connection.frameSent.framesQueued = h.outlet.connection.framesQueued ∧
      h.outlet.connection.frameSent.current? = h.outlet.connection.current? := by
    rw [Connection.frameSent]
    split <;> exact ⟨rfl, rfl⟩
  refine ⟨hSound, ?_, ?_⟩
  · rw [next_eq (.act .frameSent) rfl, posted_eq_nil hSame.1, List.append_nil]
    exact (List.append_nil h.accepted).symm ▸ hKept.account.pop
  · rw [hKept.pending]
    change _ = Outlet.pending { h.outlet with connection := h.outlet.connection.frameSent }
    rw [Outlet.pending, Outlet.pending, hSame.2]

theorem Kept.next (hKept : h.Kept parcels gathered) (move : Move) :
    ∃ more gathered', (h.next move).Kept (parcels ++ more) gathered' := by
  have hSame : Tallies h.outlet.connection h.outlet.connection := ⟨rfl, rfl, rfl⟩
  have hIdle : (h.next move).Kept parcels gathered →
      ∃ more gathered', (h.next move).Kept (parcels ++ more) gathered' :=
    fun hNext => ⟨[], gathered, by rwa [List.append_nil]⟩
  -- what is refused leaves the books alone; of the rest each call adds the frames that it queues
  cases move with
  | installKey key mode => exact hIdle (hKept.idle _ rfl rfl rfl ⟨rfl, rfl, rfl⟩ rfl rfl)
  | act act =>
    cases act with
    | enqueue message =>
      by_cases hRefused : maxPayload < message.length ∨ h.outlet.connection.disconnected = true
      · exact hIdle (hKept.idle _ (enqueue_refused hRefused) rfl rfl hSame rfl rfl)
      · rw [not_or, Nat.not_lt, Bool.not_eq_true] at hRefused
        exact hKept.enqueue hRefused.2 hRefused.1
    | enqueueBuffer b hb =>
      by_cases hRefused : h.outlet.connection.disconnected = true ∨ b.buffer.isEmpty = true
      · exact hIdle (hKept.idle _ (if_pos hRefused) rfl rfl hSame rfl rfl)
      · rw [not_or, isEmpty_iff_payload hb, Bool.not_eq_true] at hRefused
        obtain ⟨more, hNext⟩ := hKept.enqueueBuffer hb hRefused.1 hRefused.2
        exact ⟨more, [], hNext⟩
    | flush =>
      by_cases hClosed : h.outlet.connection.disconnected = true
      · exact hIdle (hKept.idle _ (if_pos hClosed) rfl rfl hSame rfl rfl)
      · exact ⟨_, [], hKept.flush hClosed⟩
    | shut =>
      by_cases hClosed : h.outlet.connection.disconnected = true
      · have hShut : h.outlet.shut = (none, h.outlet) := if_pos hClosed
        have hMove : Move.perform h.outlet (.act .shut) = (false, h.outlet) := by
          rw [Move.perform, Act.perform, hShut]
          rfl
        exact hIdle (hKept.idle _ hMove rfl rfl hSame rfl rfl)
      · exact ⟨_, [], hKept.shut hClosed⟩
    | frameSent => exact hIdle hKept.pop
    | others pool hPool => exact hIdle (hKept.idle _ rfl rfl rfl hSame rfl rfl)

theorem Kept.run (hKept : h.Kept parcels gathered) (moves : List Move) :
    ∃ more gathered', (h.run moves).Kept (parcels ++ more) gathered' := by
  induction moves generalizing h parcels gathered with
  | nil => exact ⟨[], gathered, by rwa [List.append_nil]⟩
  | cons move moves ih =>
    obtain ⟨more, gathered', hNext⟩ := hKept.next move
    obtain ⟨rest, last, hRun⟩ := ih hNext
    exact ⟨more ++ rest, last, by rwa [← List.append_assoc]⟩

/-! ## Gathering -/

/-- A move that only gathers makes no frame as long as there is room. -/
theorem Kept.gather (hKept : h.Kept parcels gathered) {move : Move} (hMove : move.Gathers)
    (hOpen : h.outlet.connection.disconnected = false)
    (hRoom : gathered.flatten.length + move.message?.toList.flatten.length ≤ maxPayload) :
    (h.next move).Kept parcels (gathered ++ present move.message?.toList) ∧
      (h.next move).accepted = h.accepted ++ move.message?.toList ∧
      (h.next move).outlet.connection.disconnected = false ∧
      (h.next move).outlet.connection.frameOf = h.outlet.connection.frameOf := by
  have hSound := sound_next hKept.sound move
  cases move with
  | installKey key mode => exact hMove.elim
  | act act =>
    cases act with
    | enqueue message =>
      rw [Move.message?, Option.toList_some, List.flatten_singleton] at hRoom
      have hRoom' : h.outlet.HasRoom message := by rwa [HasRoom, ← hKept.pending]
      obtain ⟨hAccount, hPending, hStill, hFrame⟩ :=
        hKept.account.enqueue_room hKept.sound hKept.pending hOpen hRoom'
      obtain ⟨-, -, -, hTrue, -⟩ :=
        hKept.sound.enqueue hOpen ((Nat.le_add_left ..).trans hRoom')
      have hPerform : Move.perform h.outlet (.act (.enqueue message)) =
          (true, (h.outlet.enqueue message).2) := Prod.ext hTrue rfl
      have hSent : Move.sent h.outlet (.act (.enqueue message)) = [] := rfl
      refine ⟨⟨hSound, ?_, ?_⟩, ?_, hStill, hFrame⟩
      · rw [next_eq _ hPerform, hSent, List.append_nil]
        exact hAccount
      · rw [next_eq _ hPerform, hPending, List.flatten_append, flatten_present, hKept.pending]
        exact congrArg _ List.flatten_singleton
      · rw [next_eq _ hPerform]
        rfl
    | frameSent =>
      have hSame : h.outlet.connection.frameSent.disconnected = h.outlet.connection.disconnected ∧
          h.outlet.connection.frameSent.frameOf = h.outlet.connection.frameOf := by
        rw [Connection.frameSent]
        split <;> exact ⟨rfl, rfl⟩
      refine ⟨?_, rfl, hSame.1.trans hOpen, hSame.2⟩
      exact (List.append_nil gathered).symm ▸ hKept.pop
    | others pool hPool =>
      refine ⟨?_, rfl, hOpen, rfl⟩
      exact (List.append_nil gathered).symm ▸
        hKept.idle (.act (.others pool hPool)) rfl rfl rfl ⟨rfl, rfl, rfl⟩ rfl rfl
    | enqueueBuffer | flush | shut => exact hMove.elim

theorem Kept.gather_run (hKept : h.Kept parcels gathered) {moves : List Move}
    (hMoves : ∀ move ∈ moves, move.Gathers)
    (hOpen : h.outlet.connection.disconnected = false)
    (hRoom : gathered.flatten.length + (moves.filterMap Move.message?).flatten.length ≤
      maxPayload) :
    (h.run moves).Kept parcels (gathered ++ present (moves.filterMap Move.message?)) ∧
      (h.run moves).accepted = h.accepted ++ moves.filterMap Move.message? ∧
      (h.run moves).outlet.connection.disconnected = false ∧
      (h.run moves).outlet.connection.frameOf = h.outlet.connection.frameOf := by
  induction moves generalizing h gathered with
  | nil =>
    refine ⟨?_, (List.append_nil _).symm, hOpen, rfl⟩
    exact (List.append_nil gathered).symm ▸ hKept
  | cons move moves ih =>
    have hSplit : (move :: moves).filterMap Move.message? =
        move.message?.toList ++ moves.filterMap Move.message? := by
      cases hMessage : move.message? with
      | none => rw [List.filterMap_cons_none hMessage, Option.toList_none, List.nil_append]
      | some message => rw [List.filterMap_cons_some hMessage, Option.toList_some]; rfl
    rw [hSplit, List.flatten_append, List.length_append] at hRoom
    -- the room is for all messages together: what the first one takes, the rest does not have
    obtain ⟨hNext, hAccepted, hStill, hFrame⟩ :=
      hKept.gather (hMoves move List.mem_cons_self) hOpen (by omega)
    obtain ⟨hLast, hAll, hEnd, hSame⟩ := ih hNext
      (fun other hOther => hMoves other (List.mem_cons_of_mem _ hOther)) hStill (by
        rw [List.flatten_append, flatten_present, List.length_append]
        omega)
    rw [hSplit, present_append, ← List.append_assoc, ← List.append_assoc, ← hAccepted]
    exact ⟨hLast, hAll, hEnd, hSame.trans hFrame⟩

theorem Kept.coalesce (hKept : h.Kept parcels gathered) {moves : List Move}
    (hMoves : ∀ move ∈ moves, move.Gathers)
    (hOpen : h.outlet.connection.disconnected = false) (hPending : h.outlet.pending = [])
    (hSome : (moves.filterMap Move.message?).flatten ≠ [])
    (hLength : (moves.filterMap Move.message?).flatten.length ≤ maxPayload) :
    let last := h.run (moves ++ [.act .flush])
    last.accepted = h.accepted ++ moves.filterMap Move.message? ∧
      last.sent ++ last.outlet.connection.queue = h.sent ++ h.outlet.connection.queue ++
        [h.outlet.connection.frameOf (moves.filterMap Move.message?).flatten] ∧
      last.outlet.connection.framesQueued = h.outlet.connection.framesQueued + 1 := by
  have hNothing := hKept.account.gathered_eq_nil (hKept.pending.trans hPending)
  subst hNothing
  obtain ⟨hRun, hAccepted, hStill, hFrame⟩ :=
    hKept.gather_run hMoves hOpen (by simpa using hLength)
  rw [List.nil_append] at hRun
  have hLast := hRun.flush (by simp [hStill])
  rw [wrapped, flatten_present, if_neg hSome] at hLast
  have hNone : (if (Move.perform (h.run moves).outlet (.act .flush)).1 then
      (Move.act .flush).message?.toList else []) = [] := by
    exact ite_self _
  simp only [run_concat]
  refine ⟨?_, ?_, ?_⟩
  · rw [History.next, hNone, List.append_nil, hAccepted]
  · rw [hLast.account.frames, hKept.account.frames, List.map_append, List.map_singleton,
      frame_parcel, hFrame, flatten_present]
  · rw [hLast.account.framesQueued, hKept.account.framesQueued, List.length_append,
      List.length_singleton]

/-! ## What is delivered -/

/-- What a history says about the messages: which frames have been sent, which wait, and which
messages are still being gathered. -/
structure Delivers (h : History) (done waiting : List Parcel) (gathered : List Octets) :
    Prop where
  sent : h.sent = done.map Parcel.frame
  queue : h.outlet.connection.queue = waiting.map Parcel.frame
  postings : (done ++ waiting).map Parcel.toPosting = h.postings
  /-- An empty message is accepted, and there is nothing of it to be sent. -/
  messages : (done ++ waiting).flatMap Parcel.messages ++ gathered = present h.accepted
  pending : gathered.flatten = h.outlet.pending
  bytes : ((done ++ waiting).map Parcel.payload).flatten ++ h.outlet.pending =
    h.accepted.flatten
  sizes : ∀ p ∈ done ++ waiting, p.payload ≠ [] ∧ p.payload.length ≤ maxPayload
  framesSent : h.outlet.connection.framesSent = done.length
  framesQueued : h.outlet.connection.framesQueued =
    h.outlet.connection.framesSent + h.outlet.connection.queue.length
  overflows : (done ++ waiting).IsChain Parcel.Overflows
  closed : h.outlet.connection.disconnected = true → gathered = []

theorem Kept.delivers (hKept : h.Kept parcels gathered) :
    ∃ done waiting, h.Delivers done waiting gathered := by
  have hAccount := hKept.account
  obtain ⟨done, waiting, rfl, hSent, hQueue⟩ := List.append_eq_map_iff.mp hAccount.frames
  have hDone : h.sent.length = done.length := by rw [← hSent, List.length_map]
  have hWaiting : h.outlet.connection.queue.length = waiting.length := by
    rw [← hQueue, List.length_map]
  refine ⟨done, waiting, hSent.symm, hQueue.symm, hAccount.postings, hAccount.messages,
    hKept.pending, ?_, hAccount.sizes, hAccount.framesSent.trans hDone, ?_, hAccount.chain,
    hAccount.closed⟩
  · calc ((done ++ waiting).map Parcel.payload).flatten ++ h.outlet.pending
        = ((done ++ waiting).flatMap Parcel.messages).flatten ++ gathered.flatten := by
          rw [hKept.pending, List.flatMap_def, List.flatten_flatten, List.map_map]
          rfl
      _ = h.accepted.flatten := by
          rw [← List.flatten_append, hAccount.messages, flatten_present]
  · rw [hAccount.framesQueued, hAccount.framesSent, hDone, hWaiting, List.length_append]

/-! ## Closing -/

theorem next_shut (h : History) :
    (h.next (.act .shut)).outlet.connection.disconnected = true ∧
      (h.next (.act .shut)).accepted = h.accepted := by
  have hNothing : (h.next (.act .shut)).accepted = h.accepted ++ [] :=
    congrArg (h.accepted ++ ·) (ite_self _)
  refine ⟨?_, hNothing.trans (List.append_nil _)⟩
  change h.outlet.shut.2.connection.disconnected = true
  rw [shut]
  split
  case isTrue hClosed => exact hClosed
  case isFalse => rfl

/-- No move opens a closed connection again, and none brings it another message. -/
theorem next_of_closed (hSound : h.outlet.Sound)
    (hClosed : h.outlet.connection.disconnected = true) (move : Move) :
    (h.next move).outlet.connection.disconnected = true ∧
      (h.next move).accepted = h.accepted := by
  have hNothing : (if (move.perform h.outlet).1 then move.message?.toList else []) = [] →
      (h.next move).accepted = h.accepted := fun hNone => by
    rw [History.next, hNone, List.append_nil]
  cases move with
  | installKey key mode => exact ⟨hClosed, hNothing rfl⟩
  | act act =>
    by_cases hShut : act = .shut
    · rw [hShut]
      exact h.next_shut
    · refine ⟨(hSound.disconnected_perform hShut).trans hClosed, hNothing ?_⟩
      cases act with
      | enqueue message =>
        have hRefused : Move.perform h.outlet (.act (.enqueue message)) = (false, h.outlet) :=
          enqueue_refused (Or.inr hClosed)
        rw [hRefused]
        rfl
      | enqueueBuffer b hb =>
        have hRefused : (Move.perform h.outlet (.act (.enqueueBuffer b hb))).1 = false :=
          congrArg Prod.fst (if_pos (Or.inl hClosed))
        rw [hRefused]
        rfl
      | flush | shut | frameSent | others => exact ite_self _

theorem run_of_closed (hSound : h.outlet.Sound)
    (hClosed : h.outlet.connection.disconnected = true) (moves : List Move) :
    (h.run moves).outlet.connection.disconnected = true ∧
      (h.run moves).accepted = h.accepted := by
  induction moves generalizing h with
  | nil => exact ⟨hClosed, rfl⟩
  | cons move moves ih =>
    obtain ⟨hStill, hSame⟩ := next_of_closed hSound hClosed move
    obtain ⟨hLast, hAll⟩ := ih (sound_next hSound move) hStill
    exact ⟨hLast, hAll.trans hSame⟩

/-- From the close on, the frames hold all there is to send, and the messages in them are those that
had been accepted by then. -/
theorem Kept.closed (hKept : h.Kept parcels gathered) (later : List Move) :
    let last := h.run (.act .shut :: later)
    last.outlet.connection.disconnected = true ∧ last.accepted = h.accepted ∧
      last.outlet.pending = [] ∧
      ∃ done waiting, last.Delivers done waiting [] ∧
        (done ++ waiting).flatMap Parcel.messages = present h.accepted := by
  intro last
  obtain ⟨hShut, hSame⟩ := h.next_shut
  obtain ⟨hClosed, hAll⟩ := run_of_closed (sound_next hKept.sound (.act .shut)) hShut later
  obtain ⟨more, gathered', hLast⟩ := hKept.run (.act .shut :: later)
  have hNothing : gathered' = [] := hLast.account.closed hClosed
  subst hNothing
  obtain ⟨done, waiting, hDelivers⟩ := hLast.delivers
  refine ⟨hClosed, hAll.trans hSame, hLast.pending.symm, done, waiting, hDelivers, ?_⟩
  rw [← hSame, ← hAll]
  exact (List.append_nil _).symm.trans hDelivers.messages

/-- Nothing is lost, doubled, reordered or cut on the way out, and messages that fit into one frame
and meet an empty buffer go out in one frame when they are flushed. Once the connection has been
closed it takes no message, and what it had taken is in its frames. -/
theorem delivers_run (id : ConnectionId) (peer : SocketAddress) (capacity : Nat)
    (moves : List Move) :
    let h := (start id peer capacity).run moves
    (∃ done waiting gathered, h.Delivers done waiting gathered) ∧
      (∀ batch : List Move, (∀ move ∈ batch, move.Gathers) →
        h.outlet.connection.disconnected = false → h.outlet.pending = [] →
        (batch.filterMap Move.message?).flatten ≠ [] →
        (batch.filterMap Move.message?).flatten.length ≤ maxPayload →
        let last := h.run (batch ++ [.act .flush])
        last.accepted = h.accepted ++ batch.filterMap Move.message? ∧
          last.sent ++ last.outlet.connection.queue = h.sent ++ h.outlet.connection.queue ++
            [h.outlet.connection.frameOf (batch.filterMap Move.message?).flatten] ∧
          last.outlet.connection.framesQueued = h.outlet.connection.framesQueued + 1) ∧
      ∀ later : List Move,
        let last := h.run (.act .shut :: later)
        last.outlet.connection.disconnected = true ∧ last.accepted = h.accepted ∧
          last.outlet.pending = [] ∧
          ∃ done waiting, last.Delivers done waiting [] ∧
            (done ++ waiting).flatMap Parcel.messages = present h.accepted := by
  obtain ⟨parcels, gathered, hKept⟩ := (kept_start id peer capacity).run moves
  obtain ⟨done, waiting, hDelivers⟩ := hKept.delivers
  refine ⟨⟨done, waiting, gathered, hDelivers⟩, ?_, hKept.closed⟩
  intro batch hBatch hOpen hPending hSome hLength
  exact hKept.coalesce hBatch hOpen hPending hSome hLength

/-- Two messages of this length do not fit into one frame. -/
def bulky (byte : UInt8) : Octets :=
  List.replicate 13000 byte

def overflowing : List Move :=
  [.act (.enqueue (bulky 1)), .act (.enqueue (bulky 2)), .act .flush]

def overflowed : History :=
  (start 7 ⟨.v4 127 0 0 1, 0, 50000⟩ 4).run overflowing

/-- The second message pushes the first one out, two small ones share a frame, and a third small one
is still being gathered as the connection is closed. The one behind that is refused. -/
theorem delivers_run_overflowing :
    overflowed.outlet.connection.framesQueued = 2 ∧
      (overflowed.run ([.act (.enqueue [1]), .act (.enqueue [2, 3])] ++
        [.act .flush])).outlet.connection.framesQueued = 3 ∧
      let last := (overflowed.next (.act (.enqueue [4]))).run
        [.act .shut, .act .frameSent, .act (.enqueue [5])]
      last.outlet.connection.disconnected = true ∧
        ∃ done waiting, last.Delivers done waiting [] ∧
          ((done ++ waiting).flatMap Parcel.messages).map List.length = [13000, 13000, 1] := by
  obtain ⟨hTwo, hOpen, hNothing⟩ : overflowed.outlet.connection.framesQueued = 2 ∧
      overflowed.outlet.connection.disconnected = false ∧ overflowed.outlet.pending = [] := by
    decide +kernel
  have hRun : (start 7 ⟨.v4 127 0 0 1, 0, 50000⟩ 4).run overflowing = overflowed := rfl
  obtain ⟨-, hBatch, -⟩ := delivers_run 7 ⟨.v4 127 0 0 1, 0, 50000⟩ 4 overflowing
  rw [hRun] at hBatch
  obtain ⟨-, -, hThree⟩ := hBatch [.act (.enqueue [1]), .act (.enqueue [2, 3])]
    (by simp [Move.Gathers]) hOpen hNothing (by decide) (by decide)
  have hMore : (start 7 ⟨.v4 127 0 0 1, 0, 50000⟩ 4).run
      (overflowing ++ [.act (.enqueue [4])]) = overflowed.next (.act (.enqueue [4])) :=
    run_concat ..
  obtain ⟨-, -, hClose⟩ := delivers_run 7 ⟨.v4 127 0 0 1, 0, 50000⟩ 4
    (overflowing ++ [.act (.enqueue [4])])
  rw [hMore] at hClose
  obtain ⟨hClosed, -, -, done, waiting, hDelivers, hMessages⟩ :=
    hClose [.act .frameSent, .act (.enqueue [5])]
  have hLengths : (present (overflowed.next (.act (.enqueue [4]))).accepted).map List.length =
      [13000, 13000, 1] := by decide +kernel
  exact ⟨hTwo, hThree.trans (congrArg (· + 1) hTwo), hClosed, done, waiting, hDelivers,
    (congrArg _ hMessages).trans hLengths⟩

end History

end Outlet

end Gatehouse
