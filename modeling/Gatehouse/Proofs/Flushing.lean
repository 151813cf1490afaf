import Mathlib.Data.Set.Card
import Gatehouse.Proofs.Closing

/-!
# One tick

A tick drops from the roster who is gone or closed and flushes the others one after the other. A
flush looks at its own connection only, so that it makes no difference who comes first, and after
the tick nobody has anything left to send.
-/

namespace Gatehouse

open Wire

namespace Connection

def gathered (c : Connection) : Octets :=
  match c.current? with
  | some b => b.buffer.payload
  | none => []

/-- What a flush leaves. -/
def flushed (c : Connection) : Connection :=
  if c.disconnected then c
  else if c.gathered = [] then { c with current? := none }
  else put { c with current? := none } c.gathered

/-- One more frame stands behind the others, and its payload is what had been gathered. -/
structure Gains (c d : Connection) : Prop where
  queue : d.queue = c.queue ++ [c.frameOf c.gathered]
  payload : ∀ payload, payload.length ≤ maxPayload → c.frameOf payload = c.frameOf c.gathered →
    payload = c.gathered
  framesQueued : d.framesQueued = c.framesQueued + 1
  framesSent : d.framesSent = c.framesSent
  bytesSent : d.bytesSent = c.bytesSent
  current? : d.current? = none
  keeps : Keeps c d

/-- Nothing has changed, but that an empty buffer may have been given back. -/
structure Idles (c d : Connection) : Prop where
  same : d = { c with current? := d.current? }
  gathered : d.gathered = c.gathered

variable {c : Connection}

/-- The frame shows its payload to everyone who has the key. -/
theorem frameOf_inj {p q : Octets} (hp : p.length ≤ maxPayload) (hq : q.length ≤ maxPayload)
    (hFrame : c.frameOf p = c.frameOf q) : p = q := by
  have hPayload : ∀ payload, (Outlet.parcel c false [payload]).payload = payload :=
    fun payload => List.flatten_singleton
  have hParcel : ∀ payload, (Outlet.parcel c false [payload]).frame = c.frameOf payload :=
    fun payload => (Outlet.frame_parcel c false [payload]).trans
      (congrArg c.frameOf List.flatten_singleton)
  rw [← hParcel p, ← hParcel q] at hFrame
  have hPosting : (Outlet.parcel c false [p]).toPosting = (Outlet.parcel c false [q]).toPosting :=
    rfl
  have hSame := Parcel.payload_eq_of_frame_eq hPosting (by rwa [hPayload]) (by rwa [hPayload])
    hFrame
  rwa [hPayload, hPayload] at hSame

theorem bytesSent_put (c : Connection) (payload : Octets) :
    (c.put payload).bytesSent = c.bytesSent := by
  have hCounted : c.counted.bytesSent = c.bytesSent := by
    rw [counted]
    split <;> rfl
  rw [put, push, ← hCounted]
  split <;> rfl

theorem current?_setSession (c : Connection) (handle : SessionHandle) :
    (c.setSession handle).2.current? = c.current? := by
  rw [setSession]
  split <;> rfl

theorem current?_frameSent (c : Connection) : c.frameSent.current? = c.current? := by
  rw [frameSent]
  split <;> rfl

theorem gathered_of_current? (hCurrent : c.current? = none) : c.gathered = [] := by
  rw [gathered, hCurrent]

theorem flushed_of_closed (hClosed : c.disconnected = true) : c.flushed = c :=
  if_pos hClosed

theorem flushed_of_open (hOpen : c.disconnected = false) (pool : BufferPool) :
    c.flushed = Outlet.finalized ⟨c, pool⟩ :=
  if_neg (by simp [hOpen])

theorem disconnected_flushed (c : Connection) : c.flushed.disconnected = c.disconnected := by
  cases hDisconnected : c.disconnected with
  | true => rw [flushed_of_closed hDisconnected, hDisconnected]
  | false =>
    rw [flushed_of_open hDisconnected (.ofCapacity 1), Outlet.disconnected_finalized, hDisconnected]

theorem current?_flushed (hOpen : c.disconnected = false) : c.flushed.current? = none := by
  rw [flushed_of_open hOpen (.ofCapacity 1), Outlet.current?_finalized]

theorem flushed_flushed (c : Connection) : c.flushed.flushed = c.flushed := by
  cases hDisconnected : c.disconnected with
  | true => rw [flushed_of_closed hDisconnected, flushed_of_closed hDisconnected]
  | false =>
    have hOpen : ¬ c.flushed.disconnected = true := by simp [disconnected_flushed, hDisconnected]
    have hCurrent := current?_flushed hDisconnected
    rw [flushed, if_neg hOpen, if_pos (gathered_of_current? hCurrent), clear_current hCurrent]

theorem gains_flushed (hOpen : c.disconnected = false) (hSome : c.gathered ≠ [])
    (hLength : c.gathered.length ≤ maxPayload) : Gains c c.flushed := by
  have hFlushed : c.flushed = put { c with current? := none } c.gathered := by
    rw [flushed, if_neg (by simp [hOpen]), if_neg hSome]
  refine ⟨?_, fun payload hPayload => frameOf_inj hPayload hLength, ?_, ?_, ?_,
    current?_flushed hOpen, ?_⟩
  · rw [hFlushed, queue_put]
    rfl
  · rw [hFlushed, (counters_put _ _).2]
  · rw [hFlushed, (counters_put _ _).1]
  · rw [hFlushed, bytesSent_put]
  · rw [flushed_of_open hOpen (.ofCapacity 1)]
    exact Outlet.keeps_finalized ⟨c, _⟩

theorem Idles.refl (c : Connection) : Idles c c := ⟨rfl, rfl⟩

theorem idles_flushed (hNone : c.disconnected = false → c.gathered = []) :
    Idles c c.flushed := by
  cases hDisconnected : c.disconnected with
  | true =>
    rw [flushed_of_closed hDisconnected]
    exact .refl c
  | false =>
    have hGathered := hNone hDisconnected
    have hFlushed : c.flushed = { c with current? := none } := by
      rw [flushed, if_neg (by simp [hDisconnected]), if_pos hGathered]
    rw [hFlushed]
    exact ⟨rfl, hGathered.symm⟩

end Connection

namespace Outlet

theorem Sound.flush {c : Connection} {pool : BufferPool} (ho : Sound ⟨c, pool⟩) :
    (Outlet.flush ⟨c, pool⟩).2.connection = c.flushed ∧ (Outlet.flush ⟨c, pool⟩).2.pool.Sound ∧
      ((Outlet.flush ⟨c, pool⟩).1 = true ↔ c.disconnected = false ∧ c.gathered ≠ []) := by
  cases hDisconnected : c.disconnected with
  | true =>
    have hNothing : Outlet.flush ⟨c, pool⟩ = (false, ⟨c, pool⟩) := if_pos hDisconnected
    rw [hNothing, Connection.flushed_of_closed hDisconnected]
    exact ⟨rfl, ho.pool, by simp⟩
  | false =>
    have hFlush : Outlet.flush ⟨c, pool⟩ = Outlet.finalize ⟨c, pool⟩ :=
      if_neg (by simp [hDisconnected])
    obtain ⟨hConnection, hPool, hSent⟩ := ho.finalize
    rw [hFlush, Connection.flushed_of_open hDisconnected pool]
    exact ⟨hConnection, hPool, hSent.trans (by simp only [true_and]; rfl)⟩

end Outlet

namespace Server

open Connection (Call Gains Idles)

/-! ## Buffers of a server -/

/-- What holds of all buffers, whatever has been done with them. -/
structure Sound (s : Server) : Prop where
  pool : s.pool.Sound
  buffers : ∀ c ∈ s.connections, ∀ b, c.current? = some b → b.buffer.WellFormed

variable {s t : Server} {id : ConnectionId} {c : Connection}

theorem Sound.outlet (hs : s.Sound) (hConnection : s.connection? id = some c) :
    Outlet.Sound ⟨c, s.pool⟩ :=
  ⟨hs.buffers c (List.mem_of_find?_eq_some hConnection), hs.pool⟩

theorem Sound.length_gathered_le (hs : s.Sound) (hConnection : s.connection? id = some c) :
    c.gathered.length ≤ maxPayload :=
  (hs.outlet hConnection).length_pending_le

theorem sound_start (config : Config) (key : Rsa.Key) (state : WorldState) (world : World)
    (handlers : HandlerTable) (capacity : Nat) :
    (start config key state world handlers capacity).Sound :=
  ⟨BufferPool.sound_ofCapacity capacity, fun _ hc => nomatch hc⟩

theorem Sound.congr (hs : s.Sound) (hPool : t.pool = s.pool)
    (hConnections : t.connections = s.connections) : t.Sound :=
  ⟨hPool ▸ hs.pool, hConnections ▸ hs.buffers⟩

theorem Sound.accept (hs : s.Sound) (peer : SocketAddress) : (s.accept peer).2.Sound := by
  refine ⟨hs.pool, fun c hc b hb => ?_⟩
  rcases List.mem_append.mp hc with hc | hc
  · exact hs.buffers c hc b hb
  · rw [List.mem_singleton.mp hc] at hb
    cases hb

theorem Sound.modify (hs : s.Sound) (f : Connection → Connection)
    (hf : ∀ c, (f c).current? = c.current?) (id : ConnectionId) : (s.modify id f).Sound := by
  refine ⟨hs.pool, fun d hd b hb => ?_⟩
  obtain ⟨c, hc, rfl⟩ := List.mem_map.mp hd
  split at hb
  · exact hs.buffers c hc b ((hf c).symm.trans hb)
  · exact hs.buffers c hc b hb

theorem Sound.onOutlet (hs : s.Sound) {α : Type} (f : Outlet → α × Outlet)
    (hf : ∀ o : Outlet, o.Sound → (f o).2.Sound) (id : ConnectionId) (absent : α) :
    (s.onOutlet id absent f).2.Sound := by
  cases hConnection : s.connection? id with
  | none =>
    rw [Server.onOutlet, hConnection]
    exact hs
  | some c =>
    have hOutlet := hf _ (hs.outlet hConnection)
    rw [onOutlet_eq _ hConnection]
    refine ⟨hOutlet.pool, fun d hd b hb => ?_⟩
    obtain ⟨e, he, rfl⟩ := List.mem_map.mp hd
    split at hb
    · exact hOutlet.buffer b hb
    · exact hs.buffers e he b hb

theorem Sound.enqueue (hs : s.Sound) (id : ConnectionId) (message : Octets) :
    (s.enqueue id message).2.Sound :=
  hs.onOutlet _ (fun _ ho => (ho.perform (.enqueue message)).1) id false

theorem Sound.flush (hs : s.Sound) (id : ConnectionId) : (s.flush id).2.Sound :=
  hs.onOutlet _ (fun _ ho => (ho.perform .flush).1) id false

theorem Sound.close (hs : s.Sound) (id : ConnectionId) : (s.close id).Sound := by
  have hShut : (s.onOutlet id none Outlet.shut).2.Sound :=
    hs.onOutlet Outlet.shut (fun _ ho => (ho.perform .shut).1) id none
  rw [Server.close]
  generalize s.onOutlet id none Outlet.shut = result at hShut
  obtain ⟨_ | ⟨_ | session⟩, t⟩ := result
  · exact hShut
  · exact (hShut.modify Connection.notify (fun _ => rfl) id).congr rfl rfl
  · exact (hShut.modify Connection.notify (fun _ => rfl) id).congr rfl rfl

theorem Sound.called (hs : s.Sound) (id : ConnectionId) {call : Call}
    (hCall : ∀ b, call = .enqueueBuffer b → b.buffer.WellFormed) : (s.called id call).2.Sound := by
  cases call with
  | enqueue message => exact hs.enqueue id message
  | enqueueBuffer b =>
    exact hs.onOutlet _ (fun _ ho => (ho.perform (.enqueueBuffer b (hCall b rfl))).1) id false
  | flush => exact hs.flush id
  | setSession handle =>
    refine hs.onOutlet _ (fun o ho => ⟨fun b hb => ho.buffer b ?_, ho.pool⟩) id false
    exact (o.connection.current?_setSession handle).symm.trans hb
  | close => exact hs.close id
  | closeWith text =>
    rw [Server.called, Server.closeWith]
    split
    case isTrue => exact (hs.enqueue id _).close id
    case isFalse => exact hs
  | abort => exact (hs.close id).modify (fun c => { c with shutdown := true }) (fun _ => rfl) id
  | frameSent => exact hs.modify _ Connection.current?_frameSent id
  | woken => exact hs.modify (fun c => { c with wake := false }) (fun _ => rfl) id
  | cutOff => exact hs.modify (fun c => { c with shutdown := true }) (fun _ => rfl) id

/-! ## One flush -/

/-- An open connection that has something to send. -/
structure Loaded (s : Server) (id : ConnectionId) (c : Connection) : Prop where
  connection : s.connection? id = some c
  disconnected : c.disconnected = false
  gathered : c.gathered ≠ []

theorem Loaded.congr (h : s.Loaded id c) (hConnections : t.connections = s.connections) :
    t.Loaded id c := by
  refine ⟨?_, h.disconnected, h.gathered⟩
  rw [connection?, hConnections]
  exact h.connection

theorem connection?_onOutlet_eq_map {α : Type} {f : Outlet → α × Outlet}
    (hId : ∀ o, (f o).2.connection.id = o.connection.id) (s : Server) (id other : ConnectionId)
    (absent : α) :
    (s.onOutlet id absent f).2.connection? other =
      (s.connection? other).map fun c =>
        if other = id then (f ⟨c, s.pool⟩).2.connection else c := by
  cases hConnection : s.connection? id with
  | none =>
    rw [Server.onOutlet, hConnection]
    by_cases hHere : other = id
    · rw [hHere, hConnection, Option.map_none]
    · simp only [if_neg hHere, Option.map_id']
  | some c =>
    rw [onOutlet_eq _ hConnection]
    change (s.modify id fun _ => (f ⟨c, s.pool⟩).2.connection).connection? other = _
    rw [connection?_modify fun _ _ => (hId _).trans (id_of_connection? hConnection)]
    by_cases hHere : other = id
    · simp only [if_pos hHere]
      rw [hHere, hConnection, Option.map_some, Option.map_some]
    · simp only [if_neg hHere, Option.map_id']

theorem roster_onOutlet {α : Type} (s : Server) (id : ConnectionId) (absent : α)
    (f : Outlet → α × Outlet) : (s.onOutlet id absent f).2.roster = s.roster := by
  obtain ⟨connections, pool, hOutlet⟩ := s.exists_onOutlet id absent f
  rw [hOutlet]

theorem Sound.connection?_flush (hs : s.Sound) (id other : ConnectionId) :
    (s.flush id).2.connection? other =
      (s.connection? other).map fun c => if other = id then c.flushed else c := by
  refine (connection?_onOutlet_eq_map (fun o => o.sameSeat_flush.id) s id other false).trans ?_
  cases hConnection : s.connection? other with
  | none => rfl
  | some c => rw [Option.map_some, Option.map_some, (hs.outlet hConnection).flush.1]

theorem Sound.flush_eq_true_iff (hs : s.Sound) (id : ConnectionId) :
    (s.flush id).1 = true ↔ ∃ c, s.Loaded id c := by
  rw [Server.flush]
  cases hConnection : s.connection? id with
  | none =>
    rw [Server.onOutlet, hConnection]
    constructor
    · intro hSent
      exact absurd hSent Bool.false_ne_true
    · rintro ⟨c, hLoaded⟩
      cases hConnection.symm.trans hLoaded.connection
  | some c =>
    obtain ⟨-, -, hSent⟩ := (hs.outlet hConnection).flush
    rw [onOutlet_eq _ hConnection]
    refine hSent.trans ?_
    constructor
    · rintro ⟨hOpen, hSome⟩
      exact ⟨c, hConnection, hOpen, hSome⟩
    · rintro ⟨d, hThere, hOpen, hSome⟩
      cases hConnection.symm.trans hThere
      exact ⟨hOpen, hSome⟩

theorem Sound.loaded_flush_iff (hs : s.Sound) (id other : ConnectionId) :
    (∃ d, (s.flush id).2.Loaded other d) ↔ other ≠ id ∧ ∃ c, s.Loaded other c := by
  have hFlush := hs.connection?_flush id other
  constructor
  · rintro ⟨d, hConnection, hOpen, hSome⟩
    obtain ⟨c, hThere, rfl⟩ := Option.map_eq_some_iff.mp (hFlush.symm.trans hConnection)
    by_cases hHere : other = id
    · rw [if_pos hHere] at hOpen hSome
      rw [Connection.disconnected_flushed] at hOpen
      exact absurd (Connection.gathered_of_current? (Connection.current?_flushed hOpen)) hSome
    · rw [if_neg hHere] at hOpen hSome
      exact ⟨hHere, c, hThere, hOpen, hSome⟩
  · rintro ⟨hElse, c, hThere, hOpen, hSome⟩
    refine ⟨c, ?_, hOpen, hSome⟩
    rw [hFlush, hThere, Option.map_some, if_neg hElse]

/-! ## A round of flushes -/

/-- Flushes one more connection and counts it if it had something to send. -/
def flushNext (round : Nat × Server) (id : ConnectionId) : Nat × Server :=
  (if (round.2.flush id).1 then round.1 + 1 else round.1, (round.2.flush id).2)

theorem flushAll_eq (s : Server) :
    s.flushAll = (s.roster.tick s.isOpen).members.foldl flushNext
      (0, { s with roster := s.roster.tick s.isOpen }) :=
  rfl

/-- What a round of flushes makes of the server. -/
structure Round (s : Server) (ids : List ConnectionId) (t : Server) : Prop where
  sound : t.Sound
  roster : t.roster = s.roster
  connection? : ∀ id, t.connection? id =
    (s.connection? id).map fun c => if id ∈ ids then c.flushed else c

theorem Sound.round (hs : s.Sound) (ids : List ConnectionId) (n : Nat) :
    Round s ids (ids.foldl flushNext (n, s)).2 := by
  induction ids generalizing s n with
  | nil => exact ⟨hs, rfl, fun id => by simp⟩
  | cons first ids ih =>
    have hRound := ih (hs.flush first) (if (s.flush first).1 then n + 1 else n)
    refine ⟨hRound.sound, hRound.roster.trans (s.roster_onOutlet first false _), fun id => ?_⟩
    refine (hRound.connection? id).trans ?_
    rw [hs.connection?_flush, Option.map_map]
    congr 1
    funext c
    by_cases hFirst : id = first
    · simp [hFirst, Connection.flushed_flushed]
    · simp [hFirst]

/-- Whoever has been flushed is not counted again. -/
theorem Sound.ncard_loaded_cons (hs : s.Sound) (first : ConnectionId) (ids : List ConnectionId) :
    {id | id ∈ first :: ids ∧ ∃ c, s.Loaded id c}.ncard =
      (if (s.flush first).1 then 1 else 0) +
        {id | id ∈ ids ∧ ∃ c, (s.flush first).2.Loaded id c}.ncard := by
  simp only [hs.loaded_flush_iff]
  have hFinite : {id | id ∈ ids ∧ id ≠ first ∧ ∃ c, s.Loaded id c}.Finite :=
    ids.finite_toSet.subset fun _ h => h.1
  by_cases hLoaded : ∃ c, s.Loaded first c
  · have hSplit : {id | id ∈ first :: ids ∧ ∃ c, s.Loaded id c} =
        insert first {id | id ∈ ids ∧ id ≠ first ∧ ∃ c, s.Loaded id c} := by
      ext id
      by_cases hFirst : id = first <;> simp [hFirst, hLoaded]
    rw [if_pos ((hs.flush_eq_true_iff first).mpr hLoaded), hSplit,
      Set.ncard_insert_of_notMem (fun h => h.2.1 rfl) hFinite, Nat.add_comm]
  · have hSame : {id | id ∈ first :: ids ∧ ∃ c, s.Loaded id c} =
        {id | id ∈ ids ∧ id ≠ first ∧ ∃ c, s.Loaded id c} := by
      ext id
      by_cases hFirst : id = first <;> simp [hFirst, hLoaded]
    rw [if_neg (hLoaded ∘ (hs.flush_eq_true_iff first).mp), hSame, Nat.zero_add]

theorem Sound.count_round (hs : s.Sound) (ids : List ConnectionId) (n : Nat) :
    (ids.foldl flushNext (n, s)).1 = n + {id | id ∈ ids ∧ ∃ c, s.Loaded id c}.ncard := by
  induction ids generalizing s n with
  | nil => simp
  | cons first ids ih =>
    rw [hs.ncard_loaded_cons, List.foldl_cons]
    refine (ih (hs.flush first) _).trans ?_
    split <;> omega

/-! ## A tick -/

/-- A connection of the roster that is to get a frame. -/
def Due (s : Server) (id : ConnectionId) (c : Connection) : Prop :=
  id ∈ s.roster.members ∧ s.Loaded id c

/-- What a tick leaves, and the number that it returns. -/
structure Ticked (s : Server) (n : Nat) (t : Server) : Prop where
  roster : ∀ id, id ∈ t.roster.members ↔
    id ∈ s.roster.members ∧ ∃ c, s.connection? id = some c ∧ c.disconnected = false
  due : ∀ id c, s.Due id c → ∃ d, t.connection? id = some d ∧ Gains c d
  others : ∀ id c, s.connection? id = some c → ¬ s.Due id c →
    ∃ d, t.connection? id = some d ∧ Idles c d
  absent : ∀ id, s.connection? id = none → t.connection? id = none
  count : n = {id | ∃ c, s.Due id c}.ncard

theorem isOpen_eq_true_iff :
    s.isOpen id = true ↔ ∃ c, s.connection? id = some c ∧ c.disconnected = false := by
  rw [isOpen]
  cases s.connection? id with
  | none => simp
  | some c => simp [Connection.isOpen]

theorem mem_tick_iff :
    id ∈ (s.roster.tick s.isOpen).members ↔
      id ∈ s.roster.members ∧ ∃ c, s.connection? id = some c ∧ c.disconnected = false := by
  rw [Roster.tick, List.mem_filter, isOpen_eq_true_iff]

/-- The round goes over those who are left on the roster. For the others it would do nothing. -/
theorem Sound.connection?_flushAll (hs : s.Sound) (id : ConnectionId) :
    s.flushAll.2.connection? id =
      (s.connection? id).map fun c => if id ∈ s.roster.members then c.flushed else c := by
  have hStart : Sound { s with roster := s.roster.tick s.isOpen } := hs.congr rfl rfl
  rw [flushAll_eq, (hStart.round _ 0).connection?]
  change (s.connection? id).map _ = _
  cases hConnection : s.connection? id with
  | none => rfl
  | some c =>
    rw [Option.map_some, Option.map_some]
    by_cases hMember : id ∈ s.roster.members
    · rw [if_pos hMember]
      cases hDisconnected : c.disconnected with
      | true => rw [Connection.flushed_of_closed hDisconnected, ite_self]
      | false => rw [if_pos (mem_tick_iff.mpr ⟨hMember, c, hConnection, hDisconnected⟩)]
    · rw [if_neg hMember, if_neg fun hLeft => hMember (mem_tick_iff.mp hLeft).1]

theorem Sound.flushAll (hs : s.Sound) : s.flushAll.2.Sound := by
  have hStart : Sound { s with roster := s.roster.tick s.isOpen } := hs.congr rfl rfl
  exact (hStart.round _ 0).sound

theorem Sound.ticked (hs : s.Sound) : Ticked s s.flushAll.1 s.flushAll.2 := by
  have hStart : Sound { s with roster := s.roster.tick s.isOpen } := hs.congr rfl rfl
  have hRound := hStart.round (s.roster.tick s.isOpen).members 0
  have hCount := hStart.count_round (s.roster.tick s.isOpen).members 0
  refine ⟨fun id => ?_, fun id c hDue => ?_, fun id c hConnection hNot => ?_, fun id hNone => ?_,
    ?_⟩
  · rw [flushAll_eq, hRound.roster]
    exact mem_tick_iff
  · obtain ⟨hMember, hConnection, hOpen, hSome⟩ := hDue
    refine ⟨c.flushed, ?_, c.gains_flushed hOpen hSome (hs.length_gathered_le hConnection)⟩
    rw [hs.connection?_flushAll, hConnection, Option.map_some, if_pos hMember]
  · rw [hs.connection?_flushAll, hConnection, Option.map_some]
    refine ⟨_, rfl, ?_⟩
    split
    case isTrue hMember =>
      refine Connection.idles_flushed fun hOpen => ?_
      by_contra hSome
      exact hNot ⟨hMember, hConnection, hOpen, hSome⟩
    case isFalse => exact .refl c
  · rw [hs.connection?_flushAll, hNone, Option.map_none]
  · rw [flushAll_eq, hCount, Nat.zero_add]
    congr 1
    ext id
    constructor
    · rintro ⟨hLeft, c, hLoaded⟩
      exact ⟨c, (mem_tick_iff.mp hLeft).1, hLoaded.congr rfl⟩
    · rintro ⟨c, hMember, hLoaded⟩
      have hLeft := mem_tick_iff.mpr ⟨hMember, c, hLoaded.connection, hLoaded.disconnected⟩
      exact ⟨hLeft, c, hLoaded.congr rfl⟩

/-- The order of the roster makes no difference. -/
theorem Sound.flushAll_of_same_members (hs : s.Sound) {roster : Roster}
    (hMembers : ∀ id, id ∈ roster.members ↔ id ∈ s.roster.members) :
    (Server.flushAll { s with roster }).1 = s.flushAll.1 ∧
      ∀ id, (Server.flushAll { s with roster }).2.connection? id = s.flushAll.2.connection? id := by
  have ht : Sound { s with roster } := hs.congr rfl rfl
  refine ⟨?_, fun id => ?_⟩
  · rw [ht.ticked.count, hs.ticked.count]
    congr 1
    ext id
    refine exists_congr fun c => and_congr (hMembers id) ?_
    exact ⟨fun hLoaded => hLoaded.congr rfl, fun hLoaded => hLoaded.congr rfl⟩
  · rw [ht.connection?_flushAll, hs.connection?_flushAll]
    simp only [hMembers]
    rfl

end Server

/-! ## Between two ticks -/

namespace Connection

def Call.enqueues : Call → Bool
  | enqueue _ | enqueueBuffer _ | closeWith _ => true
  | flush | setSession _ | close | abort | frameSent | woken | cutOff => false

/-- There is nothing that a flush would send. -/
def Drained (c : Connection) : Prop :=
  c.disconnected = false → c.gathered = []

theorem drained_of_current? {c : Connection} (hCurrent : c.current? = none) : c.Drained :=
  fun _ => gathered_of_current? hCurrent

theorem Drained.congr {c d : Connection} (hc : c.Drained)
    (hDisconnected : d.disconnected = c.disconnected) (hCurrent : d.current? = c.current?) :
    d.Drained := by
  intro hOpen
  rw [gathered, hCurrent]
  exact hc (hDisconnected.symm.trans hOpen)

theorem drained_flushed (c : Connection) : c.flushed.Drained := by
  intro hOpen
  rw [disconnected_flushed] at hOpen
  exact gathered_of_current? (current?_flushed hOpen)

end Connection

theorem Roster.mem_add_iff {r : Roster} {id other : ConnectionId} :
    other ∈ (r.add id).members ↔ other ∈ r.members ∨ other = id := by
  have hMembers : (r.add id).members = (r.insert id).2.members := by
    change (if (r.insert id).1 then (r.insert id).2.notify else (r.insert id).2).members = _
    split <;> rfl
  rw [hMembers, insert]
  dsimp only
  split
  case isTrue hThere =>
    have hMember : id ∈ r.members := List.contains_iff_mem.mp hThere
    exact ⟨Or.inl, fun h => h.elim (fun h => h) fun h => h ▸ hMember⟩
  case isFalse => rw [List.mem_append, List.mem_singleton]

namespace Server

open Connection (Call Idles)

/-- What may happen while nothing is enqueued. Whoever joins the roster has nothing to send. -/
inductive Pause (s : Server) : Server → Prop where
  | called (id : ConnectionId) {call : Call} (hCall : call.enqueues = false) :
    Pause s (s.called id call).2
  | accepted (peer : SocketAddress) : Pause s (s.accept peer).2
  /-- A key is installed, for instance, or a challenge is issued. -/
  | changed (id : ConnectionId) (f : Connection → Connection) (hId : ∀ c, (f c).id = c.id)
      (hDisconnected : ∀ c, (f c).disconnected = c.disconnected)
      (hCurrent : ∀ c, (f c).current? = c.current?) : Pause s (s.modify id f)
  | joined (id : ConnectionId) (hNothing : ∀ c, s.connection? id = some c → c.Drained) :
    Pause s { s with roster := s.roster.add id }
  | left (id : ConnectionId) : Pause s { s with roster := s.roster.remove id }
  /-- Nothing happens to connections. -/
  | elsewhere {t : Server} (hPool : t.pool = s.pool) (hConnections : t.connections = s.connections)
      (hRoster : t.roster = s.roster) : Pause s t

/-- Nobody on the roster has anything to send. -/
def Drained (s : Server) : Prop :=
  ∀ id ∈ s.roster.members, ∀ c, s.connection? id = some c → c.Drained

variable {s t : Server} {id : ConnectionId}

theorem Drained.not_due (hs : s.Drained) (c : Connection) : ¬ s.Due id c :=
  fun ⟨hMember, hConnection, hOpen, hSome⟩ => hSome (hs id hMember c hConnection hOpen)

theorem Drained.of_members (hs : s.Drained) (hConnections : t.connections = s.connections)
    (hMembers : t.roster.members ⊆ s.roster.members) : t.Drained := by
  intro id hMember c hConnection
  rw [connection?, hConnections] at hConnection
  exact hs id (hMembers hMember) c hConnection

theorem Drained.accept (hs : s.Drained) (peer : SocketAddress) : (s.accept peer).2.Drained := by
  intro id hMember c hConnection
  rw [connection?, Server.accept, List.find?_append, Option.or_eq_some_iff] at hConnection
  rcases hConnection with hConnection | ⟨-, hConnection⟩
  · exact hs id hMember c hConnection
  · have hNew := List.mem_singleton.mp (List.mem_of_find?_eq_some hConnection)
    exact Connection.drained_of_current? (hNew ▸ rfl)

theorem Drained.modify (hs : s.Drained) (f : Connection → Connection)
    (hId : ∀ c, (f c).id = c.id) (hf : ∀ c, c.Drained → (f c).Drained) (id : ConnectionId) :
    (s.modify id f).Drained := by
  intro other hMember d hConnection
  rw [connection?_modify fun c hc => (hId c).trans hc] at hConnection
  split at hConnection
  · obtain ⟨c, hThere, rfl⟩ := Option.map_eq_some_iff.mp hConnection
    exact hf c (hs other hMember c hThere)
  · exact hs other hMember d hConnection

theorem Drained.onOutlet (hs : s.Drained) {α : Type} (f : Outlet → α × Outlet)
    (hId : ∀ o, (f o).2.connection.id = o.connection.id)
    (hf : ∀ o, o.connection.Drained → (f o).2.connection.Drained) (id : ConnectionId)
    (absent : α) : (s.onOutlet id absent f).2.Drained := by
  intro other hMember d hConnection
  rw [roster_onOutlet] at hMember
  rw [connection?_onOutlet_eq_map hId] at hConnection
  obtain ⟨c, hThere, rfl⟩ := Option.map_eq_some_iff.mp hConnection
  have hDrained := hs other hMember c hThere
  split
  · exact hf _ hDrained
  · exact hDrained

theorem Drained.close (hs : s.Drained) (id : ConnectionId) : (s.close id).Drained := by
  have hShut : (s.onOutlet id none Outlet.shut).2.Drained := by
    refine hs.onOutlet Outlet.shut (fun o => o.shut_spec.1) (fun o ho => ?_) id none
    rw [Outlet.shut]
    split
    case isTrue => exact ho
    case isFalse =>
      intro hOpen
      cases hOpen
  have hRemoved : ∀ t : Server, Drained t →
      Drained { t.modify id Connection.notify with
        roster := (t.modify id Connection.notify).roster.remove id } := by
    intro t ht
    have hNotified : (t.modify id Connection.notify).Drained :=
      ht.modify Connection.notify (fun _ => rfl) (fun _ hc => hc.congr rfl rfl) id
    exact hNotified.of_members rfl (List.filter_subset_self _)
  rw [Server.close]
  generalize s.onOutlet id none Outlet.shut = result at hShut
  obtain ⟨_ | ⟨_ | session⟩, t⟩ := result
  · exact hShut
  · exact hRemoved t hShut
  · exact (hRemoved t hShut).of_members rfl (List.Subset.refl _)

theorem Drained.called (hs : s.Drained) (id : ConnectionId) {call : Call}
    (hCall : call.enqueues = false) : (s.called id call).2.Drained := by
  cases call with
  | enqueue | enqueueBuffer | closeWith => cases hCall
  | flush =>
    refine hs.onOutlet Outlet.flush (fun o => o.sameSeat_flush.id) (fun o ho => ?_) id false
    rw [Outlet.flush]
    split
    case isTrue => exact ho
    case isFalse => exact Connection.drained_of_current? o.current?_finalize
  | setSession handle =>
    have hSame := disconnected_setSession handle
    refine hs.onOutlet _ (fun o => (hSame o).1) (fun o ho => ?_) id false
    exact ho.congr (hSame o).2 (o.connection.current?_setSession handle)
  | close => exact hs.close id
  | abort =>
    exact (hs.close id).modify (fun c => { c with shutdown := true }) (fun _ => rfl)
      (fun _ hc => hc.congr rfl rfl) id
  | frameSent =>
    refine hs.modify _ Simulation.State.id_frameSent (fun c hc => ?_) id
    refine hc.congr ?_ c.current?_frameSent
    rw [Connection.frameSent]
    split <;> rfl
  | woken =>
    exact hs.modify (fun c => { c with wake := false }) (fun _ => rfl)
      (fun _ hc => hc.congr rfl rfl) id
  | cutOff =>
    exact hs.modify (fun c => { c with shutdown := true }) (fun _ => rfl)
      (fun _ hc => hc.congr rfl rfl) id

theorem Drained.pause (hs : s.Drained) (hPause : s.Pause t) : t.Drained := by
  cases hPause with
  | called id hCall => exact hs.called id hCall
  | accepted peer => exact hs.accept peer
  | changed id f hId hDisconnected hCurrent =>
    exact hs.modify f hId (fun c hc => hc.congr (hDisconnected c) (hCurrent c)) id
  | joined id hNothing =>
    intro other hMember c hConnection
    rcases Roster.mem_add_iff.mp hMember with hMember | hJoined
    · exact hs other hMember c hConnection
    · exact hNothing c (hJoined ▸ hConnection)
  | left id => exact hs.of_members rfl (List.filter_subset_self _)
  | elsewhere _ hConnections hRoster =>
    exact hs.of_members hConnections (hRoster ▸ List.Subset.refl _)

theorem Sound.pause (hs : s.Sound) (hPause : s.Pause t) : t.Sound := by
  cases hPause with
  | called id hCall =>
    refine hs.called id fun b hb => ?_
    rw [hb] at hCall
    cases hCall
  | accepted peer => exact hs.accept peer
  | changed id f _ _ hCurrent => exact hs.modify f hCurrent id
  | joined | left => exact hs.congr rfl rfl
  | elsewhere hPool hConnections _ => exact hs.congr hPool hConnections

theorem Sound.drained_flushAll (hs : s.Sound) : s.flushAll.2.Drained := by
  intro id hMember d hConnection
  rw [hs.connection?_flushAll] at hConnection
  obtain ⟨c, -, rfl⟩ := Option.map_eq_some_iff.mp hConnection
  rw [if_pos ((hs.ticked.roster id).mp hMember).1]
  exact c.drained_flushed

/-- A tick of a drained server sends nothing. -/
theorem Sound.ticked_of_drained (hs : s.Sound) (hDrained : s.Drained) :
    s.flushAll.1 = 0 ∧ ∀ id c, s.connection? id = some c →
      ∃ d, s.flushAll.2.connection? id = some d ∧ Idles c d := by
  refine ⟨?_, fun id c hConnection => hs.ticked.others id c hConnection (hDrained.not_due c)⟩
  have hNobody : {id | ∃ c, s.Due id c} = ∅ := by
    rw [Set.eq_empty_iff_forall_notMem]
    rintro id ⟨c, hDue⟩
    exact hDrained.not_due c hDue
  rw [hs.ticked.count, hNobody, Set.ncard_empty]

theorem Sound.drained_pauses (hs : s.Sound) (hDrained : s.Drained)
    (hPauses : Relation.ReflTransGen Pause s t) : t.Sound ∧ t.Drained := by
  induction hPauses with
  | refl => exact ⟨hs, hDrained⟩
  | tail _ hPause ih => exact ⟨ih.1.pause hPause, ih.2.pause hPause⟩

/-- A tick keeps the open connections on the roster and sends each of them one frame with what it
has gathered, if it has, and nothing to anybody else. The next tick sends nothing if nothing has
been enqueued. -/
theorem Sound.flushes_once (hs : s.Sound) :
    Ticked s s.flushAll.1 s.flushAll.2 ∧
      ∀ u, Relation.ReflTransGen Pause s.flushAll.2 u → u.flushAll.1 = 0 ∧
        ∀ id c, u.connection? id = some c →
          ∃ d, u.flushAll.2.connection? id = some d ∧ Idles c d := by
  refine ⟨hs.ticked, fun u hPauses => ?_⟩
  obtain ⟨hSound, hDrained⟩ := hs.flushAll.drained_pauses hs.drained_flushAll hPauses
  exact hSound.ticked_of_drained hDrained

/-! On the roster are one connection that has gathered a message, one that has gathered nothing, one
that has closed and one that is not there. A fourth has gathered a message and is not on it. -/

def crowd : Server :=
  let s := start default ⟨0, 0⟩ .running .empty .defaults 1
  ((((s.accept default).2.accept default).2.accept default).2.accept default).2

def laden : Server :=
  (((crowd.enqueue 1 [0x1D]).2.enqueue 3 [0x1D]).2.enqueue 4 [0x1D]).2

def mixed : Server :=
  { laden.close 3 with roster := [1, 2, 3, 5].foldl Roster.add .empty }

theorem sound_mixed : mixed.Sound := by
  have hStart := sound_start default ⟨0, 0⟩ .running .empty .defaults 1
  have hCrowd : crowd.Sound :=
    (((hStart.accept default).accept default).accept default).accept default
  have hLaden : laden.Sound := ((hCrowd.enqueue 1 _).enqueue 3 _).enqueue 4 _
  exact (hLaden.close 3).congr rfl rfl

theorem Sound.flushes_once_mixed :
    mixed.Sound ∧ mixed.flushAll.1 = 1 ∧ mixed.flushAll.2.roster.members = [1, 2] ∧
      Ticked mixed 1 mixed.flushAll.2 ∧
      (mixed.flushAll.2.called 1 .frameSent).2.flushAll.1 = 0 := by
  obtain ⟨hTicked, hNext⟩ := Sound.flushes_once sound_mixed
  have hCount : mixed.flushAll.1 = 1 := by decide +kernel
  have hPause : Pause mixed.flushAll.2 (mixed.flushAll.2.called 1 .frameSent).2 :=
    .called 1 (show Call.frameSent.enqueues = false from rfl)
  refine ⟨sound_mixed, hCount, by decide +kernel, hCount ▸ hTicked, ?_⟩
  exact (hNext _ (.single hPause)).1

end Server

end Gatehouse
