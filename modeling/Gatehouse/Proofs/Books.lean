import Gatehouse.Proofs.Delivery
import Gatehouse.Proofs.Seats

/-!
# The books of a connection

What the frames of a connection hold, kept through the calls on a server: every message is in a
frame of its batch or is still being gathered.
-/

namespace Gatehouse

open Wire

namespace Connection

/-- What the way out of a connection leaves alone. -/
structure Keeps (c d : Connection) : Prop where
  id : d.id = c.id
  peer : d.peer = c.peer
  key? : d.key? = c.key?
  challenge? : d.challenge? = c.challenge?
  session? : d.session? = c.session?
  disconnected : d.disconnected = c.disconnected

theorem Keeps.refl (c : Connection) : Keeps c c := ⟨rfl, rfl, rfl, rfl, rfl, rfl⟩

theorem Keeps.trans {c d e : Connection} (hFirst : Keeps c d) (hSecond : Keeps d e) : Keeps c e :=
  ⟨hSecond.id.trans hFirst.id, hSecond.peer.trans hFirst.peer, hSecond.key?.trans hFirst.key?,
    hSecond.challenge?.trans hFirst.challenge?, hSecond.session?.trans hFirst.session?,
    hSecond.disconnected.trans hFirst.disconnected⟩

theorem keeps_put (c : Connection) (payload : Octets) : Keeps c (c.put payload) := by
  have hCounted : Keeps c c.counted := by
    rw [counted]
    split <;> exact ⟨rfl, rfl, rfl, rfl, rfl, rfl⟩
  refine hCounted.trans ?_
  rw [put, push]
  split <;> exact ⟨rfl, rfl, rfl, rfl, rfl, rfl⟩

end Connection

namespace Outlet

open Connection (Keeps)

theorem keeps_finalized (o : Outlet) : Keeps o.connection o.finalized := by
  rw [finalized]
  split
  case isTrue => exact ⟨rfl, rfl, rfl, rfl, rfl, rfl⟩
  case isFalse =>
    have hCleared : Keeps o.connection { o.connection with current? := none } :=
      ⟨rfl, rfl, rfl, rfl, rfl, rfl⟩
    exact hCleared.trans (Connection.keeps_put _ _)

theorem Sound.keeps_enqueue {o : Outlet} (ho : o.Sound) (message : Octets) :
    Keeps o.connection (o.enqueue message).2.connection := by
  by_cases hRefused : maxPayload < message.length ∨ o.connection.disconnected = true
  · rw [enqueue_refused hRefused]
    exact .refl _
  · rw [not_or, Nat.not_lt, Bool.not_eq_true] at hRefused
    obtain ⟨b, -, -, -, -, hConnection⟩ := ho.enqueue hRefused.2 hRefused.1
    have hFilled : ∀ c : Connection, Keeps c { c with current? := some b } :=
      fun c => ⟨rfl, rfl, rfl, rfl, rfl, rfl⟩
    rw [hConnection]
    split
    · exact hFilled _
    · exact o.keeps_finalized.trans (hFilled _)

/-! ## Batches -/

def batch (gathered : List Octets) : List (List Octets) :=
  if gathered = [] then [] else [gathered]

theorem flatten_batch (gathered : List Octets) : (batch gathered).flatten = gathered := by
  rw [batch]
  split
  case isTrue hNone => rw [hNone, List.flatten_nil]
  case isFalse => exact List.flatten_singleton

/-- What an account says when it names the batches instead of all messages. -/
structure Batches (c : Connection) (sent : List Octets) (batches : List (List Octets))
    (gathered : List Octets) (postings : List Posting) (parcels : List Parcel) : Prop where
  account : Account c (batches.flatten ++ gathered) sent postings parcels gathered
  messages : parcels.map Parcel.messages = batches
  keys : ∀ p ∈ parcels, p.key? = none ∨ p.key? = c.key?

variable {c d : Connection} {sent : List Octets} {batches : List (List Octets)}
  {gathered : List Octets} {postings : List Posting} {parcels : List Parcel}

theorem Batches.of_account {accepted : List Octets} (hPresent : present accepted = accepted)
    (hAccount : Account c accepted sent postings parcels gathered)
    (hKeys : ∀ p ∈ parcels, p.key? = none ∨ p.key? = c.key?) :
    Batches c sent (parcels.map Parcel.messages) gathered postings parcels ∧
      (parcels.map Parcel.messages).flatten ++ gathered = accepted := by
  have hAll : (parcels.map Parcel.messages).flatten ++ gathered = accepted := by
    rw [← List.flatMap_def, hAccount.messages, hPresent]
  exact ⟨⟨hAll ▸ hAccount, rfl, hKeys⟩, hAll⟩

theorem Batches.present_eq (h : Batches c sent batches gathered postings parcels) :
    present (batches.flatten ++ gathered) = batches.flatten ++ gathered := by
  rw [← h.account.messages, List.flatMap_def, h.messages]

theorem Batches.keys_append {accepted : List Octets} {more : List Parcel} {split : Bool}
    {gathered' : List Octets} (h : Batches c sent batches gathered postings parcels)
    (hKey : d.key? = c.key?)
    (hAccount : Account d accepted sent (postings ++ posted c d split) (parcels ++ more)
      gathered') : ∀ p ∈ parcels ++ more, p.key? = none ∨ p.key? = d.key? := by
  have hMore : more.map Parcel.toPosting = posted c d split := by
    have hPostings := hAccount.postings
    rw [List.map_append, h.account.postings] at hPostings
    exact List.append_cancel_left hPostings
  intro p hp
  rw [hKey]
  rcases List.mem_append.mp hp with hp | hp
  · exact h.keys p hp
  · have hPosting : p.toPosting ∈ posted c d split := hMore ▸ List.mem_map_of_mem hp
    rw [List.eq_of_mem_replicate hPosting]
    exact Or.inr rfl

end Outlet

namespace Server

open Connection (Keeps)
open Outlet (Account Batches Tallies batch)

/-! ## Calls on one connection -/

variable {s : Server} {id : ConnectionId} {c : Connection}

theorem onOutlet_eq {α : Type} {f : Outlet → α × Outlet} (absent : α)
    (hConnection : s.connection? id = some c) :
    s.onOutlet id absent f =
      ((f ⟨c, s.pool⟩).1, { s.modify id fun _ => (f ⟨c, s.pool⟩).2.connection with
        pool := (f ⟨c, s.pool⟩).2.pool }) := by
  rw [onOutlet, hConnection]

theorem connection?_onOutlet {α : Type} {f : Outlet → α × Outlet} (absent : α)
    (hConnection : s.connection? id = some c)
    (hId : (f ⟨c, s.pool⟩).2.connection.id = c.id) :
    (s.onOutlet id absent f).2.connection? id = some (f ⟨c, s.pool⟩).2.connection := by
  have hHere : c.id = id := id_of_connection? hConnection
  rw [onOutlet_eq _ hConnection]
  change (s.modify id fun _ => (f ⟨c, s.pool⟩).2.connection).connection? id = _
  rw [connection?_modify (fun _ _ => hId.trans hHere), if_pos rfl, hConnection, Option.map_some]

theorem pool_onOutlet {α : Type} {f : Outlet → α × Outlet} (absent : α)
    (hConnection : s.connection? id = some c) :
    (s.onOutlet id absent f).2.pool = (f ⟨c, s.pool⟩).2.pool := by
  rw [onOutlet_eq _ hConnection]

theorem exists_onOutlet {α : Type} (s : Server) (id : ConnectionId) (absent : α)
    (f : Outlet → α × Outlet) :
    ∃ connections pool, (s.onOutlet id absent f).2 = { s with connections, pool } := by
  rw [onOutlet]
  split <;> exact ⟨_, _, rfl⟩

/-! ## Books -/

/-- The connection with the frames that have been sent, the messages of each batch that has been
queued, and those that are being gathered. -/
structure Books (s : Server) (c : Connection) (sent : List Octets)
    (batches : List (List Octets)) (gathered : List Octets) : Prop where
  connection : s.connection? c.id = some c
  sound : Outlet.Sound ⟨c, s.pool⟩
  pending : gathered.flatten = Outlet.pending ⟨c, s.pool⟩
  batches : ∃ postings parcels, Batches c sent batches gathered postings parcels

namespace Books

variable {sent : List Octets} {batches : List (List Octets)} {gathered : List Octets}

theorem gathered_eq_nil (h : s.Books c sent batches gathered) (hClosed : c.disconnected = true) :
    gathered = [] := by
  obtain ⟨_, _, hBatches⟩ := h.batches
  exact hBatches.account.closed hClosed

theorem isOpen (h : s.Books c sent batches gathered) : s.isOpen c.id = !c.disconnected := by
  rw [Server.isOpen, h.connection]
  rfl

/-- Nothing on the way out of the connection has changed. -/
theorem congr (h : s.Books c sent batches gathered) {t : Server} {d : Connection}
    (hConnection : t.connection? d.id = some d) (hPool : t.pool.Sound)
    (hCurrent : d.current? = c.current?) (hTallies : Tallies c d)
    (hKey : d.key? = c.key? ∨ c.key? = none)
    (hClosed : d.disconnected = true → gathered = []) : t.Books d sent batches gathered := by
  obtain ⟨postings, parcels, hBatches⟩ := h.batches
  refine ⟨hConnection, ⟨?_, hPool⟩, ?_, postings, parcels,
    hBatches.account.congr hTallies hClosed, hBatches.messages, ?_⟩
  · rw [hCurrent]
    exact h.sound.buffer
  · rw [h.pending, Outlet.pending, Outlet.pending, hCurrent]
  · intro p hp
    rcases hKey with hKey | hKey
    · rw [hKey]
      exact hBatches.keys p hp
    · refine Or.inl ((hBatches.keys p hp).elim id fun hSame => hSame.trans hKey)

theorem enqueue (h : s.Books c sent batches gathered) (message : Octets)
    (hOpen : c.disconnected = false) (hSome : message ≠ [])
    (hLength : message.length ≤ maxPayload) :
    ∃ d batches' gathered', (s.enqueue c.id message).2.Books d sent batches' gathered' ∧
      Keeps c d ∧ batches'.flatten ++ gathered' = batches.flatten ++ gathered ++ [message] := by
  obtain ⟨postings, parcels, hBatches⟩ := h.batches
  obtain ⟨more, gathered', hAccount, hPending⟩ :=
    hBatches.account.enqueue h.sound h.pending hOpen hLength
  have hKeeps := h.sound.keeps_enqueue message
  have hKeys := hBatches.keys_append hKeeps.key? hAccount
  have hPresent : Outlet.present (batches.flatten ++ gathered ++ [message]) =
      batches.flatten ++ gathered ++ [message] := by
    rw [Outlet.present_append, hBatches.present_eq]
    cases message with
    | nil => exact absurd rfl hSome
    | cons byte rest => rfl
  obtain ⟨hNext, hAll⟩ := Batches.of_account hPresent hAccount hKeys
  refine ⟨_, _, gathered', ⟨?_, ?_, ?_, _, _, hNext⟩, hKeeps, hAll⟩
  · rw [hKeeps.id]
    exact connection?_onOutlet _ h.connection hKeeps.id
  · have hSound := (h.sound.extends_enqueue message).1
    exact ⟨hSound.buffer, (pool_onOutlet _ h.connection).symm ▸ hSound.pool⟩
  · exact hPending

theorem enqueue_room (h : s.Books c sent batches gathered) (message : Octets)
    (hOpen : c.disconnected = false) (hSome : message ≠ [])
    (hRoom : gathered.flatten.length + message.length ≤ maxPayload) :
    ∃ d, (s.enqueue c.id message).2.Books d sent batches (gathered ++ [message]) ∧ Keeps c d := by
  obtain ⟨postings, parcels, hBatches⟩ := h.batches
  have hRoom' : Outlet.HasRoom ⟨c, s.pool⟩ message := by rwa [Outlet.HasRoom, ← h.pending]
  obtain ⟨hAccount, hPending, -, -⟩ :=
    hBatches.account.enqueue_room h.sound h.pending hOpen hRoom'
  have hKeeps := h.sound.keeps_enqueue message
  have hPresent : Outlet.present [message] = [message] := by
    cases message with
    | nil => exact absurd rfl hSome
    | cons byte rest => rfl
  rw [hPresent, List.append_assoc] at hAccount
  refine ⟨_, ⟨?_, ?_, ?_, _, parcels, hAccount, hBatches.messages, ?_⟩, hKeeps⟩
  · rw [hKeeps.id]
    exact connection?_onOutlet _ h.connection hKeeps.id
  · have hSound := (h.sound.extends_enqueue message).1
    exact ⟨hSound.buffer, (pool_onOutlet _ h.connection).symm ▸ hSound.pool⟩
  · rw [List.flatten_append, List.flatten_singleton, h.pending]
    exact hPending.symm
  · rw [hKeeps.key?]
    exact hBatches.keys

theorem of_same (h : s.Books c sent batches gathered) {t : Server}
    (hConnections : t.connections = s.connections) (hPool : t.pool = s.pool) :
    t.Books c sent batches gathered := by
  refine h.congr ?_ (hPool ▸ h.sound.pool) rfl ⟨rfl, rfl, rfl⟩ (Or.inl rfl) h.gathered_eq_nil
  rw [connection?, hConnections]
  exact h.connection

theorem enqueue_refused (h : s.Books c sent batches gathered) (message : Octets)
    (hRefused : maxPayload < message.length ∨ c.disconnected = true) :
    (s.enqueue c.id message).2.Books c sent batches gathered := by
  have hNothing : Outlet.enqueue message ⟨c, s.pool⟩ = (false, ⟨c, s.pool⟩) :=
    Outlet.enqueue_refused hRefused
  have hConnection := connection?_onOutlet (f := Outlet.enqueue message) false
    h.connection (by rw [hNothing])
  have hPool := pool_onOutlet (f := Outlet.enqueue message) false h.connection
  rw [hNothing] at hConnection hPool
  refine h.congr hConnection ?_ rfl ⟨rfl, rfl, rfl⟩ (Or.inl rfl) h.gathered_eq_nil
  exact hPool.symm ▸ h.sound.pool

theorem finalize (h : s.Books c sent batches gathered) {t : Server} {d : Connection}
    (hConnection : t.connection? d.id = some d) (hPool : t.pool.Sound)
    (hCurrent : d.current? = none) (hTallies : Tallies (Outlet.finalized ⟨c, s.pool⟩) d)
    (hKey : d.key? = c.key?) : t.Books d sent (batches ++ batch gathered) [] := by
  obtain ⟨postings, parcels, hBatches⟩ := h.batches
  have hAccount := (hBatches.account.finalize h.pending).congr hTallies fun _ => rfl
  have hPosted : Outlet.posted c (Outlet.finalized ⟨c, s.pool⟩) false =
      Outlet.posted c d false := by
    rw [Outlet.posted, Outlet.posted, hTallies.framesQueued]
  rw [hPosted] at hAccount
  have hKeys := hBatches.keys_append hKey hAccount
  have hMessages : (parcels ++ Outlet.wrapped c gathered).map Parcel.messages =
      batches ++ batch gathered := by
    rw [List.map_append, hBatches.messages, Outlet.wrapped, batch]
    by_cases hNone : gathered = []
    · rw [if_pos hNone, if_pos (by rw [hNone, List.flatten_nil]), List.map_nil]
    · have hFlat : gathered.flatten ≠ [] :=
        fun hFlat => hNone (hBatches.account.gathered_eq_nil hFlat)
      rw [if_neg hNone, if_neg hFlat]
      rfl
  have hAll : (batches ++ batch gathered).flatten ++ [] = batches.flatten ++ gathered := by
    rw [List.flatten_append, Outlet.flatten_batch, List.append_nil]
  rw [← hAll] at hAccount
  refine ⟨hConnection, ⟨fun b hb => ?_, hPool⟩, ?_, _, _, hAccount, hMessages, hKeys⟩
  · rw [hCurrent] at hb
    cases hb
  · rw [Outlet.pending, hCurrent, List.flatten_nil]

theorem flush (h : s.Books c sent batches gathered) (hOpen : c.disconnected = false) :
    ∃ d, (s.flush c.id).2.Books d sent (batches ++ batch gathered) [] ∧ Keeps c d := by
  have hFlush : Outlet.flush ⟨c, s.pool⟩ = Outlet.finalize ⟨c, s.pool⟩ :=
    if_neg (by simp [hOpen])
  obtain ⟨hConnection, hPool, -⟩ := h.sound.finalize
  rw [← hFlush] at hConnection hPool
  have hKeeps := Outlet.keeps_finalized ⟨c, s.pool⟩
  have hHere := connection?_onOutlet (f := Outlet.flush) false h.connection
    (by rw [hConnection]; exact hKeeps.id)
  rw [hConnection] at hHere
  refine ⟨_, h.finalize ?_ ?_ (Outlet.current?_finalized _) ⟨rfl, rfl, rfl⟩ hKeeps.key?, hKeeps⟩
  · rw [hKeeps.id]
    exact hHere
  · exact (pool_onOutlet _ h.connection).symm ▸ hPool

end Books

/-- Closing changes the connection and, once it is marked, whatever the game gets to know. -/
theorem connection?_close (hConnection : s.connection? id = some c) :
    (s.close id).connection? id = some (if c.disconnected then c
      else (Outlet.shut ⟨c, s.pool⟩).2.connection.notify) ∧
      (s.close id).pool = (Outlet.shut ⟨c, s.pool⟩).2.pool := by
  have hId : (Outlet.shut ⟨c, s.pool⟩).2.connection.id = c.id := (Outlet.shut_spec _).1
  have hHere := connection?_onOutlet (f := Outlet.shut) none hConnection hId
  have hPool := pool_onOutlet (f := Outlet.shut) none hConnection
  have hAnswer : (s.onOutlet id none Outlet.shut).1 = (Outlet.shut ⟨c, s.pool⟩).1 := by
    rw [onOutlet_eq _ hConnection]
  rw [close]
  generalize s.onOutlet id none Outlet.shut = result at hHere hPool hAnswer
  obtain ⟨answer, t⟩ := result
  by_cases hClosed : c.disconnected = true
  · have hShut : Outlet.shut ⟨c, s.pool⟩ = (none, ⟨c, s.pool⟩) := if_pos hClosed
    rw [hShut] at hAnswer hHere hPool
    cases hAnswer
    rw [if_pos hClosed, hShut]
    exact ⟨hHere, hPool⟩
  · obtain ⟨farewell, hSome⟩ : ∃ farewell, (Outlet.shut ⟨c, s.pool⟩).1 = some farewell :=
      ⟨_, congrArg Prod.fst (if_neg hClosed)⟩
    rw [hSome] at hAnswer
    cases hAnswer
    rw [if_neg hClosed]
    have hNotified : (t.modify id Connection.notify).connection? id =
        some (Outlet.shut ⟨c, s.pool⟩).2.connection.notify := by
      rw [connection?_modify (f := Connection.notify) (fun _ hKey => hKey), if_pos rfl, hHere,
        Option.map_some]
    obtain ⟨session?⟩ := farewell
    cases session? with
    | none => exact ⟨hNotified, hPool⟩
    | some session =>
      have hPosted : ∀ (u : Server) (task : GameTask),
          (u.post task).2.connection? id = u.connection? id ∧ (u.post task).2.pool = u.pool := by
        intro u task
        rw [post]
        exact ⟨rfl, rfl⟩
      exact ⟨(hPosted _ _).1.trans hNotified, (hPosted _ _).2.trans hPool⟩

theorem close_of_closed (hConnection : s.connection? id = some c)
    (hClosed : c.disconnected = true) :
    (s.close id).connection? id = some c ∧ (s.close id).tasks = s.tasks ∧
      (s.close id).calls = s.calls := by
  have hHere := (connection?_close hConnection).1
  have hShut : Outlet.shut ⟨c, s.pool⟩ = (none, ⟨c, s.pool⟩) := if_pos hClosed
  rw [if_pos hClosed] at hHere
  refine ⟨hHere, ?_⟩
  rw [close, onOutlet_eq _ hConnection, hShut]
  exact ⟨rfl, rfl⟩

namespace Books

variable {sent : List Octets} {batches : List (List Octets)} {gathered : List Octets}

theorem close (h : s.Books c sent batches gathered) :
    ∃ d, (s.close c.id).Books d sent (batches ++ batch gathered) [] ∧ d.id = c.id ∧
      d.disconnected = true := by
  obtain ⟨hConnection, hPool⟩ := connection?_close h.connection
  by_cases hClosed : c.disconnected = true
  · have hShut : Outlet.shut ⟨c, s.pool⟩ = (none, ⟨c, s.pool⟩) := if_pos hClosed
    have hNothing := h.gathered_eq_nil hClosed
    subst hNothing
    rw [if_pos hClosed] at hConnection
    rw [hShut] at hPool
    refine ⟨c, ?_, rfl, hClosed⟩
    rw [batch, if_pos rfl, List.append_nil]
    exact h.congr hConnection (hPool ▸ h.sound.pool) rfl ⟨rfl, rfl, rfl⟩ (Or.inl rfl) fun _ => rfl
  · have hShut : (Outlet.shut ⟨c, s.pool⟩).2 =
        { Outlet.finalize ⟨c, s.pool⟩ |>.2 with connection :=
          { (Outlet.finalize ⟨c, s.pool⟩).2.connection with
            disconnected := true, session? := none } } :=
      congrArg Prod.snd (if_neg hClosed)
    obtain ⟨hFinalized, hSound, -⟩ := h.sound.finalize
    have hKeeps := Outlet.keeps_finalized ⟨c, s.pool⟩
    rw [if_neg hClosed, hShut, hFinalized] at hConnection
    rw [hShut] at hPool
    refine ⟨Connection.notify
      { Outlet.finalized ⟨c, s.pool⟩ with disconnected := true, session? := none },
      h.finalize ?_ ?_ ?_ ⟨rfl, rfl, rfl⟩ hKeeps.key?, hKeeps.id, rfl⟩
    · exact (congrArg _ hKeeps.id).trans hConnection
    · exact hPool ▸ hSound
    · exact Outlet.current?_finalized _

theorem modify (h : s.Books c sent batches gathered) {f : Connection → Connection}
    (hId : ∀ d, (f d).id = d.id) (hCurrent : (f c).current? = c.current?)
    (hTallies : Tallies c (f c)) (hKey : (f c).key? = c.key? ∨ c.key? = none)
    (hClosed : (f c).disconnected = c.disconnected) :
    (s.modify c.id f).Books (f c) sent batches gathered := by
  refine h.congr ?_ h.sound.pool hCurrent hTallies hKey ?_
  · rw [hId, connection?_modify (fun d hd => (hId d).trans hd), if_pos rfl, h.connection,
      Option.map_some]
  · rw [hClosed]
    exact h.gathered_eq_nil

theorem frameSent (h : s.Books c sent batches gathered) :
    (s.modify c.id Connection.frameSent).Books c.frameSent (sent ++ c.queue.take 1) batches
      gathered := by
  have hSame : ∀ d : Connection, d.frameSent.id = d.id ∧ d.frameSent.current? = d.current? ∧
      d.frameSent.key? = d.key? := by
    intro d
    rw [Connection.frameSent]
    split <;> exact ⟨rfl, rfl, rfl⟩
  obtain ⟨hId, hCurrent, hKey⟩ := hSame c
  obtain ⟨postings, parcels, hBatches⟩ := h.batches
  refine ⟨?_, ⟨?_, h.sound.pool⟩, ?_, postings, parcels, hBatches.account.pop,
    hBatches.messages, ?_⟩
  · rw [hId, connection?_modify (fun d hd => (hSame d).1.trans hd), if_pos rfl, h.connection,
      Option.map_some]
  · rw [hCurrent]
    exact h.sound.buffer
  · rw [h.pending, Outlet.pending, Outlet.pending, hCurrent]
  · rw [hKey]
    exact hBatches.keys

theorem abort (h : s.Books c sent batches gathered) :
    ∃ d, (s.abort c.id).Books d sent (batches ++ batch gathered) [] ∧ d.id = c.id ∧
      d.disconnected = true := by
  obtain ⟨d, hBooks, hId, hClosed⟩ := h.close
  have hCut := hBooks.modify (f := fun d => { d with shutdown := true }) (fun _ => rfl) rfl
    ⟨rfl, rfl, rfl⟩ (Or.inl rfl) rfl
  rw [hId] at hCut
  exact ⟨_, hCut, rfl, hClosed⟩

/-- The text is the last message, unless it comes too late or is too long. -/
theorem closeWith (h : s.Books c sent batches gathered) (text : String) :
    ∃ d batches', (s.closeWith c.id text).Books d sent batches' [] ∧ d.id = c.id ∧
      d.disconnected = true ∧
      (c.disconnected = false → (ServerMessage.loginError text).encode.length ≤ maxPayload →
        batches'.flatten =
          batches.flatten ++ gathered ++ [(ServerMessage.loginError text).encode]) := by
  have hSome : (ServerMessage.loginError text).encode ≠ [] := List.cons_ne_nil _ _
  rw [Server.closeWith, h.isOpen]
  by_cases hClosed : c.disconnected = true
  · rw [if_neg (by simp [hClosed])]
    refine ⟨c, batches, ?_, rfl, hClosed, fun hOpen => nomatch hClosed.symm.trans hOpen⟩
    exact h.gathered_eq_nil hClosed ▸ h
  · rw [if_pos (by simp [hClosed])]
    by_cases hLength : (ServerMessage.loginError text).encode.length ≤ maxPayload
    · obtain ⟨d, batches', gathered', hNext, hKeeps, hAll⟩ :=
        h.enqueue _ (Bool.not_eq_true _ ▸ hClosed) hSome hLength
      obtain ⟨e, hLast, hId, hEnd⟩ := hNext.close
      rw [hKeeps.id] at hLast hId
      refine ⟨e, _, hLast, hId, hEnd, fun _ _ => ?_⟩
      rw [List.flatten_append, Outlet.flatten_batch, hAll]
    · have hNext := h.enqueue_refused _ (Or.inl (Nat.lt_of_not_le hLength))
      obtain ⟨e, hLast, hId, hEnd⟩ := hNext.close
      exact ⟨e, _, hLast, hId, hEnd, fun _ hShort => absurd hShort hLength⟩

end Books

end Server

end Gatehouse
