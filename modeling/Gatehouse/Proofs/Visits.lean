import Gatehouse.Proofs.Judging
import Gatehouse.Server.Reader

/-!
# Visits

The life of one connection. Its reader goes on when bytes come, when the game answers, and when it
has to stop; in between the writer sends frames, the transport may fail, and everything else that a
server does happens without regard to the connection.
-/

namespace Gatehouse

open Wire

def ReaderPhase.isHandshake : ReaderPhase → Bool
  | greeting | filling .login _ _ _ _ | attaching => true
  | filling .steady _ _ _ _ | stalled _ | ended => false

def GameTask.request? : GameTask → Option AttachRequest
  | attach request _ => some request
  | reattach .. | detach .. | logout .. | setDead .. | removeSession .. => none

structure Guest where
  id : ConnectionId
  peer : SocketAddress
  challenge : Login.Challenge

namespace Guest

def challengeMessage (g : Guest) : Octets :=
  (ServerMessage.challenge g.challenge.timestamp g.challenge.random).encode

structure Arrives (g : Guest) (s : Server) : Prop where
  connection : ∃ shutdown, s.connection? g.id = some { Connection.new g.id g.peer with shutdown }
  reply : s.reply? (.connection g.id) = none
  pool : s.pool.Sound

theorem arrives_accept {s : Server} (peer : SocketAddress) (challenge : Login.Challenge)
    (hNew : ∀ c ∈ s.connections, c.id ≠ s.connections.length + 1)
    (hReply : s.reply? (.connection (s.connections.length + 1)) = none) (hPool : s.pool.Sound) :
    Arrives ⟨(s.accept peer).1, peer, challenge⟩ (s.accept peer).2 := by
  refine ⟨⟨s.shutdown, ?_⟩, hReply, hPool⟩
  have hNone : s.connections.find? (·.id == s.connections.length + 1) = none :=
    List.find?_eq_none.mpr fun c hc hSame => hNew c hc (eq_of_beq hSame)
  change (s.connections ++ [_]).find? (fun c : Connection => c.id == s.connections.length + 1) = _
  rw [List.find?_append, hNone, Option.none_or]
  exact List.find?_cons_of_pos (beq_self_eq_true _)

/-- What everything else may do as long as the handshake lasts: the connection may be told to look
at its queue or to stop, and buffers come and go. -/
structure Spared (g : Guest) (s next : Server) : Prop where
  connection : ∃ wake shutdown,
    next.connection? g.id = (s.connection? g.id).map fun c => { c with wake, shutdown }
  reply : next.reply? (.connection g.id) = s.reply? (.connection g.id)
  pool : next.pool.Sound

variable {g : Guest} {s next : Server} {other : ConnectionId}

theorem spared_of_same (hConnection : next.connection? g.id = s.connection? g.id)
    (hReply : next.reply? (.connection g.id) = s.reply? (.connection g.id))
    (hPool : next.pool.Sound) : g.Spared s next := by
  refine ⟨?_, hReply, hPool⟩
  rw [hConnection]
  cases s.connection? g.id with
  | none => exact ⟨false, false, rfl⟩
  | some c => exact ⟨c.wake, c.shutdown, rfl⟩

theorem spared_onOutlet {α : Type} {f : Outlet → α × Outlet} (hOther : g.id ≠ other) (absent : α)
    (hId : ∀ o, (f o).2.connection.id = o.connection.id) (hPool : s.pool.Sound)
    (hNext : ∀ c, s.connection? other = some c → (f ⟨c, s.pool⟩).2.pool.Sound) :
    g.Spared s (s.onOutlet other absent f).2 := by
  cases hConnection : s.connection? other with
  | none =>
    have hNothing : s.onOutlet other absent f = (absent, s) := by
      rw [Server.onOutlet, hConnection]
    rw [hNothing]
    exact spared_of_same rfl rfl hPool
  | some c =>
    rw [Server.onOutlet_eq absent hConnection]
    refine spared_of_same ?_ rfl (hNext c hConnection)
    have hHere := Server.id_of_connection? hConnection
    refine (Server.connection?_modify (fun _ _ => (hId _).trans hHere) g.id).trans ?_
    rw [if_neg hOther]

theorem spared_close (hOther : g.id ≠ other) (hPool : s.pool.Sound)
    (hSound : ∀ c, s.connection? other = some c → Outlet.Sound ⟨c, s.pool⟩) :
    g.Spared s (s.close other) := by
  have hShut : ∀ c, s.connection? other = some c → (Outlet.shut ⟨c, s.pool⟩).2.pool.Sound := by
    intro c hConnection
    rw [Outlet.shut]
    split
    case isTrue => exact hPool
    case isFalse => exact (hSound c hConnection).finalize.2.1
  have hSpared := spared_onOutlet (f := Outlet.shut) hOther none (fun o => o.shut_spec.1) hPool hShut
  have hNotified : ∀ t : Server, (t.modify other Connection.notify).connection? g.id =
      t.connection? g.id := by
    intro t
    rw [Server.connection?_modify (f := Connection.notify) (fun _ hHere => hHere), if_neg hOther]
  rw [Server.close]
  generalize s.onOutlet other none Outlet.shut = result at hSpared
  obtain ⟨_ | ⟨_ | session⟩, t⟩ := result
  · exact hSpared
  · exact ⟨(hNotified t).symm ▸ hSpared.connection, hSpared.reply, hSpared.pool⟩
  · dsimp only
    rw [Server.post]
    exact ⟨(hNotified t).symm ▸ hSpared.connection, hSpared.reply, hSpared.pool⟩

theorem spared_accept (peer : SocketAddress) (hKnown : s.connection? g.id ≠ none)
    (hPool : s.pool.Sound) : g.Spared s (s.accept peer).2 := by
  obtain ⟨c, hConnection⟩ := Option.ne_none_iff_exists'.mp hKnown
  have hStill : (s.accept peer).2.connection? g.id = s.connection? g.id := by
    rw [Server.connection?] at hConnection ⊢
    rw [Server.accept, List.find?_append, hConnection, Server.connection?, hConnection]
    rfl
  exact spared_of_same hStill rfl hPool

theorem spared_stop (hPool : s.pool.Sound) : g.Spared s s.stop := by
  have hTold : s.stop.connection? g.id =
      (s.connection? g.id).map fun c => { c with shutdown := true } := by
    rw [Server.connection?, Server.stop, Server.connection?, List.find?_map]
    rfl
  refine ⟨?_, rfl, hPool⟩
  rw [hTold]
  cases s.connection? g.id with
  | none => exact ⟨false, true, rfl⟩
  | some c => exact ⟨c.wake, true, rfl⟩

end Guest

/-- A server with the reader of a connection, and what an observer of all its steps has written
down. -/
structure Visit where
  server : Server
  reader : Reader
  heard : Octets
  sent : List Octets
  /-- What there was to see for the gates when the body of a login request was complete. -/
  judged : List Applicant
  lookups : Nat
  requests : List AttachRequest
  refusal? : Option Halt

namespace Visit

def start (s : Server) : Visit where
  server := s
  reader := .start
  heard := []
  sent := []
  judged := []
  lookups := 0
  requests := []
  refusal? := none

def Served (v : Visit) : Prop :=
  v.reader.phase.isHandshake = false ∧ v.refusal? = none

def haltOf (step : Talking ReaderPhase) (t : Talk) : Option Halt :=
  match (step t).1 with
  | .ok _ => none
  | .error halt => some halt

/-- The reader goes on. The look-ups that it has made are counted; of what it has put before the
game, the requests of the handshake are noted. -/
def proceed (g : Guest) (now : Nat) (step : Talking ReaderPhase) (v : Visit) : Visit :=
  let (reader, server) := v.reader.run g.id now step v.server
  let lookups := v.lookups + (server.store.sessionLookups - v.server.store.sessionLookups)
  if v.reader.phase.isHandshake then
    let posted := server.tasks.ready.drop v.server.tasks.ready.length
    { v with
      server, reader, lookups
      requests := v.requests ++ posted.filterMap GameTask.request?
      refusal? := haltOf step ⟨v.server, v.reader.frame⟩ }
  else { v with server, reader, lookups }

/-- What the gates see if these bytes complete a login request of a connection that is open. -/
def seen (g : Guest) (bs : Octets) (v : Visit) : List Applicant :=
  match v.reader.phase with
  | .filling .login .body start stop _ =>
    if stop ≤ start + bs.length ∧ v.server.isOpen g.id then
      [v.server.applicant g.id g.peer.ip (v.reader.frame.write start bs)]
    else []
  | _ => []

inductive Happening where
  | bytes (now : Nat) (bs : Octets)
  | answer (now : Nat)
  | halt (now : Nat) (cause : Halt)
  | frameSent
  | broken
  /-- The game answers the request of the connection with a session, or with anything else. -/
  | offered (now : Nat) (request : AttachRequest) (offer : Game.Offer)
  | replied (r : Reply)
  /-- The connection has to leave its session to another one. -/
  | kicked
  | others (next : Server)

namespace Happening

def apply (g : Guest) (v : Visit) : Happening → Visit
  | bytes now bs =>
    { v.proceed g now (Reader.receive g.id now g.challenge v.reader.phase bs) with
      heard := if v.reader.phase = .greeting then [] else v.heard ++ bs
      judged := v.judged ++ v.seen g bs }
  | answer now =>
    match v.server.reply? (.connection g.id) with
    | none => v
    | some r => v.proceed g now (Reader.answered g.id now r)
  | halt now cause => v.proceed g now (throw cause)
  | frameSent =>
    { v with
      server := v.server.modify g.id Connection.frameSent
      sent := v.sent ++ ((v.server.connection? g.id).map (·.queue.take 1)).getD [] }
  | broken => { v with server := v.server.abort g.id }
  | offered now request offer =>
    { v with server := v.server.conclude now request (.connection g.id) (.offered offer) }
  | replied r => { v with server := v.server.reply (.connection g.id) r }
  | kicked => { v with server := v.server.close g.id }
  | others next => { v with server := next }

def Answers : Happening → Prop
  | offered .. | replied _ => True
  | _ => False

/-- Whether something can happen now, after other things of which the latest stands first. A request
is answered once, and only who has a session can lose it. -/
def Allowed (g : Guest) (past : List Happening) (v : Visit) : Happening → Prop
  | bytes _ bs => 0 < bs.length ∧ bs.length ≤ v.reader.demand
  | answer _ => v.reader.phase = .attaching
  | halt _ cause => v.reader.phase ≠ .ended ∧ cause ∈ [.transport, .abort, .closed]
  | frameSent | broken => True
  | offered _ _ offer =>
    offer.connection = g.id ∧ v.requests ≠ [] ∧ ∀ e ∈ past, ¬ e.Answers
  | replied r =>
    (∀ handle, r ≠ .outcome (.attached handle)) ∧ v.requests ≠ [] ∧ ∀ e ∈ past, ¬ e.Answers
  | kicked => v.server.held? g.id ≠ none
  | others next => v.Served ∨ g.Spared v.server next

end Happening

/-- What has happened since a connection came, the latest first. -/
inductive Reaches (g : Guest) (s : Server) : List Happening → Visit → Prop where
  | start : Reaches g s [] (.start s)
  | step {past : List Happening} {v : Visit} (e : Happening) (hReaches : Reaches g s past v)
      (hAllowed : e.Allowed g past v) : Reaches g s (e :: past) (e.apply g v)

end Visit

end Gatehouse
