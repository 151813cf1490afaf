import Gatehouse.Proofs.OutputPath
import Gatehouse.Server.Tasks

/-!
# Seats

What the game can see of the connections: whether one is still there and which session it holds.
Everything on the way out of a connection leaves this alone, and closing gives the seat up.
-/

namespace Gatehouse

inductive Seat where
  | live (session? : Option SessionHandle)
  | gone

namespace Connection

def seat (c : Connection) : Seat :=
  if c.disconnected then .gone else .live c.session?

structure SameSeat (c d : Connection) : Prop where
  id : d.id = c.id
  disconnected : d.disconnected = c.disconnected
  session? : d.session? = c.session?

theorem SameSeat.seat {c d : Connection} (hSame : SameSeat c d) : d.seat = c.seat := by
  rw [Connection.seat, Connection.seat, hSame.disconnected, hSame.session?]

theorem SameSeat.of_eq {c d : Connection}
    (hSame : (d.id, d.disconnected, d.session?) = (c.id, c.disconnected, c.session?)) :
    SameSeat c d := by
  simp only [Prod.mk.injEq] at hSame
  exact ⟨hSame.1, hSame.2.1, hSame.2.2⟩

theorem unmoved_seat : Unmoved fun c => (c.id, c.disconnected, c.session?) where
  sealFrame c b := by
    rw [sealFrame]
    split <;> rfl
  push c frame := by
    rw [push]
    split <;> rfl
  current? _ _ := rfl

end Connection

namespace Outlet

open Connection (SameSeat unmoved_seat)

theorem sameSeat_finalize (o : Outlet) : SameSeat o.connection o.finalize.2.connection :=
  .of_eq (o.view_finalize unmoved_seat)

theorem sameSeat_flush (o : Outlet) : SameSeat o.connection o.flush.2.connection :=
  .of_eq (o.view_flush unmoved_seat)

theorem sameSeat_enqueue (o : Outlet) (message : Octets) :
    SameSeat o.connection (o.enqueue message).2.connection :=
  .of_eq (o.view_enqueue unmoved_seat message)

/-- Closing gives the seat up, and takes the session out of it if the connection was open. -/
theorem shut_spec (o : Outlet) :
    o.shut.2.connection.id = o.connection.id ∧ o.shut.2.connection.seat = .gone ∧
      o.shut.1 =
        match o.connection.seat with
        | .live session? => some ⟨session?⟩
        | .gone => none := by
  have hSame := o.sameSeat_finalize
  cases hDisconnected : o.connection.disconnected with
  | true =>
    have hGone : o.connection.seat = .gone := if_pos hDisconnected
    have hNothing : o.shut = (none, o) := if_pos hDisconnected
    rw [hNothing, hGone]
    exact ⟨rfl, rfl, rfl⟩
  | false =>
    have hOpen : ¬ o.connection.disconnected = true := by simp [hDisconnected]
    have hLive : o.connection.seat = .live o.connection.session? := if_neg hOpen
    rw [shut, if_neg hOpen, hLive]
    exact ⟨hSame.id, rfl, congrArg (fun session? => some (Farewell.mk session?)) hSame.session?⟩

end Outlet

namespace Server

def seat? (s : Server) (id : ConnectionId) : Option Seat :=
  (s.connection? id).map Connection.seat

/-- The session of a connection that is open. -/
def held? (s : Server) (id : ConnectionId) : Option SessionHandle :=
  match s.seat? id with
  | some (.live session?) => session?
  | _ => none

theorem held?_eq_some_iff {s : Server} {id : ConnectionId} {handle : SessionHandle} :
    s.held? id = some handle ↔ s.seat? id = some (.live (some handle)) := by
  rw [held?]
  split <;> simp_all

theorem isOpen_iff {s : Server} {id : ConnectionId} :
    s.isOpen id = true ↔ ∃ session?, s.seat? id = some (.live session?) := by
  rw [isOpen, seat?]
  cases s.connection? id with
  | none => simp
  | some c =>
    simp only [Connection.isOpen, Connection.seat, Option.map_some]
    cases c.disconnected <;> simp

theorem isOpen_of_held? {s : Server} {id : ConnectionId} {handle : SessionHandle}
    (hHeld : s.held? id = some handle) : s.isOpen id = true :=
  isOpen_iff.mpr ⟨_, held?_eq_some_iff.mp hHeld⟩

theorem isOpen_of_gone {s : Server} {id : ConnectionId} (hGone : s.seat? id = some .gone) :
    s.isOpen id = false := by
  rw [← Bool.not_eq_true, isOpen_iff, hGone]
  rintro ⟨session?, hLive⟩
  cases hLive

/-! ## One connection at a time -/

theorem id_of_connection? {s : Server} {id : ConnectionId} {c : Connection}
    (hConnection : s.connection? id = some c) : c.id = id := by
  have hKey := List.find?_some (p := fun c : Connection => c.id == id) hConnection
  exact eq_of_beq hKey

theorem connection?_modify {s : Server} {id : ConnectionId} {f : Connection → Connection}
    (hId : ∀ c, c.id = id → (f c).id = id) (other : ConnectionId) :
    (s.modify id f).connection? other =
      if other = id then (s.connection? other).map f else s.connection? other := by
  have hFind : (s.modify id f).connection? other =
      (s.connection? other).map fun c => if c.id == id then f c else c := by
    rw [connection?, modify, List.find?_map]
    have hPredicate : (fun c : Connection => c.id == other) ∘
        (fun c => if c.id == id then f c else c) = fun c => c.id == other := by
      funext c
      rw [Function.comp_apply]
      split
      case isTrue hHere => rw [hId c (eq_of_beq hHere), eq_of_beq hHere]
      case isFalse => rfl
    rw [hPredicate]
    rfl
  rw [hFind]
  cases hConnection : s.connection? other with
  | none => rw [Option.map_none, Option.map_none, ite_self]
  | some c =>
    have hKey := id_of_connection? hConnection
    simp only [Option.map_some, hKey, beq_iff_eq]
    split <;> rfl

/-- A step on one connection that changes a view on it in a certain way. -/
theorem view?_onOutlet {α β : Type} {f : Outlet → α × Outlet} {absent : α} {g : β → β}
    (view : Connection → β) (hId : ∀ o, (f o).2.connection.id = o.connection.id)
    (hView : ∀ o, view (f o).2.connection = g (view o.connection)) (s : Server)
    (id other : ConnectionId) :
    ((s.onOutlet id absent f).2.connection? other).map view =
      ((s.connection? other).map view).map fun v => if other = id then g v else v := by
  rw [onOutlet]
  cases hConnection : s.connection? id with
  | none =>
    by_cases hHere : other = id
    · rw [hHere, hConnection]
      rfl
    · simp only [if_neg hHere, Option.map_id']
  | some c =>
    have hKey := id_of_connection? hConnection
    change ((s.modify id fun _ => (f ⟨c, s.pool⟩).2.connection).connection? other).map _ = _
    rw [connection?_modify (fun _ _ => (hId _).trans hKey)]
    split
    case isTrue hHere =>
      rw [hHere, hConnection]
      exact congrArg some (hView _)
    case isFalse => rw [Option.map_id']

theorem seat?_onOutlet {α : Type} {f : Outlet → α × Outlet} {g : Seat → Seat} {absent : α}
    (hId : ∀ o, (f o).2.connection.id = o.connection.id)
    (hSeat : ∀ o, (f o).2.connection.seat = g o.connection.seat) (s : Server)
    (id other : ConnectionId) :
    (s.onOutlet id absent f).2.seat? other =
      (s.seat? other).map fun seat => if other = id then g seat else seat :=
  s.view?_onOutlet Connection.seat hId hSeat id other

/-- Servers that the game cannot tell apart. -/
structure Alike (s t : Server) : Prop where
  config : t.config = s.config
  game : t.game = s.game
  tasks : t.tasks = s.tasks
  seat? : ∀ id, t.seat? id = s.seat? id

theorem Alike.refl (s : Server) : Alike s s := ⟨rfl, rfl, rfl, fun _ => rfl⟩

theorem Alike.trans {s t u : Server} (hFirst : Alike s t) (hSecond : Alike t u) : Alike s u :=
  ⟨hSecond.config.trans hFirst.config, hSecond.game.trans hFirst.game,
    hSecond.tasks.trans hFirst.tasks, fun id => (hSecond.seat? id).trans (hFirst.seat? id)⟩

theorem config_onOutlet {α : Type} (s : Server) (id : ConnectionId) (absent : α)
    (f : Outlet → α × Outlet) : (s.onOutlet id absent f).2.config = s.config := by
  rw [onOutlet]
  split <;> rfl

theorem game_onOutlet {α : Type} (s : Server) (id : ConnectionId) (absent : α)
    (f : Outlet → α × Outlet) : (s.onOutlet id absent f).2.game = s.game := by
  rw [onOutlet]
  split <;> rfl

theorem tasks_onOutlet {α : Type} (s : Server) (id : ConnectionId) (absent : α)
    (f : Outlet → α × Outlet) : (s.onOutlet id absent f).2.tasks = s.tasks := by
  rw [onOutlet]
  split <;> rfl

theorem replies_onOutlet {α : Type} (s : Server) (id : ConnectionId) (absent : α)
    (f : Outlet → α × Outlet) : (s.onOutlet id absent f).2.replies = s.replies := by
  rw [onOutlet]
  split <;> rfl

theorem alike_reply (s : Server) (caller : Caller) (r : Reply) : Alike s (s.reply caller r) :=
  ⟨rfl, rfl, rfl, fun _ => rfl⟩

theorem alike_notify (s : Server) (id : ConnectionId) :
    Alike s (s.modify id Connection.notify) := by
  refine ⟨rfl, rfl, rfl, fun other => ?_⟩
  rw [Server.seat?, connection?_modify (f := Connection.notify) (fun _ hKey => hKey)]
  split
  · rw [Option.map_map]
    rfl
  · rfl

/-! ## Coming and going -/

theorem post_eq {s : Server} (hRunning : s.tasks.stopped = false) (task : GameTask) :
    s.post task =
      (true, { s with tasks := { s.tasks with ready := s.tasks.ready ++ [task] } }) := by
  rw [post, TaskQueue.post, if_neg (by simp [hRunning])]

/-- A number that has been given is not given again. -/
theorem seat?_accept (s : Server) (peer : SocketAddress) (id : ConnectionId) :
    (s.accept peer).2.seat? id =
      (s.seat? id).or (if id = s.connections.length + 1 then some (.live none) else none) := by
  rw [seat?, seat?, connection?, connection?, accept]
  simp only [List.find?_append, Option.map_or, List.find?_singleton, beq_iff_eq]
  congr 1
  by_cases hNew : id = s.connections.length + 1
  · rw [if_pos hNew, if_pos (show (Connection.new _ peer).id = id from hNew.symm)]
    rfl
  · rw [if_neg hNew, if_neg (show ¬ (Connection.new _ peer).id = id from fun h => hNew h.symm)]
    rfl

theorem onOutlet_shut (s : Server) (id : ConnectionId) :
    (s.onOutlet id none Outlet.shut).1 =
      match s.seat? id with
      | some (.live session?) => some ⟨session?⟩
      | _ => none := by
  rw [onOutlet, seat?]
  cases s.connection? id with
  | none => rfl
  | some c =>
    change (Outlet.shut ⟨c, s.pool⟩).1 = _
    rw [(Outlet.shut_spec _).2.2]
    simp only [Option.map_some]
    cases c.seat <;> rfl

/-- What a connection that closes leaves to the game. -/
def farewell (s : Server) (id : ConnectionId) : List GameTask :=
  ((s.held? id).map fun handle => .detach handle.id id).toList

theorem close_spec (s : Server) (id : ConnectionId) (hRunning : s.tasks.stopped = false) :
    (s.close id).config = s.config ∧ (s.close id).game = s.game ∧
      (s.close id).tasks = { s.tasks with ready := s.tasks.ready ++ s.farewell id } ∧
      ∀ other, (s.close id).seat? other =
        (s.seat? other).map fun seat => if other = id then .gone else seat := by
  have hConfig := config_onOutlet s id none Outlet.shut
  have hGame := game_onOutlet s id none Outlet.shut
  have hTasks := tasks_onOutlet s id none Outlet.shut
  have hSeats : ∀ other, (s.onOutlet id none Outlet.shut).2.seat? other =
      (s.seat? other).map fun seat => if other = id then .gone else seat :=
    seat?_onOutlet (fun o => o.shut_spec.1) (fun o => o.shut_spec.2.1) s id
  have hAnswer := onOutlet_shut s id
  rw [close]
  generalize s.onOutlet id none Outlet.shut = answer at *
  obtain ⟨answer, t⟩ := answer
  simp only at *
  cases answer with
  | none =>
    have hNothing : s.farewell id = [] := by
      rw [farewell, held?]
      cases hSeat : s.seat? id with
      | none => rfl
      | some seat =>
        cases seat with
        | gone => rfl
        | live session? => simp [hSeat] at hAnswer
    rw [hNothing, List.append_nil]
    exact ⟨hConfig, hGame, hTasks, hSeats⟩
  | some taken =>
    have hLive : s.seat? id = some (.live taken.session?) := by
      cases hSeat : s.seat? id with
      | none => simp [hSeat] at hAnswer
      | some seat =>
        cases seat with
        | gone => simp [hSeat] at hAnswer
        | live session? =>
          simp only [hSeat, Option.some.injEq] at hAnswer
          rw [hAnswer]
    have hHeld : s.held? id = taken.session? := by
      rw [held?, hLive]
    have hNotified := (alike_notify t id).seat?
    rw [farewell, hHeld]
    obtain ⟨session?⟩ := taken
    cases session? with
    | none =>
      refine ⟨hConfig, hGame, ?_, fun other => (hNotified other).trans (hSeats other)⟩
      rw [Option.map_none, Option.toList_none, List.append_nil]
      exact hTasks
    | some session =>
      refine ⟨hConfig, hGame, ?_, fun other => (hNotified other).trans (hSeats other)⟩
      rw [← hTasks] at hRunning ⊢
      have hPosted := post_eq (s := { t.modify id Connection.notify with
        roster := t.roster.remove id }) hRunning (.detach session.id id)
      exact congrArg (·.2.tasks) hPosted

theorem close_withGame (s : Server) (game : Game) (id : ConnectionId) :
    close id { s with game } = { s.close id with game } := by
  have hSame : connection? { s with game } id = s.connection? id := rfl
  rw [close, close, onOutlet, onOutlet, hSame]
  cases s.connection? id with
  | none => rfl
  | some c =>
    rcases hShut : Outlet.shut ⟨c, s.pool⟩ with ⟨_ | ⟨_ | session⟩, o⟩
    all_goals
      simp only [hShut]
      rfl

theorem game_close (s : Server) (id : ConnectionId) : (s.close id).game = s.game := by
  have hSame := congrArg Server.game (close_withGame s s.game id)
  exact hSame

theorem replies_close (s : Server) (id : ConnectionId) : (s.close id).replies = s.replies := by
  have hShut := s.replies_onOutlet id none Outlet.shut
  rw [close]
  generalize s.onOutlet id none Outlet.shut = result at hShut
  obtain ⟨_ | ⟨_ | session⟩, t⟩ := result
  · exact hShut
  · exact hShut
  · dsimp only
    rw [post]
    exact hShut

/-! ## Answers to requests -/

/-- The seat of a connection that is offered a session. -/
def offered (handle : SessionHandle) : Seat → Seat
  | .live _ => .live (some handle)
  | .gone => .gone

/-- The part of concluding in which a connection takes an offer, unless it has closed. -/
def takeOffer (offer : Game.Offer) (o : Outlet) : Bool × Outlet :=
  let (accepted, c) := o.connection.setSession offer.handle
  (accepted, { o with connection := c })

theorem takeOffer_spec (offer : Game.Offer) (o : Outlet) :
    (takeOffer offer o).2.connection.id = o.connection.id ∧
      (takeOffer offer o).2.connection.seat = offered offer.handle o.connection.seat ∧
      ((takeOffer offer o).1 = true ↔ ∃ session?, o.connection.seat = .live session?) := by
  cases hDisconnected : o.connection.disconnected with
  | true =>
    have hGone : o.connection.seat = .gone := if_pos hDisconnected
    have hRefused : takeOffer offer o = (false, o) := by
      rw [takeOffer, Connection.setSession, if_pos hDisconnected]
    rw [hRefused, hGone]
    exact ⟨rfl, rfl, by simp⟩
  | false =>
    have hOpen : ¬ o.connection.disconnected = true := by simp [hDisconnected]
    have hLive : o.connection.seat = .live o.connection.session? := if_neg hOpen
    have hTaken : takeOffer offer o =
        (true, { o with connection := { o.connection with session? := some offer.handle } }) := by
      rw [takeOffer, Connection.setSession, if_neg hOpen]
    rw [hTaken, hLive]
    exact ⟨rfl, if_neg hOpen, by simp⟩

theorem onOutlet_takeOffer (s : Server) (offer : Game.Offer) :
    (s.onOutlet offer.connection false (takeOffer offer)).1 = true ↔
      ∃ session?, s.seat? offer.connection = some (.live session?) := by
  rw [onOutlet, seat?]
  cases s.connection? offer.connection with
  | none => simp
  | some c =>
    change (takeOffer offer ⟨c, s.pool⟩).1 = true ↔ _
    rw [(takeOffer_spec offer _).2.2]
    simp

variable {now : Nat} {request : AttachRequest} {caller : Caller} {offer : Game.Offer}

theorem conclude_offered_live (now : Nat) (request : AttachRequest) (caller : Caller) {s : Server}
    {session? : Option SessionHandle}
    (hLive : s.seat? offer.connection = some (.live session?)) :
    (s.conclude now request caller (.offered offer)).config = s.config ∧
      (s.conclude now request caller (.offered offer)).game = s.game ∧
      (s.conclude now request caller (.offered offer)).tasks = s.tasks ∧
      ∀ id, (s.conclude now request caller (.offered offer)).seat? id =
        if id = offer.connection then some (.live (some offer.handle)) else s.seat? id := by
  have hTaken := (onOutlet_takeOffer s offer).mpr ⟨session?, hLive⟩
  have hResult : s.conclude now request caller (.offered offer) =
      (s.onOutlet offer.connection false (takeOffer offer)).2.reply caller
        (.outcome (.attached offer.handle)) :=
    if_pos hTaken
  rw [hResult]
  refine ⟨config_onOutlet .., game_onOutlet .., tasks_onOutlet .., fun id => ?_⟩
  refine ((alike_reply _ _ _).seat? id).trans ?_
  rw [seat?_onOutlet (fun o => (takeOffer_spec offer o).1) (fun o => (takeOffer_spec offer o).2.1)]
  split
  case isTrue hHere =>
    rw [hHere, hLive]
    rfl
  case isFalse => rw [Option.map_id']

/-- An offer to a connection that has closed is taken back. -/
theorem conclude_offered_gone {s : Server}
    (hGone : ∀ session?, s.seat? offer.connection ≠ some (.live session?)) :
    Alike { s with game := s.game.withdraw offer }
      (s.conclude now request caller (.offered offer)) := by
  have hRefused : ¬ (s.onOutlet offer.connection false (takeOffer offer)).1 = true := by
    rw [onOutlet_takeOffer]
    exact fun ⟨session?, hLive⟩ => hGone session? hLive
  have hResult : s.conclude now request caller (.offered offer) =
      reply caller (.outcome .abandoned)
        { (s.onOutlet offer.connection false (takeOffer offer)).2 with
          game := (s.onOutlet offer.connection false (takeOffer offer)).2.game.withdraw offer } :=
    if_neg hRefused
  rw [hResult, game_onOutlet]
  refine ⟨config_onOutlet .., rfl, tasks_onOutlet .., fun id => ?_⟩
  refine (?_ : (s.onOutlet offer.connection false (takeOffer offer)).2.seat? id = s.seat? id)
  rw [seat?_onOutlet (fun o => (takeOffer_spec offer o).1) (fun o => (takeOffer_spec offer o).2.1)]
  split
  case isTrue hHere =>
    rw [hHere]
    cases hSeat : s.seat? offer.connection with
    | none => rfl
    | some seat =>
      cases seat with
      | gone => rfl
      | live session? => exact absurd hSeat (hGone session?)
  case isFalse => rw [Option.map_id']

theorem conclude_kicked (s : Server) (old : ConnectionId) (session : SessionId) :
    s.conclude now request caller (.kicked old session) =
      { s.close old with
        tasks := (s.close old).tasks.schedule (now + (s.close old).config.reattachDelay)
          (.reattach session request caller) } :=
  rfl

theorem created_conclude (s : Server) (step : Game.AttachStep) :
    (s.conclude now request caller step).game.sessions.created = s.game.sessions.created := by
  cases step with
  | done => rfl
  | offered offer =>
    by_cases hLive : ∃ session?, s.seat? offer.connection = some (.live session?)
    · obtain ⟨session?, hLive⟩ := hLive
      rw [(conclude_offered_live now request caller hLive).2.1]
    · rw [(conclude_offered_gone (not_exists.mp hLive)).game, Game.withdraw]
      split <;> rfl
  | kicked old session =>
    rw [conclude_kicked, game_close]

end Server

end Gatehouse
