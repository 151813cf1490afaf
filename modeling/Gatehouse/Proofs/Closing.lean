import Gatehouse.Proofs.Attachment
import Gatehouse.Proofs.Draining

/-!
# Closing for good

A connection closes once. What its session has to be told is posted then, and afterwards nothing
comes in: no message, no buffer and no session. The writer goes on to take away what was queued.
-/

namespace Gatehouse

namespace Connection

/-- What may be called on a connection, and below that what its writer does to it. The writer also
aborts, when it fails. -/
inductive Call where
  | enqueue (message : Octets)
  | enqueueBuffer (b : PooledBuffer)
  | flush
  | setSession (handle : SessionHandle)
  | close
  | closeWith (text : String)
  | abort
  | frameSent
  | woken
  | cutOff

namespace Call

def closes : Call → Bool
  | close | closeWith _ | abort => true
  | enqueue _ | enqueueBuffer _ | flush | setSession _ | frameSent | woken | cutOff => false

def answers : Call → Bool
  | enqueue _ | enqueueBuffer _ | flush | setSession _ => true
  | close | closeWith _ | abort | frameSent | woken | cutOff => false

def ofWriter : Call → Bool
  | abort | frameSent | woken | cutOff => true
  | enqueue _ | enqueueBuffer _ | flush | setSession _ | close | closeWith _ => false

def sendsFrame : Call → Bool
  | frameSent => true
  | _ => false

/-- What a call does to a connection that has closed. -/
def afterClosing (c : Connection) : Call → Connection
  | abort | cutOff => { c with shutdown := true }
  | frameSent => c.frameSent
  | woken => { c with wake := false }
  | enqueue _ | enqueueBuffer _ | flush | setSession _ | close | closeWith _ => c

end Call

structure Closed (c : Connection) : Prop where
  disconnected : c.disconnected = true
  session? : c.session? = none
  current? : c.current? = none

end Connection

open Connection (Call Closed)

namespace Outlet

def setSession (handle : SessionHandle) (o : Outlet) : Bool × Outlet :=
  let (accepted, c) := o.connection.setSession handle
  (accepted, { o with connection := c })

end Outlet

namespace Server

/-- The answer is whether the call was accepted, where it says so. -/
def called (id : ConnectionId) (s : Server) : Call → Bool × Server
  | .enqueue message => s.enqueue id message
  | .enqueueBuffer b => s.onOutlet id false (Outlet.enqueueBuffer b)
  | .flush => s.flush id
  | .setSession handle => s.onOutlet id false (Outlet.setSession handle)
  | .close => (true, s.close id)
  | .closeWith text => (true, s.closeWith id text)
  | .abort => (true, s.abort id)
  | .frameSent => (true, s.modify id Connection.frameSent)
  | .woken => (true, s.modify id fun c => { c with wake := false })
  | .cutOff => (true, s.cutOff id)

def calledAll (id : ConnectionId) (calls : List Call) (s : Server) : Server :=
  calls.foldl (fun s call => (s.called id call).2) s

end Server

/-! ## Calls on a closed connection -/

namespace Outlet

variable {o : Outlet}

theorem enqueueBuffer_of_closed (hClosed : o.connection.disconnected = true) (b : PooledBuffer) :
    (o.enqueueBuffer b).1 = false ∧ (o.enqueueBuffer b).2.connection = o.connection := by
  rw [enqueueBuffer, if_pos (Or.inl hClosed)]
  exact ⟨rfl, rfl⟩

theorem current?_queueBuffer (o : Outlet) (b : PooledBuffer) :
    (o.queueBuffer b).connection.current? = o.connection.current? := by
  have hSealed : (o.connection.sealFrame b.buffer).2.2.current? = o.connection.current? := by
    rw [Connection.sealFrame]
    split <;> rfl
  rw [queueBuffer, ← hSealed]
  change (Connection.push _ _).current? = _
  rw [Connection.push]
  split <;> rfl

theorem current?_finalize (o : Outlet) : o.finalize.2.connection.current? = none := by
  rw [finalize]
  split
  case h_1 hNone => exact hNone
  case h_2 b _ =>
    dsimp only
    split
    case isTrue => rfl
    case isFalse => exact current?_queueBuffer ..

end Outlet

namespace Server

variable {s : Server} {id : ConnectionId} {c : Connection}

theorem onOutlet_of_unmoved {f : Outlet → Bool × Outlet} (hConnection : s.connection? id = some c)
    (hAnswer : (f ⟨c, s.pool⟩).1 = false) (hSame : (f ⟨c, s.pool⟩).2.connection = c) :
    (s.onOutlet id false f).1 = false ∧ (s.onOutlet id false f).2.connection? id = some c ∧
      (s.onOutlet id false f).2.tasks = s.tasks := by
  refine ⟨?_, ?_, tasks_onOutlet ..⟩
  · rw [onOutlet_eq _ hConnection]
    exact hAnswer
  · rw [connection?_onOutlet _ hConnection (congrArg Connection.id hSame), hSame]

theorem connection?_modify_here {f : Connection → Connection} (hId : ∀ c, (f c).id = c.id)
    (hConnection : s.connection? id = some c) : (s.modify id f).connection? id = some (f c) := by
  rw [connection?_modify (fun c hc => (hId c).trans hc), if_pos rfl, hConnection, Option.map_some]

theorem called_of_closed (hConnection : s.connection? id = some c) (hClosed : c.Closed)
    (call : Call) :
    (s.called id call).2.connection? id = some (call.afterClosing c) ∧
      (s.called id call).2.tasks = s.tasks ∧
      (call.answers = true → (s.called id call).1 = false) := by
  have hMarked := hClosed.disconnected
  have hSilent : ∀ {p : Prop}, false = true → p := fun hAnswers =>
    absurd hAnswers Bool.false_ne_true
  cases call with
  | enqueue message =>
    have hRefused : Outlet.enqueue message ⟨c, s.pool⟩ = (false, ⟨c, s.pool⟩) :=
      Outlet.enqueue_refused (Or.inr hMarked)
    obtain ⟨hAnswer, hHere, hTasks⟩ := onOutlet_of_unmoved hConnection
      (congrArg Prod.fst hRefused) (congrArg (·.2.connection) hRefused)
    exact ⟨hHere, hTasks, fun _ => hAnswer⟩
  | enqueueBuffer b =>
    obtain ⟨hRefused, hSame⟩ := Outlet.enqueueBuffer_of_closed (o := ⟨c, s.pool⟩) hMarked b
    obtain ⟨hAnswer, hHere, hTasks⟩ := onOutlet_of_unmoved hConnection hRefused hSame
    exact ⟨hHere, hTasks, fun _ => hAnswer⟩
  | flush =>
    have hRefused : Outlet.flush ⟨c, s.pool⟩ = (false, ⟨c, s.pool⟩) := if_pos hMarked
    obtain ⟨hAnswer, hHere, hTasks⟩ := onOutlet_of_unmoved hConnection
      (congrArg Prod.fst hRefused) (congrArg (·.2.connection) hRefused)
    exact ⟨hHere, hTasks, fun _ => hAnswer⟩
  | setSession handle =>
    have hRefused : Outlet.setSession handle ⟨c, s.pool⟩ = (false, ⟨c, s.pool⟩) := by
      rw [Outlet.setSession, Connection.setSession, if_pos hMarked]
    obtain ⟨hAnswer, hHere, hTasks⟩ := onOutlet_of_unmoved hConnection
      (congrArg Prod.fst hRefused) (congrArg (·.2.connection) hRefused)
    exact ⟨hHere, hTasks, fun _ => hAnswer⟩
  | close =>
    obtain ⟨hHere, hTasks, -⟩ := close_of_closed hConnection hMarked
    exact ⟨hHere, hTasks, hSilent⟩
  | closeWith text =>
    have hNot : ¬ s.isOpen id = true := by
      rw [isOpen, hConnection]
      simp [Connection.isOpen, hMarked]
    have hNothing : s.closeWith id text = s := if_neg hNot
    refine ⟨?_, ?_, hSilent⟩
    · exact (congrArg (·.connection? id) hNothing).trans hConnection
    · exact congrArg Server.tasks hNothing
  | abort =>
    obtain ⟨hHere, hTasks, -⟩ := close_of_closed hConnection hMarked
    exact ⟨connection?_modify_here (fun _ => rfl) hHere, hTasks, hSilent⟩
  | frameSent =>
    exact ⟨connection?_modify_here Simulation.State.id_frameSent hConnection, rfl, hSilent⟩
  | woken =>
    exact ⟨connection?_modify_here (fun _ => rfl) hConnection, rfl, hSilent⟩
  | cutOff =>
    exact ⟨connection?_modify_here (fun _ => rfl) hConnection, rfl, hSilent⟩

/-! ## Calls on an open connection -/

theorem sameSeat_enqueueBuffer (o : Outlet) (b : PooledBuffer) :
    Connection.SameSeat o.connection (o.enqueueBuffer b).2.connection := by
  have hView := Connection.unmoved_seat
  rw [Outlet.enqueueBuffer]
  split
  case isTrue => exact ⟨rfl, rfl, rfl⟩
  case isFalse =>
    refine .of_eq ?_
    rw [Outlet.queueBuffer]
    exact (hView.push _ _).trans ((hView.sealFrame _ _).trans (o.view_finalize hView))

theorem disconnected_setSession (handle : SessionHandle) (o : Outlet) :
    (o.setSession handle).2.connection.id = o.connection.id ∧
      (o.setSession handle).2.connection.disconnected = o.connection.disconnected := by
  rw [Outlet.setSession, Connection.setSession]
  by_cases hClosed : o.connection.disconnected = true
  · rw [if_pos hClosed]
    exact ⟨rfl, rfl⟩
  · rw [if_neg hClosed]
    exact ⟨rfl, rfl⟩

theorem called_of_open (hConnection : s.connection? id = some c) (hOpen : c.disconnected = false)
    {call : Call} (hCall : call.closes = false) :
    (s.called id call).2.tasks = s.tasks ∧ ∃ d, (s.called id call).2.connection? id = some d ∧
      d.disconnected = false := by
  have hOutlet : ∀ f : Outlet → Bool × Outlet, (f ⟨c, s.pool⟩).2.connection.id = c.id →
      (f ⟨c, s.pool⟩).2.connection.disconnected = c.disconnected →
      (s.onOutlet id false f).2.tasks = s.tasks ∧
        ∃ d, (s.onOutlet id false f).2.connection? id = some d ∧ d.disconnected = false :=
    fun f hId hSame => ⟨tasks_onOutlet .., _, connection?_onOutlet _ hConnection hId,
      hSame.trans hOpen⟩
  have hModify : ∀ f : Connection → Connection, (∀ c, (f c).id = c.id) →
      (f c).disconnected = c.disconnected →
      ∃ d, (s.modify id f).connection? id = some d ∧ d.disconnected = false :=
    fun f hId hSame => ⟨_, connection?_modify_here hId hConnection, hSame.trans hOpen⟩
  cases call with
  | enqueue message =>
    have hSame := Outlet.sameSeat_enqueue ⟨c, s.pool⟩ message
    exact hOutlet _ hSame.id hSame.disconnected
  | enqueueBuffer b =>
    have hSame := sameSeat_enqueueBuffer ⟨c, s.pool⟩ b
    exact hOutlet _ hSame.id hSame.disconnected
  | flush =>
    have hSame := Outlet.sameSeat_flush ⟨c, s.pool⟩
    exact hOutlet _ hSame.id hSame.disconnected
  | setSession handle =>
    obtain ⟨hId, hSame⟩ := disconnected_setSession handle ⟨c, s.pool⟩
    exact hOutlet _ hId hSame
  | close => cases hCall
  | closeWith text => cases hCall
  | abort => cases hCall
  | frameSent =>
    refine ⟨rfl, hModify _ Simulation.State.id_frameSent ?_⟩
    rw [Connection.frameSent]
    split <;> rfl
  | woken => exact ⟨rfl, hModify _ (fun _ => rfl) rfl⟩
  | cutOff => exact ⟨rfl, hModify _ (fun _ => rfl) rfl⟩

/-! ## The first close -/

def detached (id : ConnectionId) (session? : Option SessionHandle) (tasks : TaskQueue GameTask) :
    TaskQueue GameTask :=
  match session? with
  | none => tasks
  | some handle => (tasks.post (.detach handle.id id)).2

theorem close_of_open (hConnection : s.connection? id = some c) (hOpen : c.disconnected = false) :
    (s.close id).tasks = detached id c.session? s.tasks ∧
      ∃ d, (s.close id).connection? id = some d ∧ d.Closed := by
  have hMarked : ¬ c.disconnected = true := by simp [hOpen]
  have hHere := (connection?_close hConnection).1
  have hShut : Outlet.shut ⟨c, s.pool⟩ = _ := if_neg hMarked
  have hSeat : s.seat? id = some (.live c.session?) := by
    rw [seat?, hConnection]
    exact congrArg some (if_neg hMarked)
  have hAnswer := onOutlet_shut s id
  have hTasks := tasks_onOutlet s id none Outlet.shut
  rw [if_neg hMarked] at hHere
  rw [hSeat] at hAnswer
  refine ⟨?_, _, hHere, ?_⟩
  · rw [close, ← hTasks]
    generalize s.onOutlet id none Outlet.shut = result at hAnswer
    obtain ⟨answer, t⟩ := result
    cases hAnswer
    cases c.session? <;> rfl
  · rw [hShut]
    exact ⟨rfl, rfl, Outlet.current?_finalize _⟩

/-- Whichever call closes, it does so for the session that the connection has by then. -/
theorem called_of_closes (hConnection : s.connection? id = some c) (hOpen : c.disconnected = false)
    {call : Call} (hCall : call.closes = true) :
    (s.called id call).2.tasks = detached id c.session? s.tasks ∧
      ∃ d, (s.called id call).2.connection? id = some d ∧ d.Closed := by
  cases call with
  | close => exact close_of_open hConnection hOpen
  | closeWith text =>
    have hSame := Outlet.sameSeat_enqueue ⟨c, s.pool⟩ (Wire.ServerMessage.loginError text).encode
    have hHere := connection?_onOutlet false hConnection hSame.id
    have hTasks := tasks_onOutlet s id false
      (Outlet.enqueue (Wire.ServerMessage.loginError text).encode)
    obtain ⟨hDetached, d, hClosed⟩ := close_of_open hHere (hSame.disconnected.trans hOpen)
    have hIs : s.isOpen id = true := by
      rw [isOpen, hConnection]
      simp [Connection.isOpen, hOpen]
    have hWith : s.closeWith id text =
        (s.enqueue id (Wire.ServerMessage.loginError text).encode).2.close id := if_pos hIs
    rw [called, hWith, ← hTasks, ← hSame.session?]
    exact ⟨hDetached, d, hClosed⟩
  | abort =>
    obtain ⟨hDetached, d, hHere, hClosed⟩ := close_of_open hConnection hOpen
    exact ⟨hDetached, _, connection?_modify_here (fun _ => rfl) hHere,
      hClosed.disconnected, hClosed.session?, hClosed.current?⟩
  | enqueue message => cases hCall
  | enqueueBuffer b => cases hCall
  | flush => cases hCall
  | setSession handle => cases hCall
  | frameSent => cases hCall
  | woken => cases hCall
  | cutOff => cases hCall

/-! ## Runs -/

theorem calledAll_of_open (hConnection : s.connection? id = some c)
    (hOpen : c.disconnected = false) {calls : List Call}
    (hCalls : ∀ call ∈ calls, call.closes = false) :
    (s.calledAll id calls).tasks = s.tasks ∧
      ∃ d, (s.calledAll id calls).connection? id = some d ∧ d.disconnected = false := by
  induction calls generalizing s c with
  | nil => exact ⟨rfl, c, hConnection, hOpen⟩
  | cons call calls ih =>
    obtain ⟨hTasks, d, hHere, hStill⟩ :=
      called_of_open hConnection hOpen (hCalls call List.mem_cons_self)
    obtain ⟨hRest, hEnd⟩ := ih hHere hStill fun other hOther =>
      hCalls other (List.mem_cons_of_mem _ hOther)
    exact ⟨hRest.trans hTasks, hEnd⟩

theorem afterClosing_of_closed (hClosed : c.Closed) (call : Call) :
    (call.afterClosing c).Closed ∧
      (call.afterClosing c).queue = c.queue.drop (if call.sendsFrame then 1 else 0) := by
  obtain ⟨hDisconnected, hSession, hCurrent⟩ := hClosed
  cases call with
  | frameSent =>
    change c.frameSent.Closed ∧ c.frameSent.queue = c.queue.drop 1
    rw [Connection.frameSent]
    split
    case h_1 hQueue => exact ⟨⟨hDisconnected, hSession, hCurrent⟩, by rw [hQueue]; rfl⟩
    case h_2 hQueue => exact ⟨⟨hDisconnected, hSession, hCurrent⟩, by rw [hQueue]; rfl⟩
  | enqueue _ | enqueueBuffer _ | flush | setSession _ | close | closeWith _ | abort | woken
  | cutOff => exact ⟨⟨hDisconnected, hSession, hCurrent⟩, rfl⟩

theorem calledAll_of_closed (hConnection : s.connection? id = some c) (hClosed : c.Closed)
    (calls : List Call) :
    (s.calledAll id calls).tasks = s.tasks ∧
      ∃ d, (s.calledAll id calls).connection? id = some d ∧ d.Closed ∧
        d.queue = c.queue.drop (calls.countP Call.sendsFrame) := by
  induction calls generalizing s c with
  | nil => exact ⟨rfl, c, hConnection, hClosed, rfl⟩
  | cons call calls ih =>
    obtain ⟨hHere, hTasks, -⟩ := called_of_closed hConnection hClosed call
    obtain ⟨hStill, hQueue⟩ := afterClosing_of_closed hClosed call
    obtain ⟨hRest, d, hEnd, hLast, hFrames⟩ := ih hHere hStill
    refine ⟨hRest.trans hTasks, d, hEnd, hLast, ?_⟩
    rw [hFrames, hQueue, List.drop_drop, List.countP_cons, Nat.add_comm]

/-- Up to the first close nothing is posted. That one posts what the session of the connection is
told, if there is one, and no later call posts, queues or attaches anything: the frames that were
queued leave one by one, and nothing else is left to change but whether the transport is given
up. -/
theorem closing_is_final (hConnection : s.connection? id = some c) (hOpen : c.disconnected = false)
    {before : List Call} (hBefore : ∀ call ∈ before, call.closes = false) :
    let t := s.calledAll id before
    t.tasks = s.tasks ∧ ∃ d, t.connection? id = some d ∧ d.disconnected = false ∧
      ∀ first : Call, first.closes = true → ∀ rest : List Call,
        let u := (t.called id first).2
        let v := u.calledAll id rest
        v.tasks = detached id d.session? s.tasks ∧
          ∃ e f, u.connection? id = some e ∧ v.connection? id = some f ∧ f.Closed ∧
            f.queue = e.queue.drop (rest.countP Call.sendsFrame) ∧
            ∀ call : Call, (v.called id call).2.connection? id = some (call.afterClosing f) ∧
              (v.called id call).2.tasks = v.tasks ∧
              (call.answers = true → (v.called id call).1 = false) := by
  intro t
  obtain ⟨hTasks, d, hHere, hStill⟩ := calledAll_of_open hConnection hOpen hBefore
  refine ⟨hTasks, d, hHere, hStill, fun first hFirst rest => ?_⟩
  intro u v
  obtain ⟨hDetached, e, hShut, hClosed⟩ := called_of_closes hHere hStill hFirst
  obtain ⟨hRest, f, hEnd, hLast, hQueue⟩ := calledAll_of_closed hShut hClosed rest
  refine ⟨?_, e, f, hShut, hEnd, hLast, hQueue, called_of_closed hEnd hLast⟩
  rw [← show t.tasks = s.tasks from hTasks]
  exact hRest.trans hDetached

/-- A connection that has entered is closed with a text while a message is being gathered. It is
then offered a session again, written to, and aborted. -/
theorem closing_is_final_entered :
    let t := Rivals.entered.calledAll 1 [.enqueue [0x1D], .flush, .enqueue [0x1E]]
    let v := (t.called 1 (.closeWith "Bye")).2.calledAll 1
      [.setSession Rivals.handle, .frameSent, .abort, .close]
    v.tasks.ready = Rivals.entered.tasks.ready ++ [.detach Rivals.handle.id 1] ∧
      (v.called 1 .flush).1 = false ∧ ∃ f, v.connection? 1 = some f ∧ f.Closed := by
  dsimp only
  obtain ⟨c, hConnection, hOpen⟩ : ∃ c, Rivals.entered.connection? 1 = some c ∧
      c.disconnected = false := ⟨_, rfl, rfl⟩
  have hBefore : ∀ call ∈ [Call.enqueue [0x1D], .flush, .enqueue [0x1E]],
      call.closes = false := by decide
  obtain ⟨-, d, hHere, -, hFinal⟩ := closing_is_final hConnection hOpen hBefore
  have hSession : ((Rivals.entered.calledAll 1 [.enqueue [0x1D], .flush,
      .enqueue [0x1E]]).connection? 1).map Connection.session? = some (some Rivals.handle) := by
    decide +kernel
  rw [hHere] at hSession
  obtain ⟨hTasks, e, f, -, hEnd, hClosed, -, hLater⟩ := hFinal (.closeWith "Bye") rfl
    [.setSession Rivals.handle, .frameSent, .abort, .close]
  have hRunning : ¬ Rivals.entered.tasks.stopped = true := Bool.false_ne_true
  rw [Option.some.inj hSession, detached, TaskQueue.post, if_neg hRunning] at hTasks
  exact ⟨congrArg TaskQueue.ready hTasks, (hLater .flush).2.2 rfl, f, hEnd, hClosed⟩

end Server

namespace Simulation.State

/-- What the writer task does to the server are calls on its connection. -/
theorem exists_calls_stepWriter (s : State) (l : Line) :
    ∃ calls : List Call, (∀ call ∈ calls, call.ofWriter = true) ∧
      (s.stepWriter l).server = s.server.calledAll l.id calls := by
  have hNone : ∀ t : State, t.server = s.server → ∃ calls : List Call,
      (∀ call ∈ calls, call.ofWriter = true) ∧ t.server = s.server.calledAll l.id calls :=
    fun t hSame => ⟨[], List.forall_mem_nil _, hSame⟩
  have hOne : ∀ (t : State) (call : Call), call.ofWriter = true →
      t.server = (s.server.called l.id call).2 → ∃ calls : List Call,
        (∀ call ∈ calls, call.ofWriter = true) ∧ t.server = s.server.calledAll l.id calls :=
    fun t call hCall hSame => ⟨[call], by simpa using hCall, hSame⟩
  rw [stepWriter]
  split
  case h_1 => exact hNone _ rfl
  case h_2 => split <;> exact hNone _ rfl
  case h_3 =>
    split
    · exact hNone _ rfl
    · exact hOne _ .woken rfl rfl
  case h_4 frame rest deadline _ =>
    split
    · exact hNone _ rfl
    split
    · exact hOne _ .abort rfl rfl
    split
    · rw [writeOutward]
      dsimp only
      split
      · exact hOne _ .frameSent rfl rfl
      · exact hNone _ rfl
    · exact hOne _ .abort rfl rfl
  case h_5 => exact hOne _ .cutOff rfl rfl

end Simulation.State

end Gatehouse
