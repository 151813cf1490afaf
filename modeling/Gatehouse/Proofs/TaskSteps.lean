import Gatehouse.Proofs.Closing
import Gatehouse.Proofs.Tolerance
import Gatehouse.Simulation.Run

/-!
# What the tasks of a server do

In simulated time, a task does nothing to the server that is not the work of a reader, a call on a
connection, a turn of the game or a tick. So what these keep is kept as time passes.
-/

namespace Gatehouse

/-- What a reader in a phase may have to do. -/
inductive Reader.Work (id : ConnectionId) (now : Nat) (phase : ReaderPhase) :
    Talking ReaderPhase → Prop where
  | receive (challenge : Login.Challenge) (bs : Octets) :
    Work id now phase (Reader.receive id now challenge phase bs)
  | answered (r : Reply) : Work id now phase (Reader.answered id now r)
  | halt (halt : Halt) : Work id now phase (throw halt)

namespace Server.Tolerant

variable {R : Server → Server → Prop} (hR : Tolerant R)

include hR

theorem called (id : ConnectionId) (s : Server) (call : Connection.Call) :
    R s (s.called id call).2 := by
  cases call with
  | enqueue message => exact hR.onOutlet s id false (Outlet.enqueue message)
  | enqueueBuffer b => exact hR.onOutlet s id false (Outlet.enqueueBuffer b)
  | flush => exact hR.onOutlet s id false Outlet.flush
  | setSession handle => exact hR.onOutlet s id false (Outlet.setSession handle)
  | close => exact hR.close s id
  | closeWith text => exact hR.closeWith s id text
  | abort => exact hR.abort s id
  | frameSent | woken | cutOff => exact hR.modify s id _

theorem calledAll (id : ConnectionId) (calls : List Connection.Call) (s : Server) :
    R s (s.calledAll id calls) :=
  hR.foldl s (hR.called id) calls

section

variable (hStore : ∀ s store, R s { s with store }) {T : Server → Server → Prop}
  (hOf : ∀ {s t}, R s t → T s t) (hAfter : ∀ {s t u}, T s t → R t u → T s u) {id : ConnectionId}
  (hHandle : (Steady.handle id).Within T)

include hStore hOf hAfter hHandle

theorem work_of {now : Nat} {r : Reader} {step : Talking ReaderPhase}
    (hWork : Reader.Work id now r.phase step) (s : Server) : T s (r.run id now step s).2 := by
  refine hR.run_of (T := T) hAfter ?_ id now r s
  cases hWork with
  | receive challenge bs => exact hR.receive_of hStore hOf hAfter hHandle now challenge r.phase bs
  | answered reply => exact fun t => hOf (hR.answered id now reply t)
  | halt halt => exact fun t => hOf (hR.throw halt t)

end

end Server.Tolerant

/-! ## Simulated time -/

namespace Simulation.State

open Server (Tolerant)

theorem exists_work_readInward (s : State) (l : Line) :
    ∃ step, Reader.Work l.id s.now l.reader.phase step ∧
      (s.readInward l).server = (l.reader.run l.id s.now step s.server).2 := by
  rw [readInward]
  split
  case isTrue => exact ⟨_, .halt .transport, rfl⟩
  case isFalse => exact ⟨_, .receive challenge _, rfl⟩

/-- The reader task gets its work done, or waits. -/
theorem stepReader_cases (s : State) (l : Line) :
    (s.stepReader l).server = s.server ∨
      ∃ step, Reader.Work l.id s.now l.reader.phase step ∧
        (s.stepReader l).server = (l.reader.run l.id s.now step s.server).2 := by
  rw [stepReader]
  dsimp only
  split
  case h_1 => exact Or.inl rfl
  case h_2 =>
    split
    · exact Or.inr ⟨_, .halt .closed, rfl⟩
    · exact Or.inr (s.exists_work_readInward l)
  case h_3 =>
    split
    · exact Or.inr ⟨_, .halt .closed, rfl⟩
    split
    · exact Or.inr (s.exists_work_readInward l)
    · exact Or.inr ⟨_, .halt .abort, rfl⟩
  case h_4 =>
    split
    · exact Or.inr ⟨_, .halt .closed, rfl⟩
    split
    · exact Or.inl rfl
    case h_2 reply _ => exact Or.inr ⟨_, .answered reply, rfl⟩
  case h_5 => exact Or.inr ⟨_, .halt .abort, rfl⟩

variable {R : Server → Server → Prop} (hR : Tolerant R)

include hR

theorem tolerates_stepWriter (s : State) (l : Line) : R s.server (s.stepWriter l).server := by
  obtain ⟨calls, -, hCalled⟩ := s.exists_calls_stepWriter l
  rw [hCalled]
  exact hR.calledAll l.id calls s.server

theorem tolerates_stepConsole (s : State) (c : Console) : R s.server (s.stepConsole c).server := by
  rw [stepConsole]
  split
  case h_1 request _ =>
    have hPosted := hR.post s.server (.attach request (.console c.number))
    dsimp only
    split
    · exact hPosted
    · exact hR.trans hPosted (hR.withReplies _ _)
  case h_2 =>
    split
    · exact hR.refl _
    · exact hR.withReplies _ _

/-- A relation that bears the work of readers and the turns of the game holds around a step of any
task but the ticking. -/
theorem tolerates_step
    (hWork : ∀ {id now step} {r : Reader}, Reader.Work id now r.phase step →
      ∀ s, R s (r.run id now step s).2)
    (hNext : ∀ now s, R s (Server.runNext now 0 s)) (hStop : ∀ s, R s s.stopGame) {task : TaskId}
    (hTask : task ≠ .ticker) (s : State) : R s.server (s.step task).server := by
  have hGetD : ∀ t? : Option State, (∀ t, t? = some t → R s.server t.server) →
      R s.server (t?.getD s).server := by
    rintro (_ | t) hAll
    · exact hR.refl s.server
    · exact hAll t rfl
  cases task with
  | writer id =>
    refine hGetD _ fun t hStepped => ?_
    obtain ⟨l, -, rfl⟩ := Option.map_eq_some_iff.mp hStepped
    exact tolerates_stepWriter hR s l
  | reader id =>
    refine hGetD _ fun t hStepped => ?_
    obtain ⟨l, -, rfl⟩ := Option.map_eq_some_iff.mp hStepped
    rcases s.stepReader_cases l with hSame | ⟨step, hDone, hRun⟩
    · rw [hSame]
      exact hR.refl s.server
    · rw [hRun]
      exact hWork hDone s.server
  | game =>
    rw [step, stepGame]
    split
    case isTrue => exact hStop s.server
    case isFalse => exact hNext s.now s.server
  | timer => exact hR.releaseNext s.now s.server
  | ticker => exact absurd rfl hTask
  | console n =>
    refine hGetD _ fun t hStepped => ?_
    obtain ⟨c, -, rfl⟩ := Option.map_eq_some_iff.mp hStepped
    exact tolerates_stepConsole hR s c

end Simulation.State

/-! ## As time passes -/

namespace Simulation.State

/-- A property that is kept whatever the tasks and the clients do as time passes. -/
structure Lasting (P : State → Prop) : Prop where
  withQueue : ∀ s queue, P s → P { s with queue }
  withLines : ∀ s lines, P s → P { s with lines }
  withNow : ∀ s now, P s → P { s with now }
  step : ∀ s task, s.isReady task = true → P s → P (s.step task)

variable {P : State → Prop} (hP : Lasting P) {s : State}

include hP

theorem Lasting.lineUp (hs : P s) : P s.lineUp :=
  hP.withQueue s _ hs

theorem Lasting.settleWith (fuel : Nat) (hs : P s) : P (settleWith fuel s) := by
  induction fuel generalizing s with
  | zero => exact hs
  | succ fuel ih =>
    rw [State.settleWith]
    split
    case h_1 task queue _ =>
      split
      case isTrue hReady => exact ih (hP.lineUp (hP.step s task hReady hs))
      case isFalse => exact ih (hP.withQueue s queue hs)
    case h_2 =>
      split
      case isTrue => exact ih (hP.lineUp (hP.withLines s _ hs))
      case isFalse => exact hs

theorem Lasting.passTo (target fuel : Nat) (hs : P s) : P (passTo target fuel s) := by
  induction fuel generalizing s with
  | zero => exact hs
  | succ fuel ih =>
    rw [State.passTo]
    split
    case h_1 => exact hP.withNow s target hs
    case h_2 deadline _ =>
      split
      case isTrue => exact hP.withNow s target hs
      case isFalse => exact ih (hP.settleWith _ (hP.lineUp (hP.withNow s deadline hs)))

theorem Lasting.advance (ms : Nat) (hs : P s) : P (s.advance ms) :=
  hP.passTo _ _ (hP.settleWith _ (hP.lineUp hs))

end Simulation.State

end Gatehouse
