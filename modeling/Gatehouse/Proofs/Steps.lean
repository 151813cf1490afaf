import Gatehouse.Server.Reader

/-!
# Steps that may fail

A step changes a state and brings a result or an error. After a step that has brought a result the
next one runs.
-/

namespace Gatehouse

variable {ε σ α β : Type}

theorem get_eq (s : σ) : (get : ExceptT ε (StateM σ) σ) s = (.ok s, s) := rfl

theorem bind_of_ok {step : ExceptT ε (StateM σ) α} {next : α → ExceptT ε (StateM σ) β} {a : α}
    {s t : σ} (hStep : step s = (.ok a, t)) : (step >>= next) s = next a t := by
  change ExceptT.bindCont next (step s).1 (step s).2 = _
  rw [hStep]
  rfl

theorem bind_of_error {step : ExceptT ε (StateM σ) α} {next : α → ExceptT ε (StateM σ) β} {e : ε}
    {s t : σ} (hStep : step s = (.error e, t)) : (step >>= next) s = (.error e, t) := by
  change ExceptT.bindCont next (step s).1 (step s).2 = _
  rw [hStep]
  rfl

/-- A step that cannot fail brings its result. -/
theorem lift_bind (step : StateM σ α) (next : α → ExceptT ε (StateM σ) β) (s : σ) :
    ((liftM step : ExceptT ε (StateM σ) α) >>= next) s = next (step s).1 (step s).2 := rfl

theorem ite_throw {c : Prop} [Decidable c] (e : ε) (next : PUnit → ExceptT ε (StateM σ) β) (s : σ) :
    (if c then (throw e : ExceptT ε (StateM σ) PUnit) >>= next else next ⟨⟩) s =
      if c then (.error e, s) else next ⟨⟩ s := by
  split <;> rfl

theorem forM_modify (change : Nat → σ → σ) (is : List Nat) (s : σ) :
    (is.forM fun i => modify (change i) : ExceptT ε (StateM σ) Unit) s =
      (.ok (), is.foldl (fun s i => change i s) s) := by
  induction is generalizing s with
  | nil => rfl
  | cons i is ih => exact ih (change i s)

namespace Talking

theorem server_eq (t : Talk) : server t = (.ok t.server, t) := rfl

theorem frame_eq (t : Talk) : frame t = (.ok t.frame, t) := rfl

theorem changeServer_bind {β : Type} (f : Server → Server) (next : Unit → Talking β) (t : Talk) :
    (changeServer f >>= next) t = next () { t with server := f t.server } := rfl

theorem changeFrame_bind {β : Type} (f : Wire.FrameReader → Wire.FrameReader)
    (next : Unit → Talking β) (t : Talk) :
    (changeFrame f >>= next) t = next () { t with frame := f t.frame } := rfl

theorem onServer_bind {α β : Type} (f : Server → α × Server) (next : α → Talking β) (t : Talk) :
    (onServer f >>= next) t = next (f t.server).1 { t with server := (f t.server).2 } := rfl

theorem reading_of_ok {read : ExceptT ε Wire.Read α} {cause : ε → Halt} {t : Talk} {a : α}
    {frame : Wire.FrameReader} (hRead : read t.frame = (.ok a, frame)) :
    reading cause read t = (.ok a, { t with frame }) := by
  have hRun : read.run t.frame = (.ok a, frame) := hRead
  rw [reading, bind_of_ok (get_eq t), hRun]
  rfl

theorem reading_of_error {read : ExceptT ε Wire.Read α} {cause : ε → Halt} {t : Talk} {e : ε}
    {frame : Wire.FrameReader} (hRead : read t.frame = (.error e, frame)) :
    reading cause read t = (.error (cause e), { t with frame }) := by
  have hRun : read.run t.frame = (.error e, frame) := hRead
  rw [reading, bind_of_ok (get_eq t), hRun]
  rfl

theorem ensureOpen_of_closed {t : Talk} {id : ConnectionId} (hClosed : t.server.isOpen id = false) :
    ensureOpen id t = (.error .closed, t) := by
  rw [ensureOpen, bind_of_ok (server_eq t), if_pos (by simp [hClosed])]
  rfl

theorem ensureOpen_of_open {t : Talk} {id : ConnectionId} (hOpen : t.server.isOpen id = true) :
    ensureOpen id t = (.ok (), t) := by
  rw [ensureOpen, bind_of_ok (server_eq t), if_neg (not_not_intro hOpen)]
  rfl

end Talking

namespace Reader

variable {id : ConnectionId} {now : Nat} {step : Talking ReaderPhase} {r : Reader} {s : Server}

theorem run_of_ok {phase : ReaderPhase} {t : Talk} (hStep : step ⟨s, r.frame⟩ = (.ok phase, t)) :
    r.run id now step s = (⟨phase, t.frame⟩, t.server) := by
  have hRun : (ExceptT.run step).run ⟨s, r.frame⟩ = (.ok phase, t) := hStep
  rw [run, hRun]

theorem run_of_error {halt : Halt} {t : Talk}
    (hStep : step ⟨s, r.frame⟩ = (.error halt, t)) :
    r.run id now step s =
      (⟨(finish id now halt t.server).1, t.frame⟩, (finish id now halt t.server).2) := by
  have hRun : (ExceptT.run step).run ⟨s, r.frame⟩ = (.error halt, t) := hStep
  rw [run, hRun]

theorem receive_filling (id : ConnectionId) (now : Nat) (challenge : Login.Challenge) (stage : Stage)
    (part : Part) (start stop : Nat) (deadline? : Option Nat) (bs : Octets) (s : Server)
    (frame : Wire.FrameReader) :
    receive id now challenge (.filling stage part start stop deadline?) bs ⟨s, frame⟩ =
      if start + bs.length < stop then
        (.ok (.filling stage part (start + bs.length) stop deadline?), ⟨s, frame.write start bs⟩)
      else complete id now stage part ⟨s, frame.write start bs⟩ := by
  rw [receive, Talking.changeFrame_bind]
  split <;> rfl

end Reader

end Gatehouse
