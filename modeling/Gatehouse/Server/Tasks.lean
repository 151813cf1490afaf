import Gatehouse.Server.Basic

/-!
# Running game tasks

One task at a time changes the game and tells its caller the result. The waiting list has a clock of
its own, the wall clock.
-/

namespace Gatehouse.Server

def reply (caller : Caller) (r : Reply) (s : Server) : Server :=
  { s with replies := s.replies ++ [(caller, r)] }

def replyTo? (caller? : Option Caller) (r : Reply) (s : Server) : Server :=
  match caller? with
  | some caller => s.reply caller r
  | none => s

def reply? (s : Server) (caller : Caller) : Option Reply :=
  s.replies.lookup caller

def takeReply (caller : Caller) (s : Server) : Server :=
  { s with replies := s.replies.filter (·.1 != caller) }

def conclude (now : Nat) (request : AttachRequest) (caller : Caller) (step : Game.AttachStep)
    (s : Server) : Server :=
  match step with
  | .done outcome => s.reply caller (.outcome outcome)
  | .offered offer =>
    let (accepted, s) := s.onOutlet offer.connection false fun o =>
      let (accepted, c) := o.connection.setSession offer.handle
      (accepted, { o with connection := c })
    if accepted then s.reply caller (.outcome (.attached offer.handle))
    else { s with game := s.game.withdraw offer }.reply caller (.outcome .abandoned)
  | .kicked old session =>
    let s := s.close old
    { s with
      tasks := s.tasks.schedule (now + s.config.reattachDelay) (.reattach session request caller) }

def runTask (now wall : Nat) (task : GameTask) (s : Server) : Server :=
  match task with
  | .attach request caller =>
    let (step, game) := s.game.attach s.config s.state s.isOpen wall request
    { s with game }.conclude now request caller step
  | .reattach session request caller =>
    let (step, game) := s.game.reattach s.isOpen session request
    { s with game }.conclude now request caller step
  | .detach session connection => { s with game := s.game.detach session connection }
  | .logout session character => { s with game := s.game.logout session character }
  | .setDead session dead caller? =>
    let found := s.game.sessions.contains session
    let game := { s.game with sessions := s.game.sessions.setDead session dead }
    { s with game }.replyTo? caller? (.found found)
  | .removeSession session caller? =>
    let found := s.game.sessions.contains session
    let game := { s.game with sessions := (s.game.sessions.remove session).2 }
    { s with game }.replyTo? caller? (.found found)

def runNext (now wall : Nat) (s : Server) : Server :=
  match s.tasks.take? with
  | none => s
  | some (task, tasks) => { s with tasks }.runTask now wall task

/-- Posts a delayed task that is due. Its caller is told if the game has stopped. -/
def releaseNext (now : Nat) (s : Server) : Server :=
  match s.tasks.takeDue? now with
  | none => s
  | some (task, tasks) =>
    let (posted, s) := { s with tasks }.post task
    if posted then s else s.replyTo? task.caller? .stopped

/-- Stops the game: waiting tasks are dropped, and all sessions with them. -/
def stopGame (s : Server) : Server :=
  let callers := s.tasks.ready.filterMap GameTask.caller?
  let s := { s with
    tasks := s.tasks.stop
    game := { s.game with sessions := s.game.sessions.clear } }
  callers.foldl (fun s caller => s.reply caller .stopped) s

end Gatehouse.Server
