import Gatehouse.Proofs.ReaderSteps
import Gatehouse.Proofs.Reading

/-!
# Stages of a handshake

How far the reader of a connection has come, with what the books say of the connection and what has
been counted. Whatever happens between two steps of the reader leaves it at its stage.
-/

namespace Gatehouse

open Applicant (firstFailure)
open Login Wire

namespace Applicant

/-- Whether what the gates saw belongs to this connection: the challenge is the one it was issued,
and the frame is the first one behind the greeting. -/
structure Genuine (a : Applicant) (g : Guest) (heard : Octets) : Prop where
  issued? : a.issued? = some g.challenge
  ip : a.ip = g.peer.ip
  frame : ∃ header body, header.length = headerLength ∧ header ++ body <+: heard ∧
    a.frame.Offers body

theorem Genuine.mono {a : Applicant} {g : Guest} {heard more : Octets} (h : a.Genuine g heard)
    (hMore : heard <+: more) : a.Genuine g more := by
  obtain ⟨header, body, hHeader, hPrefix, hFrame⟩ := h.frame
  exact ⟨h.issued?, h.ip, header, body, hHeader, hPrefix.trans hMore, hFrame⟩

theorem gate_ne_stalled {c : Prop} [Decidable c] {halt : Halt} (hOther : halt ≠ .stalled) :
    gate c halt ≠ some .stalled := by
  rw [gate]
  split <;> simp [hOther]

theorem ne_stalled_of_firstFailure {a : Applicant} {halt : Halt}
    (hStopped : firstFailure a.gates = some halt) : halt ≠ .stalled := by
  obtain ⟨halt?, hGate, rfl⟩ := List.exists_of_findSome?_eq_some hStopped
  have hViolation : ∀ v, Halt.violation v ≠ .stalled := fun v hSame => by cases hSame
  have hRejected : ∀ r, Halt.rejected r ≠ .stalled := fun r hSame => by cases hSame
  have hAll : ∀ halt? ∈ a.gates, halt? ≠ some .stalled := by
    simp only [gates, outerGates, requestGates, credentialGates, doorGates, accountGates,
      List.cons_append, List.nil_append, List.forall_mem_cons]
    refine ⟨gate_ne_stalled (hViolation _), gate_ne_stalled (hViolation _),
      gate_ne_stalled (hViolation _), ?_, gate_ne_stalled (hViolation _),
      gate_ne_stalled (hRejected _), gate_ne_stalled (hRejected _),
      gate_ne_stalled (hViolation _), by simp, by simp, gate_ne_stalled (hRejected _), ?_, by simp⟩
    · cases a.block <;> simp
    · cases a.record? with
      | none => simp
      | some record => exact gate_ne_stalled (hRejected _)
  rintro rfl
  exact hAll _ hGate rfl

theorem firstFailure_gates {a : Applicant} {halt : Halt}
    (hStopped : firstFailure a.requestGates = some halt) : firstFailure a.gates = some halt := by
  rw [gates, outerGates, firstFailure_append, firstFailure_append, firstFailure_append, hStopped]
  rfl

def granted? (a : Applicant) (id : ConnectionId) : Option AttachRequest :=
  if firstFailure a.gates = none then a.record?.map (a.grant id) else none

end Applicant

namespace Server.Books

open Outlet (batch)

variable {s : Server} {c : Connection} {sent : List Octets} {batches : List (List Octets)}
  {gathered : List Octets}

theorem finish (h : s.Books c sent batches gathered) (now : Nat) {halt : Halt}
    (hHalt : halt ≠ .stalled) :
    ∃ d batches', (Reader.finish c.id now halt s).2.Books d sent batches' [] ∧ d.id = c.id ∧
      (Reader.finish c.id now halt s).1 = .ended ∧
      (∀ v, halt = .violation v → batches' = batches ++ batch gathered) ∧
      ∀ r, halt = .rejected r → c.disconnected = false →
        (ServerMessage.loginError r.message).encode.length ≤ maxPayload →
        batches'.flatten =
          batches.flatten ++ gathered ++ [(ServerMessage.loginError r.message).encode] := by
  cases halt with
  | stalled => exact absurd rfl hHalt
  | transport | abort =>
    obtain ⟨d, hBooks, hId, -⟩ := h.abort
    exact ⟨d, _, hBooks, hId, rfl, nofun, nofun⟩
  | violation v =>
    obtain ⟨d, hBooks, hId, -⟩ := h.abort
    exact ⟨d, _, hBooks, hId, rfl, fun _ _ => rfl, nofun⟩
  | closed =>
    obtain ⟨d, hBooks, hId, -⟩ := h.close
    exact ⟨d, _, hBooks, hId, rfl, nofun, nofun⟩
  | rejected r =>
    obtain ⟨d, batches', hBooks, hId, -, hLast⟩ := h.closeWith r.message
    refine ⟨d, batches', hBooks, hId, rfl, nofun, ?_⟩
    rintro _ ⟨⟩
    exact hLast

theorem greeted (h : s.Books c sent [] []) {g : Guest} (hId : c.id = g.id)
    (hOpen : c.disconnected = false) :
    ∃ d, (g.greeted s).Books d sent [[g.challengeMessage]] [] ∧
      Connection.Keeps { c with challenge? := some g.challenge } d := by
  have hIssued := h.modify (f := fun c => { c with challenge? := some g.challenge })
    (fun _ => rfl) rfl ⟨rfl, rfl, rfl⟩ (Or.inl rfl) rfl
  obtain ⟨d, hTold, hKeeps⟩ := hIssued.enqueue_room g.challengeMessage hOpen
    (List.cons_ne_nil _ _) (by change 6 ≤ maxPayload; decide)
  obtain ⟨e, hFlushed, hSame⟩ := hTold.flush (hKeeps.disconnected.trans hOpen)
  rw [hKeeps.id] at hFlushed
  dsimp only at hFlushed
  rw [hId] at hFlushed
  exact ⟨e, hFlushed, hKeeps.trans hSame⟩

/-- Only whoever has to wait is told more than the reason. -/
theorem turnedAway (h : s.Books c sent batches gathered) (r : Reply) :
    ∃ d batches' gathered', (Reader.turnedAway c.id r s).Books d sent batches' gathered' ∧
      d.id = c.id ∧
      ∀ reason, r = .outcome (.rejected reason) →
        d = c ∧ batches' = batches ∧ gathered' = gathered := by
  cases r with
  | found | stopped => exact ⟨c, _, _, h, rfl, nofun⟩
  | outcome o =>
    cases o with
    | attached | rejected | abandoned => exact ⟨c, _, _, h, rfl, fun _ _ => ⟨rfl, rfl, rfl⟩⟩
    | waiting slot retrySeconds =>
      let message := (ServerMessage.waitingPlace slot (UInt8.ofNat retrySeconds)).encode
      have hTold : ∃ d batches' gathered',
          (s.enqueue c.id message).2.Books d sent batches' gathered' ∧ d.id = c.id := by
        by_cases hRefused : maxPayload < message.length ∨ c.disconnected = true
        · exact ⟨c, _, _, h.enqueue_refused _ hRefused, rfl⟩
        · rw [not_or, Nat.not_lt, Bool.not_eq_true] at hRefused
          obtain ⟨d, _, _, hNext, hKeeps, -⟩ :=
            h.enqueue message hRefused.2 (List.cons_ne_nil _ _) hRefused.1
          exact ⟨d, _, _, hNext, hKeeps.id⟩
      obtain ⟨d, _, _, hNext, hSame⟩ := hTold
      obtain ⟨e, hLast, hId, -⟩ := hNext.close
      rw [hSame] at hLast hId
      exact ⟨e, _, _, hLast, hId, nofun⟩

/-- A connection that is open takes the session that it is offered, and is told so. -/
theorem conclude_offered (h : s.Books c sent batches gathered) (now : Nat)
    (request : AttachRequest) (caller : Caller) {offer : Game.Offer}
    (hOffer : offer.connection = c.id) :
    ∃ d r, (s.conclude now request caller (.offered offer)).Books d sent batches gathered ∧
      d.id = c.id ∧
      (s.conclude now request caller (.offered offer)).replies = s.replies ++ [(caller, r)] ∧
      (c.disconnected = false → r = .outcome (.attached offer.handle)) := by
  have hReplies := s.replies_onOutlet offer.connection false (takeOffer offer)
  have hResult : (s.onOutlet offer.connection false (takeOffer offer)).1 =
      (takeOffer offer ⟨c, s.pool⟩).1 := by
    rw [hOffer, onOutlet_eq _ h.connection]
  have hHere := connection?_onOutlet (f := takeOffer offer) false h.connection
    (takeOffer_spec offer ⟨c, s.pool⟩).1
  have hPool := pool_onOutlet (f := takeOffer offer) false h.connection
  rw [← hOffer] at hHere hPool
  cases hClosed : c.disconnected with
  | true =>
    have hRefused : takeOffer offer ⟨c, s.pool⟩ = (false, ⟨c, s.pool⟩) := by
      rw [takeOffer, Connection.setSession, if_pos hClosed]
    rw [hRefused] at hResult hHere hPool
    have hNot : ¬ (s.onOutlet offer.connection false (takeOffer offer)).1 = true := by simp [hResult]
    have hConcluded : s.conclude now request caller (.offered offer) = reply caller
        (.outcome .abandoned) { (s.onOutlet offer.connection false (takeOffer offer)).2 with
          game := (s.onOutlet offer.connection false (takeOffer offer)).2.game.withdraw offer } :=
      if_neg hNot
    rw [hConcluded]
    refine ⟨c, _, h.congr (hOffer ▸ hHere) (hPool.symm ▸ h.sound.pool) rfl ⟨rfl, rfl, rfl⟩
      (Or.inl rfl) h.gathered_eq_nil, rfl, congrArg (· ++ _) hReplies,
      fun hOpen => by cases hOpen⟩
  | false =>
    have hTaken : takeOffer offer ⟨c, s.pool⟩ =
        (true, ⟨{ c with session? := some offer.handle }, s.pool⟩) := by
      rw [takeOffer, Connection.setSession, if_neg (by simp [hClosed])]
    rw [hTaken] at hResult hHere hPool
    have hConcluded : s.conclude now request caller (.offered offer) =
        (s.onOutlet offer.connection false (takeOffer offer)).2.reply caller
          (.outcome (.attached offer.handle)) :=
      if_pos hResult
    rw [hConcluded]
    refine ⟨{ c with session? := some offer.handle }, _, h.congr (hOffer ▸ hHere)
      (hPool.symm ▸ h.sound.pool) rfl ⟨rfl, rfl, rfl⟩ (Or.inl rfl) h.gathered_eq_nil, rfl,
      congrArg (· ++ _) hReplies, fun _ => rfl⟩

end Server.Books

namespace Visit

variable {g : Guest} {past : List Happening} {v : Visit} {now : Nat}
  {step : Talking ReaderPhase}

/-! ## What holds during a visit -/

/-- What has been looked up and asked for is what the gates call for, and they have been gone through
at most once. -/
structure Fair (g : Guest) (v : Visit) : Prop where
  once : v.judged.length ≤ 1
  genuine : ∀ a ∈ v.judged, a.Genuine g v.heard
  lookups : v.lookups = v.judged.countP fun a => decide (firstFailure a.outerGates = none)
  requests : v.requests.Sublist (v.judged.flatMap fun a => (a.granted? g.id).toList)
  refused : ∀ a ∈ v.judged, ∀ halt, firstFailure a.gates = some halt → v.refusal? = some halt

structure Unjudged (g : Guest) (v : Visit) : Prop where
  judged : v.judged = []
  refusal? : v.refusal? = none
  reply : v.server.reply? (.connection g.id) = none

/-- A connection of which only the reader knows. -/
structure Fresh (g : Guest) (challenge? : Option Challenge) (c : Connection) : Prop where
  peer : c.peer = g.peer
  key? : c.key? = none
  session? : c.session? = none
  challenge? : c.challenge? = challenge?

structure Filled (v : Visit) (part : Part) (start stop : Nat) : Prop where
  store : v.reader.frame.store.length = FrameReader.capacity
  position : v.reader.frame.position = headerLength
  count : v.heard.length = start
  heard : v.reader.frame.store.take start = v.heard
  bound : match part with
    | .header => stop = headerLength
    | .body => headerLength ≤ start ∧ stop = v.reader.frame.length ∧ stop ≤ FrameReader.capacity

/-- Before the answer is taken the connection has no session, unless the answer is that it has one,
and only the transport can have closed it. -/
def Waits (g : Guest) (past : List Happening) (s : Server) (c : Connection) : Prop :=
  c.disconnected = false ∧ c.session? = none ∨ .broken ∈ past ∨
    ∃ handle, s.reply? (.connection g.id) = some (.outcome (.attached handle))

/-- What has been queued when the handshake has failed. -/
def Outcome (g : Guest) (past : List Happening) (judged : List Applicant)
    (batches : List (List Octets)) : Halt → Prop
  | .violation _ => batches = [] ∨ batches = [[g.challengeMessage]] ∨
      ∃ a ∈ judged, batches = [[g.challengeMessage]] ++ Outlet.batch a.announcement
  | .rejected r => ∃ a ∈ judged, .broken ∉ past →
      (ServerMessage.loginError r.message).encode.length ≤ maxPayload →
      batches.flatten = g.challengeMessage :: a.announcement ++
        [(ServerMessage.loginError r.message).encode]
  | .transport | .abort | .closed | .stalled => True

/-- How far the handshake has come, with what the books say of the connection. -/
inductive Stage (g : Guest) (past : List Happening) (v : Visit) : Prop where
  | greeting (c : Connection) (hPhase : v.reader.phase = .greeting) (hUnjudged : v.Unjudged g)
    (hBooks : v.server.Books c v.sent [] []) (hId : c.id = g.id)
    (hFresh : c.disconnected = false → Fresh g none c)
    (hStore : v.reader.frame.store.length = FrameReader.capacity)
  | filling (part : Part) (start stop : Nat) (deadline? : Option Nat) (c : Connection)
    (hPhase : v.reader.phase = .filling .login part start stop deadline?)
    (hUnjudged : v.Unjudged g)
    (hBooks : v.server.Books c v.sent [[g.challengeMessage]] []) (hId : c.id = g.id)
    (hFresh : c.disconnected = false → Fresh g (some g.challenge) c)
    (hFilled : v.Filled part start stop)
  | attaching (a : Applicant) (c : Connection) (batches : List (List Octets))
    (gathered : List Octets) (hPhase : v.reader.phase = .attaching) (hJudged : v.judged = [a])
    (hRefusal : v.refusal? = none) (hBooks : v.server.Books c v.sent batches gathered)
    (hId : c.id = g.id)
    (hMessages : batches.flatten ++ gathered = g.challengeMessage :: a.announcement)
    (hAnswers : (∀ e ∈ past, ¬ e.Answers) → v.server.reply? (.connection g.id) = none)
    (hWaits : Waits g past v.server c)
  | served (hServed : v.Served)
  | failed (halt : Halt) (c : Connection) (batches : List (List Octets))
    (hPhase : v.reader.phase = .ended) (hRefusal : v.refusal? = some halt)
    (hBooks : v.server.Books c v.sent batches []) (hId : c.id = g.id)
    (hOutcome : Outcome g past v.judged batches halt)

/-! ## Steps of the reader -/

theorem proceed_of_error (hPhase : v.reader.phase.isHandshake = true) {halt : Halt} {t : Talk}
    (hStep : step ⟨v.server, v.reader.frame⟩ = (.error halt, t)) {more : List GameTask}
    (hReady : t.server.tasks.ready = v.server.tasks.ready ++ more) :
    v.proceed g now step =
      { v with
        server := (Reader.finish g.id now halt t.server).2
        reader := ⟨(Reader.finish g.id now halt t.server).1, t.frame⟩
        lookups := v.lookups + (t.server.store.sessionLookups - v.server.store.sessionLookups)
        requests := v.requests ++ more.filterMap GameTask.request?
        refusal? := some halt } := by
  obtain ⟨rest, hRest, hNone⟩ := (t.server.quiet_finish g.id now halt).ready
  have hHalt : haltOf step ⟨v.server, v.reader.frame⟩ = some halt := by rw [haltOf, hStep]
  rw [proceed, Reader.run_of_error hStep]
  simp only [hPhase, if_true, hHalt, hRest, hReady, (t.server.quiet_finish g.id now halt).store]
  rw [List.append_assoc, List.drop_left, List.filterMap_append, hNone, List.append_nil]

theorem proceed_of_ok (hPhase : v.reader.phase.isHandshake = true) {phase : ReaderPhase}
    {t : Talk} (hStep : step ⟨v.server, v.reader.frame⟩ = (.ok phase, t)) {more : List GameTask}
    (hReady : t.server.tasks.ready = v.server.tasks.ready ++ more) :
    v.proceed g now step =
      { v with
        server := t.server
        reader := ⟨phase, t.frame⟩
        lookups := v.lookups + (t.server.store.sessionLookups - v.server.store.sessionLookups)
        requests := v.requests ++ more.filterMap GameTask.request?
        refusal? := none } := by
  have hHalt : haltOf step ⟨v.server, v.reader.frame⟩ = none := by rw [haltOf, hStep]
  rw [proceed, Reader.run_of_ok hStep]
  simp only [hPhase, if_true, hHalt, hReady]
  rw [List.drop_left]

theorem proceed_of_quiet_error (hPhase : v.reader.phase.isHandshake = true) {halt : Halt}
    {t : Talk} (hStep : step ⟨v.server, v.reader.frame⟩ = (.error halt, t))
    (hQuiet : v.server.Quiet t.server) :
    v.proceed g now step =
      { v with
        server := (Reader.finish g.id now halt t.server).2
        reader := ⟨(Reader.finish g.id now halt t.server).1, t.frame⟩
        refusal? := some halt } := by
  obtain ⟨more, hReady, hNone⟩ := hQuiet.ready
  rw [proceed_of_error hPhase hStep hReady, hQuiet.store, hNone, Nat.sub_self, List.append_nil,
    Nat.add_zero]

theorem proceed_of_quiet_ok (hPhase : v.reader.phase.isHandshake = true) {phase : ReaderPhase}
    {t : Talk} (hStep : step ⟨v.server, v.reader.frame⟩ = (.ok phase, t))
    (hQuiet : v.server.Quiet t.server) :
    v.proceed g now step =
      { v with server := t.server, reader := ⟨phase, t.frame⟩, refusal? := none } := by
  obtain ⟨more, hReady, hNone⟩ := hQuiet.ready
  rw [proceed_of_ok hPhase hStep hReady, hQuiet.store, hNone, Nat.sub_self, List.append_nil,
    Nat.add_zero]

/-- Behind the handshake only the reader and the server still change. -/
theorem proceed_of_settles (g : Guest) (now : Nat) (hPhase : v.reader.phase.isHandshake = false)
    (hStep : step.Settles) :
    ∃ reader server, v.proceed g now step = { v with server, reader } ∧
      reader.phase.isHandshake = false := by
  obtain ⟨hStore, hStays⟩ := Reader.run_of_settles g.id now v.reader v.server hStep
  refine ⟨_, (v.reader.run g.id now step v.server).2, ?_, hStays⟩
  rw [proceed]
  dsimp only
  rw [if_neg (by simp [hPhase]), hStore, Nat.sub_self, Nat.add_zero]

/-! ## What is counted -/

theorem Fair.congr (h : Fair g v) {w : Visit} (hJudged : w.judged = v.judged)
    (hHeard : v.heard <+: w.heard ∨ v.judged = []) (hLookups : w.lookups = v.lookups)
    (hRequests : w.requests = v.requests)
    (hRefusal : v.refusal? = none ∨ w.refusal? = v.refusal?) : Fair g w where
  once := hJudged ▸ h.once
  genuine a ha := by
    rw [hJudged] at ha
    rcases hHeard with hHeard | hNone
    · exact (h.genuine a ha).mono hHeard
    · rw [hNone] at ha
      cases ha
  lookups := by rw [hLookups, hJudged, h.lookups]
  requests := by
    rw [hRequests, hJudged]
    exact h.requests
  refused a ha halt hStopped := by
    have hBefore := h.refused a (hJudged ▸ ha) halt hStopped
    rcases hRefusal with hNone | hSame
    · cases hNone.symm.trans hBefore
    · exact hSame.trans hBefore

theorem Fair.nothing (h : Fair g v) (hJudged : v.judged = []) :
    v.lookups = 0 ∧ v.requests = [] := by
  refine ⟨by rw [h.lookups, hJudged, List.countP_nil], ?_⟩
  have hNone := h.requests
  rwa [hJudged, List.flatMap_nil, List.sublist_nil] at hNone

theorem Fair.of_judged {w : Visit} {a : Applicant} (hJudged : w.judged = [a])
    (hGenuine : a.Genuine g w.heard)
    (hLookups : w.lookups = if firstFailure a.outerGates = none then 1 else 0)
    (hRequests : w.requests.Sublist (a.granted? g.id).toList)
    (hRefused : ∀ halt, firstFailure a.gates = some halt → w.refusal? = some halt) : Fair g w where
  once := by rw [hJudged, List.length_singleton]
  genuine b hb := by
    rw [hJudged, List.mem_singleton] at hb
    exact hb ▸ hGenuine
  lookups := by
    rw [hLookups, hJudged, List.countP_singleton]
    simp
  requests := by
    rw [hJudged, List.flatMap_singleton]
    exact hRequests
  refused b hb := by
    rw [hJudged, List.mem_singleton] at hb
    exact hb ▸ hRefused

/-! ## The connection between the steps of its reader -/

theorem Fresh.keeps {challenge? : Option Challenge} {c d : Connection}
    (h : Fresh g challenge? c) (hKeeps : c.Keeps d) : Fresh g challenge? d :=
  ⟨hKeeps.peer.trans h.peer, hKeeps.key?.trans h.key?, hKeeps.session?.trans h.session?,
    hKeeps.challenge?.trans h.challenge?⟩

theorem Outcome.cons {judged : List Applicant} {batches : List (List Octets)} {halt : Halt}
    (h : Outcome g past judged batches halt) (e : Happening) :
    Outcome g (e :: past) judged batches halt := by
  cases halt with
  | rejected r =>
    obtain ⟨a, ha, hLast⟩ := h
    exact ⟨a, ha, fun hUnbroken => hLast fun hBroken => hUnbroken (.tail e hBroken)⟩
  | violation | transport | abort | closed | stalled => exact h

theorem Stage.spared (h : Stage g past v) (e : Happening) {t : Server} {sent : List Octets}
    (hBooks : ∀ c batches gathered, c.id = g.id → v.server.Books c v.sent batches gathered →
      ∃ d, t.Books d sent batches gathered ∧ c.Keeps d)
    (hReply : t.reply? (.connection g.id) = v.server.reply? (.connection g.id)) :
    Stage g (e :: past) { v with server := t, sent := sent } := by
  cases h with
  | greeting c hPhase hUnjudged hHere hId hFresh hStore =>
    obtain ⟨d, hNext, hKeeps⟩ := hBooks c [] [] hId hHere
    refine .greeting d hPhase ⟨hUnjudged.judged, hUnjudged.refusal?, hReply.trans hUnjudged.reply⟩
      hNext (hKeeps.id.trans hId) (fun hOpen => ?_) hStore
    exact (hFresh (hKeeps.disconnected.symm.trans hOpen)).keeps hKeeps
  | filling part start stop deadline? c hPhase hUnjudged hHere hId hFresh hFilled =>
    obtain ⟨d, hNext, hKeeps⟩ := hBooks c _ [] hId hHere
    refine .filling part start stop deadline? d hPhase
      ⟨hUnjudged.judged, hUnjudged.refusal?, hReply.trans hUnjudged.reply⟩ hNext
      (hKeeps.id.trans hId) (fun hOpen => ?_)
      ⟨hFilled.store, hFilled.position, hFilled.count, hFilled.heard, hFilled.bound⟩
    exact (hFresh (hKeeps.disconnected.symm.trans hOpen)).keeps hKeeps
  | attaching a c batches gathered hPhase hJudged hRefusal hHere hId hMessages hAnswers hWaits =>
    obtain ⟨d, hNext, hKeeps⟩ := hBooks c batches gathered hId hHere
    refine .attaching a d batches gathered hPhase hJudged hRefusal hNext (hKeeps.id.trans hId)
      hMessages (fun hNone => ?_) ?_
    · exact hReply.trans (hAnswers fun other hOther => hNone other (.tail e hOther))
    · rcases hWaits with ⟨hOpen, hSession⟩ | hBroken | ⟨handle, hAttached⟩
      · exact Or.inl ⟨hKeeps.disconnected.trans hOpen, hKeeps.session?.trans hSession⟩
      · exact Or.inr (Or.inl (.tail e hBroken))
      · exact Or.inr (Or.inr ⟨handle, hReply.trans hAttached⟩)
  | served hServed => exact .served hServed
  | failed halt c batches hPhase hRefusal hHere hId hOutcome =>
    obtain ⟨d, hNext, hKeeps⟩ := hBooks c batches [] hId hHere
    exact .failed halt d batches hPhase hRefusal hNext (hKeeps.id.trans hId) (hOutcome.cons e)

/-- The connection has been closed, by its transport or because it has lost its session. -/
theorem Stage.closed (h : Stage g past v) {e : Happening} {t : Server}
    (hWhy : e = .broken ∨ v.server.held? g.id ≠ none)
    (hBooks : ∀ c batches gathered, c.id = g.id → v.server.Books c v.sent batches gathered →
      ∃ d, t.Books d v.sent (batches ++ Outlet.batch gathered) [] ∧ d.id = c.id ∧
        d.disconnected = true)
    (hReply : t.reply? (.connection g.id) = v.server.reply? (.connection g.id)) :
    Stage g (e :: past) { v with server := t } := by
  cases h with
  | greeting c hPhase hUnjudged hHere hId hFresh hStore =>
    obtain ⟨d, hNext, hSame, hClosed⟩ := hBooks c [] [] hId hHere
    refine .greeting d hPhase ⟨hUnjudged.judged, hUnjudged.refusal?, hReply.trans hUnjudged.reply⟩
      hNext (hSame.trans hId) (fun hOpen => ?_) hStore
    cases hClosed.symm.trans hOpen
  | filling part start stop deadline? c hPhase hUnjudged hHere hId hFresh hFilled =>
    obtain ⟨d, hNext, hSame, hClosed⟩ := hBooks c _ [] hId hHere
    refine .filling part start stop deadline? d hPhase
      ⟨hUnjudged.judged, hUnjudged.refusal?, hReply.trans hUnjudged.reply⟩ hNext
      (hSame.trans hId) (fun hOpen => ?_)
      ⟨hFilled.store, hFilled.position, hFilled.count, hFilled.heard, hFilled.bound⟩
    cases hClosed.symm.trans hOpen
  | attaching a c batches gathered hPhase hJudged hRefusal hHere hId hMessages hAnswers hWaits =>
    obtain ⟨d, hNext, hSame, hClosed⟩ := hBooks c batches gathered hId hHere
    refine .attaching a d _ [] hPhase hJudged hRefusal hNext (hSame.trans hId) ?_
      (fun hNone => ?_) ?_
    · rw [List.flatten_append, Outlet.flatten_batch, List.append_nil, hMessages]
    · exact hReply.trans (hAnswers fun other hOther => hNone other (.tail e hOther))
    · rcases hWaits with ⟨hOpen, hSession⟩ | hBroken | ⟨handle, hAttached⟩
      · rcases hWhy with rfl | hHeld
        · exact Or.inr (Or.inl (.head past))
        · -- a connection that is open and has no session holds none
          obtain ⟨handle, hHeld⟩ := Option.ne_none_iff_exists'.mp hHeld
          have hSeat := Server.held?_eq_some_iff.mp hHeld
          rw [← hId, Server.seat?, hHere.connection, Option.map_some, Connection.seat,
            if_neg (by simp [hOpen]), hSession] at hSeat
          cases hSeat
      · exact Or.inr (Or.inl (.tail e hBroken))
      · exact Or.inr (Or.inr ⟨handle, hReply.trans hAttached⟩)
  | served hServed => exact .served hServed
  | failed halt c batches hPhase hRefusal hHere hId hOutcome =>
    obtain ⟨d, hNext, hSame, -⟩ := hBooks c batches [] hId hHere
    rw [Outlet.batch, if_pos rfl, List.append_nil] at hNext
    exact .failed halt d batches hPhase hRefusal hNext (hSame.trans hId) (hOutcome.cons e)

theorem Stage.told (h : Stage g past v) (hJudged : v.judged ≠ []) {e : Happening}
    (hAnswer : e.Answers) (hFirst : ∀ e ∈ past, ¬ e.Answers) {t : Server}
    (hBooks : ∀ c batches gathered, c.id = g.id → v.server.Books c v.sent batches gathered →
      ∃ d r, t.Books d v.sent batches gathered ∧ d.id = c.id ∧
        t.replies = v.server.replies ++ [(.connection g.id, r)] ∧
        (c.disconnected = false →
          d.disconnected = false ∧ d.session? = c.session? ∨
            ∃ handle, r = .outcome (.attached handle))) :
    Stage g (e :: past) { v with server := t } := by
  cases h with
  | greeting c hPhase hUnjudged => exact absurd hUnjudged.judged hJudged
  | filling part start stop deadline? c hPhase hUnjudged =>
    exact absurd hUnjudged.judged hJudged
  | attaching a c batches gathered hPhase hOne hRefusal hHere hId hMessages hAnswers hWaits =>
    obtain ⟨d, r, hNext, hSame, hReplies, hOpens⟩ := hBooks c batches gathered hId hHere
    have hNow : t.reply? (.connection g.id) = some r := by
      have hNone := hAnswers hFirst
      rw [Server.reply?] at hNone
      rw [Server.reply?, hReplies, List.lookup_append, hNone, Option.none_or]
      simp
    refine .attaching a d batches gathered hPhase hOne hRefusal hNext (hSame.trans hId)
      hMessages (fun hNone => absurd hAnswer (hNone e (.head past))) ?_
    rcases hWaits with ⟨hOpen, hSession⟩ | hBroken | ⟨handle, hAttached⟩
    · rcases hOpens hOpen with ⟨hStill, hKept⟩ | ⟨handle, hHandle⟩
      · exact Or.inl ⟨hStill, hKept.trans hSession⟩
      · exact Or.inr (Or.inr ⟨handle, hHandle ▸ hNow⟩)
    · exact Or.inr (Or.inl (.tail e hBroken))
    · cases (hAnswers hFirst).symm.trans hAttached
  | served hServed => exact .served hServed
  | failed halt c batches hPhase hRefusal hHere hId hOutcome =>
    obtain ⟨d, -, hNext, hSame, -⟩ := hBooks c batches [] hId hHere
    exact .failed halt d batches hPhase hRefusal hNext (hSame.trans hId) (hOutcome.cons e)

end Visit

end Gatehouse
