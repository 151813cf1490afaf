import Gatehouse.Client.LoginForm
import Gatehouse.Proofs.Stages

/-!
# Handshakes

However a client behaves and whatever else goes on, its account is looked up at most once and only
behind the gates up to the door, and a handshake that fails is answered with silence or with the
reason, as its first failure has it.
-/

namespace Gatehouse

open Applicant (firstFailure)
open Login Wire

namespace Visit

variable {g : Guest} {past : List Happening} {v : Visit}

/-! ## Bytes -/

structure Sound (g : Guest) (past : List Happening) (v : Visit) : Prop where
  fair : Fair g v
  stage : Stage g past v

/-- The reader has stopped, and has done to the connection what it does then. -/
theorem Stage.of_finish (now : Nat) {s : Server} {c : Connection} {batches : List (List Octets)}
    {gathered : List Octets} {halt : Halt} (hBooks : s.Books c v.sent batches gathered)
    (hId : c.id = g.id) (hRefusal : v.refusal? = some halt) (hHalt : halt ≠ .stalled)
    (hServer : v.server = (Reader.finish g.id now halt s).2)
    (hPhase : v.reader.phase = (Reader.finish g.id now halt s).1)
    (hOutcome : ∀ batches',
      (∀ x, halt = .violation x → batches' = batches ++ Outlet.batch gathered) →
      (∀ r, halt = .rejected r → c.disconnected = false →
        (ServerMessage.loginError r.message).encode.length ≤ maxPayload →
        batches'.flatten =
          batches.flatten ++ gathered ++ [(ServerMessage.loginError r.message).encode]) →
      Outcome g past v.judged batches' halt) : Stage g past v := by
  obtain ⟨d, batches', hNext, hSame, hEnded, hViolation, hRejected⟩ := hBooks.finish now hHalt
  rw [hId] at hNext hSame hEnded
  exact .failed halt d batches' (hPhase.trans hEnded) hRefusal (hServer ▸ hNext) hSame
    (hOutcome batches' hViolation hRejected)

/-- The reader has stopped during the handshake, and nothing has been counted in the meantime. -/
theorem Sound.stopped (now : Nat) {s : Server} {frame : FrameReader} {heard : Octets}
    {c : Connection} {batches : List (List Octets)} {gathered : List Octets} {halt : Halt}
    (hFair : Fair g v) (hRefusal : v.refusal? = none)
    (hHeard : v.heard <+: heard ∨ v.judged = []) (hBooks : s.Books c v.sent batches gathered)
    (hId : c.id = g.id) (hHalt : halt ≠ .stalled)
    (hOutcome : ∀ batches',
      (∀ x, halt = .violation x → batches' = batches ++ Outlet.batch gathered) →
      (∀ r, halt = .rejected r → c.disconnected = false →
        (ServerMessage.loginError r.message).encode.length ≤ maxPayload →
        batches'.flatten =
          batches.flatten ++ gathered ++ [(ServerMessage.loginError r.message).encode]) →
      Outcome g past v.judged batches' halt) :
    Sound g past
      { v with
        server := (Reader.finish g.id now halt s).2
        reader := ⟨(Reader.finish g.id now halt s).1, frame⟩
        heard
        refusal? := some halt } :=
  ⟨hFair.congr rfl hHeard rfl rfl (Or.inl hRefusal),
    .of_finish now hBooks hId rfl hHalt rfl rfl hOutcome⟩

theorem apply_bytes (now : Nat) (bs : Octets) (hPhase : v.reader.phase ≠ .greeting) :
    (Happening.bytes now bs).apply g v =
      { v.proceed g now (Reader.receive g.id now g.challenge v.reader.phase bs) with
        heard := v.heard ++ bs, judged := v.judged ++ v.seen g bs } := by
  rw [Happening.apply, if_neg hPhase]

theorem Sound.greet {c : Connection} (hFair : Fair g v) (hPhase : v.reader.phase = .greeting)
    (hUnjudged : v.Unjudged g) (hBooks : v.server.Books c v.sent [] []) (hId : c.id = g.id)
    (hFresh : c.disconnected = false → Fresh g none c)
    (hStore : v.reader.frame.store.length = FrameReader.capacity) (now : Nat) (bs : Octets) :
    Sound g past ((Happening.bytes now bs).apply g v) := by
  have hHandshake : v.reader.phase.isHandshake = true := by
    rw [hPhase]
    rfl
  have hApply : (Happening.bytes now bs).apply g v =
      { v.proceed g now (Reader.receive g.id now g.challenge .greeting bs) with
        heard := [], judged := v.judged } := by
    rw [Happening.apply, seen, hPhase, if_pos rfl, List.append_nil]
  have hStep : Reader.receive g.id now g.challenge .greeting bs ⟨v.server, v.reader.frame⟩ =
      (Handshake.greet g.id g.challenge bs.length >>= fun _ =>
        pure (Reader.fillHeader .login none)) ⟨v.server, v.reader.frame.writeBody bs⟩ := rfl
  obtain ⟨frame', hStore', hCases⟩ := g.greet_cases bs.length v.server
    (v.reader.frame.writeBody bs) (FrameReader.length_store_write hStore _ _)
  rw [hApply]
  rcases hCases with ⟨-, hResult⟩ | ⟨-, hResult⟩ | ⟨hOpen, hResult⟩
  · rw [proceed_of_quiet_error hHandshake (hStep.trans (bind_of_error hResult)) (.refl _)]
    exact .stopped (v := v) now hFair hUnjudged.refusal? (Or.inr hUnjudged.judged) hBooks hId
      (by simp) fun _ _ _ => trivial
  · rw [proceed_of_quiet_error hHandshake (hStep.trans (bind_of_error hResult)) (.refl _)]
    exact .stopped (v := v) now hFair hUnjudged.refusal? (Or.inr hUnjudged.judged) hBooks hId
      (by simp) fun _ hNothing _ => Or.inl (hNothing _ rfl)
  · obtain ⟨hQuiet, hReplies⟩ := g.quiet_greeted v.server
    have hStill : c.disconnected = false := by
      rw [← hId, hBooks.isOpen] at hOpen
      simpa using hOpen
    obtain ⟨d, hNext, hKeeps⟩ := hBooks.greeted hId hStill
    rw [proceed_of_quiet_ok hHandshake (hStep.trans (bind_of_ok hResult)) hQuiet]
    refine ⟨hFair.congr rfl (Or.inr hUnjudged.judged) rfl rfl (Or.inl hUnjudged.refusal?),
      .filling .header 0 headerLength none d rfl ⟨hUnjudged.judged, rfl, ?_⟩ hNext
        (hKeeps.id.trans hId) (fun _ => ?_) ⟨hStore', rfl, rfl, rfl, rfl⟩⟩
    · exact (congrArg (List.lookup _) hReplies).trans hUnjudged.reply
    · have hBefore := hFresh hStill
      exact ⟨hKeeps.peer.trans hBefore.peer, hKeeps.key?.trans hBefore.key?,
        hKeeps.session?.trans hBefore.session?, hKeeps.challenge?⟩

theorem Filled.bounds {part : Part} {start stop : Nat} (h : v.Filled part start stop) :
    stop ≤ FrameReader.capacity := by
  have hBound := h.bound
  cases part with
  | header => exact hBound ▸ by decide
  | body => exact hBound.2.2

theorem Sound.fill {part : Part} {start stop : Nat} {deadline? : Option Nat} {c : Connection}
    (hFair : Fair g v) (hPhase : v.reader.phase = .filling .login part start stop deadline?)
    (hUnjudged : v.Unjudged g)
    (hBooks : v.server.Books c v.sent [[g.challengeMessage]] []) (hId : c.id = g.id)
    (hFresh : c.disconnected = false → Fresh g (some g.challenge) c)
    (hFilled : v.Filled part start stop) (now : Nat) {bs : Octets}
    (hMore : start + bs.length < stop) :
    Sound g past ((Happening.bytes now bs).apply g v) := by
  have hHandshake : v.reader.phase.isHandshake = true := by
    rw [hPhase]
    rfl
  have hSeen : v.seen g bs = [] := by
    rw [seen, hPhase]
    cases part with
    | header => rfl
    | body => exact if_neg fun hWhole => absurd hMore (Nat.not_lt.mpr hWhole.1)
  have hStep := Reader.receive_filling g.id now g.challenge .login part start stop deadline? bs
    v.server v.reader.frame
  rw [if_pos hMore, ← hPhase] at hStep
  rw [apply_bytes now bs (by simp [hPhase]), hSeen, List.append_nil,
    proceed_of_quiet_ok hHandshake hStep (.refl _)]
  refine ⟨hFair.congr rfl (Or.inr hUnjudged.judged) rfl rfl (Or.inl hUnjudged.refusal?),
    .filling part (start + bs.length) stop deadline? c rfl
      ⟨hUnjudged.judged, rfl, hUnjudged.reply⟩ hBooks hId hFresh
      ⟨FrameReader.length_store_write hFilled.store _ _, hFilled.position, ?_, ?_, ?_⟩⟩
  · rw [List.length_append, hFilled.count]
  · rw [FrameReader.take_store_write hFilled.store (hMore.le.trans hFilled.bounds),
      hFilled.heard]
  · have hBound := hFilled.bound
    cases part with
    | header => exact hBound
    | body => exact ⟨hBound.1.trans (Nat.le_add_right ..), hBound.2⟩

theorem Sound.declare {start stop : Nat} {deadline? : Option Nat} {c : Connection}
    (hFair : Fair g v) (hPhase : v.reader.phase = .filling .login .header start stop deadline?)
    (hUnjudged : v.Unjudged g)
    (hBooks : v.server.Books c v.sent [[g.challengeMessage]] []) (hId : c.id = g.id)
    (hFresh : c.disconnected = false → Fresh g (some g.challenge) c)
    (hFilled : v.Filled .header start stop) (now : Nat) {bs : Octets}
    (hWhole : start + bs.length = stop) :
    Sound g past ((Happening.bytes now bs).apply g v) := by
  have hHandshake : v.reader.phase.isHandshake = true := by
    rw [hPhase]
    rfl
  have hSeen : v.seen g bs = [] := by rw [seen, hPhase]
  have hStop : stop = headerLength := hFilled.bound
  have hStore := FrameReader.length_store_write hFilled.store start bs
  have hStep := Reader.receive_filling g.id now g.challenge .login .header start stop deadline? bs
    v.server v.reader.frame
  rw [if_neg (by omega), ← hPhase] at hStep
  rw [apply_bytes now bs (by simp [hPhase]), hSeen, List.append_nil]
  rcases Reader.complete_header_cases g.id now v.server (v.reader.frame.write start bs) with
    ⟨-, hResult⟩ | ⟨-, n, hResult⟩ | ⟨-, n, -, -, hResult⟩
  · rw [proceed_of_quiet_error hHandshake (hStep.trans hResult) (.refl _)]
    exact .stopped (v := v) now hFair hUnjudged.refusal? (Or.inr hUnjudged.judged) hBooks hId
      (by simp) fun _ _ _ => trivial
  · rw [proceed_of_quiet_error hHandshake (hStep.trans hResult) (.refl _)]
    exact .stopped (v := v) now hFair hUnjudged.refusal? (Or.inr hUnjudged.judged) hBooks hId
      (by simp) fun _ hChallenge _ => Or.inr (Or.inl (hChallenge _ rfl))
  · rw [proceed_of_quiet_ok hHandshake (hStep.trans hResult) (.refl _)]
    refine ⟨hFair.congr rfl (Or.inr hUnjudged.judged) rfl rfl (Or.inl hUnjudged.refusal?),
      .filling .body headerLength _ _ c rfl ⟨hUnjudged.judged, rfl, hUnjudged.reply⟩ hBooks hId
        hFresh ⟨hStore, hFilled.position, ?_, ?_, le_rfl, rfl, min_le_right ..⟩⟩
    · rw [List.length_append, hFilled.count, hWhole, hStop]
    · have hHeard := FrameReader.take_store_write hFilled.store
        (hWhole.le.trans hFilled.bounds)
      rw [hWhole, hStop, hFilled.heard] at hHeard
      exact hHeard

/-! ## The gates -/

theorem Filled.genuine {start stop : Nat} {c : Connection} (hFilled : v.Filled .body start stop)
    (hBooks : v.server.Books c v.sent [[g.challengeMessage]] []) (hId : c.id = g.id)
    (hFresh : Fresh g (some g.challenge) c) {bs : Octets} (hWhole : start + bs.length = stop) :
    (v.server.applicant g.id g.peer.ip (v.reader.frame.write start bs)).Genuine g
      (v.heard ++ bs) := by
  obtain ⟨hStart, hStop, hCapacity⟩ := hFilled.bound
  have hHeard := FrameReader.take_store_write hFilled.store (hWhole.le.trans hFilled.bounds)
  rw [hFilled.heard] at hHeard
  have hLength : (v.heard ++ bs).length = stop := by
    rw [List.length_append, hFilled.count, hWhole]
  have hFront : ((v.heard ++ bs).take headerLength).length = headerLength := by
    rw [List.length_take, hLength]
    omega
  refine ⟨?_, rfl, (v.heard ++ bs).take headerLength, (v.heard ++ bs).drop headerLength, hFront,
    ?_, (v.heard ++ bs).take headerLength, (v.reader.frame.write start bs).store.drop stop, ?_,
    hFilled.position.trans hFront.symm, ?_, hStop ▸ hCapacity⟩
  · change (v.server.connection? g.id).bind (·.challenge?) = some g.challenge
    rw [← hId, hBooks.connection]
    exact hFresh.challenge?
  · exact (List.take_append_drop ..).symm ▸ List.prefix_rfl
  · change (v.reader.frame.write start bs).store = _
    rw [List.take_append_drop, ← hHeard, hWhole, List.take_append_drop]
  · change v.reader.frame.length = v.reader.frame.position + _
    rw [List.length_drop, hLength, hFilled.position, ← hStop]
    omega

/-- When the body is complete, it is judged as the gates see it. -/
theorem Filled.judging {start stop : Nat} {deadline? : Option Nat} {c : Connection}
    (hFilled : v.Filled .body start stop)
    (hPhase : v.reader.phase = .filling .login .body start stop deadline?)
    (hBooks : v.server.Books c v.sent [[g.challengeMessage]] []) (hId : c.id = g.id)
    (hOpen : c.disconnected = false) (hFresh : Fresh g (some g.challenge) c) {bs : Octets}
    (hWhole : start + bs.length = stop) :
    ∃ a, v.seen g bs = [a] ∧ a.Genuine g (v.heard ++ bs) ∧
      Handshake.Judging a g.id v.server
        (Handshake.judge g.id c.peer ⟨v.server, v.reader.frame.write start bs⟩).1
        (Handshake.judge g.id c.peer ⟨v.server, v.reader.frame.write start bs⟩).2.server := by
  have hJudging := Handshake.judge_cases c.peer hBooks hOpen hFresh.key?
    (v.reader.frame.write start bs)
  rw [hId, hFresh.peer] at hJudging
  rw [hFresh.peer]
  refine ⟨_, ?_, hFilled.genuine hBooks hId hFresh hWhole, hJudging⟩
  rw [seen, hPhase]
  exact if_pos ⟨hWhole.ge, by simp [← hId, hBooks.isOpen, hOpen]⟩

/-- An applicant whom no gate stops asks the game for what it is entitled to. -/
theorem granted?_of_judging {a : Applicant} {id : ConnectionId} {s t : Server}
    {request : AttachRequest} (hJudging : Handshake.Judging a id s (.ok request) t) :
    firstFailure a.gates = none ∧ a.granted? id = some request := by
  have hPassed : firstFailure a.gates = none := by
    refine Option.eq_none_iff_forall_ne_some.mpr fun halt hStopped => ?_
    cases (hJudging.eq_error_iff halt).mpr hStopped
  refine ⟨hPassed, ?_⟩
  cases hJudging with
  | passed record hOuter hAccount hRecord =>
    rw [Applicant.granted?, if_pos hPassed, hRecord, Option.map_some]

theorem Outcome.of_gates {a : Applicant} {halt : Halt}
    (hStopped : firstFailure a.gates = some halt) {gathered : List Octets}
    (hGathered : gathered = a.announcement ∨
      gathered = [] ∧ ∃ x, firstFailure a.requestGates = some (.violation x))
    {batches : List (List Octets)}
    (hViolation : ∀ x, halt = .violation x →
      batches = [[g.challengeMessage]] ++ Outlet.batch gathered)
    (hRejected : ∀ r, halt = .rejected r →
      (ServerMessage.loginError r.message).encode.length ≤ maxPayload →
      batches.flatten = [[g.challengeMessage]].flatten ++ gathered ++
        [(ServerMessage.loginError r.message).encode]) :
    Outcome g past [a] batches halt := by
  cases halt with
  | transport | abort | closed | stalled => exact trivial
  | violation x =>
    rcases hGathered with rfl | ⟨rfl, -⟩
    · exact Or.inr (Or.inr ⟨a, .head _, hViolation x rfl⟩)
    · exact Or.inr (Or.inl (hViolation x rfl))
  | rejected r =>
    refine ⟨a, .head _, fun _ hLength => ?_⟩
    rcases hGathered with rfl | ⟨-, x, hFirst⟩
    · exact hRejected r rfl hLength
    · cases (Applicant.firstFailure_gates hFirst).symm.trans hStopped

theorem Sound.judge_closed {start stop : Nat} {deadline? : Option Nat} {c : Connection}
    (hFair : Fair g v) (hPhase : v.reader.phase = .filling .login .body start stop deadline?)
    (hUnjudged : v.Unjudged g)
    (hBooks : v.server.Books c v.sent [[g.challengeMessage]] []) (hId : c.id = g.id)
    (hClosed : c.disconnected = true) (now : Nat) {bs : Octets}
    (hWhole : start + bs.length = stop) :
    Sound g past ((Happening.bytes now bs).apply g v) := by
  have hHandshake : v.reader.phase.isHandshake = true := by
    rw [hPhase]
    rfl
  have hNot : v.server.isOpen g.id = false := by simp [← hId, hBooks.isOpen, hClosed]
  have hSeen : v.seen g bs = [] := by
    rw [seen, hPhase]
    exact if_neg fun hSees => by simp [hNot] at hSees
  have hStep := Reader.receive_filling g.id now g.challenge .login .body start stop deadline? bs
    v.server v.reader.frame
  have hJudge : Handshake.judge g.id c.peer ⟨v.server, v.reader.frame.write start bs⟩ =
      (.error .closed, ⟨v.server, v.reader.frame.write start bs⟩) := by
    rw [Handshake.judge, bind_of_error (Talking.ensureOpen_of_closed hNot)]
  rw [if_neg (by omega), ← hPhase,
    Reader.complete_body_of_error (hId ▸ hBooks.connection) hJudge] at hStep
  rw [apply_bytes now bs (by simp [hPhase]), hSeen, List.append_nil,
    proceed_of_quiet_error hHandshake hStep (.refl _)]
  exact .stopped (v := v) now hFair hUnjudged.refusal? (Or.inr hUnjudged.judged) hBooks hId
    (by simp) fun _ _ _ => trivial

theorem Sound.judge_open {start stop : Nat} {deadline? : Option Nat} {c : Connection}
    (hFair : Fair g v) (hPhase : v.reader.phase = .filling .login .body start stop deadline?)
    (hUnjudged : v.Unjudged g)
    (hBooks : v.server.Books c v.sent [[g.challengeMessage]] []) (hId : c.id = g.id)
    (hOpen : c.disconnected = false) (hFresh : Fresh g (some g.challenge) c)
    (hFilled : v.Filled .body start stop) (now : Nat) {bs : Octets}
    (hWhole : start + bs.length = stop) :
    Sound g past ((Happening.bytes now bs).apply g v) := by
  have hHandshake : v.reader.phase.isHandshake = true := by
    rw [hPhase]
    rfl
  obtain ⟨hNoLookups, hNoRequests⟩ := hFair.nothing hUnjudged.judged
  have hStep := Reader.receive_filling g.id now g.challenge .login .body start stop deadline? bs
    v.server v.reader.frame
  rw [if_neg (by omega), ← hPhase] at hStep
  have hConnection := hBooks.connection
  rw [hId] at hConnection
  obtain ⟨a, hSeen, hGenuine, hJudging⟩ :=
    hFilled.judging hPhase hBooks hId hOpen hFresh hWhole
  -- from here on it matters what the gates have seen, and no longer from which bytes
  generalize v.reader.frame.write start bs = frame at hStep hJudging
  generalize hJudge : Handshake.judge g.id c.peer ⟨v.server, frame⟩ = result at hJudging
  obtain ⟨outcome, t⟩ := result
  obtain ⟨d, gathered, hNext, hSame, -, hSession, hStill, hGathered⟩ :=
    hJudging.books hBooks hId hOpen hFresh.key?
  obtain ⟨hTasks, hReplies⟩ := hJudging.tasks_and_replies
  have hLookups := hJudging.lookups_eq
  rw [apply_bytes now bs (by simp [hPhase]), hSeen, hUnjudged.judged, List.nil_append]
  cases outcome with
  | error halt =>
    have hStopped := (hJudging.eq_error_iff halt).mp rfl
    have hHalt := Applicant.ne_stalled_of_firstFailure hStopped
    rw [Reader.complete_body_of_error hConnection hJudge] at hStep
    rw [proceed_of_error hHandshake hStep
      (by rw [hTasks]; exact (List.append_nil _).symm), hNoLookups, hNoRequests, hLookups]
    refine ⟨.of_judged rfl hGenuine (by simp) (List.nil_sublist _) (fun other hOther => ?_),
      .of_finish now hNext hSame rfl hHalt rfl rfl fun batches' hViolation hRejected => ?_⟩
    · exact congrArg some (Option.some.inj (hStopped.symm.trans hOther))
    · exact .of_gates hStopped hGathered hViolation fun r hHere => hRejected r hHere hStill
  | ok request =>
    obtain ⟨hPassed, hGranted⟩ := granted?_of_judging hJudging
    have hRefused : ∀ halt, firstFailure a.gates ≠ some halt := fun halt hStopped => by
      cases hPassed.symm.trans hStopped
    rw [Reader.complete_body_of_ok hConnection hJudge] at hStep
    cases hStopped : t.server.tasks.stopped with
    | true =>
      -- a game that has stopped takes no request, so that an applicant may pass all gates in vain
      have hPost : t.server.post (.attach request (.connection g.id)) = (false, t.server) := by
        rw [Server.post, TaskQueue.post, if_pos hStopped]
      rw [hStopped, if_pos rfl, hPost] at hStep
      rw [proceed_of_error hHandshake hStep
        (by rw [hTasks]; exact (List.append_nil _).symm), hNoLookups, hNoRequests, hLookups]
      exact ⟨.of_judged rfl hGenuine (by simp) (List.nil_sublist _)
          fun halt hStopped => absurd hStopped (hRefused halt),
        .of_finish now hNext hSame rfl (by simp) rfl rfl fun _ _ _ => trivial⟩
    | false =>
      rw [hStopped, if_neg (by simp), Server.post_eq hStopped] at hStep
      rw [proceed_of_ok hHandshake hStep (congrArg (·.ready ++ _) hTasks), hNoLookups, hNoRequests,
        hLookups]
      refine ⟨.of_judged rfl hGenuine (by simp) ?_
          fun halt hStopped => absurd hStopped (hRefused halt),
        .attaching a d _ gathered rfl rfl rfl (hNext.of_same rfl rfl) hSame ?_ (fun _ => ?_)
          (Or.inl ⟨hStill, hSession.trans hFresh.session?⟩)⟩
      · rw [hGranted]
        exact List.Sublist.refl _
      · rcases hGathered with rfl | ⟨-, x, hFirst⟩
        · rfl
        · cases (Applicant.firstFailure_gates hFirst).symm.trans hPassed
      · exact (congrArg (List.lookup _) hReplies).trans hUnjudged.reply

/-! ## Answers and ends -/

/-- As long as the handshake lasts the books are kept, and it has not failed. -/
theorem Stage.isHandshake (h : Stage g past v) (hPhase : v.reader.phase.isHandshake = true) :
    ∃ c batches gathered, v.server.Books c v.sent batches gathered ∧ c.id = g.id ∧
      v.refusal? = none := by
  cases h with
  | greeting c _ hUnjudged hBooks hId => exact ⟨c, _, _, hBooks, hId, hUnjudged.refusal?⟩
  | filling _ _ _ _ c _ hUnjudged hBooks hId => exact ⟨c, _, _, hBooks, hId, hUnjudged.refusal?⟩
  | attaching _ c _ _ _ _ hRefusal hBooks hId => exact ⟨c, _, _, hBooks, hId, hRefusal⟩
  | served hServed => cases hServed.1.symm.trans hPhase
  | failed _ _ _ hEnded =>
    rw [hEnded] at hPhase
    cases hPhase

theorem Stage.of_settled (h : Stage g past v) (hPhase : v.reader.phase.isHandshake = false)
    (hEnded : v.reader.phase ≠ .ended) : v.Served := by
  cases h with
  | greeting _ hHere | filling _ _ _ _ _ hHere | attaching _ _ _ _ hHere =>
    rw [hHere] at hPhase
    cases hPhase
  | served hServed => exact hServed
  | failed _ _ _ hHere => exact absurd hHere hEnded

theorem Sound.halt (h : Sound g past v) (now : Nat) {cause : Halt}
    (hActive : v.reader.phase ≠ .ended) (hCause : cause ∈ [Halt.transport, .abort, .closed]) :
    Sound g (.halt now cause :: past) ((Happening.halt now cause).apply g v) := by
  cases hPhase : v.reader.phase.isHandshake with
  | true =>
    obtain ⟨c, batches, gathered, hBooks, hId, hRefusal⟩ := h.stage.isHandshake hPhase
    have hStep : (throw cause : Talking ReaderPhase) ⟨v.server, v.reader.frame⟩ =
        (.error cause, ⟨v.server, v.reader.frame⟩) := rfl
    rw [Happening.apply, proceed_of_quiet_error hPhase hStep (.refl _)]
    refine .stopped (v := v) now h.fair hRefusal (Or.inl List.prefix_rfl) hBooks hId ?_
      fun _ _ _ => ?_
    · rintro rfl
      simp at hCause
    · simp only [List.mem_cons, List.not_mem_nil, or_false] at hCause
      rcases hCause with rfl | rfl | rfl <;> exact trivial
  | false =>
    have hServed := h.stage.of_settled hPhase hActive
    obtain ⟨reader, server, hProceed, hStays⟩ :=
      proceed_of_settles g now hPhase (Talking.settles_throw cause)
    rw [Happening.apply, hProceed]
    exact ⟨h.fair.congr rfl (Or.inl List.prefix_rfl) rfl rfl (Or.inr rfl),
      .served ⟨hStays, hServed.2⟩⟩

theorem Sound.bytes (h : Sound g past v) (now : Nat) {bs : Octets} (hSome : 0 < bs.length)
    (hFits : bs.length ≤ v.reader.demand) :
    Sound g (.bytes now bs :: past) ((Happening.bytes now bs).apply g v) := by
  have hActive : v.reader.phase ≠ .ended := by
    intro hEnded
    rw [Reader.demand, hEnded] at hFits
    exact Nat.not_le.mpr hSome hFits
  cases hStage : h.stage with
  | greeting c hPhase hUnjudged hBooks hId hFresh hStore =>
    exact .greet h.fair hPhase hUnjudged hBooks hId hFresh hStore now bs
  | filling part start stop deadline? c hPhase hUnjudged hBooks hId hFresh hFilled =>
    have hEnd : bs.length ≤ stop - start := by rwa [Reader.demand, hPhase] at hFits
    by_cases hMore : start + bs.length < stop
    · exact .fill h.fair hPhase hUnjudged hBooks hId hFresh hFilled now hMore
    · have hWhole : start + bs.length = stop := by omega
      cases part with
      | header => exact .declare h.fair hPhase hUnjudged hBooks hId hFresh hFilled now hWhole
      | body =>
        cases hOpen : c.disconnected with
        | true => exact .judge_closed h.fair hPhase hUnjudged hBooks hId hOpen now hWhole
        | false =>
          exact .judge_open h.fair hPhase hUnjudged hBooks hId hOpen (hFresh hOpen) hFilled now
            hWhole
  | attaching a c batches gathered hPhase =>
    rw [Reader.demand, hPhase] at hFits
    exact absurd hFits (Nat.not_le.mpr hSome)
  | served hServed =>
    obtain ⟨hSettled, hRefusal⟩ := hServed
    have hSeen : v.seen g bs = [] := by
      rw [seen]
      cases hPhase : v.reader.phase with
      | filling stage =>
        cases stage with
        | login =>
          rw [hPhase] at hSettled
          cases hSettled
        | steady => rfl
      | greeting | attaching | stalled | ended => rfl
    obtain ⟨reader, server, hProceed, hStays⟩ :=
      proceed_of_settles g now hSettled (Reader.settles_receive g.id now g.challenge hSettled bs)
    rw [apply_bytes now bs (fun hPhase => by rw [hPhase] at hSettled; cases hSettled), hSeen,
      hProceed, List.append_nil]
    exact ⟨h.fair.congr rfl (Or.inl (List.prefix_append ..)) rfl rfl (Or.inr rfl),
      .served ⟨hStays, hRefusal⟩⟩
  | failed halt c batches hPhase => exact absurd hPhase hActive

theorem Sound.answer (h : Sound g past v) (now : Nat) (hPhase : v.reader.phase = .attaching) :
    Sound g (.answer now :: past) ((Happening.answer now).apply g v) := by
  have hHandshake : v.reader.phase.isHandshake = true := by
    rw [hPhase]
    rfl
  rw [Happening.apply]
  cases hReply : v.server.reply? (.connection g.id) with
  | none =>
    exact ⟨h.fair, h.stage.spared _ (fun c _ _ _ hBooks => ⟨c, hBooks, .refl c⟩) rfl⟩
  | some r =>
    dsimp only
    have hTaken : v.server.Quiet (v.server.takeReply (.connection g.id)) := .of_same rfl rfl
    cases h.stage with
    | greeting _ hOther | filling _ _ _ _ _ hOther | failed _ _ _ hOther =>
      cases hPhase.symm.trans hOther
    | served hServed => cases hServed.1.symm.trans hHandshake
    | attaching a c batches gathered _ hJudged hRefusal hBooks hId hMessages hAnswers hWaits =>
      have hLeft := hBooks.of_same (t := v.server.takeReply (.connection g.id)) rfl rfl
      cases hEnding : Reader.ending r with
      | some halt =>
        obtain ⟨d, batches', gathered', hNext, hSame, hKept⟩ := hLeft.turnedAway r
        rw [hId] at hNext hSame
        rw [proceed_of_quiet_error hHandshake (Reader.answered_of_ending hEnding)
          (hTaken.trans (Reader.quiet_turnedAway g.id r _))]
        have hHalt : halt ≠ .stalled := by
          rcases Reader.ending_cases hEnding with rfl | rfl | ⟨-, -, rfl⟩ <;> simp
        refine .stopped (v := v) now h.fair hRefusal (Or.inl List.prefix_rfl) hNext hSame hHalt
          fun last _ hRejected => ?_
        rcases Reader.ending_cases hEnding with rfl | rfl | ⟨reason, rfl, rfl⟩
        · exact trivial
        · exact trivial
        · obtain ⟨rfl, rfl, rfl⟩ := hKept reason rfl
          refine ⟨a, hJudged ▸ .head _, fun hUnbroken hLength => ?_⟩
          -- as it has not been broken, a connection that has got no session is still open
          have hOpen : d.disconnected = false := by
            rcases hWaits with ⟨hOpen, -⟩ | hBroken | ⟨handle, hAttached⟩
            · exact hOpen
            · exact absurd (.tail _ hBroken) hUnbroken
            · cases hReply.symm.trans hAttached
          rw [hRejected reason rfl hOpen hLength, hMessages]
      | none =>
        obtain ⟨handle, rfl⟩ := Reader.eq_attached_of_ending hEnding
        have hStep := Reader.answered_of_attached g.id now handle v.server v.reader.frame
        by_cases hOpen : (v.server.takeReply (.connection g.id)).isOpen g.id = true
        · rw [if_pos hOpen] at hStep
          rw [proceed_of_quiet_ok hHandshake hStep
            (hTaken.trans (Reader.quiet_welcomed g.id _))]
          exact ⟨h.fair.congr rfl (Or.inl List.prefix_rfl) rfl rfl (Or.inl hRefusal),
            .served ⟨rfl, rfl⟩⟩
        · rw [if_neg hOpen] at hStep
          rw [proceed_of_quiet_error hHandshake hStep hTaken]
          exact .stopped (v := v) now h.fair hRefusal (Or.inl List.prefix_rfl) hLeft hId (by simp)
            fun _ _ _ => trivial

/-! ## Whole visits -/

theorem Sound.start {s : Server} (hArrives : g.Arrives s) : Sound g [] (.start s) := by
  obtain ⟨shutdown, hConnection⟩ := hArrives.connection
  have hStore : Reader.start.frame.store.length = FrameReader.capacity := Octets.length_zeros _
  have hBooks : s.Books { Connection.new g.id g.peer with shutdown } [] [] [] :=
    ⟨hConnection, ⟨nofun, hArrives.pool⟩, rfl, [], [],
      (Outlet.Account.start g.id g.peer).congr ⟨rfl, rfl, rfl⟩ fun _ => rfl, rfl, nofun⟩
  have hNone : ∀ a : Applicant, a ∉ (Visit.start s).judged := fun _ => List.not_mem_nil
  exact ⟨⟨Nat.zero_le _, fun a ha => absurd ha (hNone a), rfl, List.nil_sublist _,
      fun a ha => absurd ha (hNone a)⟩,
    .greeting _ rfl ⟨rfl, rfl, hArrives.reply⟩ hBooks rfl (fun _ => ⟨rfl, rfl, rfl, rfl⟩) hStore⟩

/-- Between the steps of the reader nothing is counted. -/
theorem Fair.aside (h : Fair g v) (t : Server) (sent : List Octets) :
    Fair g { v with server := t, sent := sent } :=
  h.congr rfl (Or.inl List.prefix_rfl) rfl rfl (Or.inr rfl)

theorem Sound.frameSent (h : Sound g past v) :
    Sound g (.frameSent :: past) (Happening.frameSent.apply g v) := by
  refine ⟨h.fair.aside _ _, h.stage.spared _ (fun c batches gathered hId hBooks => ?_) rfl⟩
  have hKeeps : c.Keeps c.frameSent := by
    rw [Connection.frameSent]
    split <;> exact ⟨rfl, rfl, rfl, rfl, rfl, rfl⟩
  have hNext := hBooks.frameSent
  rw [← hId, hBooks.connection]
  exact ⟨_, hNext, hKeeps⟩

theorem Sound.others (h : Sound g past v) {next : Server}
    (hNext : v.Served ∨ g.Spared v.server next) :
    Sound g (.others next :: past) ((Happening.others next).apply g v) := by
  refine ⟨h.fair.aside next v.sent, ?_⟩
  rcases hNext with hServed | hSpared
  · exact .served hServed
  · obtain ⟨wake, shutdown, hConnection⟩ := hSpared.connection
    refine h.stage.spared _ (fun c batches gathered hId hBooks => ?_) hSpared.reply
    rw [← hId, hBooks.connection, Option.map_some] at hConnection
    exact ⟨{ c with wake, shutdown }, hBooks.congr hConnection hSpared.pool rfl ⟨rfl, rfl, rfl⟩
      (Or.inl rfl) hBooks.gathered_eq_nil, rfl, rfl, rfl, rfl, rfl, rfl⟩

theorem Sound.judged_ne_nil (h : Sound g past v) (hRequests : v.requests ≠ []) :
    v.judged ≠ [] :=
  fun hNone => hRequests (h.fair.nothing hNone).2

theorem Sound.offered (h : Sound g past v) {now : Nat} {request : AttachRequest}
    {offer : Game.Offer} (hOffer : offer.connection = g.id) (hRequests : v.requests ≠ [])
    (hFirst : ∀ e ∈ past, ¬ e.Answers) :
    Sound g (.offered now request offer :: past)
      ((Happening.offered now request offer).apply g v) := by
  refine ⟨h.fair.aside _ v.sent, h.stage.told (h.judged_ne_nil hRequests)
    (e := .offered now request offer) trivial hFirst fun c _ _ hId hBooks => ?_⟩
  obtain ⟨d, r, hNext, hSame, hReplies, hTaken⟩ :=
    hBooks.conclude_offered now request (.connection g.id) (hOffer.trans hId.symm)
  exact ⟨d, r, hNext, hSame, hReplies, fun hOpen => Or.inr ⟨_, hTaken hOpen⟩⟩

theorem Sound.next (h : Sound g past v) {e : Happening} (hAllowed : e.Allowed g past v) :
    Sound g (e :: past) (e.apply g v) := by
  cases e with
  | bytes now bs => exact h.bytes now hAllowed.1 hAllowed.2
  | answer now => exact h.answer now hAllowed
  | halt now cause => exact h.halt now hAllowed.1 hAllowed.2
  | frameSent => exact h.frameSent
  | broken =>
    refine ⟨h.fair.aside _ v.sent, h.stage.closed (Or.inl rfl) (fun c _ _ hId hBooks => ?_)
      (congrArg (List.lookup _) (v.server.replies_close g.id))⟩
    rw [← hId]
    exact hBooks.abort
  | offered now request offer => exact h.offered hAllowed.1 hAllowed.2.1 hAllowed.2.2
  | replied r =>
    obtain ⟨-, hRequests, hFirst⟩ := hAllowed
    refine ⟨h.fair.aside _ v.sent, h.stage.told (h.judged_ne_nil hRequests)
      (e := .replied r) trivial hFirst fun c _ _ _ hBooks =>
        ⟨c, r, hBooks.of_same rfl rfl, rfl, rfl, fun hOpen => Or.inl ⟨hOpen, rfl⟩⟩⟩
  | kicked =>
    refine ⟨h.fair.aside _ v.sent, h.stage.closed (Or.inr hAllowed) (fun c _ _ hId hBooks => ?_)
      (congrArg (List.lookup _) (v.server.replies_close g.id))⟩
    rw [← hId]
    exact hBooks.close
  | others next => exact h.others hAllowed

theorem Reaches.sound {s : Server} (hArrives : g.Arrives s) (hReaches : Reaches g s past v) :
    Sound g past v := by
  induction hReaches with
  | start => exact .start hArrives
  | step e _ hAllowed ih => exact ih.next hAllowed

/-- The frames of the connection, whether they have been sent or wait, hold these batches of
messages, and no message waits for a frame. A frame is plain, or sealed with the key of the
connection. -/
def Queued (g : Guest) (v : Visit) (batches : List (List Octets)) : Prop :=
  ∃ (c : Connection) (parcels : List Parcel), v.server.connection? g.id = some c ∧
    v.sent ++ c.queue = parcels.map Parcel.frame ∧
    parcels.map Parcel.messages = batches ∧ Outlet.pending ⟨c, v.server.pool⟩ = [] ∧
    ∀ p ∈ parcels, p.key? = none ∨ p.key? = c.key?

theorem queued_of_books {c : Connection} {batches : List (List Octets)}
    (hBooks : v.server.Books c v.sent batches []) (hId : c.id = g.id) : v.Queued g batches := by
  obtain ⟨_, parcels, hBatches⟩ := hBooks.batches
  exact ⟨c, parcels, hId ▸ hBooks.connection, hBatches.account.frames, hBatches.messages,
    hBooks.pending.symm, hBatches.keys⟩

theorem Fair.lookups_le (h : Fair g v) : v.lookups ≤ 1 := by
  rw [h.lookups]
  exact List.countP_le_length.trans h.once

theorem Fair.cleared (h : Fair g v) (hLookups : v.lookups ≠ 0) :
    ∃ a ∈ v.judged, a.Genuine g v.heard ∧ a.Cleared := by
  rw [h.lookups, ← Nat.pos_iff_ne_zero, List.countP_pos_iff] at hLookups
  obtain ⟨a, ha, hPassed⟩ := hLookups
  exact ⟨a, ha, h.genuine a ha, Applicant.cleared_of_passed (of_decide_eq_true hPassed)⟩

theorem Fair.length_requests_le (h : Fair g v) : v.requests.length ≤ 1 := by
  have hGranted : ∀ judged : List Applicant,
      (judged.flatMap fun a => (a.granted? g.id).toList).length ≤ judged.length := by
    intro judged
    induction judged with
    | nil => exact le_rfl
    | cons a judged ih =>
      rw [List.flatMap_cons, List.length_append, List.length_cons, Nat.add_comm]
      exact Nat.add_le_add ih (by cases a.granted? g.id <;> simp)
  exact h.requests.length_le.trans ((hGranted v.judged).trans h.once)

theorem Fair.entitled (h : Fair g v) {request : AttachRequest} (hRequest : request ∈ v.requests) :
    ∃ a ∈ v.judged, ∃ record, a.Genuine g v.heard ∧ a.Cleared ∧ a.Entitled record ∧
      request = a.grant g.id record := by
  obtain ⟨a, ha, hGranted⟩ := List.mem_flatMap.mp (h.requests.subset hRequest)
  rw [Option.mem_toList, Applicant.granted?] at hGranted
  split at hGranted
  case isTrue hPassed =>
    rw [Applicant.gates, Applicant.firstFailure_append, Option.or_eq_none_iff] at hPassed
    obtain ⟨record, hRecord, hRequest⟩ := Option.map_eq_some_iff.mp hGranted
    exact ⟨a, ha, record, h.genuine a ha, Applicant.cleared_of_passed hPassed.1,
      Applicant.entitled_of_passed hRecord hPassed.2, hRequest.symm⟩
  case isFalse => cases hGranted

theorem Stage.outcome (h : Stage g past v) {halt : Halt} (hRefusal : v.refusal? = some halt) :
    ∃ batches, v.Queued g batches ∧ Outcome g past v.judged batches halt := by
  cases h with
  | greeting _ _ hUnjudged | filling _ _ _ _ _ _ hUnjudged =>
    cases hUnjudged.refusal?.symm.trans hRefusal
  | attaching _ _ _ _ _ _ hNone => cases hNone.symm.trans hRefusal
  | served hServed => cases hServed.2.symm.trans hRefusal
  | failed halt' c batches _ hSome hBooks hId hOutcome =>
    cases hSome.symm.trans hRefusal
    exact ⟨batches, queued_of_books hBooks hId, hOutcome⟩

/-- An account is looked up at most once, and only for an applicant who has come past the door; a
request is made only for a record that entitles the applicant to it. The first gate that fails
decides: on a violation nothing is queued but the challenge and what an extended client is told, and
on a rejection the last message is its reason. -/
theorem first_failure_decides {s : Server} (hArrives : g.Arrives s)
    (hReaches : Reaches g s past v) :
    v.lookups ≤ 1 ∧
    (v.lookups ≠ 0 → ∃ a ∈ v.judged, a.Genuine g v.heard ∧ a.Cleared) ∧
    v.requests.length ≤ 1 ∧
    (∀ request ∈ v.requests, ∃ a ∈ v.judged, ∃ record, a.Genuine g v.heard ∧ a.Cleared ∧
      a.Entitled record ∧ request = a.grant g.id record) ∧
    (∀ a ∈ v.judged, ∀ halt, firstFailure a.gates = some halt → v.refusal? = some halt) ∧
    (∀ x, v.refusal? = some (.violation x) → ∃ batches, v.Queued g batches ∧
      (batches = [] ∨ batches = [[g.challengeMessage]] ∨
        ∃ a ∈ v.judged, batches = [[g.challengeMessage]] ++ Outlet.batch a.announcement)) ∧
    ∀ r, v.refusal? = some (.rejected r) → .broken ∉ past →
      (ServerMessage.loginError r.message).encode.length ≤ maxPayload →
      ∃ a ∈ v.judged, ∃ batches, v.Queued g batches ∧
        batches.flatten = g.challengeMessage :: a.announcement ++
          [(ServerMessage.loginError r.message).encode] := by
  obtain ⟨hFair, hStage⟩ := hReaches.sound hArrives
  refine ⟨hFair.lookups_le, hFair.cleared, hFair.length_requests_le, fun _ => hFair.entitled,
    hFair.refused, fun x hViolation => hStage.outcome hViolation, ?_⟩
  intro r hRejected hUnbroken hLength
  obtain ⟨batches, hQueued, a, ha, hLast⟩ := hStage.outcome hRejected
  exact ⟨a, ha, batches, hQueued, hLast hUnbroken hLength⟩

/-! A login that no gate stops. -/

def key : Rsa.Key := ⟨2 ^ 521 - 1, (1 + 3 * (2 ^ 521 - 2)) / 7⟩

def account : Account :=
  { id := 1, sessionToken := "key", authorizedIp := .v4 127 0 0 1, type := .normal
    characters := [{ id := 10, name := "Knight", login? := none, temple := default
                     canAlwaysLogin := false, cannotBeBanned := false }] }

def opened : Server :=
  .start { (default : Config) with accounts := [account] } key .running .empty .defaults 1

def arrived : Server := (opened.accept default).2

def guest : Guest := ⟨1, default, ⟨5, 6⟩⟩

def form : LoginForm where
  system := Wire.ClientSystem.windows
  version := 1310
  versionText? := none
  token := [107, 101, 121]
  characterName := "knight"
  key := ⟨1, 2, 3, 4⟩

def request : Octets :=
  (form.frame ⟨key.modulus, 7⟩ guest.challenge).toOption.getD []

def greeted : Visit := (Happening.bytes 0 [1, 0, 65]).apply guest (.start arrived)

def declared : Visit := (Happening.bytes 0 (request.take 2)).apply guest greeted

def admitted : Visit := (Happening.bytes 0 (request.drop 2)).apply guest declared

theorem reaches_admitted :
    Reaches guest arrived
      [.bytes 0 (request.drop 2), .bytes 0 (request.take 2), .bytes 0 [1, 0, 65]] admitted := by
  have hGreeted : Reaches guest arrived [.bytes 0 [1, 0, 65]] greeted :=
    Reaches.start.step _ ⟨by decide, by decide +kernel⟩
  have hDeclared := hGreeted.step (.bytes 0 (request.take 2)) ⟨by decide +kernel, by decide +kernel⟩
  exact hDeclared.step (.bytes 0 (request.drop 2)) ⟨by decide +kernel, by decide +kernel⟩

theorem first_failure_decides_admitted :
    admitted.lookups = 1 ∧ admitted.requests.map (·.characterId) = [10] ∧
      (∃ a ∈ admitted.judged, a.Genuine guest admitted.heard ∧ a.Cleared) ∧
      ∀ request ∈ admitted.requests, ∃ a ∈ admitted.judged, ∃ record,
        a.Genuine guest admitted.heard ∧ a.Cleared ∧ a.Entitled record ∧
          request = a.grant guest.id record := by
  have hLookups : admitted.lookups = 1 := by decide +kernel
  have hArrives : guest.Arrives arrived :=
    Guest.arrives_accept (s := opened) default ⟨5, 6⟩ (fun _ hc => absurd hc List.not_mem_nil) rfl
      (BufferPool.sound_ofCapacity 1)
  obtain ⟨-, hCleared, -, hEntitled, -⟩ := first_failure_decides hArrives reaches_admitted
  exact ⟨hLookups, by decide +kernel, hCleared (by rw [hLookups]; decide), hEntitled⟩

end Visit

end Gatehouse
