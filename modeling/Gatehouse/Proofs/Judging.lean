import Gatehouse.Proofs.Books
import Gatehouse.Proofs.Gates

/-!
# Passing the gates

A login is judged by its first gate that does not let it pass. What the server has done up to there
is what the gates passed before call for: the key is installed behind the gates of the request, the
challenge is taken in front of the door, and the account is looked up behind it.
-/

namespace Gatehouse

open Login Wire

namespace Applicant

variable {a : Applicant} {id : ConnectionId} {s : Server}

/-- What some clients are told as soon as their key is known. -/
def announcement (a : Applicant) : List Octets :=
  if a.config.checksum.isExtended a.request.system then
    [ServerMessage.extendedAnnouncement.encode]
  else []

def keyed (a : Applicant) (id : ConnectionId) (s : Server) : Server :=
  s.modify id fun c => c.installKey (.ofWords a.words.1)
    (a.config.checksum.modeFor a.request.system a.request.version)

def announced (a : Applicant) (id : ConnectionId) (s : Server) : Server :=
  if a.config.checksum.isExtended a.request.system then
    ((a.keyed id s).enqueue id ServerMessage.extendedAnnouncement.encode).2
  else a.keyed id s

def atDoor (a : Applicant) (id : ConnectionId) (s : Server) : Server :=
  (a.announced id s).modify id fun c => { c with challenge? := none }

def lookedUp (a : Applicant) (id : ConnectionId) (s : Server) : Server :=
  { a.atDoor id s with
    store := { s.store with sessionLookups := s.store.sessionLookups + 1 } }

def grant (a : Applicant) (id : ConnectionId) (record : SessionRecord) : AttachRequest where
  connection := id
  accountId := record.accountId
  characterId := record.characterId
  system := a.request.system
  character? := a.store.loadCharacter record.characterId
  namelocked := a.store.isNamelocked record.characterId
  accountBan? := a.store.accountBan record.accountId

theorem exists_announced (a : Applicant) (id : ConnectionId) (s : Server) :
    ∃ connections pool, a.announced id s = { s with connections, pool } := by
  rw [announced]
  split
  case isTrue =>
    obtain ⟨connections, pool, hEnqueued⟩ :=
      (a.keyed id s).exists_onOutlet id false (Outlet.enqueue ServerMessage.extendedAnnouncement.encode)
    exact ⟨connections, pool, hEnqueued⟩
  case isFalse => exact ⟨_, _, rfl⟩

theorem exists_atDoor (a : Applicant) (id : ConnectionId) (s : Server) :
    ∃ connections pool, a.atDoor id s = { s with connections, pool } := by
  obtain ⟨connections, pool, hAnnounced⟩ := a.exists_announced id s
  rw [atDoor, hAnnounced]
  exact ⟨_, _, rfl⟩

end Applicant

/-- What the gates see of a connection on which a frame has come. -/
def Server.applicant (s : Server) (id : ConnectionId) (ip : IpAddress) (frame : FrameReader) :
    Applicant where
  config := s.config
  key := s.key
  state := s.state
  store := s.store
  ip := ip
  issued? := (s.connection? id).bind (·.challenge?)
  frame := frame

namespace Server.Books

open Applicant

variable {s : Server} {c : Connection} {sent : List Octets} {batches : List (List Octets)}

theorem announced (h : s.Books c sent batches []) (a : Applicant) (hOpen : c.disconnected = false)
    (hKey : c.key? = none) :
    ∃ d, (a.announced c.id s).Books d sent batches a.announcement ∧ d.id = c.id ∧
      d.peer = c.peer ∧ d.challenge? = c.challenge? ∧ d.session? = c.session? ∧
      d.disconnected = false := by
  have hInstalled : (a.keyed c.id s).Books
      (c.installKey (.ofWords a.words.1)
        (a.config.checksum.modeFor a.request.system a.request.version)) sent batches [] :=
    h.modify (fun _ => rfl) rfl ⟨rfl, rfl, rfl⟩ (Or.inr hKey) rfl
  rw [Applicant.announced, announcement]
  split
  case isTrue =>
    obtain ⟨d, hNext, hKeeps⟩ := hInstalled.enqueue_room
      ServerMessage.extendedAnnouncement.encode hOpen (List.cons_ne_nil _ _) (by decide)
    exact ⟨d, hNext, hKeeps.id, hKeeps.peer, hKeeps.challenge?, hKeeps.session?,
      hKeeps.disconnected.trans hOpen⟩
  case isFalse => exact ⟨_, hInstalled, rfl, rfl, rfl, rfl, hOpen⟩

theorem challenge?_announced (h : s.Books c sent batches []) (a : Applicant)
    (hOpen : c.disconnected = false) (hKey : c.key? = none) :
    ((a.announced c.id s).connection? c.id).bind (·.challenge?) =
      (s.connection? c.id).bind (·.challenge?) := by
  obtain ⟨d, hAnnounced, hId, -, hChallenge, -, -⟩ := h.announced a hOpen hKey
  have hHere := hAnnounced.connection
  rw [hId] at hHere
  rw [hHere, h.connection]
  exact hChallenge

end Server.Books

namespace Handshake

open Applicant Talking

variable {a : Applicant} {id : ConnectionId} {ip : IpAddress} {s : Server} {frame : FrameReader}

/-- The ways through the gates, with the server that is left behind. -/
inductive Judging (a : Applicant) (id : ConnectionId) (s : Server) :
    Except Halt AttachRequest → Server → Prop where
  | violated (v : Violation) (hRequest : firstFailure a.requestGates = some (.violation v)) :
    Judging a id s (.error (.violation v)) s
  | refused (r : Rejection) (hRequest : firstFailure a.requestGates = none)
    (hCredentials : firstFailure a.credentialGates = some (.rejected r)) :
    Judging a id s (.error (.rejected r)) (a.announced id s)
  | kept (halt : Halt) (hRequest : firstFailure a.requestGates = none)
    (hCredentials : firstFailure a.credentialGates = none)
    (hDoor : firstFailure a.doorGates = some halt) :
    Judging a id s (.error halt) (a.atDoor id s)
  | unknown (r : Rejection) (hOuter : firstFailure a.outerGates = none)
    (hAccount : firstFailure a.accountGates = some (.rejected r)) :
    Judging a id s (.error (.rejected r)) (a.lookedUp id s)
  | passed (record : SessionRecord) (hOuter : firstFailure a.outerGates = none)
    (hAccount : firstFailure a.accountGates = none) (hRecord : a.record? = some record) :
    Judging a id s (.ok (a.grant id record)) (a.lookedUp id s)

namespace Judging

variable {result : Except Halt AttachRequest} {t : Server}

theorem eq_error_iff (h : Judging a id s result t) (halt : Halt) :
    result = .error halt ↔ firstFailure a.gates = some halt := by
  rw [gates, outerGates, firstFailure_append, firstFailure_append, firstFailure_append]
  cases h with
  | violated v hRequest => simp [hRequest]
  | refused r hRequest hCredentials => simp [hRequest, hCredentials]
  | kept halt' hRequest hCredentials hDoor => simp [hRequest, hCredentials, hDoor]
  | unknown r hOuter hAccount =>
    rw [← firstFailure_append, ← firstFailure_append, ← outerGates, hOuter, hAccount]
    simp
  | passed record hOuter hAccount hRecord =>
    rw [← firstFailure_append, ← firstFailure_append, ← outerGates, hOuter, hAccount]
    simp

/-- One look-up is made if the applicant has come past the door, and none otherwise. -/
theorem lookups_eq (h : Judging a id s result t) :
    t.store.sessionLookups =
      s.store.sessionLookups + if firstFailure a.outerGates = none then 1 else 0 := by
  obtain ⟨_, _, hAnnounced⟩ := a.exists_announced id s
  obtain ⟨_, _, hDoor⟩ := a.exists_atDoor id s
  cases h with
  | violated v hRequest => simp [outerGates, firstFailure_append, hRequest]
  | refused r hRequest hCredentials =>
    simp [hAnnounced, outerGates, firstFailure_append, hRequest, hCredentials]
  | kept halt hRequest hCredentials hKept =>
    simp [hDoor, outerGates, firstFailure_append, hRequest, hCredentials, hKept]
  | unknown r hOuter hAccount => simp [hOuter, lookedUp]
  | passed record hOuter hAccount hRecord => simp [hOuter, lookedUp]

theorem tasks_and_replies (h : Judging a id s result t) :
    t.tasks = s.tasks ∧ t.replies = s.replies := by
  obtain ⟨_, _, hAnnounced⟩ := a.exists_announced id s
  obtain ⟨_, _, hDoor⟩ := a.exists_atDoor id s
  cases h with
  | violated => exact ⟨rfl, rfl⟩
  | refused =>
    rw [hAnnounced]
    exact ⟨rfl, rfl⟩
  | kept =>
    rw [hDoor]
    exact ⟨rfl, rfl⟩
  | unknown | passed =>
    rw [lookedUp, hDoor]
    exact ⟨rfl, rfl⟩

/-- Nothing has been sent but the announcement, and that not before the key is known. -/
theorem books (h : Judging a id s result t) {c : Connection} {sent : List Octets}
    {batches : List (List Octets)} (hBooks : s.Books c sent batches []) (hId : c.id = id)
    (hOpen : c.disconnected = false) (hKey : c.key? = none) :
    ∃ d gathered, t.Books d sent batches gathered ∧ d.id = id ∧ d.peer = c.peer ∧
      d.session? = c.session? ∧ d.disconnected = false ∧
      (gathered = a.announcement ∨
        gathered = [] ∧ ∃ v, firstFailure a.requestGates = some (.violation v)) := by
  subst hId
  obtain ⟨d, hAnnounced, hId, hPeer, -, hSession, hStill⟩ := hBooks.announced a hOpen hKey
  have hDoor : ∃ e, (a.atDoor c.id s).Books e sent batches a.announcement ∧ e.id = c.id ∧
      e.peer = c.peer ∧ e.session? = c.session? ∧ e.disconnected = false := by
    have hTaken := hAnnounced.modify (f := fun d => { d with challenge? := none })
      (fun _ => rfl) rfl ⟨rfl, rfl, rfl⟩ (Or.inl rfl) rfl
    rw [hId] at hTaken
    exact ⟨_, hTaken, rfl, hPeer, hSession, hStill⟩
  cases h with
  | violated v hRequest => exact ⟨c, [], hBooks, rfl, rfl, rfl, hOpen, Or.inr ⟨rfl, v, hRequest⟩⟩
  | refused => exact ⟨d, _, hAnnounced, hId, hPeer, hSession, hStill, Or.inl rfl⟩
  | kept =>
    obtain ⟨e, hNext, hParts⟩ := hDoor
    exact ⟨e, _, hNext, hParts.1, hParts.2.1, hParts.2.2.1, hParts.2.2.2, Or.inl rfl⟩
  | unknown | passed =>
    obtain ⟨e, hNext, hParts⟩ := hDoor
    exact ⟨e, _, ⟨hNext.connection, hNext.sound, hNext.pending, hNext.batches⟩, hParts.1,
      hParts.2.1, hParts.2.2.1, hParts.2.2.2, Or.inl rfl⟩

end Judging

/-! ## The steps of judging -/

theorem openRequest_of_stopped (ha : s.applicant id ip frame = a) {halt : Halt}
    (hStopped : firstFailure a.requestGates = some halt) :
    ∃ v rest, halt = .violation v ∧
      openRequest id ⟨s, frame⟩ = (.error (.violation v), ⟨s, rest⟩) := by
  have hKey : s.key = a.key := congrArg key ha
  have hFrame : frame = a.frame := congrArg Applicant.frame ha
  obtain ⟨v, rest, rfl, hRead⟩ := readPrelude_of_stopped hStopped
  refine ⟨v, rest, rfl, ?_⟩
  rw [openRequest, bind_of_ok (server_eq _)]
  dsimp only
  rw [hKey, hFrame]
  exact bind_of_error (reading_of_error hRead)

theorem openRequest_of_passed (ha : s.applicant id ip frame = a)
    (hPassed : firstFailure a.requestGates = none) :
    openRequest id ⟨s, frame⟩ =
      (if a.config.acceptsVersion a.request.version then .ok a.prelude
        else .error (.rejected (.unsupportedVersion a.config.versionLabel)),
        ⟨a.announced id s, a.words.2⟩) := by
  have hConfig : s.config = a.config := congrArg config ha
  have hKey : s.key = a.key := congrArg key ha
  have hFrame : frame = a.frame := congrArg Applicant.frame ha
  have hRead := readPrelude_of_passed hPassed
  have hParts : a.prelude.system = a.request.system ∧ a.prelude.version = a.request.version ∧
      a.prelude.key = a.words.1 := by
    simp only [prelude, and_self]
  rw [openRequest, bind_of_ok (server_eq _)]
  dsimp only
  rw [hConfig, hKey, hFrame, bind_of_ok (reading_of_ok hRead), hParts.1, hParts.2.1, hParts.2.2,
    changeServer_bind, announced, keyed]
  generalize a.words = words
  by_cases hExtended : a.config.checksum.isExtended a.request.system = true <;>
    by_cases hVersion : a.config.acceptsVersion a.request.version = true
  all_goals
    simp only [hExtended, hVersion]
    rfl

theorem takeChallenge_bind {β : Type} (next : Option Challenge → Talking β) (t : Talk) :
    (takeChallenge id >>= next) t = next ((t.server.connection? id).bind (·.challenge?))
      { t with server := t.server.modify id fun c => { c with challenge? := none } } := rfl

theorem authenticate_eq (ip : IpAddress) (credentials : Credentials) (t : Talk) :
    authenticate ip credentials t =
      match closedWorld t.server.state with
      | some reason => (.error (.rejected reason), t)
      | none =>
        match t.server.store.ipBan ip with
        | some ban => (.error (.rejected (.ofIpBan ban)), t)
        | none =>
          let found := t.server.store.resolveSession credentials.token credentials.characterName
          let t := { t with server := { t.server with store := found.2 } }
          match found.1.filter (·.accountId != 0) with
          | none => (.error (.rejected .invalidCredentials), t)
          | some record =>
            if ¬ record.authorizedIp.isLoopback ∧ record.authorizedIp ≠ ip then
              (.error (.rejected .sessionIpMismatch), t)
            else (.ok record, t) := by
  rw [authenticate, bind_of_ok (server_eq t)]
  cases closedWorld t.server.state with
  | some reason => rfl
  | none =>
    cases t.server.store.ipBan ip with
    | some ban => rfl
    | none =>
      dsimp only
      rw [onServer_bind]
      dsimp only
      cases (t.server.store.resolveSession credentials.token credentials.characterName).1.filter
        (·.accountId != 0) with
      | none => rfl
      | some record =>
        dsimp only
        split <;> rfl

def counted (t : Talk) : Talk :=
  { t with server := { t.server with
      store := { t.server.store with sessionLookups := t.server.store.sessionLookups + 1 } } }

theorem authenticate_cases {token : Octets} (hToken : a.token? = some token)
    (hEcho : a.issued? = some a.echo) {t : Talk} (hState : t.server.state = a.state)
    (hStore : t.server.store = a.store) :
    (∃ halt, firstFailure a.doorGates = some halt ∧
      authenticate a.ip ⟨token, a.name.1, a.echo⟩ t = (.error halt, t)) ∨
    (∃ r, firstFailure a.doorGates = none ∧ firstFailure a.accountGates = some (.rejected r) ∧
      authenticate a.ip ⟨token, a.name.1, a.echo⟩ t = (.error (.rejected r), counted t)) ∨
    ∃ record, firstFailure a.doorGates = none ∧ firstFailure a.accountGates = none ∧
      a.record? = some record ∧
      authenticate a.ip ⟨token, a.name.1, a.echo⟩ t = (.ok record, counted t) := by
  have hFound : (t.server.store.resolveSession token a.name.1).1.filter (·.accountId != 0) =
      a.record? := by
    rw [record?, hToken, hStore]
    rfl
  rw [authenticate_eq, doorGates, gate_of_not (not_not_intro hEcho), hState, hStore]
  cases hClosed : closedWorld a.state with
  | some reason => exact Or.inl ⟨_, rfl, rfl⟩
  | none =>
    cases hBan : a.store.ipBan a.ip with
    | some ban => exact Or.inl ⟨_, rfl, rfl⟩
    | none =>
      refine Or.inr ?_
      rw [hStore] at hFound
      dsimp only
      rw [hFound, accountGates]
      cases hRecord : a.record? with
      | none => exact Or.inl ⟨_, rfl, gate_of rfl _ _, by rw [counted, hStore]; rfl⟩
      | some record =>
        rw [gate_of_not (by simp), Option.bind_some]
        dsimp only
        by_cases hAddress : ¬ record.authorizedIp.isLoopback ∧ record.authorizedIp ≠ a.ip
        · rw [if_pos hAddress]
          exact Or.inl ⟨_, rfl, gate_of hAddress _ _, by rw [counted, hStore]; rfl⟩
        · rw [if_neg hAddress]
          exact Or.inr ⟨record, rfl, gate_of_not hAddress _ _, rfl, by rw [counted, hStore]; rfl⟩

def resolve (id : ConnectionId) (ip : IpAddress) (system : UInt16) (credentials : Credentials) :
    Talking AttachRequest := do
  let record ← authenticate ip credentials
  let store := (← Talking.server).store
  return {
    connection := id
    accountId := record.accountId
    characterId := record.characterId
    system
    character? := store.loadCharacter record.characterId
    namelocked := store.isNamelocked record.characterId
    accountBan? := store.accountBan record.accountId }

theorem judge_eq (id : ConnectionId) (peer : SocketAddress) : judge id peer = (do
    ensureOpen id
    let prelude ← openRequest id
    let credentials ← reading .rejected (readCredentials prelude.system)
    if (← takeChallenge id) ≠ some credentials.challenge then
      throw (.violation .challengeMismatch)
    resolve id peer.ip prelude.system credentials) := rfl

theorem resolve_cases (ha : s.applicant id ip frame = a)
    (hRequest : firstFailure a.requestGates = none)
    (hCredentials : firstFailure a.credentialGates = none) {token : Octets}
    (hToken : a.token? = some token) (hEcho : a.issued? = some a.echo) (rest : FrameReader) :
    Judging a id s
      (resolve id ip a.request.system ⟨token, a.name.1, a.echo⟩ ⟨a.atDoor id s, rest⟩).1
      (resolve id ip a.request.system ⟨token, a.name.1, a.echo⟩ ⟨a.atDoor id s, rest⟩).2.server := by
  have hIp : ip = a.ip := congrArg Applicant.ip ha
  obtain ⟨connections, pool, hDoor⟩ := a.exists_atDoor id s
  have hState : (a.atDoor id s).state = a.state := by rw [hDoor, ← ha]; rfl
  have hStore : (a.atDoor id s).store = a.store := by rw [hDoor, ← ha]; rfl
  have hCounted : (counted ⟨a.atDoor id s, rest⟩).server = a.lookedUp id s := by
    rw [counted, lookedUp, hDoor]
  have hOuter : firstFailure a.doorGates = none → firstFailure a.outerGates = none := by
    intro hPast
    rw [outerGates, firstFailure_append, firstFailure_append, hRequest, hCredentials, hPast]
    rfl
  rw [resolve, hIp]
  rcases authenticate_cases hToken hEcho (t := ⟨a.atDoor id s, rest⟩) hState hStore with
    ⟨halt, hKept, hResult⟩ | ⟨r, hPast, hAccount, hResult⟩ |
    ⟨record, hPast, hAccount, hRecord, hResult⟩
  · rw [bind_of_error hResult]
    exact .kept _ hRequest hCredentials hKept
  · rw [bind_of_error hResult, hCounted]
    exact .unknown _ (hOuter hPast) hAccount
  · -- counting the look-up leaves what the store knows of characters and accounts alone
    have hKnown : (counted ⟨a.atDoor id s, rest⟩).server.store =
        { a.store with sessionLookups := a.store.sessionLookups + 1 } := by
      rw [← hStore]
      rfl
    rw [bind_of_ok hResult, bind_of_ok (server_eq _), hKnown]
    change Judging a id s (.ok (a.grant id record)) (counted _).server
    rw [hCounted]
    exact .passed record (hOuter hPast) hAccount hRecord

/-- Judging goes through the gates in their order. -/
theorem judge_cases (peer : SocketAddress) {c : Connection} {sent : List Octets}
    {batches : List (List Octets)} (hBooks : s.Books c sent batches [])
    (hOpen : c.disconnected = false) (hKey : c.key? = none) (frame : FrameReader) :
    Judging (s.applicant c.id peer.ip frame) c.id s
      (judge c.id peer ⟨s, frame⟩).1 (judge c.id peer ⟨s, frame⟩).2.server := by
  generalize ha : s.applicant c.id peer.ip frame = a
  have hStillOpen : s.isOpen c.id = true := by simp [hBooks.isOpen, hOpen]
  rw [judge_eq, bind_of_ok (ensureOpen_of_open hStillOpen)]
  cases hRequest : firstFailure a.requestGates with
  | some halt =>
    obtain ⟨v, rest, rfl, hStopped⟩ := openRequest_of_stopped ha hRequest
    rw [bind_of_error hStopped]
    exact .violated v hRequest
  | none =>
    have hOpened := openRequest_of_passed ha hRequest
    by_cases hVersion : a.config.acceptsVersion a.request.version = true
    case neg =>
      rw [if_neg hVersion] at hOpened
      rw [bind_of_error hOpened]
      exact .refused _ hRequest (gate_of hVersion _ _)
    rw [if_pos hVersion] at hOpened
    have hSystem : a.prelude.system = a.request.system := by rw [prelude]
    have hRead := readCredentials_eq_match a
    rw [bind_of_ok hOpened, hSystem]
    cases hToken : a.token? with
    | none =>
      rw [hToken] at hRead
      have hStopped : reading .rejected (readCredentials a.request.system)
          ⟨a.announced c.id s, a.words.2⟩ = (.error (.rejected .malformedSessionKey), _) :=
        reading_of_error hRead
      rw [bind_of_error hStopped]
      refine .refused _ hRequest ?_
      rw [credentialGates, gate_of_not (not_not_intro hVersion)]
      exact gate_of hToken _ _
    | some token =>
      rw [hToken] at hRead
      have hTaken : reading .rejected (readCredentials a.request.system)
          ⟨a.announced c.id s, a.words.2⟩ =
            (.ok { token, characterName := a.name.1, challenge := a.echo }, _) :=
        reading_of_ok hRead
      have hIssued : (s.connection? c.id).bind (·.challenge?) = a.issued? := by rw [← ha]; rfl
      have hCredentials : firstFailure a.credentialGates = none := by
        rw [credentialGates, gate_of_not (not_not_intro hVersion)]
        exact gate_of_not (by simp [hToken]) _ _
      rw [bind_of_ok hTaken, takeChallenge_bind]
      dsimp only
      rw [hBooks.challenge?_announced a hOpen hKey, hIssued]
      by_cases hEcho : a.issued? = some a.echo
      · rw [if_neg (not_not_intro hEcho)]
        exact resolve_cases ha hRequest hCredentials hToken hEcho _
      · rw [if_pos hEcho]
        exact .kept _ hRequest hCredentials (gate_of hEcho _ _)

end Handshake

end Gatehouse
