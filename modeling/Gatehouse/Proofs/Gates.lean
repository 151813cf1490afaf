import Gatehouse.Proofs.LoginReading

/-!
# The gates of a login

Whoever sends a login request has to pass a row of gates, and the first that stops it decides about
the answer. The account is looked up between the gates of the door and those of the account, and at
no other place.
-/

namespace Gatehouse

open Login Wire

/-- What the gates see when the body of a login request has come. -/
structure Applicant where
  config : Config
  key : Rsa.Key
  state : WorldState
  store : AccountStore
  ip : IpAddress
  issued? : Option Challenge
  frame : FrameReader

namespace Applicant

variable {a : Applicant} {id : ConnectionId} {s : Server}

/-! ## What an applicant says -/

def request (a : Applicant) : Request :=
  .read a.key a.frame

def block (a : Applicant) : Except Rsa.Error Octets :=
  a.key.apply (a.request.rest.unread.take a.key.blockLength)

def opened (a : Applicant) : FrameReader :=
  match a.block with
  | .ok plain => a.request.opened plain
  | .error _ => a.request.rest

def words (a : Applicant) : Xtea.Words × FrameReader :=
  Read.words (Read.u8 a.opened).2

def prelude (a : Applicant) : Prelude where
  system := a.request.system
  version := a.request.version
  key := a.words.1

def tokenText (a : Applicant) : String × FrameReader :=
  Read.text (a.words.2.advance 1)

def token? (a : Applicant) : Option Octets :=
  decodeToken? a.tokenText.1

def name (a : Applicant) : String × FrameReader :=
  Read.text (passPlatform a.request.system a.tokenText.2)

def echo (a : Applicant) : Challenge :=
  ⟨(Read.u32 a.name.2).1, (Read.u8 (Read.u32 a.name.2).2).1⟩

/-- The account that the look-up finds, where zero stands for none. -/
def record? (a : Applicant) : Option SessionRecord :=
  (a.token?.bind fun token => a.store.findSession token a.name.1).filter (·.accountId != 0)

/-! ## Gates -/

/-- A gate that stops an applicant of whom something is true. -/
def gate (c : Prop) [Decidable c] (halt : Halt) : Option Halt :=
  if c then some halt else none

def requestGates (a : Applicant) : List (Option Halt) :=
  [gate (a.request.sum ≠ 0) (.violation (.loginChecksum a.request.sum)),
    gate (a.request.id ≠ loginRequest) (.violation (.unexpectedRequest a.request.id)),
    gate (a.request.rest.remaining < a.key.blockLength) (.violation .truncatedRsaBlock),
    match a.block with
    | .ok _ => none
    | .error cause => some (.violation (.rsa cause)),
    gate ((Read.u8 a.opened).1 ≠ 0) (.violation .rsaPadding)]

def credentialGates (a : Applicant) : List (Option Halt) :=
  [gate (¬ a.config.acceptsVersion a.request.version)
      (.rejected (.unsupportedVersion a.config.versionLabel)),
    gate (a.token? = none) (.rejected .malformedSessionKey)]

def doorGates (a : Applicant) : List (Option Halt) :=
  [gate (a.issued? ≠ some a.echo) (.violation .challengeMismatch),
    (Handshake.closedWorld a.state).map .rejected,
    (a.store.ipBan a.ip).map fun ban => .rejected (.ofIpBan ban)]

def accountGates (a : Applicant) : List (Option Halt) :=
  [gate (a.record? = none) (.rejected .invalidCredentials),
    a.record?.bind fun record =>
      gate (¬ record.authorizedIp.isLoopback ∧ record.authorizedIp ≠ a.ip)
        (.rejected .sessionIpMismatch)]

def outerGates (a : Applicant) : List (Option Halt) :=
  a.requestGates ++ a.credentialGates ++ a.doorGates

def gates (a : Applicant) : List (Option Halt) :=
  a.outerGates ++ a.accountGates

def firstFailure (gates : List (Option Halt)) : Option Halt :=
  gates.findSome? fun halt? => halt?

theorem firstFailure_append (xs ys : List (Option Halt)) :
    firstFailure (xs ++ ys) = (firstFailure xs).or (firstFailure ys) :=
  List.findSome?_append

theorem gate_of {c : Prop} [Decidable c] (hc : c) (halt : Halt) (rest : List (Option Halt)) :
    firstFailure (gate c halt :: rest) = some halt := by
  rw [gate, if_pos hc]
  rfl

theorem gate_of_not {c : Prop} [Decidable c] (hc : ¬ c) (halt : Halt)
    (rest : List (Option Halt)) : firstFailure (gate c halt :: rest) = firstFailure rest := by
  rw [gate, if_neg hc]
  rfl

theorem gate_eq_none_iff {c : Prop} [Decidable c] {halt : Halt} : gate c halt = none ↔ ¬ c := by
  rw [gate]
  split <;> simp_all

theorem forall_of_firstFailure_eq_none {gates : List (Option Halt)}
    (hNone : firstFailure gates = none) : ∀ halt? ∈ gates, halt? = none :=
  List.findSome?_eq_none_iff.mp hNone

/-! ## Reading goes through the gates -/

theorem readPrelude_of_stopped {halt : Halt} (hStopped : firstFailure a.requestGates = some halt) :
    ∃ v frame, halt = .violation v ∧ readPrelude a.key a.frame = (.error v, frame) := by
  have hRequest : Request.read a.key a.frame = a.request := rfl
  have hBlocks : a.key.apply (a.request.rest.unread.take a.key.blockLength) = a.block := rfl
  rw [readPrelude_eq, readSealed_eq, hRequest, hBlocks]
  rw [requestGates] at hStopped
  by_cases hSum : a.request.sum ≠ 0
  · rw [gate_of hSum] at hStopped
    exact ⟨_, _, (Option.some.inj hStopped).symm, if_pos hSum⟩
  rw [gate_of_not hSum] at hStopped
  rw [if_neg hSum]
  by_cases hId : a.request.id ≠ loginRequest
  · rw [gate_of hId] at hStopped
    exact ⟨_, _, (Option.some.inj hStopped).symm, if_pos hId⟩
  rw [gate_of_not hId] at hStopped
  rw [if_neg hId]
  by_cases hRoom : a.request.rest.remaining < a.key.blockLength
  · rw [gate_of hRoom] at hStopped
    exact ⟨_, _, (Option.some.inj hStopped).symm, if_pos hRoom⟩
  rw [gate_of_not hRoom] at hStopped
  rw [if_neg hRoom]
  cases hBlock : a.block with
  | error cause =>
    rw [hBlock] at hStopped
    exact ⟨_, _, (Option.some.inj hStopped).symm, rfl⟩
  | ok plain =>
    have hOpened : a.opened = a.request.rest.write a.request.rest.position plain := by
      rw [opened, hBlock]
      rfl
    rw [hBlock] at hStopped
    dsimp only
    rw [← hOpened]
    by_cases hLead : (Read.u8 a.opened).1 ≠ 0
    · replace hStopped : some _ = some halt := (gate_of hLead _ _).symm.trans hStopped
      exact ⟨_, _, (Option.some.inj hStopped).symm, if_pos hLead⟩
    · replace hStopped : firstFailure [] = some halt := (gate_of_not hLead _ _).symm.trans hStopped
      cases hStopped

theorem opens_of_passed (hPassed : firstFailure a.requestGates = none) :
    ∃ plain, a.block = .ok plain ∧ a.request.Opens a.key plain ∧
      a.opened = a.request.opened plain := by
  have hAll := forall_of_firstFailure_eq_none hPassed
  simp only [requestGates, List.forall_mem_cons, gate_eq_none_iff, not_not, Nat.not_lt] at hAll
  obtain ⟨hSum, hId, hRoom, hBlock, hLead, -⟩ := hAll
  cases hPlain : a.block with
  | error cause =>
    rw [hPlain] at hBlock
    cases hBlock
  | ok plain =>
    have hOpened : a.opened = a.request.opened plain := by rw [opened, hPlain]
    rw [hOpened] at hLead
    exact ⟨plain, rfl, ⟨hSum, hId, hRoom, hPlain, hLead⟩, hOpened⟩

/-- What is true of an applicant who has come past the door. -/
structure Cleared (a : Applicant) : Prop where
  opens : ∃ plain, a.request.Opens a.key plain
  version : a.config.acceptsVersion a.request.version = true
  token : ∃ token, Base64.decode a.tokenText.1.toList = some token ∧ token ≠ []
  challenge : a.issued? = some a.echo
  state : a.state ≠ .startup ∧ a.state ≠ .maintain
  ban : a.store.ipBan a.ip = none

theorem decode_of_decodeToken? {text : String} {token : Octets}
    (hToken : decodeToken? text = some token) :
    Base64.decode text.toList = some token ∧ token ≠ [] := by
  rw [decodeToken?] at hToken
  cases hDecode : Base64.decode text.toList with
  | none =>
    rw [hDecode] at hToken
    cases hToken
  | some decoded =>
    rw [hDecode] at hToken
    change (if decoded.isEmpty = true then none else some decoded) = some token at hToken
    split at hToken
    case isTrue => cases hToken
    case isFalse hSome =>
      cases hToken
      exact ⟨rfl, fun hEmpty => hSome (by rw [hEmpty]; rfl)⟩

theorem closedWorld_eq_none_iff {state : WorldState} :
    Handshake.closedWorld state = none ↔ state ≠ .startup ∧ state ≠ .maintain := by
  cases state <;> simp [Handshake.closedWorld]

theorem cleared_of_passed (hPassed : firstFailure a.outerGates = none) : a.Cleared := by
  rw [outerGates, firstFailure_append, firstFailure_append, Option.or_eq_none_iff,
    Option.or_eq_none_iff] at hPassed
  obtain ⟨⟨hRequest, hCredentials⟩, hDoor⟩ := hPassed
  obtain ⟨plain, -, hOpens, -⟩ := opens_of_passed hRequest
  replace hCredentials := forall_of_firstFailure_eq_none hCredentials
  replace hDoor := forall_of_firstFailure_eq_none hDoor
  simp only [credentialGates, List.forall_mem_cons, gate_eq_none_iff, not_not] at hCredentials
  simp only [doorGates, List.forall_mem_cons, gate_eq_none_iff, not_not, Option.map_eq_none_iff,
    closedWorld_eq_none_iff] at hDoor
  obtain ⟨hVersion, hToken, -⟩ := hCredentials
  obtain ⟨hChallenge, hState, hBan, -⟩ := hDoor
  obtain ⟨token, hToken⟩ := Option.ne_none_iff_exists'.mp hToken
  rw [token?] at hToken
  exact ⟨⟨plain, hOpens⟩, hVersion, ⟨token, decode_of_decodeToken? hToken⟩, hChallenge, hState,
    hBan⟩

/-- What is true of the account of an applicant whom no gate stops. -/
structure Entitled (a : Applicant) (record : SessionRecord) : Prop where
  found : ∃ token, a.token? = some token ∧ a.store.findSession token a.name.1 = some record
  account : record.accountId ≠ 0
  address : record.authorizedIp.isLoopback = true ∨ record.authorizedIp = a.ip

theorem entitled_of_passed {record : SessionRecord} (hRecord : a.record? = some record)
    (hPassed : firstFailure a.accountGates = none) : a.Entitled record := by
  have hAll := forall_of_firstFailure_eq_none hPassed
  simp only [accountGates, hRecord, Option.bind_some, List.forall_mem_cons,
    gate_eq_none_iff] at hAll
  obtain ⟨-, hAddress, -⟩ := hAll
  rw [record?, Option.filter_eq_some_iff, Option.bind_eq_some_iff] at hRecord
  obtain ⟨⟨token, hToken, hFound⟩, hAccount⟩ := hRecord
  refine ⟨⟨token, hToken, hFound⟩, by simpa using hAccount, ?_⟩
  by_cases hLoopback : record.authorizedIp.isLoopback = true
  · exact Or.inl hLoopback
  · exact Or.inr (not_not.mp fun hOther => hAddress ⟨hLoopback, hOther⟩)

theorem readPrelude_of_passed (hPassed : firstFailure a.requestGates = none) :
    readPrelude a.key a.frame = (.ok a.prelude, a.words.2) := by
  obtain ⟨plain, -, hOpens, hOpened⟩ := opens_of_passed hPassed
  have hRequest : Request.read a.key a.frame = a.request := rfl
  have hWords : Read.words (Read.u8 a.opened).2 = a.words := rfl
  rw [readPrelude_eq_ok_iff, hRequest, prelude]
  refine ⟨plain, hOpens, ?_⟩
  dsimp only
  rw [← hOpened, hWords]
  exact ⟨rfl, rfl, (Prod.eta _).symm⟩

theorem readCredentials_eq_match (a : Applicant) :
    readCredentials a.request.system a.words.2 =
      match a.token? with
      | none => (.error .malformedSessionKey, a.tokenText.2)
      | some token => (.ok { token, characterName := a.name.1, challenge := a.echo },
          (Read.u8 (Read.u32 a.name.2).2).2) := by
  have hText : Read.text (a.words.2.advance 1) = a.tokenText := rfl
  have hToken : decodeToken? a.tokenText.1 = a.token? := rfl
  have hName : Read.text (passPlatform a.request.system a.tokenText.2) = a.name := rfl
  rw [readCredentials_eq, hText, hToken, echo]
  cases a.token? with
  | none => rfl
  | some token =>
    dsimp only
    rw [hName]

-- From here on what is read stays closed: to open it is to run all reads before it.
attribute [irreducible] request opened words tokenText name

end Applicant

end Gatehouse
