import Gatehouse.Proofs.GuardedReads
import Gatehouse.Proofs.LoginReading
import Gatehouse.Proofs.LoginRequest
import Gatehouse.Proofs.RsaBlocks

/-!
# Login requests stay in their frame

The bytes of a login request say where its sealed block is, and the opened block is written to that
place. Whatever the bytes are, every range that is read or written lies in the buffer, and what is
written is the block. Nothing is written if the request is refused before the block is opened.
-/

namespace Gatehouse

open Octets Wire

namespace Octets

/-- The two differ at most in this many bytes from here on. -/
structure SameOutside (start n : Nat) (bs cs : Octets) : Prop where
  length : cs.length = bs.length
  outside : ∀ i, i < start ∨ start + n ≤ i → cs[i]? = bs[i]?

theorem sameOutside_refl (start n : Nat) (bs : Octets) : SameOutside start n bs bs :=
  ⟨rfl, fun _ _ => rfl⟩

theorem sameOutside_overwrite {bs patch : Octets} {start : Nat}
    (hFits : start + patch.length ≤ bs.length) :
    SameOutside start patch.length bs (overwrite bs start patch) := by
  refine ⟨length_overwrite hFits, fun i hOutside => ?_⟩
  have hInside : start ≤ bs.length := (Nat.le_add_right ..).trans hFits
  rcases hOutside with hBefore | hBehind
  · rw [← List.getElem?_take_of_lt hBefore, take_overwrite_of_le (Nat.le_refl _) hInside,
      List.getElem?_take_of_lt hBefore]
  · have hDrop := drop_overwrite_of_le hBehind hInside
    rw [← Nat.add_zero i, ← List.getElem?_drop, ← List.getElem?_drop, hDrop]

end Octets

namespace Rsa.Key

/-- A block is filled up with zeros and, at its end, with these bytes. -/
def fill? (width : Nat) (block out : Octets) : Option Octets :=
  if width < out.length then none
  else do
    let zeroed ← block.overwrite? 0 (zeros (width - out.length))
    let rest ← zeroed.slice? (width - out.length) zeroed.length
    if rest.length = out.length then zeroed.overwrite? (width - out.length) out else none

/-- The operation on the buffer of a block, with guards. -/
def guardedApply (key : Key) (block : Octets) : Option (Except Error Octets) :=
  if block.length ≠ key.blockLength then
    some (.error (.blockLength key.blockLength block.length))
  else if key.modulus ≤ ofBigEndian block then some (.error .outOfRange)
  else
    (fill? key.blockLength block (ofNat (powMod (ofBigEndian block) key.exponent key.modulus))).map
      .ok

theorem fill?_eq {width : Nat} {block out : Octets} (hWidth : block.length = width)
    (hFits : out.length ≤ width) :
    fill? width block out =
      some (overwrite (overwrite block 0 (zeros (width - out.length))) (width - out.length)
        out) := by
  have hZeros : 0 + (zeros (width - out.length)).length ≤ block.length := by
    rw [length_zeros, hWidth, Nat.zero_add]
    exact Nat.sub_le ..
  have hZeroed := (length_overwrite hZeros).trans hWidth
  have hSlice := slice?_eq (Nat.sub_le width out.length) hZeroed.ge
  have hRest := (length_slice hZeroed.ge).trans (Nat.sub_sub_self hFits)
  have hOut : width - out.length + out.length ≤
      (overwrite block 0 (zeros (width - out.length))).length := by
    rw [hZeroed, Nat.sub_add_cancel hFits]
  rw [fill?, if_neg (Nat.not_lt.mpr hFits), overwrite?_eq hZeros, Option.bind_eq_bind,
    Option.bind_some, hZeroed, hSlice, Option.bind_some, if_pos hRest,
    overwrite?_eq hOut]

theorem guardedApply_eq (key : Key) (block : Octets) :
    key.guardedApply block = some (key.apply block) := by
  by_cases hLength : block.length = key.blockLength
  case neg =>
    have hRefused : key.apply block = .error (.blockLength key.blockLength block.length) :=
      if_pos hLength
    rw [guardedApply, if_pos hLength, hRefused]
  by_cases hRange : key.modulus ≤ ofBigEndian block
  case pos =>
    rw [guardedApply, if_neg (not_not_intro hLength), if_pos hRange,
      apply_of_range hLength hRange]
  have hInside : ofBigEndian block < key.modulus := Nat.lt_of_not_le hRange
  have hModulus : 0 < key.modulus := Nat.zero_lt_of_lt hInside
  have hFilled := fill?_eq hLength (length_power_le hModulus (ofBigEndian block))
  rw [overwrite_power hModulus hLength] at hFilled
  rw [guardedApply, if_neg (not_not_intro hLength), if_neg hRange, apply_of_ok hLength hInside,
    powMod_eq]
  exact congrArg (Option.map Except.ok) hFilled

theorem length_of_apply {key : Key} {block out : Octets} (hApply : key.apply block = .ok out) :
    out.length = key.blockLength := by
  by_cases hLength : block.length = key.blockLength
  case neg =>
    have hRefused : key.apply block = .error (.blockLength key.blockLength block.length) :=
      if_pos hLength
    cases hRefused.symm.trans hApply
  by_cases hRange : key.modulus ≤ ofBigEndian block
  case pos => cases (apply_of_range hLength hRange).symm.trans hApply
  have hInside : ofBigEndian block < key.modulus := Nat.lt_of_not_le hRange
  cases (apply_of_ok hLength hInside).symm.trans hApply
  exact length_powerBlock (Nat.zero_lt_of_lt hInside) _

end Rsa.Key

namespace Login

/-! ## Reading with guards -/

def guardedBlock (key : Rsa.Key) : ExceptT Violation Guarded Unit := do
  let r ← get
  let unread ← r.store.slice? r.position r.unreadEnd
  let block ← unread.slice? 0 key.blockLength
  match ← key.guardedApply block with
  | .ok plain => Guarded.become { r with store := ← r.store.overwrite? r.position plain }
  | .error cause => throw (.rsa cause)

def guardedSealed (key : Rsa.Key) (system version : UInt16) :
    ExceptT Violation Guarded Prelude := do
  if (← Guarded.remaining) < key.blockLength then throw .truncatedRsaBlock
  guardedBlock key
  if (← Guarded.u8) ≠ 0 then throw .rsaPadding
  return { system, version, key := ← Guarded.words }

def guardedPrelude (key : Rsa.Key) : ExceptT Violation Guarded Prelude := do
  let sum ← Guarded.u32
  if sum ≠ 0 then throw (.loginChecksum sum)
  let id ← Guarded.u8
  if id ≠ loginRequest then throw (.unexpectedRequest id)
  let system ← Guarded.u16
  let version ← Guarded.u16
  Guarded.advance 4
  if key.blockLength + 4 < (← Guarded.remaining) then
    let _ ← Guarded.text
  Guarded.advance 3
  guardedSealed key system version

def guardedCredentials (system : UInt16) : ExceptT Rejection Guarded Credentials := do
  Guarded.advance 1
  match decodeToken? (← Guarded.text) with
  | none => throw .malformedSessionKey
  | some token =>
    if system = ClientSystem.qtLinux then
      let _ ← Guarded.text
      let _ ← Guarded.text
    let characterName ← Guarded.text
    let timestamp ← Guarded.u32
    let random ← Guarded.u8
    return { token, characterName, challenge := { timestamp, random } }

/-- The first part, and if it does not fail, the second one. -/
def inTurn {m : Type → Type} [Monad m] {ε δ α β : Type} (first : ExceptT ε m α)
    (second : ExceptT δ m β) : m (Except ε (α × Except δ β)) := do
  match ← first.run with
  | .error e => return .error e
  | .ok a => return .ok (a, ← second.run)

variable {key : Rsa.Key} {r : FrameReader}

/-- With a whole block left, the opened block goes to its place. -/
theorem write_opened {plain : Octets} (hr : r.Regular) (hRoom : key.blockLength ≤ r.remaining)
    (hApply : key.apply (r.unread.take key.blockLength) = .ok plain) :
    r.position + plain.length ≤ r.length ∧
      r.write r.position plain = { r with store := overwrite r.store r.position plain } := by
  have hPosition := hr.position
  have hCapacity := hr.capacity
  have hFits : r.position + plain.length ≤ r.length := by
    rw [FrameReader.remaining] at hRoom
    rw [Rsa.Key.length_of_apply hApply]
    omega
  refine ⟨hFits, ?_⟩
  rw [FrameReader.write, List.take_of_length_le (by omega)]

theorem followsAt_block (hr : r.Regular) (hRoom : key.blockLength ≤ r.remaining) :
    FollowsAt r (guardedBlock key) (openBlock key) := by
  have hEnd : r.unreadEnd = r.length := Nat.max_eq_left hr.position
  have hUnread : r.store.slice? r.position r.unreadEnd = some r.unread :=
    slice?_eq (Nat.le_max_right ..) (hEnd.symm ▸ hr.length)
  have hBlock : r.unread.slice? 0 key.blockLength = some (r.unread.take key.blockLength) := by
    refine slice?_eq (Nat.zero_le _) ?_
    rw [FrameReader.unread, length_slice (hEnd.symm ▸ hr.length), hEnd]
    exact hRoom
  have hApplied := key.guardedApply_eq (r.unread.take key.blockLength)
  cases hApply : key.apply (r.unread.take key.blockLength) with
  | error cause =>
    have hRead := openBlock_of_error hApply
    refine ⟨?_, hRead ▸ hr.refl⟩
    rw [hApply] at hApplied
    rw [guardedBlock, get_bind, some_bind hUnread, some_bind hBlock, some_bind hApplied, hRead]
    rfl
  | ok plain =>
    have hRead := openBlock_of_ok hApply
    obtain ⟨hFits, hWrite⟩ := write_opened hr hRoom hApply
    have hOnward : FrameReader.Onward r (r.write r.position plain) := by
      rw [hWrite]
      exact ⟨Nat.le_refl _, hr.position, rfl, length_overwrite (hFits.trans hr.length)⟩
    refine ⟨?_, hRead ▸ hOnward⟩
    rw [hApply] at hApplied
    rw [guardedBlock, get_bind, some_bind hUnread, some_bind hBlock, some_bind hApplied, hRead]
    dsimp only
    rw [some_bind (overwrite?_eq (hFits.trans hr.length)), ← hWrite]
    change (Guarded.become _ r).bind _ = _
    rw [become_eq hOnward]
    rfl

theorem follows_sealed (key : Rsa.Key) (system version : UInt16) :
    Follows (guardedSealed key system version) (readSealed key system version) := by
  intro r hr
  refine (follows_remaining r hr).lift_bind
    (.ite (fun _ => follows_throw_bind _ r hr) fun hRoom => ?_)
  refine (followsAt_block hr (Nat.le_of_not_lt hRoom)).bind_except hr fun _ => ?_
  refine follows_u8.lift_bind fun zero => .ite (follows_throw_bind _) ?_
  exact follows_words.lift_bind fun words => follows_pure _

theorem follows_prelude (key : Rsa.Key) : Follows (guardedPrelude key) (readPrelude key) := by
  rw [readPrelude_split]
  refine follows_u32.lift_bind fun sum => .ite (follows_throw_bind _) ?_
  refine follows_u8.lift_bind fun id => .ite (follows_throw_bind _) ?_
  refine follows_u16.lift_bind fun system => follows_u16.lift_bind fun version => ?_
  refine (follows_advance 4).lift_bind fun _ => ?_
  rw [readBehindVersion]
  refine follows_remaining.lift_bind fun left => ?_
  have hBehind : Follows
      (liftM (Guarded.advance 3) >>= fun _ => guardedSealed key system version :
        ExceptT Violation Guarded Prelude)
      (liftM (Read.advance 3) >>= fun _ => readSealed key system version :
        ExceptT Violation Read Prelude) :=
    (follows_advance 3).lift_bind fun _ => follows_sealed key system version
  exact .ite (follows_text.lift_bind fun _ => hBehind) hBehind

theorem follows_credentials (system : UInt16) :
    Follows (guardedCredentials system) (readCredentials system) := by
  refine (follows_advance 1).lift_bind fun _ => follows_text.lift_bind fun text => ?_
  cases decodeToken? text with
  | none => exact follows_throw _
  | some token =>
    have hBehind : Follows
        (do
          let characterName ← Guarded.text
          let timestamp ← Guarded.u32
          let random ← Guarded.u8
          return { token, characterName, challenge := { timestamp, random } } :
            ExceptT Rejection Guarded Credentials)
        (do
          let characterName ← Read.text
          let timestamp ← Read.u32
          let random ← Read.u8
          return { token, characterName, challenge := { timestamp, random } } :
            ExceptT Rejection Read Credentials) :=
      follows_text.lift_bind fun _ => follows_u32.lift_bind fun _ =>
        follows_u8.lift_bind fun _ => follows_pure _
    exact .ite (follows_text.lift_bind fun _ => follows_text.lift_bind fun _ => hBehind) hBehind

theorem follows_inTurn {ε δ α β : Type} {gFirst : ExceptT ε Guarded α} {first : ExceptT ε Read α}
    {gSecond : ExceptT δ Guarded β} {second : ExceptT δ Read β} (hFirst : Follows gFirst first)
    (hSecond : Follows gSecond second) : Follows (inTurn gFirst gSecond) (inTurn first second) := by
  refine Follows.bind hFirst fun result => ?_
  cases result with
  | error e => exact follows_pure _
  | ok a => exact Follows.bind hSecond fun _ => follows_pure _

/-! ## What is written -/

/-- Every step up to the sealed half reads a number or a text or passes over bytes. -/
theorem Request.rest_of_steps {P : FrameReader → Prop} (key : Rsa.Key)
    (hNumber : ∀ (size : Nat) (q : FrameReader), P q → P (q.number size).2)
    (hText : ∀ q : FrameReader, P q → P (Read.text q).2)
    (hAdvance : ∀ (n : Nat) (q : FrameReader), P q → P (q.advance n)) (hr : P r) :
    P (Request.read key r).rest := by
  have h₁ : P (Read.u32 r).2 := hNumber 4 r hr
  rw [Request.read]
  dsimp only
  generalize (Read.u32 r).2 = r₁ at h₁
  have h₂ : P (Read.u8 r₁).2 := hNumber 1 r₁ h₁
  generalize (Read.u8 r₁).2 = r₂ at h₂
  have h₃ : P (Read.u16 r₂).2 := hNumber 2 r₂ h₂
  generalize (Read.u16 r₂).2 = r₃ at h₃
  have h₄ : P ((Read.u16 r₃).2.advance 4) := hAdvance 4 _ (hNumber 2 r₃ h₃)
  generalize (Read.u16 r₃).2.advance 4 = r₄ at h₄
  refine hAdvance 3 _ ?_
  split
  · exact hText r₄ h₄
  · exact h₄

theorem Request.store_rest (key : Rsa.Key) (r : FrameReader) :
    (Request.read key r).rest.store = r.store :=
  Request.rest_of_steps key (fun size q hq => (Read.keeps_number size q).trans hq)
    (fun q hq => (Read.keeps_text q).trans hq) (fun _ _ hq => hq) rfl

theorem Request.regular_rest (key : Rsa.Key) (hr : r.Regular) :
    (Request.read key r).rest.Regular :=
  Request.rest_of_steps key (fun size q hq => hq.onward (follows_number size q hq).onward)
    (fun q hq => hq.onward (follows_text q hq).onward)
    (fun n q hq => hq.onward (follows_advance n q hq).onward) hr

/-- Only the place of the block is written to, and not if the block is refused before it is
opened. -/
structure Written (start n : Nat) (bs : Octets) {α : Type}
    (result : Except Violation α × FrameReader) : Prop where
  same : SameOutside start n bs result.2.store
  refused : ∀ fault, result.1 = .error fault → fault ≠ .rsaPadding → result.2.store = bs

theorem written_of_store_eq {α : Type} {result : Except Violation α × FrameReader} {bs : Octets}
    (start n : Nat) (hStore : result.2.store = bs) : Written start n bs result where
  same := hStore ▸ sameOutside_refl ..
  refused _ _ _ := hStore

theorem written_readSealed (system version : UInt16) (hr : r.Regular) :
    Written r.position key.blockLength r.store (readSealed key system version r) := by
  rw [readSealed_eq]
  split
  case isTrue => exact written_of_store_eq _ _ rfl
  case isFalse hRoom =>
    cases hApply : key.apply (r.unread.take key.blockLength) with
    | error cause => exact written_of_store_eq _ _ rfl
    | ok plain =>
      obtain ⟨hFits, hWrite⟩ := write_opened hr (Nat.le_of_not_lt hRoom) hApply
      have hSame : SameOutside r.position key.blockLength r.store
          (r.write r.position plain).store := by
        rw [hWrite, ← Rsa.Key.length_of_apply hApply]
        exact sameOutside_overwrite (hFits.trans hr.length)
      dsimp only
      split
      · refine ⟨?_, fun fault hFault hOther => absurd (Except.error.inj hFault).symm hOther⟩
        rw [Read.keeps_u8]
        exact hSame
      · refine ⟨?_, fun fault hFault => nomatch hFault⟩
        rw [Read.keeps_words, Read.keeps_u8]
        exact hSame

theorem written_readPrelude (key : Rsa.Key) (hr : r.Regular) :
    Written (Request.read key r).rest.position key.blockLength r.store (readPrelude key r) := by
  rw [readPrelude_eq]
  split
  · exact written_of_store_eq _ _ (Read.keeps_u32 r)
  split
  · exact written_of_store_eq _ _ ((Read.keeps_u8 _).trans (Read.keeps_u32 r))
  · rw [← Request.store_rest key r]
    exact written_readSealed _ _ (Request.regular_rest key hr)

theorem store_readCredentials (system : UInt16) (r : FrameReader) :
    (readCredentials system r).2.store = r.store := by
  have hToken : (Read.text (r.advance 1)).2.store = r.store := Read.keeps_text (r.advance 1)
  rw [readCredentials_eq]
  generalize (Read.text (r.advance 1)).2 = q at hToken
  have hPlatform : (passPlatform system q).store = r.store := by
    rw [passPlatform]
    split
    · exact (Read.keeps_text _).trans ((Read.keeps_text q).trans hToken)
    · exact hToken
  cases decodeToken? (Read.text (r.advance 1)).1 with
  | none => exact hToken
  | some token =>
    dsimp only
    rw [Read.keeps_u8, Read.keeps_u32, Read.keeps_text, hPlatform]

/-! ## Both parts -/

theorem inTurn_of_error {ε δ α β : Type} {first : ExceptT ε Read α} (second : ExceptT δ Read β)
    {e : ε} {q : FrameReader} (hFirst : first r = (.error e, q)) :
    (inTurn first second : Read _) r = (.error e, q) := by
  have hRun : first.run r = _ := hFirst
  rw [inTurn, Read.bind_eq, hRun]
  rfl

theorem inTurn_of_ok {ε δ α β : Type} {first : ExceptT ε Read α} (second : ExceptT δ Read β)
    {a : α} {q : FrameReader} (hFirst : first r = (.ok a, q)) :
    (inTurn first second : Read _) r = (.ok (a, (second q).1), (second q).2) := by
  have hRun : first.run r = _ := hFirst
  rw [inTurn, Read.bind_eq, hRun]
  rfl

theorem store_inTurn (key : Rsa.Key) (system : UInt16) (r : FrameReader) :
    ((inTurn (readPrelude key) (readCredentials system) : Read _) r).2.store =
      (readPrelude key r).2.store := by
  rcases hPrelude : readPrelude key r with ⟨fault | prelude, q⟩
  · rw [inTurn_of_error _ hPrelude]
  · rw [inTurn_of_ok _ hPrelude]
    dsimp only
    rw [store_readCredentials]

theorem regular_of_carries {header body : Octets} (hCarries : r.Carries (header ++ body))
    (hHeader : header.length = headerLength) (hPosition : r.position = headerLength)
    (hBody : body.length ≤ maxLoginBody) : r.Regular := by
  obtain ⟨rest, hStore, hLength⟩ := hCarries
  have hSize : r.length = headerLength + body.length := by
    rw [hLength, List.length_append, hHeader]
  refine ⟨⟨?_, ?_⟩, ?_⟩
  · rw [hPosition, hSize]
    exact Nat.le_add_right ..
  · rw [hLength, hStore]
    exact (List.prefix_append ..).length_le
  · rw [hSize, FrameReader.capacity]
    exact Nat.add_le_add_left (hBody.trans (by decide)) _

/-- Whatever the body is, the key and the system, the guards let the reading through, so that every
range is there and no step takes the cursor back or out of the frame. Bytes change at most in the
place of the block, behind the revision, and not where the request is refused before the block has
been opened. -/
theorem login_reading_stays_in_frame (key : Rsa.Key) (system : UInt16) {header body : Octets}
    (hCarries : r.Carries (header ++ body)) (hHeader : header.length = headerLength)
    (hPosition : r.position = headerLength) (hBody : body.length ≤ maxLoginBody) :
    let start := (Request.read key r).rest.position
    let result := (inTurn (readPrelude key) (readCredentials system) : Read _) r
    inTurn (guardedPrelude key) (guardedCredentials system) r = some result ∧
      FrameReader.Onward r result.2 ∧
      SameOutside start key.blockLength r.store result.2.store ∧
      ∀ fault q, readPrelude key r = (.error fault, q) → fault ≠ .rsaPadding →
        result.2 = q ∧ q.store = r.store := by
  intro start result
  have hr := regular_of_carries hCarries hHeader hPosition hBody
  obtain ⟨hGuarded, hOnward⟩ :=
    follows_inTurn (follows_prelude key) (follows_credentials system) r hr
  obtain ⟨hSame, hRefused⟩ := written_readPrelude key hr
  refine ⟨hGuarded, hOnward, ?_, fun fault q hFault hOther => ?_⟩
  · rw [← store_inTurn key system r] at hSame
    exact hSame
  · rw [hFault] at hRefused
    exact ⟨congrArg Prod.snd (inTurn_of_error _ hFault), hRefused fault rfl hOther⟩

open LoginForm (sample sampleKey)

def sampleFrame : Octets :=
  (sample.frame ⟨sampleKey.modulus, 7⟩ ⟨5, 6⟩).toOption.getD []

/-- A request that is read up to the challenge. Its block stands from the 26th byte of the frame
on. -/
theorem sample_request_stays_in_frame :
    sample.frame ⟨sampleKey.modulus, 7⟩ ⟨5, 6⟩ = .ok sampleFrame ∧
      ∃ credentials q,
        inTurn (guardedPrelude sampleKey) (guardedCredentials ClientSystem.qtLinux)
            (.ofFrame sampleFrame) =
          some (.ok ({ system := ClientSystem.qtLinux, version := 1100, key := ⟨1, 2, 3, 4⟩ },
            .ok credentials), q) ∧
        credentials.challenge = ⟨5, 6⟩ ∧ FrameReader.Onward (.ofFrame sampleFrame) q ∧
        SameOutside 25 66 (FrameReader.ofFrame sampleFrame).store q.store := by
  have hFrame : sample.frame ⟨sampleKey.modulus, 7⟩ ⟨5, 6⟩ = .ok sampleFrame := by decide +kernel
  have hFit : sampleFrame.length ≤ FrameReader.capacity := by decide +kernel
  have hStart : (Request.read sampleKey (.ofFrame sampleFrame)).rest.position = 25 := by
    decide +kernel
  have hLength : sampleKey.blockLength = 66 := by decide +kernel
  have hCarries := FrameReader.carries_ofFrame hFit
  have hInverse := LoginForm.sampleKey_inverse
  obtain ⟨sealedHalf, hFits, hParts⟩ := LoginForm.frame_eq_ok_iff.mp hFrame
  -- from here on the numbers of the key are not looked at any more
  generalize sampleFrame = frame at *
  generalize sampleKey = key at *
  obtain ⟨modulus, d⟩ := key
  subst hParts
  obtain ⟨r', rest, hPrelude, hRest⟩ :=
    LoginForm.readPrelude_frame hInverse hFits (hFits.offers hCarries rfl)
  have hCredentials := LoginForm.readCredentials_frame hRest
  rw [if_neg (by decide)] at hCredentials
  obtain ⟨hGuarded, hOnward, hSame, -⟩ := login_reading_stays_in_frame ⟨modulus, d⟩
    ClientSystem.qtLinux hCarries (length_littleEndian ..) rfl hFits.body
  rw [hStart, hLength] at hSame
  rw [inTurn_of_ok _ hPrelude] at hGuarded hOnward hSame
  change (readCredentials ClientSystem.qtLinux r').1 = _ at hCredentials
  rw [hCredentials] at hGuarded
  exact ⟨hFrame, _, _, hGuarded, rfl, hOnward, hSame⟩

end Login

end Gatehouse
