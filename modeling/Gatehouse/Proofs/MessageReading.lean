import Gatehouse.Proofs.DeclaredBytes
import Gatehouse.Proofs.Reading
import Gatehouse.Wire.ServerMessage

/-!
# Reading messages back

Messages carry no length, so the reader finds the next one only by taking off exactly what was
written. On bytes that nobody wrote it still ends: each round takes at least the opcode.
-/

namespace Gatehouse.Wire

open Octets

/-! ## Reads that go by the bytes -/

/-- A read that brings the same for readers that offer the same bytes, wherever these stand, and
leaves the same bytes to be offered. -/
def Read.Uniform {α : Type} (read : Read α) : Prop :=
  ∀ (r q : FrameReader) (bs : Octets), r.Offers bs → q.Offers bs →
    (read r).1 = (read q).1 ∧ ∃ rest, (read r).2.Offers rest ∧ (read q).2.Offers rest

namespace Read

variable {α β : Type}

theorem uniform_pure (a : α) : (pure a : Read α).Uniform :=
  fun _ _ bs hr hq => ⟨rfl, bs, hr, hq⟩

theorem Uniform.bind {read : Read α} {next : α → Read β} (hRead : read.Uniform)
    (hNext : ∀ a, (next a).Uniform) : (read >>= next).Uniform := by
  intro r q bs hr hq
  obtain ⟨hSame, rest, hr', hq'⟩ := hRead r q bs hr hq
  rw [bind_eq, bind_eq, hSame]
  exact hNext _ _ _ _ hr' hq'

theorem uniform_bytes (n : Nat) : (bytes n).Uniform := by
  intro r q bs hr hq
  by_cases hShort : bs.length < n
  · have hNone : ∀ p : FrameReader, p.Offers bs → bytes n p = (none, p) :=
      fun p hp => if_pos (hp.remaining.trans_lt hShort)
    rw [hNone r hr, hNone q hq]
    exact ⟨rfl, bs, hr, hq⟩
  · have hSplit : bs.take n ++ bs.drop n = bs := List.take_append_drop n bs
    have hLength : (bs.take n).length = n := List.length_take_of_le (Nat.le_of_not_lt hShort)
    rw [← hSplit] at hr hq
    obtain ⟨r', hTake, hr'⟩ := hr.take
    obtain ⟨q', hOther, hq'⟩ := hq.take
    rw [hLength] at hTake hOther
    have hTake : bytes n r = (some (bs.take n), r') := hTake
    have hOther : bytes n q = (some (bs.take n), q') := hOther
    rw [hTake, hOther]
    exact ⟨rfl, bs.drop n, hr', hq'⟩

theorem uniform_number (size : Nat) : (number size).Uniform := by
  rw [number_eq_bytes]
  exact (uniform_bytes size).bind fun _ => uniform_pure _

theorem uniform_u8 : u8.Uniform :=
  (uniform_number 1).bind fun _ => uniform_pure _

theorem uniform_u32 : u32.Uniform :=
  (uniform_number 4).bind fun _ => uniform_pure _

theorem uniform_text : text.Uniform := by
  refine (uniform_number 2).bind fun n => ?_
  split
  · exact uniform_pure ""
  · exact (uniform_bytes n).bind fun _ => uniform_pure _

end Read

namespace ServerMessage

/-- The message as a client sees it: texts lose the characters that have no byte. -/
def restrict : ServerMessage → ServerMessage
  | loginError text => loginError (Latin1.restrict text)
  | waitingList text retrySeconds => waitingList (Latin1.restrict text) retrySeconds
  | extended opcode text => extended opcode (Latin1.restrict text)
  | m => m

variable {r : FrameReader} {bs : Octets} {m : ServerMessage}

theorem uniform_readBody (opcode : UInt8) : (readBody opcode).Uniform := by
  rw [readBody]
  split
  · exact Read.uniform_u32.bind fun _ => Read.uniform_u8.bind fun _ => Read.uniform_pure _
  split
  · exact Read.uniform_text.bind fun _ => Read.uniform_pure _
  split
  · exact Read.uniform_text.bind fun _ => Read.uniform_u8.bind fun _ => Read.uniform_pure _
  split
  · exact Read.uniform_u8.bind fun _ => Read.uniform_text.bind fun _ => Read.uniform_pure _
  iterate 3
    split
    · exact Read.uniform_pure _
  exact Read.uniform_pure _

/-- One round of the reading: the opcode and what belongs to it. -/
def next : Read ServerMessage := do
  readBody (← Read.u8)

theorem uniform_next : next.Uniform :=
  Read.uniform_u8.bind uniform_readBody

theorem readAll_eq (r : FrameReader) :
    readAll r =
      if 0 < r.remaining then
        if (next r).1.isUnknown then ([(next r).1], (next r).2)
        else ((next r).1 :: (readAll (next r).2).1, (readAll (next r).2).2)
      else ([], r) := by
  rw [readAll]
  rfl

theorem remaining_next_lt (hUnread : 0 < r.remaining) : (next r).2.remaining < r.remaining :=
  Nat.lt_of_le_of_lt (remaining_readBody_le _ _) (Read.remaining_u8_lt hUnread)

/-! ## What was written -/

theorem isUnknown_restrict (m : ServerMessage) : m.restrict.isUnknown = m.isUnknown := by
  cases m <;> rfl

theorem length_encode_pos (m : ServerMessage) : 0 < m.encode.length := by
  cases m <;> exact Nat.succ_pos _

/-- A message is taken off the front of what is offered, and nothing more. -/
theorem next_encode (hKnown : m.isUnknown = false) (hr : r.Offers (m.encode ++ bs)) :
    ∃ q, next r = (m.restrict, q) ∧ q.Offers bs := by
  have hOpcode : ∀ (opcode : UInt8) (body : Octets), m.encode = opcode :: body →
      ∃ q, q.Offers (body ++ bs) ∧ next r = readBody opcode q := by
    intro opcode body hEncode
    have hByte : m.encode ++ bs = (Field.u8 opcode).encode ++ (body ++ bs) := by
      rw [hEncode, Field.encode_u8, List.cons_append, List.singleton_append]
    rw [hByte] at hr
    obtain ⟨q, hRead, hq⟩ := Read.u8_eq hr
    refine ⟨q, hq, ?_⟩
    rw [next, Read.bind_eq, hRead]
  cases m with
  | challenge timestamp random =>
    obtain ⟨q, hq, hNext⟩ := hOpcode _ _ rfl
    simp only [Field.encodeAll, List.flatMap_cons, List.flatMap_nil, List.append_nil,
      List.append_assoc] at hq
    obtain ⟨q₁, hTimestamp, hq⟩ := Read.u32_eq hq
    obtain ⟨q₂, hRandom, hq⟩ := Read.u8_eq hq
    refine ⟨q₂, ?_, hq⟩
    have hBody : readBody ServerOpcode.challenge q =
        (do return challenge (← Read.u32) (← Read.u8)) q := rfl
    rw [hNext, hBody, Read.bind_eq, hTimestamp, Read.bind_eq, hRandom]
    rfl
  | loginError text =>
    obtain ⟨q, hq, hNext⟩ := hOpcode _ _ rfl
    obtain ⟨q₁, hText, hq⟩ := Read.text_eq (s := text) hq
    refine ⟨q₁, ?_, hq⟩
    have hBody : readBody ServerOpcode.loginError q = (do return loginError (← Read.text)) q := rfl
    rw [hNext, hBody, Read.bind_eq, hText]
    rfl
  | waitingList text retrySeconds =>
    obtain ⟨q, hq, hNext⟩ := hOpcode _ _ rfl
    simp only [Field.encodeAll, List.flatMap_cons, List.flatMap_nil, List.append_nil,
      List.append_assoc] at hq
    obtain ⟨q₁, hText, hq⟩ := Read.text_eq hq
    obtain ⟨q₂, hSeconds, hq⟩ := Read.u8_eq hq
    refine ⟨q₂, ?_, hq⟩
    have hBody : readBody ServerOpcode.waitingList q =
        (do return waitingList (← Read.text) (← Read.u8)) q := rfl
    rw [hNext, hBody, Read.bind_eq, hText, Read.bind_eq, hSeconds]
    rfl
  | extended opcode text =>
    obtain ⟨q, hq, hNext⟩ := hOpcode _ _ rfl
    simp only [Field.encodeAll, List.flatMap_cons, List.flatMap_nil, List.append_nil,
      List.append_assoc] at hq
    obtain ⟨q₁, hExtended, hq⟩ := Read.u8_eq hq
    obtain ⟨q₂, hText, hq⟩ := Read.text_eq hq
    refine ⟨q₂, ?_, hq⟩
    have hBody : readBody ServerOpcode.extended q =
        (do return extended (← Read.u8) (← Read.text)) q := rfl
    rw [hNext, hBody, Read.bind_eq, hExtended, Read.bind_eq, hText]
    rfl
  | enterWorld =>
    obtain ⟨q, hq, hNext⟩ := hOpcode _ _ rfl
    exact ⟨q, hNext, hq⟩
  | ping =>
    obtain ⟨q, hq, hNext⟩ := hOpcode _ _ rfl
    exact ⟨q, hNext, hq⟩
  | pingBack =>
    obtain ⟨q, hq, hNext⟩ := hOpcode _ _ rfl
    exact ⟨q, hNext, hq⟩
  | unknown opcode => cases hKnown

/-! ## Runs -/

/-- The reading goes by the bytes that are offered, whatever they are. -/
theorem uniform_readAll {q : FrameReader} (hr : r.Offers bs) (hq : q.Offers bs) :
    (readAll r).1 = (readAll q).1 := by
  induction r using (measure FrameReader.remaining).wf.induction generalizing q bs with
  | h r ih =>
    have hRemaining : q.remaining = r.remaining := hq.remaining.trans hr.remaining.symm
    obtain ⟨hSame, rest, hr', hq'⟩ := uniform_next r q bs hr hq
    rw [readAll_eq, readAll_eq q, hRemaining, hSame]
    by_cases hUnread : 0 < r.remaining
    · rw [if_pos hUnread, if_pos hUnread]
      split
      · rfl
      · exact congrArg (List.cons (next q).1) (ih _ (remaining_next_lt hUnread) hr' hq')
    · rw [if_neg hUnread, if_neg hUnread]

theorem readAll_flatMap_encode {ms : List ServerMessage} (hKnown : ∀ m ∈ ms, m.isUnknown = false)
    {q : FrameReader} (hr : r.Offers (ms.flatMap encode ++ bs)) (hq : q.Offers bs) :
    (readAll r).1 = ms.map restrict ++ (readAll q).1 := by
  induction ms generalizing r with
  | nil => exact uniform_readAll hr hq
  | cons m ms ih =>
    have hFirst := hKnown m List.mem_cons_self
    have hUnread : 0 < r.remaining := by
      rw [hr.remaining, List.flatMap_cons, List.length_append, List.length_append]
      have := length_encode_pos m
      omega
    rw [List.flatMap_cons, List.append_assoc] at hr
    obtain ⟨p, hNext, hp⟩ := next_encode hFirst hr
    rw [readAll_eq, if_pos hUnread, hNext, isUnknown_restrict, hFirst]
    exact congrArg _ (ih (fun other hOther => hKnown other (List.mem_cons_of_mem _ hOther)) hp)

/-- The reading with a bound on the number of its rounds, and no result if these do not do. -/
def readWithin : (rounds : Nat) → FrameReader → Option (List ServerMessage × FrameReader)
  | 0, r => if 0 < r.remaining then none else some ([], r)
  | rounds + 1, r =>
    if 0 < r.remaining then
      if (next r).1.isUnknown then some ([(next r).1], (next r).2)
      else (readWithin rounds (next r).2).map fun (ms, q) => ((next r).1 :: ms, q)
    else some ([], r)

theorem readWithin_eq {rounds : Nat} (hRounds : r.remaining ≤ rounds) :
    readWithin rounds r = some (readAll r) := by
  induction rounds generalizing r with
  | zero =>
    have hNone : ¬ 0 < r.remaining := by omega
    rw [readWithin, readAll_eq, if_neg hNone, if_neg hNone]
  | succ rounds ih =>
    rw [readWithin, readAll_eq]
    by_cases hUnread : 0 < r.remaining
    · have hLess := remaining_next_lt hUnread
      rw [if_pos hUnread, if_pos hUnread]
      split
      · rfl
      · rw [ih (by omega)]
        rfl
    · rw [if_neg hUnread, if_neg hUnread]

/-- What has been read off any bytes. -/
structure Ends (unread : Nat) (result : List ServerMessage × FrameReader) : Prop where
  length : result.1.length ≤ unread
  known : ∀ m ∈ result.1.dropLast, m.isUnknown = false
  unread : 0 < result.2.remaining → ∃ opcode, result.1.getLast? = some (.unknown opcode)

theorem ends_readAll (r : FrameReader) : Ends r.remaining (readAll r) := by
  induction r using (measure FrameReader.remaining).wf.induction with
  | h r ih =>
    rw [readAll_eq]
    by_cases hUnread : 0 < r.remaining
    · have hLess := remaining_next_lt hUnread
      obtain ⟨hLength, hKnown, hRest⟩ := ih (next r).2 hLess
      rw [if_pos hUnread]
      cases hUnknown : (next r).1.isUnknown with
      | true =>
        obtain ⟨opcode, hOpcode⟩ : ∃ opcode, (next r).1 = .unknown opcode := by
          generalize (next r).1 = m at hUnknown
          cases m with
          | unknown opcode => exact ⟨opcode, rfl⟩
          | _ => cases hUnknown
        exact ⟨hUnread, fun m hm => (nomatch hm), fun _ => ⟨opcode, congrArg some hOpcode⟩⟩
      | false =>
        rw [if_neg Bool.false_ne_true]
        refine ⟨Nat.lt_of_le_of_lt hLength hLess, ?_, fun hMore => ?_⟩
        · dsimp only
          cases hLater : (readAll (next r).2).1 with
          | nil => exact fun m hm => nomatch hm
          | cons m ms =>
            rw [hLater] at hKnown
            exact List.forall_mem_cons.mpr ⟨hUnknown, hKnown⟩
        · obtain ⟨opcode, hLast⟩ := hRest hMore
          exact ⟨opcode, by rw [List.getLast?_cons, hLast, Option.getD_some]⟩
    · rw [if_neg hUnread]
      exact ⟨Nat.zero_le _, fun m hm => (nomatch hm), fun hMore => absurd hMore hUnread⟩

/-- What the server has written is read back message by message, whatever follows it, and then the
rest as it would be read alone. Of any bytes, written or not, no more rounds are needed than there
are bytes. -/
theorem messages_read_back :
    (∀ (ms : List ServerMessage) (rest : Octets) (r q : FrameReader),
      (∀ m ∈ ms, m.isUnknown = false) → r.Offers (ms.flatMap encode ++ rest) → q.Offers rest →
        (readAll r).1 = ms.map restrict ++ (readAll q).1) ∧
    ∀ (r : FrameReader) (rounds : Nat), r.remaining ≤ rounds →
      ∃ ms q, readWithin rounds r = some (ms, q) ∧ readAll r = (ms, q) ∧
        ms.length ≤ r.remaining ∧ (∀ m ∈ ms.dropLast, m.isUnknown = false) ∧
        (0 < q.remaining → ∃ opcode, ms.getLast? = some (.unknown opcode)) := by
  constructor
  · intro ms rest r q hKnown hr hq
    exact readAll_flatMap_encode hKnown hr hq
  · intro r rounds hRounds
    obtain ⟨hLength, hKnown, hUnread⟩ := ends_readAll r
    exact ⟨_, _, readWithin_eq hRounds, rfl, hLength, hKnown, hUnread⟩

/-- One message of each kind. An opcode that no message has and three more bytes follow, of which
the opcode is read and the rest is left. -/
theorem messages_read_back_all_kinds :
    let ms := [challenge 1700000000 77, loginError "Käse: 5€", waitingPlace 3 20,
      extendedAnnouncement, enterWorld, ping, pingBack]
    let r := FrameReader.ofFrame (zeros headerLength ++ (ms.flatMap encode ++ [0xEE, 1, 2, 3]))
    (readAll r).1 = [challenge 1700000000 77, loginError "Käse: 5", waitingPlace 3 20,
      extendedAnnouncement, enterWorld, ping, pingBack, unknown 0xEE] := by
  intro ms r
  let q := FrameReader.ofFrame (zeros headerLength ++ [0xEE, 1, 2, 3])
  obtain ⟨hBack, hEnds⟩ := messages_read_back
  have hBody : (ms.flatMap encode ++ [0xEE, 1, 2, 3]).length ≤ maxBody := by decide +kernel
  have hr : r.Offers (ms.flatMap encode ++ [0xEE, 1, 2, 3]) := FrameReader.offers_ofFrame rfl hBody
  have hq : q.Offers [0xEE, 1, 2, 3] := FrameReader.offers_ofFrame rfl (by decide)
  obtain ⟨last, p, hWithin, hAll, -⟩ := hEnds q 4 (by rw [hq.remaining]; decide)
  have hLast : (readWithin 4 q).map Prod.fst = some [unknown 0xEE] := by decide +kernel
  rw [hWithin] at hLast
  rw [hBack ms _ r q (by decide) hr hq, hAll, Option.some.inj hLast]
  decide +kernel

end ServerMessage

end Gatehouse.Wire
