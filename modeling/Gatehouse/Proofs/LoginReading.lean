import Mathlib.Tactic.ByContra
import Gatehouse.Proofs.Steps

/-!
# What reading a login request comes to

Reads bring zeros where bytes are missing, so every sequence of bytes reads as some request. The two
parts are read without a fault exactly if the fields that are checked are as they should be.
-/

namespace Gatehouse.Login

open Wire

/-- The open half of a request, with the cursor on the sealed half. -/
structure Request where
  sum : UInt32
  id : UInt8
  system : UInt16
  version : UInt16
  rest : FrameReader

/-- What a reader brings for the open half, faults or not. -/
def Request.read (key : Rsa.Key) (r : FrameReader) : Request :=
  let r₁ := (Read.u32 r).2
  let r₂ := (Read.u8 r₁).2
  let r₃ := (Read.u16 r₂).2
  let r₄ := (Read.u16 r₃).2.advance 4
  let r₅ := if key.blockLength + 4 < r₄.remaining then (Read.text r₄).2 else r₄
  { sum := (Read.u32 r).1, id := (Read.u8 r₁).1, system := (Read.u16 r₂).1
    version := (Read.u16 r₃).1, rest := r₅.advance 3 }

/-- The reader with the opened block in the place of the sealed one. -/
def Request.opened (q : Request) (plain : Octets) : FrameReader :=
  q.rest.write q.rest.position plain

structure Request.Opens (key : Rsa.Key) (q : Request) (plain : Octets) : Prop where
  sum : q.sum = 0
  id : q.id = loginRequest
  room : key.blockLength ≤ q.rest.remaining
  apply : key.apply (q.rest.unread.take key.blockLength) = .ok plain
  zero : (Read.u8 (q.opened plain)).1 = 0

def readSealed (key : Rsa.Key) (system version : UInt16) : ExceptT Violation Read Prelude := do
  if (← Read.remaining) < key.blockLength then throw .truncatedRsaBlock
  openBlock key
  if (← Read.u8) ≠ 0 then throw .rsaPadding
  return { system, version, key := ← Read.words }

section OpenBlock

variable {key : Rsa.Key} {r : FrameReader}

theorem openBlock_of_ok {plain : Octets}
    (hApply : key.apply (r.unread.take key.blockLength) = .ok plain) :
    openBlock key r = (.ok (), r.write r.position plain) := by
  rw [openBlock, bind_of_ok (get_eq r), hApply]
  rfl

theorem openBlock_of_error {cause : Rsa.Error}
    (hApply : key.apply (r.unread.take key.blockLength) = .error cause) :
    openBlock key r = (.error (.rsa cause), r) := by
  rw [openBlock, bind_of_ok (get_eq r), hApply]
  rfl

end OpenBlock

theorem openBlock_bind {key : Rsa.Key} {α : Type} (next : Unit → ExceptT Violation Read α)
    (r : FrameReader) :
    (openBlock key >>= next) r =
      match key.apply (r.unread.take key.blockLength) with
      | .ok plain => next () (r.write r.position plain)
      | .error cause => (.error (.rsa cause), r) := by
  cases hApply : key.apply (r.unread.take key.blockLength) with
  | ok plain => exact bind_of_ok (openBlock_of_ok hApply)
  | error cause => exact bind_of_error (openBlock_of_error hApply)

/-- The steps from the place of the version text on. -/
def readBehindVersion (key : Rsa.Key) (system version : UInt16) :
    ExceptT Violation Read Prelude := do
  if key.blockLength + 4 < (← Read.remaining) then
    let _ ← Read.text
  Read.advance 3
  readSealed key system version

theorem readBehindVersion_eq (key : Rsa.Key) (system version : UInt16) (r : FrameReader) :
    readBehindVersion key system version r =
      readSealed key system version
        ((if key.blockLength + 4 < r.remaining then (Read.text r).2 else r).advance 3) := by
  rw [readBehindVersion, lift_bind, show (Read.remaining r).1 = r.remaining from rfl,
    show (Read.remaining r).2 = r from rfl]
  dsimp only
  split
  case isTrue =>
    rw [lift_bind, lift_bind]
    rfl
  case isFalse =>
    rw [lift_bind]
    rfl

theorem readPrelude_split (key : Rsa.Key) : readPrelude key = (do
    let sum ← Read.u32
    if sum ≠ 0 then throw (.loginChecksum sum)
    let id ← Read.u8
    if id ≠ loginRequest then throw (.unexpectedRequest id)
    let system ← Read.u16
    let version ← Read.u16
    Read.advance 4
    readBehindVersion key system version) := by
  rw [readPrelude]
  simp only [readBehindVersion, readSealed]

theorem readPrelude_eq (key : Rsa.Key) (r : FrameReader) :
    readPrelude key r =
      if (Request.read key r).sum ≠ 0 then
        (.error (.loginChecksum (Request.read key r).sum), (Read.u32 r).2)
      else if (Request.read key r).id ≠ loginRequest then
        (.error (.unexpectedRequest (Request.read key r).id), (Read.u8 (Read.u32 r).2).2)
      else
        readSealed key (Request.read key r).system (Request.read key r).version
          (Request.read key r).rest := by
  have hAdvance : ∀ s : FrameReader, (Read.advance 4 s).2 = s.advance 4 := fun _ => rfl
  simp only [Request.read]
  rw [readPrelude_split, lift_bind, ite_throw]
  refine ite_congr rfl (fun _ => rfl) fun _ => ?_
  refine (lift_bind _ _ _).trans ?_
  rw [ite_throw]
  refine ite_congr rfl (fun _ => rfl) fun _ => ?_
  refine (lift_bind _ _ _).trans ?_
  rw [lift_bind, lift_bind, readBehindVersion_eq, hAdvance]

theorem readSealed_eq (key : Rsa.Key) (system version : UInt16) (r : FrameReader) :
    readSealed key system version r =
      if r.remaining < key.blockLength then (.error .truncatedRsaBlock, r)
      else
        match key.apply (r.unread.take key.blockLength) with
        | .error cause => (.error (.rsa cause), r)
        | .ok plain =>
          if (Read.u8 (r.write r.position plain)).1 ≠ 0 then
            (.error .rsaPadding, (Read.u8 (r.write r.position plain)).2)
          else
            (.ok { system, version
                   key := (Read.words (Read.u8 (r.write r.position plain)).2).1 },
              (Read.words (Read.u8 (r.write r.position plain)).2).2) := by
  rw [readSealed, lift_bind, ite_throw]
  refine ite_congr rfl (fun _ => rfl) fun _ => ?_
  dsimp only
  rw [openBlock_bind, show (Read.remaining r).2 = r from rfl]
  cases key.apply (r.unread.take key.blockLength) with
  | error cause => rfl
  | ok plain =>
    dsimp only
    rw [lift_bind, ite_throw]
    refine ite_congr rfl (fun _ => rfl) fun _ => ?_
    rw [lift_bind]
    rfl

/-- A reader that fails on a condition succeeds only without it. -/
theorem ite_error_eq_ok_iff {ε α σ : Type} {c : Prop} [Decidable c] {fault : ε} {a : α}
    {r₁ r₂ : σ} {result : Except ε α × σ} :
    (if c then (.error fault, r₁) else result) = (.ok a, r₂) ↔ ¬ c ∧ result = (.ok a, r₂) := by
  by_cases h : c <;> simp [h]

theorem readPrelude_eq_ok_iff {key : Rsa.Key} {r r' : FrameReader} {prelude : Prelude} :
    readPrelude key r = (.ok prelude, r') ↔
      ∃ plain, (Request.read key r).Opens key plain ∧
        prelude.system = (Request.read key r).system ∧
        prelude.version = (Request.read key r).version ∧
        Read.words (Read.u8 ((Request.read key r).opened plain)).2 = (prelude.key, r') := by
  rw [readPrelude_eq, readSealed_eq]
  generalize Request.read key r = q
  have hOpened : ∀ plain, q.rest.write q.rest.position plain = q.opened plain := fun _ => rfl
  change (_ : Except Violation Prelude × FrameReader) = (.ok prelude, r') ↔ _
  simp only [hOpened, ite_error_eq_ok_iff]
  constructor
  · rintro ⟨hSum, hId, hRoom, hRead⟩
    cases hApply : key.apply (q.rest.unread.take key.blockLength) with
    | error cause =>
      rw [hApply] at hRead
      cases hRead
    | ok plain =>
      rw [hApply] at hRead
      dsimp only at hRead
      rw [ite_error_eq_ok_iff, Prod.mk.injEq, Except.ok.injEq] at hRead
      obtain ⟨hZero, rfl, rfl⟩ := hRead
      refine ⟨plain, ⟨not_not.mp hSum, not_not.mp hId, Nat.not_lt.mp hRoom, hApply,
        not_not.mp hZero⟩, rfl, rfl, ?_⟩
      -- without the name both sides are evaluated down to the bytes
      generalize Read.words (Read.u8 (q.opened plain)).2 = words
      rfl
  · rintro ⟨plain, hOpens, hSystem, hVersion, hWords⟩
    refine ⟨not_not_intro hOpens.sum, not_not_intro hOpens.id, Nat.not_lt.mpr hOpens.room, ?_⟩
    rw [hOpens.apply]
    dsimp only
    rw [if_neg (not_not_intro hOpens.zero), hWords, ← hSystem, ← hVersion]

/-! ## Behind the cipher key -/

def passPlatform (system : UInt16) (r : FrameReader) : FrameReader :=
  if system = ClientSystem.qtLinux then (Read.text (Read.text r).2).2 else r

theorem readCredentials_eq (system : UInt16) (r : FrameReader) :
    readCredentials system r =
      match decodeToken? (Read.text (r.advance 1)).1 with
      | none => (.error .malformedSessionKey, (Read.text (r.advance 1)).2)
      | some token =>
        let r₁ := passPlatform system (Read.text (r.advance 1)).2
        let r₂ := (Read.text r₁).2
        let r₃ := (Read.u32 r₂).2
        (.ok { token, characterName := (Read.text r₁).1
               challenge := ⟨(Read.u32 r₂).1, (Read.u8 r₃).1⟩ }, (Read.u8 r₃).2) := by
  have hAdvance : ∀ s : FrameReader, (Read.advance 1 s).2 = s.advance 1 := fun _ => rfl
  rw [readCredentials, lift_bind, lift_bind, hAdvance]
  cases hToken : decodeToken? (Read.text (r.advance 1)).1 with
  | none => rfl
  | some token =>
    dsimp only
    rw [passPlatform]
    split
    case isTrue =>
      rw [lift_bind, lift_bind, lift_bind, lift_bind, lift_bind]
      rfl
    case isFalse =>
      rw [lift_bind, lift_bind, lift_bind]
      rfl

end Gatehouse.Login
