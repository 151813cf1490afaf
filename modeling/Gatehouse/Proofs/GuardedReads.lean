import Gatehouse.Proofs.ShortReads

/-!
# Guarded reads

Ranges of bytes are cut off where the bytes end. Here a range is looked at before it is used, and so
is where a step leaves the cursor; one fault ends the reading without a result. Reads that find
enough bytes before the end of the frame, or else nothing, never come to that, so they bring what
they bring without the guards.
-/

namespace Gatehouse

namespace Octets

/-- The bytes of a range, if they are all there. -/
def slice? (bs : Octets) (start stop : Nat) : Option Octets :=
  if start ≤ stop ∧ stop ≤ bs.length then some (slice bs start stop) else none

def overwrite? (bs : Octets) (start : Nat) (patch : Octets) : Option Octets :=
  if start + patch.length ≤ bs.length then some (overwrite bs start patch) else none

variable {bs patch : Octets} {start stop : Nat}

theorem slice?_eq (hOrder : start ≤ stop) (hStop : stop ≤ bs.length) :
    slice? bs start stop = some (slice bs start stop) :=
  if_pos ⟨hOrder, hStop⟩

theorem overwrite?_eq (hFits : start + patch.length ≤ bs.length) :
    overwrite? bs start patch = some (overwrite bs start patch) :=
  if_pos hFits

end Octets

namespace Wire

open Octets

namespace FrameReader

/-- The cursor has gone on inside of the frame, and sizes are as they were. -/
structure Onward (r q : FrameReader) : Prop where
  position : r.position ≤ q.position
  inside : q.position ≤ q.length
  length : q.length = r.length
  capacity : q.store.length = r.store.length

instance (r q : FrameReader) : Decidable (Onward r q) :=
  decidable_of_iff
    (r.position ≤ q.position ∧ q.position ≤ q.length ∧ q.length = r.length ∧
      q.store.length = r.store.length)
    ⟨fun ⟨h₁, h₂, h₃, h₄⟩ => ⟨h₁, h₂, h₃, h₄⟩, fun ⟨h₁, h₂, h₃, h₄⟩ => ⟨h₁, h₂, h₃, h₄⟩⟩

variable {r q s : FrameReader}

theorem Onward.trans (hFirst : Onward r q) (hSecond : Onward q s) : Onward r s where
  position := hFirst.position.trans hSecond.position
  inside := hSecond.inside
  length := hSecond.length.trans hFirst.length
  capacity := hSecond.capacity.trans hFirst.capacity

theorem Placed.onward (hr : r.Placed) (hOnward : Onward r q) : q.Placed where
  position := hOnward.inside
  length := by
    rw [hOnward.length, hOnward.capacity]
    exact hr.length

/-- A placed frame that is not longer than any frame. -/
structure Regular (r : FrameReader) : Prop extends r.Placed where
  capacity : r.length ≤ FrameReader.capacity

theorem Regular.onward (hr : r.Regular) (hOnward : Onward r q) : q.Regular where
  toPlaced := hr.toPlaced.onward hOnward
  capacity := hOnward.length ▸ hr.capacity

theorem Regular.refl (hr : r.Regular) : Onward r r :=
  ⟨Nat.le_refl _, hr.position, rfl, rfl⟩

end FrameReader

open FrameReader (Onward)

abbrev Guarded := StateT FrameReader Option

namespace Guarded

/-- The only way to go on from a frame to another one. -/
def become (q : FrameReader) : Guarded Unit := do
  if Onward (← get) q then set q else failure

def take (n : Nat) : Guarded (Option Octets) := do
  let r ← get
  if r.remaining < n then return none
  become { r with position := r.position + n }
  return some (← r.store.slice? r.position (r.position + n))

/-- The bytes have to be as many as the number has. -/
def number (size : Nat) : Guarded Nat := do
  match ← take size with
  | none => return 0
  | some bs => if bs.length = size then return ofLittleEndian bs else failure

def u8 : Guarded UInt8 := do
  return UInt8.ofNat (← number 1)

def u16 : Guarded UInt16 := do
  return UInt16.ofNat (← number 2)

def u32 : Guarded UInt32 := do
  return UInt32.ofNat (← number 4)

def text : Guarded String := do
  let n ← number 2
  if n = 0 then return ""
  return ((← take n).map Latin1.decode).getD ""

def words : Guarded Xtea.Words := do
  let w0 ← u32
  let w1 ← u32
  let w2 ← u32
  let w3 ← u32
  return ⟨w0, w1, w2, w3⟩

def advance (n : Nat) : Guarded Unit := do
  become ((← get).advance n)

def remaining : Guarded Nat := do
  return (← get).remaining

end Guarded

/-! ## Reading with and without guards -/

/-- From here the guards do not make a difference. -/
structure FollowsAt {α : Type} (r : FrameReader) (guarded : Guarded α) (read : Read α) : Prop where
  result : guarded r = some (read r)
  onward : Onward r (read r).2

def Follows {α : Type} (guarded : Guarded α) (read : Read α) : Prop :=
  ∀ r : FrameReader, r.Regular → FollowsAt r guarded read

variable {α β : Type} {guarded : Guarded α} {read : Read α} {r : FrameReader}

theorem follows_pure (a : α) : Follows (pure a) (pure a) :=
  fun _ hr => ⟨rfl, hr.refl⟩

theorem FollowsAt.bind {gNext : α → Guarded β} {next : α → Read β}
    (hFirst : FollowsAt r guarded read)
    (hNext : FollowsAt (read r).2 (gNext (read r).1) (next (read r).1)) :
    FollowsAt r (guarded >>= gNext) (read >>= next) := by
  refine ⟨?_, hFirst.onward.trans hNext.onward⟩
  change (guarded r).bind _ = _
  rw [hFirst.result]
  exact hNext.result

theorem FollowsAt.ite {c : Prop} [Decidable c] {gThen gElse : Guarded α} {rThen rElse : Read α}
    (hThen : c → FollowsAt r gThen rThen) (hElse : ¬ c → FollowsAt r gElse rElse) :
    FollowsAt r (if c then gThen else gElse) (if c then rThen else rElse) := by
  split
  case isTrue h => exact hThen h
  case isFalse h => exact hElse h

theorem Follows.bind {gNext : α → Guarded β} {next : α → Read β} (hFirst : Follows guarded read)
    (hNext : ∀ a, Follows (gNext a) (next a)) : Follows (guarded >>= gNext) (read >>= next) :=
  fun r hr => (hFirst r hr).bind (hNext _ _ (hr.onward (hFirst r hr).onward))

theorem Follows.ite {c : Prop} [Decidable c] {gThen gElse : Guarded α} {rThen rElse : Read α}
    (hThen : Follows gThen rThen) (hElse : Follows gElse rElse) :
    Follows (if c then gThen else gElse) (if c then rThen else rElse) :=
  fun r hr => .ite (fun _ => hThen r hr) fun _ => hElse r hr

theorem become_eq {q : FrameReader} (hOnward : Onward r q) :
    Guarded.become q r = some ((), q) := by
  change (if Onward r q then set q else failure : Guarded Unit) r = _
  rw [if_pos hOnward]
  rfl

theorem follows_take (n : Nat) : Follows (Guarded.take n) (Read.bytes n) := by
  intro r hr
  have hPosition := hr.position
  by_cases hShort : r.remaining < n
  · have hNone : Guarded.take n r = some (none, r) := by
      change (if r.remaining < n then pure none else _ : Guarded (Option Octets)) r = _
      rw [if_pos hShort]
      rfl
    have hRead : Read.bytes n r = (none, r) := FrameReader.take_of_short hShort
    exact ⟨hRead ▸ hNone, hRead ▸ hr.refl⟩
  · have hEnd : r.position + n ≤ r.length := by
      rw [FrameReader.remaining] at hShort
      omega
    have hOnward : Onward r { r with position := r.position + n } :=
      ⟨Nat.le_add_right .., hEnd, rfl, rfl⟩
    have hSlice := slice?_eq (Nat.le_add_right r.position n) (hEnd.trans hr.length)
    have hRead : Read.bytes n r = (some (slice r.store r.position (r.position + n)),
        { r with position := r.position + n }) := if_neg hShort
    refine ⟨?_, hRead ▸ hOnward⟩
    change (if r.remaining < n then pure none else _ : Guarded (Option Octets)) r = _
    rw [if_neg hShort]
    change (Guarded.become _ r).bind _ = _
    rw [become_eq hOnward, Option.bind_some]
    rw [hSlice, hRead]
    rfl

theorem follows_number (size : Nat) : Follows (Guarded.number size) (Read.number size) := by
  intro r hr
  obtain ⟨hTake, hOnward⟩ := follows_take size r hr
  by_cases hShort : r.remaining < size
  · have hBytes : Read.bytes size r = (none, r) := FrameReader.take_of_short hShort
    have hRead : Read.number size r = (0, r) := FrameReader.number_of_short hShort
    rw [hBytes] at hTake
    refine ⟨?_, hRead ▸ hr.refl⟩
    change (Guarded.take size r).bind _ = _
    rw [hTake, hRead]
    rfl
  · set bs := slice r.store r.position (r.position + size)
    have hBytes : Read.bytes size r = (some bs, { r with position := r.position + size }) :=
      if_neg hShort
    have hRead : Read.number size r =
        (ofLittleEndian bs, { r with position := r.position + size }) :=
      FrameReader.number_of_enough hShort
    have hSize : bs.length = size := by
      have hPosition := hr.position
      have hLength := hr.length
      rw [FrameReader.remaining] at hShort
      rw [length_slice (by omega), Nat.add_sub_cancel_left]
    rw [hBytes] at hTake hOnward
    refine ⟨?_, hRead ▸ hOnward⟩
    change (Guarded.take size r).bind _ = _
    rw [hTake, hRead]
    change (if bs.length = size then pure (ofLittleEndian bs) else failure : Guarded Nat) _ = _
    rw [if_pos hSize]
    rfl

theorem follows_u8 : Follows Guarded.u8 Read.u8 :=
  (follows_number 1).bind fun _ => follows_pure _

theorem follows_u16 : Follows Guarded.u16 Read.u16 :=
  (follows_number 2).bind fun _ => follows_pure _

theorem follows_u32 : Follows Guarded.u32 Read.u32 :=
  (follows_number 4).bind fun _ => follows_pure _

theorem follows_words : Follows Guarded.words Read.words :=
  follows_u32.bind fun _ => follows_u32.bind fun _ => follows_u32.bind fun _ =>
    follows_u32.bind fun _ => follows_pure _

theorem follows_text : Follows Guarded.text Read.text :=
  (follows_number 2).bind fun n =>
    .ite (follows_pure "") ((follows_take n).bind fun _ => follows_pure _)

theorem follows_advance (n : Nat) : Follows (Guarded.advance n) (Read.advance n) := by
  intro r hr
  have hEnd : r.unreadEnd = r.length := Nat.max_eq_left hr.position
  have hOnward : Onward r (r.advance n) := by
    refine ⟨?_, (Nat.min_le_right ..).trans hEnd.le, rfl, rfl⟩
    exact Nat.le_min.mpr ⟨Nat.le_add_right .., hEnd.symm ▸ hr.position⟩
  exact ⟨become_eq hOnward, hOnward⟩

theorem follows_remaining : Follows Guarded.remaining Read.remaining :=
  fun _ hr => ⟨rfl, hr.refl⟩

/-! ## Reads that may fail -/

section Fails

variable {ε : Type} {gNext : α → ExceptT ε Guarded β} {next : α → ExceptT ε Read β}

theorem get_bind (gNext : FrameReader → ExceptT ε Guarded β) (r : FrameReader) :
    (get >>= gNext : ExceptT ε Guarded β) r = gNext r r := rfl

theorem some_bind {a : α} {o : Option α} (hSome : o = some a) (gNext : α → ExceptT ε Guarded β)
    (r : FrameReader) : (liftM o >>= gNext : ExceptT ε Guarded β) r = gNext a r := by
  rw [hSome]
  rfl

theorem FollowsAt.lift_bind (hFirst : FollowsAt r guarded read)
    (hNext : FollowsAt (read r).2 (gNext (read r).1) (next (read r).1)) :
    FollowsAt r (liftM guarded >>= gNext : ExceptT ε Guarded β)
      (liftM read >>= next : ExceptT ε Read β) := by
  refine ⟨?_, hFirst.onward.trans hNext.onward⟩
  change ((guarded r).bind fun p => some (Except.ok p.1, p.2)).bind _ = _
  rw [hFirst.result]
  exact hNext.result

theorem Follows.lift_bind (hFirst : Follows guarded read)
    (hNext : ∀ a, Follows (gNext a) (next a)) :
    Follows (liftM guarded >>= gNext : ExceptT ε Guarded β)
      (liftM read >>= next : ExceptT ε Read β) :=
  fun r hr => (hFirst r hr).lift_bind (hNext _ _ (hr.onward (hFirst r hr).onward))

theorem FollowsAt.bind_except {g : ExceptT ε Guarded α} {f : ExceptT ε Read α} (hr : r.Regular)
    (hFirst : FollowsAt r g f) (hNext : ∀ a, Follows (gNext a) (next a)) :
    FollowsAt r (g >>= gNext : ExceptT ε Guarded β) (f >>= next : ExceptT ε Read β) := by
  have hCont : ∀ result : Except ε α,
      Follows (ExceptT.bindCont gNext result) (ExceptT.bindCont next result) := by
    intro result
    cases result with
    | error e => exact follows_pure _
    | ok a => exact hNext a
  exact FollowsAt.bind hFirst (hCont _ _ (hr.onward hFirst.onward))

theorem follows_throw (e : ε) :
    Follows (throw e : ExceptT ε Guarded α) (throw e : ExceptT ε Read α) :=
  follows_pure _

theorem follows_throw_bind (e : ε) :
    Follows (throw e >>= gNext : ExceptT ε Guarded β) (throw e >>= next : ExceptT ε Read β) :=
  fun _ hr => ⟨rfl, hr.refl⟩

end Fails

end Wire

end Gatehouse
