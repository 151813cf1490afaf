import Gatehouse.Proofs.GuardedReads

/-!
# Ranges of the store

A cursor can be left behind the declared length when that is shortened, and in front of the body
when it steps back, so the declared length does not bound it. The capacity bounds both, and that is
enough for every range to be in the store. Each operation is set beside one that looks at its ranges
and sums before it uses them; on frames of these sizes the two come to the same.
-/

namespace Gatehouse

namespace Octets

/-- The bytes, where they are as many as the place for them has. -/
def sized? (size : Nat) (bs : Octets) : Option Octets :=
  if bs.length = size then some bs else none

theorem sized?_eq {size : Nat} {bs : Octets} (hSize : bs.length = size) :
    bs.sized? size = some bs :=
  if_pos hSize

end Octets

/-- The sum, where 32 bits hold it. -/
def sum? (a b : Nat) : Option Nat :=
  if a + b < UInt32.size then some (a + b) else none

def difference? (a b : Nat) : Option Nat :=
  if b ≤ a then some (a - b) else none

variable {a b : Nat}

theorem sum?_eq (hSmall : a + b < UInt32.size) : sum? a b = some (a + b) :=
  if_pos hSmall

theorem difference?_eq (hOrder : b ≤ a) : difference? a b = some (a - b) :=
  if_pos hOrder

open Octets

namespace Wire

namespace FrameReader

/-! ## Parts -/

/-- The parts of the store that are lent out, to be read or to be changed. -/
inductive Part where
  | whole
  | header
  | region
  | body
  | unread
  deriving DecidableEq, Repr

def Part.bytes (r : FrameReader) : Part → Octets
  | whole => r.store
  | header => r.store.slice 0 headerLength
  | region => r.store.drop headerLength
  | body => r.body
  | unread => r.unread

/-- The part with new bytes at its front. Every new content of the part is put there so, and what
has no room in it is left out. -/
def Part.put (bs : Octets) (r : FrameReader) : Part → FrameReader
  | whole => r.write 0 bs
  | header => r.writeHeader bs
  | region => r.writeBody bs
  | body => r.write headerLength (bs.take (r.bodyEnd - headerLength))
  | unread => r.write r.position (bs.take (r.unreadEnd - r.position))

/-! ## Operations with guards -/

/-- The bytes of a range of the store. If there are any, none of them may stand behind the limit. -/
def range? (r : FrameReader) (limit start stop : Nat) : Option Octets :=
  if start < stop ∧ limit < stop then none else r.store.slice? start stop

def Part.start (r : FrameReader) : Part → Nat
  | whole | header => 0
  | region | body => headerLength
  | unread => r.position

def Part.stop (r : FrameReader) : Part → Nat
  | whole | region => r.store.length
  | header => headerLength
  | body => r.bodyEnd
  | unread => r.unreadEnd

/-- Where the bytes of a part have to end. -/
def Part.limit (r : FrameReader) : Part → Nat
  | whole | header | region => r.store.length
  | body | unread => r.length

def Part.bytes? (r : FrameReader) (part : Part) : Option Octets :=
  r.range? (part.limit r) (part.start r) (part.stop r)

def Part.put? (bs : Octets) (r : FrameReader) (part : Part) : Option FrameReader := do
  let place ← part.bytes? r
  let store ← r.store.overwrite? (part.start r) (bs.take place.length)
  return { r with store }

def headerValue? (r : FrameReader) : Option UInt16 := do
  return UInt16.ofNat (ofLittleEndian (← r.store.slice? 0 headerLength))

def advance? (n : Nat) (r : FrameReader) : Option FrameReader := do
  return { r with position := min (← sum? r.position n) r.unreadEnd }

def truncate? (n : Nat) (r : FrameReader) : Option FrameReader := do
  return { r with length := min (← sum? n headerLength) capacity }

def declare? (n : UInt16) (r : FrameReader) : Option FrameReader := do
  let place ← r.store.slice? 0 headerLength
  let bs ← (littleEndian headerLength n.toNat).sized? place.length
  truncate? n.toNat { r with store := ← r.store.overwrite? 0 bs }

end FrameReader

namespace Ranged

open FrameReader (cipherStart)

def take (n : Nat) : Guarded (Option Octets) := fun r =>
  if r.remaining < n then some (none, r)
  else do
    let stop ← sum? r.position n
    return (some (← r.range? r.length r.position stop), { r with position := stop })

def number (size : Nat) : Guarded Nat := do
  match ← take size with
  | none => return 0
  | some bs => return ofLittleEndian (← bs.sized? size)

def scalar (s : Scalar) : Guarded Int := do
  return s.ofBits (← number s.size)

def u8 : Guarded UInt8 := do
  return UInt8.ofNat (← number 1)

def u16 : Guarded UInt16 := do
  return UInt16.ofNat (← number 2)

def text : Guarded String := do
  let n ← number 2
  if n = 0 then return ""
  return ((← take n).map Latin1.decode).getD ""

def position : Guarded Position := do
  let x ← u16
  let y ← u16
  let z ← u8
  return ⟨x, y, z⟩

def field : Field.Kind → Guarded Field
  | .scalar s => return .scalar s (← scalar s)
  | .text => return .text (← text)
  | .position => return .position (← position)

/-- Where there is nothing to step back over, the bytes come from a buffer of zeros. -/
def previous (s : Scalar) : Guarded Int := fun r =>
  if r.position < s.size then do
    let bs ← (← (zeros 8).slice? 0 s.size).sized? s.size
    return (s.ofBits (ofLittleEndian bs), r)
  else do
    let start ← difference? r.position s.size
    let stop ← sum? start s.size
    let bs ← (← r.store.slice? start stop).sized? s.size
    return (s.ofBits (ofLittleEndian bs), { r with position := start })

/-- Cuts the frame to the payload whose length is read next, if that fits. -/
def cut : Guarded Bool := fun r => do
  let (inner, q) ← number 2 r
  if q.length < (← sum? inner prefixLength) then return (false, q)
  return (true, { q with length := ← sum? prefixLength inner })

def decrypt (key : Xtea.Key) : Guarded Bool := fun r =>
  if r.length ≤ cipherStart then some (false, r)
  else do
    let size ← difference? r.length cipherStart
    if size % Xtea.blockLength ≠ 0 then return (false, r)
    let region ← r.range? r.length cipherStart r.length
    match Xtea.decrypt key region with
    | .error _ => return (false, r)
    | .ok plain =>
      let store ← r.store.overwrite? cipherStart (← plain.sized? region.length)
      cut { r with store, position := cipherStart }

def ask {α : Type} (ask? : FrameReader → Option α) : Guarded α := fun r =>
  (ask? r).map fun a => (a, r)

def change (step? : FrameReader → Option FrameReader) : Guarded Unit := fun r =>
  (step? r).map fun q => ((), q)

end Ranged

namespace FrameReader

/-! ## Sizes -/

/-- Neither the cursor nor the declared length is beyond the capacity. The cursor may stand behind
the declared length, and in front of the body. -/
structure Sized (r : FrameReader) : Prop where
  position : r.position ≤ capacity
  length : r.length ≤ capacity
  store : r.store.length = capacity

variable {r : FrameReader} {bs : Octets}

theorem headerLength_le : headerLength ≤ capacity :=
  Nat.le_add_right ..

theorem Sized.length_le (hr : r.Sized) : r.length ≤ r.store.length :=
  hr.store ▸ hr.length

theorem Sized.unreadEnd_le (hr : r.Sized) : r.unreadEnd ≤ capacity :=
  Nat.max_le.mpr ⟨hr.length, hr.position⟩

theorem Sized.bodyEnd_le (hr : r.Sized) : r.bodyEnd ≤ capacity :=
  Nat.max_le.mpr ⟨hr.length, headerLength_le⟩

theorem Sized.moved (hr : r.Sized) {position : Nat} (hPosition : position ≤ capacity) :
    { r with position }.Sized :=
  ⟨hPosition, hr.length, hr.store⟩

theorem Sized.seek (hr : r.Sized) (n : Nat) : (r.seek n).Sized :=
  hr.moved ((Nat.min_le_right ..).trans hr.bodyEnd_le)

theorem Sized.advance (hr : r.Sized) (n : Nat) : (r.advance n).Sized :=
  hr.moved ((Nat.min_le_right ..).trans hr.unreadEnd_le)

theorem Sized.truncate (hr : r.Sized) (n : Nat) : (r.truncate n).Sized :=
  ⟨hr.position, Nat.min_le_right .., hr.store⟩

theorem Sized.reset (hr : r.Sized) : r.reset.Sized :=
  ⟨headerLength_le, Nat.zero_le _, hr.store⟩

theorem Sized.overwritten (hr : r.Sized) {start : Nat} (hFits : start + bs.length ≤ capacity) :
    { r with store := overwrite r.store start bs }.Sized :=
  ⟨hr.position, hr.length, (length_overwrite (hr.store.symm ▸ hFits)).trans hr.store⟩

/-! ## Operations on frames of these sizes -/

theorem range?_eq {limit start stop : Nat} (hOrder : start ≤ stop) (hStop : stop ≤ r.store.length)
    (hLimit : start < stop → stop ≤ limit) :
    r.range? limit start stop = some (slice r.store start stop) := by
  have hInside : ¬ (start < stop ∧ limit < stop) :=
    fun ⟨hSome, hBehind⟩ => Nat.not_le.mpr hBehind (hLimit hSome)
  rw [range?, if_neg hInside, slice?_eq hOrder hStop]

theorem write_take {start stop : Nat} (hStop : stop ≤ capacity) :
    r.write start (bs.take (stop - start)) =
      { r with store := overwrite r.store start (bs.take (stop - start)) } := by
  rw [write, List.take_take, Nat.min_eq_right (Nat.sub_le_sub_right hStop start)]

theorem Part.stop_le (hr : r.Sized) (part : Part) : part.stop r ≤ capacity := by
  cases part with
  | whole | region => exact hr.store.le
  | header => exact headerLength_le
  | body => exact hr.bodyEnd_le
  | unread => exact hr.unreadEnd_le

theorem Part.start_le (hr : r.Sized) (part : Part) : part.start r ≤ part.stop r := by
  cases part with
  | whole | header => exact Nat.zero_le _
  | region => exact headerLength_le.trans hr.store.ge
  | body | unread => exact Nat.le_max_right ..

theorem Part.le_limit (hr : r.Sized) (part : Part) (hSome : part.start r < part.stop r) :
    part.stop r ≤ part.limit r := by
  cases part with
  | whole | region => exact Nat.le_refl _
  | header => exact headerLength_le.trans hr.store.ge
  | body | unread =>
    simp only [Part.start, Part.stop, Part.limit, bodyEnd, unreadEnd] at *
    omega

theorem Part.bytes_eq (r : FrameReader) (part : Part) :
    part.bytes r = slice r.store (part.start r) (part.stop r) := by
  cases part with
  | whole => exact List.take_length.symm
  | region => exact (List.take_of_length_le (List.length_drop ..).le).symm
  | header | body | unread => rfl

theorem Part.put_eq (hr : r.Sized) (bs : Octets) (part : Part) :
    part.put bs r = { r with
      store := overwrite r.store (part.start r) (bs.take (part.stop r - part.start r)) } := by
  have hStop := part.stop_le hr
  cases part with
  | header | body | unread => exact write_take hStop
  | whole | region =>
    change r.write _ bs = _
    rw [write, ← hr.store]
    rfl

theorem Part.length_bytes (hr : r.Sized) (part : Part) :
    (part.bytes r).length = part.stop r - part.start r := by
  rw [bytes_eq, length_slice (hr.store.symm ▸ part.stop_le hr)]

theorem Part.bytes?_eq (hr : r.Sized) (part : Part) : part.bytes? r = some (part.bytes r) := by
  rw [bytes?, bytes_eq]
  exact range?_eq (part.start_le hr) (hr.store.symm ▸ part.stop_le hr) (part.le_limit hr)

/-- What is put into a part does not stick out of the store. -/
theorem Part.put_fits (hr : r.Sized) (bs : Octets) (part : Part) :
    part.start r + (bs.take (part.stop r - part.start r)).length ≤ capacity := by
  have hStart := part.start_le hr
  have hStop := part.stop_le hr
  have hTake := List.length_take_le (part.stop r - part.start r) bs
  omega

theorem Part.put?_eq (hr : r.Sized) (bs : Octets) (part : Part) :
    part.put? bs r = some (part.put bs r) := by
  have hFits := part.put_fits hr bs
  rw [← hr.store] at hFits
  rw [put?, bytes?_eq hr, put_eq hr, Option.bind_eq_bind, Option.bind_some, length_bytes hr,
    overwrite?_eq hFits]
  rfl

theorem Sized.put (hr : r.Sized) (bs : Octets) (part : Part) : (part.put bs r).Sized := by
  rw [Part.put_eq hr]
  exact hr.overwritten (part.put_fits hr bs)

theorem headerValue?_eq (hr : r.Sized) : r.headerValue? = some r.headerValue := by
  rw [headerValue?, slice?_eq (Nat.zero_le _) (hr.store.symm ▸ headerLength_le)]
  rfl

theorem add_lt_of_le {n : Nat} (hn : n ≤ capacity) (m : UInt16) : n + m.toNat < UInt32.size := by
  have hSum : n + m.toNat ≤ capacity + 2 ^ 16 := Nat.add_le_add hn m.toNat_lt.le
  exact hSum.trans_lt (by decide)

theorem advance?_eq (hr : r.Sized) (n : UInt16) :
    r.advance? n.toNat = some (r.advance n.toNat) := by
  rw [advance?, sum?_eq (add_lt_of_le hr.position n)]
  rfl

theorem truncate?_eq (r : FrameReader) (n : UInt16) :
    r.truncate? n.toNat = some (r.truncate n.toNat) := by
  have hSmall : n.toNat + headerLength < UInt32.size :=
    Nat.add_comm .. ▸ add_lt_of_le headerLength_le n
  rw [truncate?, sum?_eq hSmall]
  rfl

theorem Sized.declare (hr : r.Sized) (n : UInt16) : (r.declare n).Sized :=
  (hr.put (littleEndian headerLength n.toNat) .header).truncate n.toNat

theorem declare?_eq (hr : r.Sized) (n : UInt16) : r.declare? n = some (r.declare n) := by
  have hHeader : headerLength ≤ r.store.length := hr.store.symm ▸ headerLength_le
  have hPlace : (slice r.store 0 headerLength).length = headerLength := length_slice hHeader
  have hBytes : (littleEndian headerLength n.toNat).length = headerLength := length_littleEndian ..
  have hFits : 0 + (littleEndian headerLength n.toNat).length ≤ r.store.length := by
    rwa [hBytes, Nat.zero_add]
  have hWritten : r.writeHeader (littleEndian headerLength n.toNat) =
      { r with store := overwrite r.store 0 (littleEndian headerLength n.toNat) } := by
    have hPut := Part.put_eq hr (littleEndian headerLength n.toNat) .header
    rwa [Part.start, Part.stop, Nat.sub_zero, List.take_of_length_le hBytes.le] at hPut
  simp only [declare?, slice?_eq (Nat.zero_le _) hHeader, sized?_eq (hBytes.trans hPlace.symm),
    overwrite?_eq hFits, Option.bind_eq_bind, Option.bind_some, ← hWritten, truncate?_eq]
  rfl

/-! ## Unread bytes -/

/-- They are the declared bytes from the cursor on. -/
theorem unread_eq (r : FrameReader) : r.unread = (r.store.take r.length).drop r.position := by
  have hEnd : r.unreadEnd - r.position = r.length - r.position := by
    rw [unreadEnd]
    omega
  rw [unread, slice, hEnd, List.drop_take]

theorem length_unread (hr : r.length ≤ r.store.length) : r.unread.length = r.remaining := by
  rw [unread_eq, List.length_drop, List.length_take_of_le hr, remaining]

theorem unread_passed (r : FrameReader) (n : Nat) :
    { r with position := r.position + n }.unread = r.unread.drop n := by
  rw [unread_eq, unread_eq, List.drop_drop]

theorem slice_eq_take_unread {n : Nat} (hEnough : n ≤ r.remaining) :
    slice r.store r.position (r.position + n) = r.unread.take n := by
  have hEnd : min n (r.unreadEnd - r.position) = n := by
    rw [remaining] at hEnough
    rw [unreadEnd]
    omega
  rw [unread, slice, slice, Nat.add_sub_cancel_left, List.take_take, hEnd]

theorem take_eq_unread (hr : r.length ≤ r.store.length) (n : Nat) :
    r.take n =
      if r.unread.length < n then (none, r)
      else (some (r.unread.take n), { r with position := r.position + n }) := by
  rw [take, length_unread hr]
  split
  case isTrue => rfl
  case isFalse hEnough => rw [slice_eq_take_unread (Nat.le_of_not_lt hEnough)]

end FrameReader

/-! ## Reads with and without guards -/

open FrameReader (Sized cipherStart)

/-- From a frame of these sizes the guards let the read through, and leave one of these sizes. -/
def Passes {α : Type} (ranged : Guarded α) (read : Read α) : Prop :=
  ∀ r : FrameReader, r.Sized → ranged r = some (read r) ∧ (read r).2.Sized

section Passes

variable {α β : Type} {ranged : Guarded α} {read : Read α}

theorem passes_pure (a : α) : Passes (pure a) (pure a) :=
  fun _ hr => ⟨rfl, hr⟩

theorem Passes.bind {gNext : α → Guarded β} {next : α → Read β} (hFirst : Passes ranged read)
    (hNext : ∀ a, Passes (gNext a) (next a)) : Passes (ranged >>= gNext) (read >>= next) := by
  intro r hr
  obtain ⟨hResult, hq⟩ := hFirst r hr
  obtain ⟨hRest, hEnd⟩ := hNext (read r).1 (read r).2 hq
  refine ⟨?_, hEnd⟩
  change (ranged r).bind _ = _
  rw [hResult]
  exact hRest

theorem passes_ask {ask? : FrameReader → Option α} {ask : FrameReader → α}
    (hAsk : ∀ r : FrameReader, r.Sized → ask? r = some (ask r)) (answer : α → β) :
    Passes (do return answer (← Ranged.ask ask?)) (do return answer (ask (← get))) := by
  intro r hr
  refine ⟨?_, hr⟩
  change ((ask? r).map _).bind _ = _
  rw [hAsk r hr]
  rfl

theorem passes_change {step? : FrameReader → Option FrameReader}
    {step : FrameReader → FrameReader}
    (hStep : ∀ r : FrameReader, r.Sized → step? r = some (step r))
    (hSized : ∀ r : FrameReader, r.Sized → (step r).Sized) :
    Passes (Ranged.change step?) (modify step) := by
  intro r hr
  refine ⟨?_, hSized r hr⟩
  rw [Ranged.change, hStep r hr]
  rfl

theorem passes_modify {step : FrameReader → FrameReader}
    (hSized : ∀ r : FrameReader, r.Sized → (step r).Sized) :
    Passes (modify step) (modify step) :=
  fun r hr => ⟨rfl, hSized r hr⟩

end Passes

theorem passes_take (n : Nat) : Passes (Ranged.take n) (Read.bytes n) := by
  intro r hr
  by_cases hShort : r.remaining < n
  · have hRead : Read.bytes n r = (none, r) := FrameReader.take_of_short hShort
    rw [Ranged.take, if_pos hShort, hRead]
    exact ⟨rfl, hr⟩
  · have hRead : Read.bytes n r = (some (slice r.store r.position (r.position + n)),
        { r with position := r.position + n }) := if_neg hShort
    rw [FrameReader.remaining] at hShort
    -- behind the declared length the cursor can still take no bytes at all
    have hLimit : r.position < r.position + n → r.position + n ≤ r.length := by omega
    have hInside : r.position + n ≤ FrameReader.capacity := by
      have hPosition := hr.position
      have hLength := hr.length
      omega
    have hSmall : r.position + n < UInt32.size := hInside.trans_lt (by decide)
    have hRange := FrameReader.range?_eq (Nat.le_add_right ..) (hr.store.symm ▸ hInside) hLimit
    rw [Ranged.take, FrameReader.remaining, if_neg hShort, hRead, sum?_eq hSmall,
      Option.bind_eq_bind, Option.bind_some, hRange]
    exact ⟨rfl, hr.moved hInside⟩

/-- One declared byte that is not in the store stops the guarded read. -/
example : Ranged.take 1 ⟨[], 0, 1⟩ = none := rfl

theorem length_of_take {n : Nat} {bs : Octets} {r q : FrameReader} (hr : r.Sized)
    (hTake : r.take n = (some bs, q)) : bs.length = n := by
  rw [FrameReader.take_eq_unread hr.length_le] at hTake
  split at hTake
  case isTrue => cases hTake
  case isFalse hEnough =>
    cases hTake
    exact List.length_take_of_le (Nat.le_of_not_lt hEnough)

theorem passes_number (size : Nat) : Passes (Ranged.number size) (Read.number size) := by
  intro r hr
  obtain ⟨hRanged, hq⟩ := passes_take size r hr
  rcases hTake : r.take size with ⟨_ | bs, q⟩
  case none =>
    have hRead : Read.number size r = (0, q) := by
      rw [Read.number, FrameReader.number, hTake]
    rw [Read.bytes, hTake] at hRanged hq
    rw [hRead]
    refine ⟨?_, hq⟩
    change (Ranged.take size r).bind _ = _
    rw [hRanged]
    rfl
  case some =>
    have hRead : Read.number size r = (ofLittleEndian bs, q) := by
      rw [Read.number, FrameReader.number, hTake]
    rw [Read.bytes, hTake] at hRanged hq
    rw [hRead]
    refine ⟨?_, hq⟩
    change (Ranged.take size r).bind _ = _
    rw [hRanged]
    change (do return ofLittleEndian (← bs.sized? size) : Guarded Nat) q = _
    rw [sized?_eq (length_of_take hr hTake)]
    rfl

theorem passes_scalar (s : Scalar) : Passes (Ranged.scalar s) (Read.scalar s) :=
  (passes_number s.size).bind fun _ => passes_pure _

theorem passes_u8 : Passes Ranged.u8 Read.u8 :=
  (passes_number 1).bind fun _ => passes_pure _

theorem passes_u16 : Passes Ranged.u16 Read.u16 :=
  (passes_number 2).bind fun _ => passes_pure _

theorem passes_text : Passes Ranged.text Read.text := by
  refine (passes_number 2).bind fun n => ?_
  split
  · exact passes_pure ""
  · exact (passes_take n).bind fun _ => passes_pure _

theorem passes_position : Passes Ranged.position Read.position :=
  passes_u16.bind fun _ => passes_u16.bind fun _ => passes_u8.bind fun _ => passes_pure _

theorem passes_field (kind : Field.Kind) : Passes (Ranged.field kind) (Read.field kind) := by
  cases kind with
  | scalar s => exact (passes_scalar s).bind fun _ => passes_pure _
  | text => exact passes_text.bind fun _ => passes_pure _
  | position => exact passes_position.bind fun _ => passes_pure _

theorem passes_previous (s : Scalar) : Passes (Ranged.previous s) (Read.previous s) := by
  intro r hr
  have hRead : Read.previous s r =
      (s.ofBits (r.previousNumber s.size).1, (r.previousNumber s.size).2) := rfl
  rw [hRead, Ranged.previous, FrameReader.previousNumber]
  by_cases hFront : r.position < s.size
  · have hZeros : s.size ≤ (zeros 8).length := by cases s <;> decide
    have hSize : (slice (zeros 8) 0 s.size).length = s.size := length_slice hZeros
    have hBlank : ofLittleEndian (slice (zeros 8) 0 s.size) = 0 := by cases s <;> decide
    rw [if_pos hFront, if_pos hFront]
    simp only [slice?_eq (Nat.zero_le _) hZeros, sized?_eq hSize, hBlank, Option.bind_eq_bind,
      Option.bind_some]
    exact ⟨rfl, hr⟩
  · have hSize : s.size ≤ r.position := Nat.le_of_not_lt hFront
    have hBack : r.position - s.size + s.size = r.position := Nat.sub_add_cancel hSize
    have hInside : r.position ≤ r.store.length := hr.store.symm ▸ hr.position
    have hSmall : r.position - s.size + s.size < UInt32.size :=
      hBack.symm ▸ hr.position.trans_lt (by decide)
    have hBytes : (slice r.store (r.position - s.size) r.position).length = s.size := by
      rw [length_slice hInside, Nat.sub_sub_self hSize]
    rw [if_neg hFront, if_neg hFront]
    simp only [difference?_eq hSize, sum?_eq hSmall, hBack, slice?_eq (Nat.sub_le ..) hInside,
      sized?_eq hBytes, Option.bind_eq_bind, Option.bind_some]
    exact ⟨rfl, hr.moved ((Nat.sub_le ..).trans hr.position)⟩

theorem number_lt {r : FrameReader} (hr : r.Sized) (size : Nat) :
    (r.number size).1 < 256 ^ size := by
  rcases hTake : r.take size with ⟨_ | bs, q⟩
  case none =>
    rw [FrameReader.number, hTake]
    exact Nat.pow_pos (by decide)
  case some =>
    rw [FrameReader.number, hTake, ← length_of_take hr hTake]
    exact ofLittleEndian_lt bs

/-- The last part of decryption, on a frame with the region decrypted. -/
def FrameReader.cut (r : FrameReader) : Bool × FrameReader :=
  let (inner, q) := r.number 2
  if q.length < inner + prefixLength then (false, q)
  else (true, { q with length := prefixLength + inner })

theorem passes_cut : Passes Ranged.cut FrameReader.cut := by
  intro r hr
  obtain ⟨hNumber, hq⟩ := passes_number 2 r hr
  have hInner := number_lt hr 2
  rw [Ranged.cut, FrameReader.cut, hNumber]
  rw [Read.number] at hq ⊢
  generalize r.number 2 = result at hq hInner ⊢
  obtain ⟨inner, q⟩ := result
  have hSmall : inner + prefixLength < UInt32.size := by
    change inner < 2 ^ 16 at hInner
    change inner + 8 < 2 ^ 32
    omega
  have hSwap : prefixLength + inner < UInt32.size := Nat.add_comm .. ▸ hSmall
  simp only [sum?_eq hSmall, sum?_eq hSwap, Option.bind_eq_bind, Option.bind_some]
  by_cases hFits : q.length < inner + prefixLength
  · rw [if_pos hFits, if_pos hFits]
    exact ⟨rfl, hq⟩
  · rw [if_neg hFits, if_neg hFits]
    have hLength : prefixLength + inner ≤ FrameReader.capacity :=
      Nat.add_comm .. ▸ (Nat.le_of_not_lt hFits).trans hq.length
    exact ⟨rfl, hq.position, hLength, hq.store⟩

theorem passes_decrypt (key : Xtea.Key) :
    Passes (Ranged.decrypt key) (modifyGet (·.decrypt key)) := by
  intro r hr
  have hRead : (modifyGet (·.decrypt key) : Read Bool) r = r.decrypt key := rfl
  rw [hRead, Ranged.decrypt, FrameReader.decrypt]
  by_cases hShort : r.length ≤ cipherStart
  case pos =>
    rw [if_pos hShort, if_pos hShort]
    exact ⟨rfl, hr⟩
  have hLong : cipherStart ≤ r.length := Nat.le_of_not_le hShort
  have hRange : r.range? r.length cipherStart r.length = some _ :=
    FrameReader.range?_eq hLong hr.length_le fun _ => Nat.le_refl _
  have hRegion : (slice r.store cipherStart r.length).length = r.length - cipherStart :=
    length_slice hr.length_le
  rw [if_neg hShort, if_neg hShort]
  simp only [difference?_eq hLong, hRange, Option.bind_eq_bind, Option.bind_some]
  -- whole blocks are decrypted in place and the frame is cut; anything else is not touched
  by_cases hBlocks : (r.length - cipherStart) % Xtea.blockLength = 0
  case neg =>
    have hRefused : Xtea.decrypt key (slice r.store cipherStart r.length) = .error ⟨_⟩ :=
      if_neg (hRegion ▸ hBlocks)
    rw [if_pos hBlocks, hRefused]
    exact ⟨rfl, hr⟩
  have hPlain : Xtea.decrypt key (slice r.store cipherStart r.length) = .ok (r.plain key) :=
    Xtea.transform_eq_ok (hRegion ▸ hBlocks)
  have hSize : (r.plain key).length = (slice r.store cipherStart r.length).length :=
    Xtea.length_mapBlocks ..
  have hFits : cipherStart + (r.plain key).length ≤ FrameReader.capacity := by
    have hLength := hr.length
    omega
  have hStore : r.store.overwrite? cipherStart (r.plain key) = some _ :=
    overwrite?_eq (hr.store.symm ▸ hFits)
  rw [if_neg (not_not_intro hBlocks), hPlain]
  simp only [sized?_eq hSize, hStore, Option.bind_some]
  exact passes_cut _ ((hr.overwritten hFits).moved ((Nat.le_add_right ..).trans hFits))

end Wire

end Gatehouse
