import Gatehouse.Proofs.StoreRanges

/-!
# Frames under any calls

Whatever is asked of a frame, in whatever order, its cursor and its declared length stay within the
capacity. No call then uses a range that is not in the store, and what is read before the declared
length does not depend on what stands behind it.
-/

namespace Gatehouse.Wire

open Octets

namespace FrameReader

/-- What can be asked of a frame. Sizes and places are numbers of 16 bits. -/
inductive Call where
  | get (kind : Field.Kind)
  | previous (s : Scalar)
  | take (n : UInt16)
  | header
  | look (part : Part)
  | put (part : Part) (bs : Octets)
  | seek (n : UInt16)
  | advance (n : UInt16)
  | truncate (n : UInt16)
  | declare (n : UInt16)
  | reset
  | decrypt (key : Xtea.Key)

inductive Answer where
  | done
  | field (f : Field)
  | number (v : Int)
  | bytes (bs? : Option Octets)
  | accepted (b : Bool)
  deriving DecidableEq, Repr

def Call.run : Call → Read Answer
  | get kind => return .field (← Read.field kind)
  | previous s => return .number (← Read.previous s)
  | take n => return .bytes (← Read.bytes n.toNat)
  | header => return .number (← MonadState.get).headerValue.toNat
  | look part => return .bytes (part.bytes (← MonadState.get))
  | put part bs => do
    modify (part.put bs ·)
    return .done
  | seek n => do
    modify (·.seek n.toNat)
    return .done
  | advance n => do
    modify (·.advance n.toNat)
    return .done
  | truncate n => do
    modify (·.truncate n.toNat)
    return .done
  | declare n => do
    modify (·.declare n)
    return .done
  | reset => do
    modify (·.reset)
    return .done
  | decrypt key => return .accepted (← modifyGet (·.decrypt key))

def Call.ranged : Call → Guarded Answer
  | get kind => return .field (← Ranged.field kind)
  | previous s => return .number (← Ranged.previous s)
  | take n => return .bytes (← Ranged.take n.toNat)
  | header => return .number (← Ranged.ask (·.headerValue?)).toNat
  | look part => return .bytes (some (← Ranged.ask (part.bytes? ·)))
  | put part bs => do
    Ranged.change (part.put? bs ·)
    return .done
  | seek n => do
    modify (·.seek n.toNat)
    return .done
  | advance n => do
    Ranged.change (·.advance? n.toNat)
    return .done
  | truncate n => do
    Ranged.change (·.truncate? n.toNat)
    return .done
  | declare n => do
    Ranged.change (·.declare? n)
    return .done
  | reset => do
    modify (·.reset)
    return .done
  | decrypt key => return .accepted (← Ranged.decrypt key)

/-- A frame to begin with: an empty one, or one made of bytes. -/
def fresh : Option Octets → FrameReader
  | none => empty
  | some frame => ofFrame frame

def fresh? : Option Octets → Option FrameReader
  | none => some empty
  | some frame => do
    let n := min frame.length capacity
    let place ← (zeros capacity).slice? 0 n
    let bs ← (← frame.slice? 0 n).sized? place.length
    return { store := ← (zeros capacity).overwrite? 0 bs, position := headerLength, length := n }

theorem sized_fresh (frame? : Option Octets) : (fresh frame?).Sized := by
  cases frame? with
  | none => exact ⟨headerLength_le, Nat.zero_le _, length_zeros _⟩
  | some frame => exact ⟨headerLength_le, List.length_take_le .., length_store_ofFrame frame⟩

theorem fresh?_eq (frame? : Option Octets) : fresh? frame? = some (fresh frame?) := by
  cases frame? with
  | none => rfl
  | some frame =>
    have hFront : min frame.length capacity ≤ frame.length := Nat.min_le_left ..
    have hRoom : min frame.length capacity ≤ (zeros capacity).length :=
      (Nat.min_le_right ..).trans (length_zeros _).ge
    have hLength : (slice frame 0 (min frame.length capacity)).length = _ := length_slice hFront
    have hPlace : (slice (zeros capacity) 0 (min frame.length capacity)).length = _ :=
      length_slice hRoom
    have hFits : 0 + (slice frame 0 (min frame.length capacity)).length ≤
        (zeros capacity).length := by
      rwa [hLength, Nat.zero_add]
    have hTake : slice frame 0 (min frame.length capacity) = frame.take capacity := by
      rw [Nat.min_comm]
      exact List.take_eq_take_min.symm
    have hMin : min frame.length capacity = (frame.take capacity).length := by
      rw [List.length_take, Nat.min_comm]
    simp only [fresh?, slice?_eq (Nat.zero_le _) hRoom, slice?_eq (Nat.zero_le _) hFront,
      Option.bind_eq_bind, Option.bind_some, sized?_eq (hLength.trans hPlace.symm),
      overwrite?_eq hFits]
    rw [hTake, hMin]
    rfl

theorem passes_call (call : Call) : Passes call.ranged call.run := by
  cases call with
  | get kind => exact (passes_field kind).bind fun _ => passes_pure _
  | previous s => exact (passes_previous s).bind fun _ => passes_pure _
  | take n => exact (passes_take n.toNat).bind fun _ => passes_pure _
  | header => exact passes_ask (fun r hr => headerValue?_eq hr) fun v => Answer.number v.toNat
  | look part => exact passes_ask (fun r hr => part.bytes?_eq hr) fun bs => Answer.bytes (some bs)
  | put part bs =>
    exact (passes_change (fun r hr => part.put?_eq hr bs) fun r hr => hr.put bs part).bind
      fun _ => passes_pure _
  | seek n => exact (passes_modify fun r hr => hr.seek n.toNat).bind fun _ => passes_pure _
  | advance n =>
    exact (passes_change (fun r hr => advance?_eq hr n) fun r hr => hr.advance n.toNat).bind
      fun _ => passes_pure _
  | truncate n =>
    exact (passes_change (fun r _ => r.truncate?_eq n) fun r hr => hr.truncate n.toNat).bind
      fun _ => passes_pure _
  | declare n =>
    exact (passes_change (fun r hr => declare?_eq hr n) fun r hr => hr.declare n).bind
      fun _ => passes_pure _
  | reset => exact (passes_modify fun r hr => hr.reset).bind fun _ => passes_pure _
  | decrypt key => exact (passes_decrypt key).bind fun _ => passes_pure _

theorem passes_calls (calls : List Call) :
    Passes (calls.mapM Call.ranged) (calls.mapM Call.run) := by
  induction calls with
  | nil => exact passes_pure []
  | cons call calls ih =>
    rw [List.mapM_cons, List.mapM_cons]
    exact (passes_call call).bind fun _ => ih.bind fun _ => passes_pure _

end FrameReader

namespace Read

variable {α β : Type} {read : Read α}

/-- What the read brings, and what it leaves unread, goes by the unread bytes alone. -/
structure FromUnread (read : Read α) : Prop where
  fits : ∀ r : FrameReader, r.length ≤ r.store.length →
    (read r).2.length ≤ (read r).2.store.length
  same : ∀ r q : FrameReader, r.length ≤ r.store.length → q.length ≤ q.store.length →
    q.unread = r.unread → (read q).1 = (read r).1 ∧ (read q).2.unread = (read r).2.unread

theorem fromUnread_pure (a : α) : (pure a : Read α).FromUnread where
  fits _ hr := hr
  same _ _ _ _ hUnread := ⟨rfl, hUnread⟩

theorem FromUnread.bind {next : α → Read β} (hRead : read.FromUnread)
    (hNext : ∀ a, (next a).FromUnread) : (read >>= next).FromUnread where
  fits r hr := (hNext _).fits _ (hRead.fits r hr)
  same r q hr hq hUnread := by
    obtain ⟨hResult, hRest⟩ := hRead.same r q hr hq hUnread
    rw [bind_eq, bind_eq, hResult]
    exact (hNext _).same _ _ (hRead.fits r hr) (hRead.fits q hq) hRest

theorem fromUnread_bytes (n : Nat) : (bytes n).FromUnread where
  fits r hr := by
    rw [bytes, FrameReader.take]
    split <;> exact hr
  same r q hr hq hUnread := by
    rw [bytes, FrameReader.take_eq_unread hr, FrameReader.take_eq_unread hq, hUnread]
    split
    case isTrue => exact ⟨rfl, hUnread⟩
    case isFalse =>
      refine ⟨rfl, ?_⟩
      rw [FrameReader.unread_passed, FrameReader.unread_passed, hUnread]

theorem fromUnread_number (size : Nat) : (number size).FromUnread := by
  rw [number_eq_bytes]
  exact (fromUnread_bytes size).bind fun _ => fromUnread_pure _

theorem fromUnread_number_map (size : Nat) (f : Nat → α) :
    (do return f (← number size) : Read α).FromUnread :=
  (fromUnread_number size).bind fun n => fromUnread_pure (f n)

theorem fromUnread_text : text.FromUnread := by
  refine (fromUnread_number 2).bind fun n => ?_
  split
  · exact fromUnread_pure ""
  · exact (fromUnread_bytes n).bind fun _ => fromUnread_pure _

theorem fromUnread_position : position.FromUnread :=
  (fromUnread_number_map 2 _).bind fun _ => (fromUnread_number_map 2 _).bind fun _ =>
    (fromUnread_number_map 1 _).bind fun _ => fromUnread_pure _

theorem fromUnread_field (kind : Field.Kind) : (field kind).FromUnread := by
  cases kind with
  | scalar s => exact (fromUnread_number_map s.size _).bind fun _ => fromUnread_pure _
  | text => exact fromUnread_text.bind fun _ => fromUnread_pure _
  | position => exact fromUnread_position.bind fun _ => fromUnread_pure _

/-- A number that is there can be read again backwards. -/
theorem previous_scalar {r : FrameReader} {s : Scalar} (hEnough : s.size ≤ r.remaining) :
    let v := s.ofBits (Octets.ofLittleEndian (r.unread.take s.size))
    let q := { r with position := r.position + s.size }
    scalar s r = (v, q) ∧ previous s q = (v, r) := by
  intro v q
  have hBytes := FrameReader.slice_eq_take_unread hEnough
  constructor
  · change (s.ofBits (r.number s.size).1, (r.number s.size).2) = _
    rw [FrameReader.number_of_enough (Nat.not_lt.mpr hEnough), hBytes]
  · have hBack : ¬ q.position < s.size := Nat.not_lt.mpr (Nat.le_add_left ..)
    have hCursor : q.position - s.size = r.position := Nat.add_sub_cancel ..
    change (s.ofBits (q.previousNumber s.size).1, (q.previousNumber s.size).2) = _
    rw [FrameReader.previousNumber, if_neg hBack]
    simp only [hCursor]
    change (s.ofBits (Octets.ofLittleEndian (Octets.slice r.store r.position _)), r) = _
    rw [hBytes]

end Read

namespace FrameReader

/-- Whatever the calls are, the guards let them through, and cursor and declared length end up
within the capacity. The unread bytes are then those of the declared ones that stand behind the
cursor. What is taken are the first of them, or nothing, which changes nothing; and no other byte
has a say in a value that is got. A number that is there can be stepped back over, which brings it
once more and the cursor back. -/
theorem calls_stay_in_store (frame? : Option Octets) (calls : List Call) :
    let result := calls.mapM Call.run (fresh frame?)
    let r := result.2
    (fresh? frame?).bind (calls.mapM Call.ranged) = some result ∧
    (r.position ≤ capacity ∧ r.length ≤ capacity ∧ r.store.length = capacity) ∧
    r.unread = (r.store.take r.length).drop r.position ∧
    (∀ n, r.take n =
      if r.unread.length < n then (none, r)
      else (some (r.unread.take n), { r with position := r.position + n })) ∧
    (∀ q : FrameReader, q.length ≤ q.store.length → q.unread = r.unread →
      ∀ kind, (Read.field kind q).1 = (Read.field kind r).1) ∧
    ∀ s : Scalar, s.size ≤ r.remaining →
      let v := s.ofBits (ofLittleEndian (r.unread.take s.size))
      let q := { r with position := r.position + s.size }
      Read.scalar s r = (v, q) ∧ Read.previous s q = (v, r) := by
  intro result r
  obtain ⟨hResult, hr⟩ := passes_calls calls _ (sized_fresh frame?)
  refine ⟨?_, ⟨hr.position, hr.length, hr.store⟩, r.unread_eq, take_eq_unread hr.length_le,
    fun q hq hUnread kind => ?_, fun s hEnough => Read.previous_scalar hEnough⟩
  · rw [fresh?_eq, Option.bind_some, hResult]
  · exact ((Read.fromUnread_field kind).same r q hr.length_le hq hUnread).1

/-- The cursor is left behind the declared length, where nothing can be taken, and goes back to the
start of the header. -/
theorem calls_stay_in_store_both_ways :
    let calls : List Call :=
      [.advance 4, .truncate 1, .take 1, .look .unread, .previous .u32, .previous .u16]
    let frame : Octets := [4, 0, 0xA1, 0xA2, 0xA3, 0xA4]
    let result := calls.mapM Call.run (fresh (some frame))
    result.1 =
        [.done, .done, .bytes none, .bytes (some []), .number 0xA4A3A2A1, .number 4] ∧
      (fresh? (some frame)).bind (calls.mapM Call.ranged) = some result ∧
      result.2.unread = [4, 0, 0xA1] ∧
      Read.previous .u16 { result.2 with position := 2 } = (4, result.2) ∧
      (Read.field .text ⟨[4, 0, 0xA1, 7, 7, 7], 0, 3⟩).1 = (Read.field .text result.2).1 := by
  intro calls frame result
  obtain ⟨hRanged, -, -, -, hField, hBack⟩ := calls_stay_in_store (some frame) calls
  have hUnread : result.2.unread = [4, 0, 0xA1] := by decide +kernel
  have hEnough : Scalar.u16.size ≤ result.2.remaining := by decide +kernel
  have hStart : result.2.position = 0 := by decide +kernel
  refine ⟨by decide +kernel, hRanged, hUnread, ?_, ?_⟩
  · have hPrevious := (hBack .u16 hEnough).2
    rw [hUnread, hStart] at hPrevious
    exact hPrevious
  · exact hField ⟨[4, 0, 0xA1, 7, 7, 7], 0, 3⟩ (by decide) (by rw [hUnread]; rfl) .text

end FrameReader

end Gatehouse.Wire
