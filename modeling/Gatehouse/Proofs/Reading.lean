import Gatehouse.Proofs.Opening
import Gatehouse.Proofs.Steps

/-!
# Reading back

What is left to read before the declared length is one byte string. A read whose field stands at the
front of it brings the value that was written and leaves the rest.
-/

namespace Gatehouse

open Octets

theorem Latin1.decode_encode (s : String) : decode (encode s) = restrict s := by
  have hChars : ∀ chars : List Char,
      (chars.filterMap byte?).map (fun b => Char.ofNat b.toNat) =
        chars.filter (·.toNat < 256) := by
    intro chars
    induction chars with
    | nil => rfl
    | cons c chars ih =>
      by_cases hByte : c.toNat < 256
      · have hBack : Char.ofNat (UInt8.ofNat c.toNat).toNat = c := by
          rw [UInt8.toNat_ofNat_of_lt' hByte, Char.ofNat_toNat]
        have hSome : byte? c = some (UInt8.ofNat c.toNat) := if_pos hByte
        rw [List.filterMap_cons_some hSome, List.map_cons, ih, hBack,
          List.filter_cons_of_pos (by simpa using hByte)]
      · have hNone : byte? c = none := if_neg hByte
        rw [List.filterMap_cons_none hNone, ih, List.filter_cons_of_neg (by simpa using hByte)]
  rw [decode, encode, hChars, restrict]

/-- A byte stands for one character, so text from the wire goes back to the bytes it came from. -/
theorem Latin1.encode_decode (bs : Octets) : encode (decode bs) = bs := by
  rw [encode, decode, String.toList_ofList, List.filterMap_map]
  have hByte : (byte? ∘ fun b : UInt8 => Char.ofNat b.toNat) = some := funext byte?_ofNat
  rw [hByte, List.filterMap_some]

namespace Wire

namespace FrameReader

/-- The bytes between the cursor and the declared length. -/
def Offers (r : FrameReader) (bs : Octets) : Prop :=
  ∃ front rest, r.store = front ++ bs ++ rest ∧ r.position = front.length ∧
    r.length = r.position + bs.length ∧ r.length ≤ capacity

variable {r : FrameReader} {xs bs : Octets}

/-- With the cursor behind the header, what a frame offers is its body. -/
theorem Carries.offers {header body : Octets} (hr : r.Carries (header ++ body))
    (hHeader : header.length = headerLength) (hPosition : r.position = headerLength)
    (hBody : body.length ≤ maxBody) : r.Offers body := by
  obtain ⟨rest, hStore, hLength⟩ := hr
  rw [List.length_append, hHeader] at hLength
  refine ⟨header, rest, hStore, ?_, ?_, ?_⟩
  · rw [hPosition, hHeader]
  · rw [hLength, hPosition]
  · rw [hLength, capacity]
    exact Nat.add_le_add_left hBody _

/-- A frame offers its body, if a reader can hold it. -/
theorem offers_ofFrame {header body : Octets} (hHeader : header.length = headerLength)
    (hBody : body.length ≤ maxBody) : (ofFrame (header ++ body)).Offers body := by
  have hLength : (header ++ body).length ≤ capacity := by
    rw [List.length_append, hHeader, capacity]
    exact Nat.add_le_add_left hBody _
  exact (carries_ofFrame hLength).offers hHeader rfl hBody

theorem Offers.remaining (hr : r.Offers bs) : r.remaining = bs.length := by
  obtain ⟨front, rest, -, -, hLength, -⟩ := hr
  rw [FrameReader.remaining, hLength, Nat.add_sub_cancel_left]

theorem Offers.length_le (hr : r.Offers bs) : bs.length ≤ capacity := by
  obtain ⟨front, rest, -, -, hLength, hCapacity⟩ := hr
  omega

theorem Offers.unread (hr : r.Offers bs) : r.unread = bs := by
  obtain ⟨front, rest, hStore, hPosition, hLength, -⟩ := hr
  have hEnd : r.unreadEnd = front.length + bs.length := by
    rw [unreadEnd, hLength, Nat.max_eq_left (Nat.le_add_right ..), hPosition]
  rw [FrameReader.unread, hStore, hEnd, hPosition]
  exact slice_append rfl rfl

theorem Offers.pass (hr : r.Offers (xs ++ bs)) :
    { r with position := r.position + xs.length }.Offers bs := by
  obtain ⟨front, rest, hStore, hPosition, hLength, hCapacity⟩ := hr
  refine ⟨front ++ xs, rest, ?_, ?_, ?_, hCapacity⟩
  · simp only [hStore, List.append_assoc]
  · rw [List.length_append, hPosition]
  · rw [List.length_append] at hLength
    simp only [hLength, Nat.add_assoc]

theorem Offers.take (hr : r.Offers (xs ++ bs)) :
    ∃ r', r.take xs.length = (some xs, r') ∧ r'.Offers bs := by
  refine ⟨_, ?_, hr.pass⟩
  have hEnough : ¬ r.remaining < xs.length := by
    rw [hr.remaining, List.length_append]
    omega
  obtain ⟨front, rest, hStore, hPosition, -⟩ := hr
  have hSlice : r.store.slice r.position (r.position + xs.length) = xs := by
    rw [hStore, ← List.append_assoc, List.append_assoc (front ++ xs)]
    exact slice_append hPosition (by rw [hPosition])
  rw [FrameReader.take, if_neg hEnough, hSlice]

theorem Offers.number {size n : Nat} (hr : r.Offers (littleEndian size n ++ bs))
    (hSmall : n < 256 ^ size) : ∃ r', r.number size = (n, r') ∧ r'.Offers bs := by
  obtain ⟨r', hTake, hOffers⟩ := hr.take
  rw [length_littleEndian] at hTake
  refine ⟨r', ?_, hOffers⟩
  rw [FrameReader.number, hTake]
  simp only [ofLittleEndian_littleEndian, Nat.mod_eq_of_lt hSmall]

theorem Offers.overwrite_front (hr : r.Offers (xs ++ bs)) {patch : Octets}
    (hPatch : patch.length = xs.length) : (r.write r.position patch).Offers (patch ++ bs) := by
  obtain ⟨front, rest, hStore, hPosition, hLength, hCapacity⟩ := hr
  rw [List.length_append] at hLength
  have hWhole : patch.take (capacity - r.position) = patch :=
    List.take_of_length_le (by omega)
  refine ⟨front, rest, ?_, hPosition, ?_, hCapacity⟩
  · have hSplit : ∀ ys : Octets, front ++ (ys ++ bs) ++ rest = front ++ ys ++ (bs ++ rest) :=
      fun ys => by simp only [List.append_assoc]
    rw [write, hWhole, hStore, hSplit, hSplit]
    exact overwrite_append hPosition hPatch
  · rw [List.length_append, hPatch]
    exact hLength

theorem Offers.overwrite (hr : r.Offers bs) {patch : Octets} (hPatch : patch.length = bs.length) :
    (r.write r.position patch).Offers patch := by
  rw [← List.append_nil bs] at hr
  have hFront := hr.overwrite_front hPatch
  rwa [List.append_nil] at hFront

end FrameReader

namespace Field

theorem encodeAll_append (xs ys : List Field) :
    encodeAll (xs ++ ys) = encodeAll xs ++ encodeAll ys :=
  List.flatMap_append ..

theorem encodeAll_nil : encodeAll [] = [] := rfl

theorem encodeAll_cons (field : Field) (fields : List Field) :
    encodeAll (field :: fields) = field.encode ++ encodeAll fields :=
  List.flatMap_cons ..

theorem encode_u8 (v : UInt8) : (u8 v).encode = [v] := by
  have hBits : Scalar.u8.toBits v.toNat = v.toNat :=
    Scalar.toBits_of_nonneg (Int.natCast_nonneg _) (Int.ofNat_lt.mpr v.toNat_lt)
  change littleEndian 1 (Scalar.u8.toBits v.toNat) = [v]
  rw [hBits, littleEndian, littleEndian, UInt8.ofNat_toNat]

theorem encode_u16 (v : UInt16) : (u16 v).encode = littleEndian 2 v.toNat :=
  congrArg (littleEndian 2)
    (Scalar.toBits_of_nonneg (Int.natCast_nonneg _) (Int.ofNat_lt.mpr v.toNat_lt))

theorem encode_u32 (v : UInt32) : (u32 v).encode = littleEndian 4 v.toNat :=
  congrArg (littleEndian 4)
    (Scalar.toBits_of_nonneg (Int.natCast_nonneg _) (Int.ofNat_lt.mpr v.toNat_lt))

end Field

namespace Read

variable {r : FrameReader} {bs : Octets}

theorem u8_eq {v : UInt8} (hr : r.Offers ((Field.u8 v).encode ++ bs)) :
    ∃ r', u8 r = (v, r') ∧ r'.Offers bs := by
  rw [Field.encode_u8] at hr
  have hByte : [v] = littleEndian 1 v.toNat := by
    rw [littleEndian, littleEndian, UInt8.ofNat_toNat]
  rw [hByte] at hr
  obtain ⟨r', hNumber, hOffers⟩ := hr.number v.toNat_lt
  refine ⟨r', ?_, hOffers⟩
  change (UInt8.ofNat (r.number 1).1, (r.number 1).2) = _
  rw [hNumber, UInt8.ofNat_toNat]

theorem u16_eq {v : UInt16} (hr : r.Offers ((Field.u16 v).encode ++ bs)) :
    ∃ r', u16 r = (v, r') ∧ r'.Offers bs := by
  rw [Field.encode_u16] at hr
  obtain ⟨r', hNumber, hOffers⟩ := hr.number v.toNat_lt
  refine ⟨r', ?_, hOffers⟩
  change (UInt16.ofNat (r.number 2).1, (r.number 2).2) = _
  rw [hNumber, UInt16.ofNat_toNat]

theorem u32_eq {v : UInt32} (hr : r.Offers ((Field.u32 v).encode ++ bs)) :
    ∃ r', u32 r = (v, r') ∧ r'.Offers bs := by
  rw [Field.encode_u32] at hr
  obtain ⟨r', hNumber, hOffers⟩ := hr.number v.toNat_lt
  refine ⟨r', ?_, hOffers⟩
  change (UInt32.ofNat (r.number 4).1, (r.number 4).2) = _
  rw [hNumber, UInt32.ofNat_toNat]

/-- A text comes back without the characters that have no byte. In a frame that a reader can hold
none of it is cut off. -/
theorem text_eq {s : String} (hr : r.Offers ((Field.text s).encode ++ bs)) :
    ∃ r', text r = (Latin1.restrict s, r') ∧ r'.Offers bs := by
  have hWhole : (Latin1.encode s).take 65535 = Latin1.encode s := by
    refine List.take_of_length_le ?_
    have hLength := hr.length_le
    rw [Field.encode, encodeText] at hLength
    simp only [List.length_append, length_littleEndian, List.length_take,
      FrameReader.capacity, headerLength, maxBody] at hLength
    omega
  rw [Field.encode, encodeText, hWhole, List.append_assoc] at hr
  rw [← Latin1.decode_encode]
  generalize Latin1.encode s = body at hr hWhole
  have hSmall : body.length < 256 ^ 2 := by
    rw [← hWhole, List.length_take]
    omega
  obtain ⟨r₁, hNumber, hBehind⟩ := hr.number hSmall
  obtain ⟨r₂, hTake, hRest⟩ := hBehind.take
  have hText : text r = if body.length = 0 then ("", r₁) else (Latin1.decode body, r₂) := by
    simp only [text, number, bytes, bind, StateT.bind, pure, hNumber]
    split
    case isTrue => rfl
    case isFalse =>
      rw [StateT.bind, hTake]
      rfl
  rw [hText]
  split
  case isTrue hEmpty =>
    rw [List.length_eq_zero_iff] at hEmpty
    rw [hEmpty, List.nil_append] at hBehind
    exact ⟨r₁, by rw [hEmpty]; rfl, hBehind⟩
  case isFalse => exact ⟨r₂, rfl, hRest⟩

theorem advance_eq {xs : Octets} (hr : r.Offers (xs ++ bs)) :
    ∃ r', advance xs.length r = ((), r') ∧ r'.Offers bs := by
  have hEnd : min (r.position + xs.length) r.unreadEnd = r.position + xs.length := by
    obtain ⟨front, rest, -, -, hLength, -⟩ := hr
    rw [List.length_append] at hLength
    rw [FrameReader.unreadEnd]
    omega
  refine ⟨{ r with position := r.position + xs.length }, ?_, hr.pass⟩
  rw [← hEnd]
  rfl

theorem words_eq {w : Xtea.Words} (hr : r.Offers (Field.encodeAll (w.toList.map Field.u32) ++ bs)) :
    ∃ r', words r = (w, r') ∧ r'.Offers bs := by
  obtain ⟨w0, w1, w2, w3⟩ := w
  simp only [Xtea.Words.toList, List.map_cons, List.map_nil, Field.encodeAll, List.flatMap_cons,
    List.flatMap_nil, List.append_nil, List.append_assoc] at hr
  obtain ⟨r₀, h₀, hr⟩ := u32_eq hr
  obtain ⟨r₁, h₁, hr⟩ := u32_eq hr
  obtain ⟨r₂, h₂, hr⟩ := u32_eq hr
  obtain ⟨r₃, h₃, hr⟩ := u32_eq hr
  refine ⟨r₃, ?_, hr⟩
  simp only [words, bind, StateT.bind, h₀, h₁, h₂, h₃]
  rfl

end Read

end Wire

end Gatehouse
