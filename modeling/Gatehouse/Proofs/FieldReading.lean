import Gatehouse.Proofs.MessageReading

/-!
# Reading fields back

Fields stand behind each other without separators, and what a reader takes off is decided by the
kinds it asks for. Asked for the kinds that were written it brings the values that were written,
as far as a text has a byte for each of its characters.
-/

namespace Gatehouse

open Octets

namespace Wire

namespace Field

def Holds : Field → Prop
  | scalar s v => s.Holds v
  | text _ | position _ => True

instance (field : Field) : Decidable field.Holds :=
  match field with
  | scalar s _ => inferInstanceAs (Decidable (if s.isSigned then _ else _))
  | text _ | position _ => inferInstanceAs (Decidable True)

/-- The field as a reader sees it: a text loses the characters that have no byte. -/
def restrict : Field → Field
  | text s => text (Latin1.restrict s)
  | field => field

theorem encode_position (p : Position) :
    (position p).encode = (u16 p.x).encode ++ ((u16 p.y).encode ++ (u8 p.z).encode) := by
  rw [encode_u16, encode_u16, encode_u8, ← List.append_assoc]
  rfl

end Field

namespace Read

variable {r : FrameReader} {bs : Octets}

theorem scalar_of_offers {s : Scalar} {v : Int} (hv : s.Holds v)
    (hr : r.Offers ((Field.scalar s v).encode ++ bs)) :
    ∃ q, scalar s r = (v, q) ∧ q.Offers bs := by
  have hSmall : s.toBits v < 256 ^ s.size := s.range_eq ▸ s.toBits_lt v
  obtain ⟨q, hNumber, hq⟩ := hr.number hSmall
  refine ⟨q, ?_, hq⟩
  change (s.ofBits (r.number s.size).1, (r.number s.size).2) = _
  rw [hNumber, Scalar.ofBits_toBits hv]

theorem position_of_offers {p : Position} (hr : r.Offers ((Field.position p).encode ++ bs)) :
    ∃ q, position r = (p, q) ∧ q.Offers bs := by
  rw [Field.encode_position, List.append_assoc, List.append_assoc] at hr
  obtain ⟨r₁, hX, hr⟩ := u16_eq hr
  obtain ⟨r₂, hY, hr⟩ := u16_eq hr
  obtain ⟨q, hZ, hq⟩ := u8_eq hr
  refine ⟨q, ?_, hq⟩
  rw [position, bind_eq, hX, bind_eq, hY, bind_eq, hZ]
  rfl

theorem field_of_offers {f : Field} (hf : f.Holds) (hr : r.Offers (f.encode ++ bs)) :
    ∃ q, field f.kind r = (f.restrict, q) ∧ q.Offers bs := by
  cases f with
  | scalar s v =>
    obtain ⟨q, hRead, hq⟩ := scalar_of_offers hf hr
    exact ⟨q, by rw [Field.kind, field, bind_eq, hRead]; rfl, hq⟩
  | text s =>
    obtain ⟨q, hRead, hq⟩ := text_eq hr
    exact ⟨q, by rw [Field.kind, field, bind_eq, hRead]; rfl, hq⟩
  | position p =>
    obtain ⟨q, hRead, hq⟩ := position_of_offers hr
    exact ⟨q, by rw [Field.kind, field, bind_eq, hRead]; rfl, hq⟩

/-- Each read leaves the next field at the front, so the values come in the order of the fields and
what follows them is left. -/
theorem fields_of_offers {fs : List Field} (hfs : ∀ f ∈ fs, f.Holds)
    (hr : r.Offers (Field.encodeAll fs ++ bs)) :
    ∃ q, fields (fs.map Field.kind) r = (fs.map Field.restrict, q) ∧ q.Offers bs := by
  induction fs generalizing r with
  | nil => exact ⟨r, rfl, hr⟩
  | cons f fs ih =>
    obtain ⟨hf, hRest⟩ := List.forall_mem_cons.mp hfs
    rw [Field.encodeAll_cons, List.append_assoc] at hr
    obtain ⟨r₁, hFirst, hr₁⟩ := field_of_offers hf hr
    obtain ⟨q, hOthers, hq⟩ := ih hRest hr₁
    refine ⟨q, ?_, hq⟩
    rw [List.map_cons, fields, bind_eq, hFirst, bind_eq, hOthers]
    rfl

/-- Fields written behind each other are read back from any reader whose body they are, each as far
as its type allows, and nothing is left over. What the wire brings as text is no more than its
bytes. -/
theorem fields_read_back :
    (∀ (fs : List Field) (header : Octets) (r : FrameReader),
      (∀ f ∈ fs, f.Holds) → (Field.encodeAll fs).length ≤ maxBody →
      header.length = headerLength → r.Carries (header ++ Field.encodeAll fs) →
      r.position = headerLength →
        ∃ q, fields (fs.map Field.kind) r = (fs.map Field.restrict, q) ∧
          q.remaining = 0 ∧ q.unread = []) ∧
    ∀ bs : Octets, Latin1.encode (Latin1.decode bs) = bs := by
  constructor
  · intro fs header r hfs hLength hHeader hr hPosition
    have hOffers := hr.offers hHeader hPosition hLength
    rw [← List.append_nil (Field.encodeAll fs)] at hOffers
    obtain ⟨q, hRead, hq⟩ := fields_of_offers hfs hOffers
    exact ⟨q, hRead, hq.remaining, hq.unread⟩
  · exact Latin1.encode_decode

/-- Every type at a bound of its range, with a text that is empty and one that loses a character. -/
theorem fields_read_back_all_types :
    let fs := [Field.scalar .u8 255, .scalar .u16 65535, .scalar .u32 4294967295,
      .scalar .u64 18446744073709551615, .scalar .i8 (-128), .scalar .i16 (-32768),
      .scalar .i32 (-2147483648), .scalar .i64 (-9223372036854775808), .text "", .text "Zoë 漢",
      .position ⟨32097, 32219, 7⟩]
    ∃ q, fields (fs.map Field.kind) (.ofFrame (zeros headerLength ++ Field.encodeAll fs)) =
        ([.scalar .u8 255, .scalar .u16 65535, .scalar .u32 4294967295,
          .scalar .u64 18446744073709551615, .scalar .i8 (-128), .scalar .i16 (-32768),
          .scalar .i32 (-2147483648), .scalar .i64 (-9223372036854775808), .text "", .text "Zoë ",
          .position ⟨32097, 32219, 7⟩], q) ∧ q.unread = [] := by
  intro fs
  have hLength : (Field.encodeAll fs).length ≤ maxBody := by decide +kernel
  have hFrame : (zeros headerLength ++ Field.encodeAll fs).length ≤ FrameReader.capacity :=
    Nat.add_le_add_left hLength _
  obtain ⟨q, hRead, -, hUnread⟩ := fields_read_back.1 fs (zeros headerLength) _ (by decide)
    hLength rfl (FrameReader.carries_ofFrame hFrame) rfl
  refine ⟨q, hRead.trans ?_, hUnread⟩
  exact congrArg (·, q) (by decide +kernel)

end Read

end Wire

end Gatehouse
