import Gatehouse.Proofs.LoginReading
import Gatehouse.Proofs.RawRsa
import Gatehouse.Proofs.Reading
import Gatehouse.Proofs.ShortReads

/-!
# Which login requests are accepted

A request is accepted exactly if its bytes are laid out as they should be, with one exception. A
version text that is said to go beyond the end of the body reads as empty, and what should be its
bytes is taken for the revision and the sealed block.
-/

namespace Gatehouse

open Octets Wire

namespace Wire.Field

theorem encode_text_decode {bs : Octets} (hSmall : bs.length < 2 ^ 16) :
    (text (Latin1.decode bs)).encode = littleEndian 2 bs.length ++ bs := by
  have hWhole : (Latin1.encode (Latin1.decode bs)).take 65535 = bs := by
    rw [Latin1.encode_decode]
    exact List.take_of_length_le (by omega)
  rw [encode, encodeText, hWhole]

theorem exists_u8 {bs : Octets} (hEnough : 1 ≤ bs.length) :
    ∃ (v : UInt8) (rest : Octets), bs = (u8 v).encode ++ rest := by
  obtain ⟨b, rest, rfl⟩ := List.exists_cons_of_length_pos hEnough
  exact ⟨b, rest, by rw [encode_u8, List.singleton_append]⟩

theorem exists_u16 {bs : Octets} (hEnough : 2 ≤ bs.length) :
    ∃ (v : UInt16) (rest : Octets), bs = (u16 v).encode ++ rest := by
  obtain ⟨n, rest, hSmall, rfl⟩ := exists_littleEndian_append hEnough
  exact ⟨.ofNat n, rest, by rw [encode_u16, UInt16.toNat_ofNat_of_lt' hSmall]⟩

theorem exists_u32 {bs : Octets} (hEnough : 4 ≤ bs.length) :
    ∃ (v : UInt32) (rest : Octets), bs = (u32 v).encode ++ rest := by
  obtain ⟨n, rest, hSmall, rfl⟩ := exists_littleEndian_append hEnough
  exact ⟨.ofNat n, rest, by rw [encode_u32, UInt32.toNat_ofNat_of_lt' hSmall]⟩

theorem exists_words {bs : Octets} (hEnough : 16 ≤ bs.length) :
    ∃ (w : Xtea.Words) (rest : Octets), bs = encodeAll (w.toList.map u32) ++ rest := by
  have hLength : ∀ v : UInt32, (u32 v).encode.length = 4 := fun v => by
    rw [encode_u32, length_littleEndian]
  obtain ⟨w0, bs, rfl⟩ := exists_u32 (show 4 ≤ bs.length by omega)
  rw [List.length_append, hLength] at hEnough
  obtain ⟨w1, bs, rfl⟩ := exists_u32 (show 4 ≤ bs.length by omega)
  rw [List.length_append, hLength] at hEnough
  obtain ⟨w2, bs, rfl⟩ := exists_u32 (show 4 ≤ bs.length by omega)
  rw [List.length_append, hLength] at hEnough
  obtain ⟨w3, bs, rfl⟩ := exists_u32 (show 4 ≤ bs.length by omega)
  refine ⟨⟨w0, w1, w2, w3⟩, bs, ?_⟩
  simp only [Xtea.Words.toList, List.map_cons, List.map_nil, encodeAll_cons, encodeAll_nil,
    List.append_nil, List.append_assoc]

end Wire.Field

theorem Wire.FrameReader.remaining_advance (n : Nat) (r : FrameReader) :
    (r.advance n).remaining = r.remaining - n := by
  simp only [advance, remaining, unreadEnd]
  omega

namespace Login

/-- The version text as the bytes have it. One that is overlong has only the length that it
announces. -/
inductive VersionText where
  | absent
  | whole (text : Octets)
  | overlong (n : UInt16)
  deriving DecidableEq, Repr

namespace VersionText

def bytes : VersionText → Octets
  | absent => []
  | whole text => littleEndian 2 text.length ++ text
  | overlong n => littleEndian 2 n.toNat

/-- There is a text exactly if more than the block and four bytes are left in all. -/
def Fits (key : Rsa.Key) (left : Nat) : VersionText → Prop
  | absent => left ≤ key.blockLength + 4
  | whole text => key.blockLength + 4 < left ∧ text.length < 2 ^ 16
  | overlong n => key.blockLength + 4 < left ∧ left < 2 + n.toNat

instance (text : VersionText) (key : Rsa.Key) (left : Nat) : Decidable (text.Fits key left) :=
  match text with
  | absent => inferInstanceAs (Decidable (_ ≤ _))
  | whole _ | overlong _ => inferInstanceAs (Decidable (_ ∧ _))

end VersionText

/-- The parts of a login request up to the version text. -/
structure Head where
  sum : UInt32
  id : UInt8
  system : UInt16
  version : UInt16
  skipped : Octets
  length_skipped : skipped.length = 4

def Head.bytes (h : Head) : Octets :=
  Field.encodeAll [.u32 h.sum, .u8 h.id, .u16 h.system, .u16 h.version] ++ h.skipped

def headLength : Nat := 13

structure Layout extends Head where
  text : VersionText
  revision : Octets
  length_revision : revision.length = 3
  /-- The block and what is behind it. -/
  sealedHalf : Octets

namespace Layout

def tail (l : Layout) : Octets :=
  l.text.bytes ++ (l.revision ++ l.sealedHalf)

def bytes (l : Layout) : Octets :=
  l.toHead.bytes ++ l.tail

def Fits (l : Layout) (key : Rsa.Key) : Prop :=
  l.text.Fits key l.tail.length

instance (l : Layout) (key : Rsa.Key) : Decidable (l.Fits key) :=
  inferInstanceAs (Decidable (l.text.Fits ..))

/-- The body is a login request with the contents of the prelude. -/
structure Describes (l : Layout) (key : Rsa.Key) (prelude : Prelude) (body : Octets) : Prop where
  body : body = l.bytes
  fits : l.Fits key
  sum : l.sum = 0
  id : l.id = loginRequest
  system : l.system = prelude.system
  version : l.version = prelude.version
  block : key.blockLength ≤ l.sealedHalf.length
  opens : ∃ rest, key.apply (l.sealedHalf.take key.blockLength) =
    .ok ((Field.u8 0).encode ++ (Field.encodeAll (prelude.key.toList.map Field.u32) ++ rest))

/-- All of the version text is in the body as well. -/
structure WellFormed (l : Layout) (key : Rsa.Key) (prelude : Prelude) (body : Octets) : Prop
    extends l.Describes key prelude body where
  whole : ∀ n, l.text ≠ .overlong n

end Layout

/-- A version text is announced that goes beyond the end of the body. -/
def Overruns (key : Rsa.Key) (body : Octets) : Prop :=
  let tail := body.drop headLength
  key.blockLength + 4 < tail.length ∧ tail.length < 2 + ofLittleEndian (tail.take 2)

instance (key : Rsa.Key) (body : Octets) : Decidable (Overruns key body) :=
  inferInstanceAs (Decidable (_ ∧ _))

variable {key : Rsa.Key} {r : FrameReader} {body : Octets} {l : Layout}

theorem Head.length_bytes (h : Head) : h.bytes.length = headLength := by
  rw [bytes, List.length_append, h.length_skipped]
  simp only [Field.encodeAll_cons, Field.encodeAll_nil, Field.encode_u8,
    Field.encode_u16, Field.encode_u32, List.length_append, length_littleEndian,
    List.length_singleton, List.length_nil]
  rfl

theorem Layout.Fits.overruns_iff (hl : l.Fits key) :
    Overruns key l.bytes ↔ ∃ n, l.text = .overlong n := by
  have hDrop : l.bytes.drop headLength = l.tail := List.drop_left' l.length_bytes
  have hAnnounced : ∀ (n : Nat) (rest : Octets), n < 256 ^ 2 →
      ofLittleEndian ((littleEndian 2 n ++ rest).take 2) = n := by
    intro n rest hSmall
    rw [List.take_left' (length_littleEndian 2 n), ofLittleEndian_littleEndian,
      Nat.mod_eq_of_lt hSmall]
  have hText : l.text.Fits key l.tail.length := hl
  rw [Overruns, hDrop]
  cases hCase : l.text with
  | absent =>
    rw [hCase, VersionText.Fits] at hText
    refine iff_of_false (fun h => ?_) (fun ⟨n, h⟩ => nomatch h)
    omega
  | whole text =>
    rw [hCase, VersionText.Fits] at hText
    refine iff_of_false (fun h => ?_) (fun ⟨n, h⟩ => nomatch h)
    obtain ⟨-, hBeyond⟩ := h
    rw [Layout.tail, hCase, VersionText.bytes, List.append_assoc, hAnnounced _ _ hText.2] at hBeyond
    simp only [List.length_append, length_littleEndian] at hBeyond
    omega
  | overlong n =>
    rw [hCase, VersionText.Fits] at hText
    refine iff_of_true ⟨hText.1, ?_⟩ ⟨n, rfl⟩
    have hTail : l.tail = littleEndian 2 n.toNat ++ (l.revision ++ l.sealedHalf) := by
      rw [Layout.tail, hCase, VersionText.bytes]
    rw [hTail, hAnnounced _ _ n.toNat_lt, ← hTail]
    exact hText.2

theorem Layout.Describes.overruns_iff {prelude : Prelude} (hl : l.Describes key prelude body) :
    Overruns key body ↔ ∃ n, l.text = .overlong n := by
  rw [hl.body]
  exact hl.fits.overruns_iff

/-! ## The version text -/

def passVersion (key : Rsa.Key) (r : FrameReader) : FrameReader :=
  if key.blockLength + 4 < r.remaining then (Read.text r).2 else r

theorem passVersion_offers {text : VersionText} {rest : Octets}
    (hText : text.Fits key (text.bytes ++ rest).length) (hr : r.Offers (text.bytes ++ rest)) :
    (passVersion key r).Offers rest := by
  rw [passVersion, hr.remaining]
  cases text with
  | absent =>
    rw [if_neg (Nat.not_lt.mpr hText)]
    exact hr
  | whole text =>
    obtain ⟨hLeft, hSmall⟩ := hText
    rw [VersionText.bytes, ← Field.encode_text_decode hSmall] at hr
    obtain ⟨r', hRead, hr'⟩ := Read.text_eq hr
    rw [if_pos hLeft, hRead]
    exact hr'
  | overlong n =>
    -- the length is taken alone, and all that is behind it is still to be read
    obtain ⟨hLeft, hBeyond⟩ := hText
    rw [if_pos hLeft]
    have hRemaining := hr.remaining
    have hEnough : ¬ r.remaining < 2 := by omega
    obtain ⟨r', hNumber, hr'⟩ := hr.number n.toNat_lt
    rw [FrameReader.number_of_enough hEnough, Prod.mk.injEq] at hNumber
    obtain ⟨hAnnounced, rfl⟩ := hNumber
    have hCrosses : r.Crosses .text := by
      rw [FrameReader.Crosses, FrameReader.extent, hAnnounced]
      rw [FrameReader.remaining] at hRemaining
      omega
    rw [Read.text_of_short hCrosses, FrameReader.strayed, if_neg hEnough]
    exact hr'

theorem exists_versionText (key : Rsa.Key) (bs : Octets) :
    ∃ (text : VersionText) (rest : Octets),
      text.Fits key (text.bytes ++ rest).length ∧ bs = text.bytes ++ rest := by
  by_cases hLeft : key.blockLength + 4 < bs.length
  · obtain ⟨n, behind, hSmall, hBytes⟩ := exists_littleEndian_append (show 2 ≤ bs.length by omega)
    by_cases hInside : n ≤ behind.length
    · have hLength : (behind.take n).length = n := List.length_take_of_le hInside
      have hParts : bs = (VersionText.whole (behind.take n)).bytes ++ behind.drop n := by
        rw [VersionText.bytes, hLength, List.append_assoc, List.take_append_drop, hBytes]
      refine ⟨.whole (behind.take n), behind.drop n, ?_, hParts⟩
      rw [← hParts]
      exact ⟨hLeft, by rwa [hLength]⟩
    · have hNumber : (UInt16.ofNat n).toNat = n := UInt16.toNat_ofNat_of_lt' hSmall
      have hParts : bs = (VersionText.overlong (.ofNat n)).bytes ++ behind := by
        rw [VersionText.bytes, hNumber, hBytes]
      refine ⟨.overlong (.ofNat n), behind, ?_, hParts⟩
      rw [← hParts]
      refine ⟨hLeft, ?_⟩
      rw [hNumber, hBytes, List.length_append, length_littleEndian]
      omega
  · exact ⟨.absent, bs, Nat.not_lt.mp hLeft, rfl⟩

/-! ## The open half -/

theorem Head.read (h : Head) {tail : Octets} (hr : r.Offers (h.bytes ++ tail)) :
    ∃ r', Request.read key r =
        { sum := h.sum, id := h.id, system := h.system, version := h.version
          rest := (passVersion key r').advance 3 } ∧ r'.Offers tail := by
  simp only [bytes, Field.encodeAll_cons, Field.encodeAll_nil, List.append_assoc,
    List.nil_append] at hr
  obtain ⟨r₁, hSum, hr⟩ := Read.u32_eq hr
  obtain ⟨r₂, hId, hr⟩ := Read.u8_eq hr
  obtain ⟨r₃, hSystem, hr⟩ := Read.u16_eq hr
  obtain ⟨r₄, hVersion, hr⟩ := Read.u16_eq hr
  obtain ⟨r₅, hPast, hr⟩ := Read.advance_eq hr
  rw [h.length_skipped] at hPast
  replace hPast : r₄.advance 4 = r₅ := congrArg Prod.snd hPast
  refine ⟨r₅, ?_, hr⟩
  simp only [Request.read, passVersion, hSum, hId, hSystem, hVersion, hPast]

theorem Layout.Fits.read (hl : l.Fits key) (hr : r.Offers l.bytes) :
    ∃ r', Request.read key r =
        { sum := l.sum, id := l.id, system := l.system, version := l.version, rest := r' } ∧
      r'.Offers l.sealedHalf := by
  obtain ⟨r₁, hRead, hTail⟩ := l.toHead.read hr
  obtain ⟨r₂, hPast, hSealed⟩ := Read.advance_eq (passVersion_offers hl hTail)
  rw [l.length_revision] at hPast
  replace hPast : (passVersion key r₁).advance 3 = r₂ := congrArg Prod.snd hPast
  exact ⟨r₂, by rw [hRead, hPast], hSealed⟩

theorem exists_head {bs : Octets} (hLong : headLength ≤ bs.length) :
    ∃ (h : Head) (tail : Octets), bs = h.bytes ++ tail := by
  rw [headLength] at hLong
  obtain ⟨sum, bs, rfl⟩ := Field.exists_u32 (show 4 ≤ bs.length by omega)
  rw [List.length_append, Field.encode_u32, length_littleEndian] at hLong
  obtain ⟨id, bs, rfl⟩ := Field.exists_u8 (show 1 ≤ bs.length by omega)
  rw [List.length_append, Field.encode_u8, List.length_singleton] at hLong
  obtain ⟨system, bs, rfl⟩ := Field.exists_u16 (show 2 ≤ bs.length by omega)
  rw [List.length_append, Field.encode_u16, length_littleEndian] at hLong
  obtain ⟨version, bs, rfl⟩ := Field.exists_u16 (show 2 ≤ bs.length by omega)
  rw [List.length_append, Field.encode_u16, length_littleEndian] at hLong
  have hSkipped : (bs.take 4).length = 4 := List.length_take_of_le (by omega)
  refine ⟨⟨sum, id, system, version, bs.take 4, hSkipped⟩, bs.drop 4, ?_⟩
  simp only [Head.bytes, Field.encodeAll_cons, Field.encodeAll_nil, List.append_assoc,
    List.nil_append, List.take_append_drop]

theorem remaining_passVersion_le (key : Rsa.Key) (r : FrameReader) :
    (passVersion key r).remaining ≤ r.remaining := by
  rw [passVersion]
  split
  · exact Read.remaining_text_le r
  · exact Nat.le_refl _

theorem remaining_rest_le (key : Rsa.Key) (r : FrameReader) :
    (Request.read key r).rest.remaining ≤ r.remaining := by
  have hAdvance : ∀ (n : Nat) (s : FrameReader), (s.advance n).remaining ≤ s.remaining :=
    fun n s => FrameReader.remaining_advance n s ▸ Nat.sub_le ..
  have hU16 : ∀ s : FrameReader, (Read.u16 s).2.remaining ≤ s.remaining :=
    FrameReader.remaining_number_le 2
  generalize hNumbers : (Read.u16 (Read.u16 (Read.u8 (Read.u32 r).2).2).2).2 = s
  have hRest : (Request.read key r).rest = (passVersion key (s.advance 4)).advance 3 := by
    rw [← hNumbers]
    rfl
  calc (Request.read key r).rest.remaining
    _ = ((passVersion key (s.advance 4)).advance 3).remaining := by rw [hRest]
    _ ≤ (passVersion key (s.advance 4)).remaining := hAdvance 3 _
    _ ≤ (s.advance 4).remaining := remaining_passVersion_le key _
    _ ≤ s.remaining := hAdvance 4 s
    _ = (Read.u16 (Read.u16 (Read.u8 (Read.u32 r).2).2).2).2.remaining := by rw [hNumbers]
    _ ≤ (Read.u16 (Read.u8 (Read.u32 r).2).2).2.remaining := hU16 _
    _ ≤ (Read.u8 (Read.u32 r).2).2.remaining := hU16 _
    _ ≤ (Read.u32 r).2.remaining := Read.remaining_u8_le _
    _ ≤ r.remaining := Read.remaining_u32_le r

/-- Whatever the bytes are, they are laid out in some way as soon as there is room for a block. -/
theorem exists_layout (hKey : headLength ≤ key.blockLength) (hr : r.Offers body)
    (hRoom : key.blockLength ≤ (Request.read key r).rest.remaining) :
    ∃ l : Layout, l.Fits key ∧ body = l.bytes := by
  -- no step back is made, so the bytes for a block were there before the first number as well
  have hLong : headLength ≤ body.length := by
    rw [← hr.remaining]
    exact hKey.trans (hRoom.trans (remaining_rest_le key r))
  obtain ⟨head, tail, rfl⟩ := exists_head hLong
  obtain ⟨r₁, hRead, hTail⟩ := head.read hr
  obtain ⟨text, rest, hText, rfl⟩ := exists_versionText key tail
  have hRest := passVersion_offers hText hTail
  rw [hRead, FrameReader.remaining_advance, hRest.remaining] at hRoom
  rw [headLength] at hKey
  have hRevision : (rest.take 3).length = 3 := List.length_take_of_le (by omega)
  refine ⟨⟨head, text, rest.take 3, hRevision, rest.drop 3⟩, ?_, ?_⟩
  · rw [Layout.Fits, Layout.tail, List.take_append_drop]
    exact hText
  · rw [Layout.bytes, Layout.tail, List.take_append_drop]

/-! ## The sealed half -/

theorem read_opened {z : UInt8} {w : Xtea.Words} {bs : Octets}
    (hr : r.Offers ((Field.u8 z).encode ++ (Field.encodeAll (w.toList.map Field.u32) ++ bs))) :
    (Read.u8 r).1 = z ∧ (Read.words (Read.u8 r).2).1 = w := by
  obtain ⟨r₁, hZero, hr⟩ := Read.u8_eq hr
  obtain ⟨r₂, hWords, -⟩ := Read.words_eq hr
  rw [hZero, hWords]
  exact ⟨rfl, rfl⟩

theorem opened_iff {bs : Octets} {w : Xtea.Words} (hLong : 17 ≤ bs.length) {rest : Octets}
    (hr : r.Offers (bs ++ rest)) :
    (Read.u8 r).1 = 0 ∧ (Read.words (Read.u8 r).2).1 = w ↔
      ∃ more, bs = (Field.u8 0).encode ++ (Field.encodeAll (w.toList.map Field.u32) ++ more) := by
  constructor
  · intro hRead
    obtain ⟨z, behind, rfl⟩ := Field.exists_u8 (Nat.le_trans (by decide) hLong)
    rw [List.length_append, Field.encode_u8, List.length_singleton] at hLong
    obtain ⟨v, more, rfl⟩ := Field.exists_words (Nat.le_of_add_le_add_left hLong)
    rw [List.append_assoc, List.append_assoc] at hr
    obtain ⟨hZero, hWords⟩ := read_opened hr
    rw [hZero, hWords] at hRead
    obtain ⟨rfl, rfl⟩ := hRead
    exact ⟨more, rfl⟩
  · rintro ⟨more, rfl⟩
    rw [List.append_assoc, List.append_assoc] at hr
    exact read_opened hr

/-- The block is replaced by what is in it, and what is behind it stays. -/
theorem offers_opened {bs plain : Octets} (hPositive : 0 < key.blockLength) (hr : r.Offers bs)
    (hRoom : key.blockLength ≤ bs.length)
    (hApply : key.apply (bs.take key.blockLength) = .ok plain) :
    plain.length = key.blockLength ∧
      (r.write r.position plain).Offers (plain ++ bs.drop key.blockLength) := by
  have hTaken : (bs.take key.blockLength).length = key.blockLength := List.length_take_of_le hRoom
  have hBlock : bs.take key.blockLength ≠ [] :=
    List.ne_nil_of_length_pos (by rwa [hTaken])
  have hLength : plain.length = key.blockLength := by
    obtain ⟨-, -, rfl⟩ := (Rsa.Key.apply_eq_ok_iff hBlock).mp hApply
    exact length_bigEndian ..
  rw [← List.take_append_drop key.blockLength bs] at hr
  exact ⟨hLength, hr.overwrite_front (hLength.trans hTaken.symm)⟩

/-- Everything that is accepted is laid out in parts, and everything that is so laid out is
accepted. -/
theorem accepted_iff_describes {prelude : Prelude} (hKey : 17 ≤ key.blockLength)
    (hr : r.Offers body) :
    (∃ r', readPrelude key r = (.ok prelude, r')) ↔
      ∃ l : Layout, l.Describes key prelude body := by
  have hPositive : 0 < key.blockLength := Nat.lt_of_lt_of_le (by decide) hKey
  simp only [readPrelude_eq_ok_iff]
  constructor
  · rintro ⟨r', plain, hOpens, hSystem, hVersion, hWords⟩
    obtain ⟨l, hFits, rfl⟩ := exists_layout (Nat.le_trans (by decide) hKey) hr hOpens.room
    obtain ⟨q, hRequest, hSealed⟩ := hFits.read hr
    rw [hRequest] at hOpens hSystem hVersion hWords
    obtain ⟨hSum, hId, hRoom, hApply, hZero⟩ := hOpens
    rw [hSealed.remaining] at hRoom
    rw [hSealed.unread] at hApply
    obtain ⟨hLength, hPlain⟩ := offers_opened hPositive hSealed hRoom hApply
    obtain ⟨rest, rfl⟩ :=
      (opened_iff (hLength ▸ hKey) hPlain).mp ⟨hZero, congrArg Prod.fst hWords⟩
    exact ⟨l, rfl, hFits, hSum, hId, hSystem.symm, hVersion.symm, hRoom, rest, hApply⟩
  · rintro ⟨l, rfl, hFits, hSum, hId, hSystem, hVersion, hRoom, rest, hApply⟩
    generalize hParts : _ ++ (_ ++ rest) = plain at hApply
    obtain ⟨q, hRequest, hSealed⟩ := hFits.read hr
    obtain ⟨hLength, hPlain⟩ := offers_opened hPositive hSealed hRoom hApply
    obtain ⟨hZero, hWords⟩ := (opened_iff (hLength ▸ hKey) hPlain).mpr ⟨rest, hParts.symm⟩
    obtain ⟨words, hRead⟩ :
        ∃ words, Read.words (Read.u8 (q.write q.position plain)).2 = words := ⟨_, rfl⟩
    rw [hRead] at hWords
    rw [hRequest]
    refine ⟨words.2, plain, ⟨hSum, hId, ?_, ?_, hZero⟩, hSystem.symm, hVersion.symm,
      hRead.trans (Prod.ext hWords rfl)⟩
    · rwa [hSealed.remaining]
    · rwa [hSealed.unread]

/-! ## A block of zeros -/

/-- A request of a block of zeros, which is sealed under every key. -/
def blank (key : Rsa.Key) (text : VersionText) : Layout where
  sum := 0
  id := loginRequest
  system := ClientSystem.windows
  version := 1098
  skipped := zeros 4
  length_skipped := rfl
  text := text
  revision := zeros 3
  length_revision := rfl
  sealedHalf := zeros key.blockLength

def blankPrelude : Prelude where
  system := ClientSystem.windows
  version := 1098
  key := ⟨0, 0, 0, 0⟩

theorem blank_describes {text : VersionText} (hKey : 17 ≤ key.blockLength)
    (hExponent : key.exponent ≠ 0) (hFits : (blank key text).Fits key) :
    (blank key text).Describes key blankPrelude (blank key text).bytes := by
  have hPositive : 0 < key.blockLength := Nat.lt_of_lt_of_le (by decide) hKey
  refine ⟨rfl, hFits, rfl, rfl, rfl, rfl, (length_zeros _).ge, zeros (key.blockLength - 17), ?_⟩
  have hTaken : (zeros key.blockLength).take key.blockLength = zeros key.blockLength :=
    List.take_of_length_le (length_zeros _).le
  have hFront : (Field.u8 0).encode ++ Field.encodeAll (blankPrelude.key.toList.map Field.u32) =
      zeros 17 := by decide
  rw [← List.append_assoc, hFront, zeros, zeros, List.replicate_append_replicate,
    Nat.add_sub_cancel' hKey]
  change key.apply ((zeros key.blockLength).take key.blockLength) = _
  rw [hTaken, Rsa.Key.apply_zeros hPositive hExponent]
  rfl

/-- The modulus is a product of two primes, and the exponent undoes 65537. -/
def smallKey : Rsa.Key where
  modulus := (2 ^ 61 - 1) * (2 ^ 89 - 1)
  exponent := 740443132154395775117746638826656402702473

theorem accepted_blank {text : VersionText} (hFits : (blank smallKey text).Fits smallKey)
    (hBody : (blank smallKey text).bytes.length ≤ maxLoginBody) :
    let body := (blank smallKey text).bytes
    ∃ r', readPrelude smallKey (.ofFrame (littleEndian headerLength body.length ++ body)) =
      (.ok blankPrelude, r') := by
  intro body
  have hr := FrameReader.offers_ofFrame (length_littleEndian _ body.length)
    (hBody.trans (by decide))
  exact (accepted_iff_describes (by decide +kernel) hr).mpr
    ⟨_, blank_describes (by decide +kernel) (by decide +kernel) hFits⟩

/-! ## Well-formed requests -/

/-- The well-formed requests are the accepted ones whose version text, if there is one, is said to
end in the body. Of the other accepted ones the block stands behind the length of a text that is not
there, and three more bytes. -/
theorem accepted_wellFormed_iff {prelude : Prelude} {header : Octets}
    (hKey : 17 ≤ key.blockLength) (hBody : body.length ≤ maxLoginBody)
    (hCarries : r.Carries (header ++ body)) (hHeader : header.length = headerLength)
    (hPosition : r.position = headerLength) :
    ((∃ l : Layout, l.WellFormed key prelude body) ↔
      (∃ r', readPrelude key r = (.ok prelude, r')) ∧ ¬ Overruns key body) ∧
    ((∃ r', readPrelude key r = (.ok prelude, r')) → Overruns key body →
      ∃ (l : Layout) (n : UInt16), l.Describes key prelude body ∧ l.text = .overlong n) := by
  have hr : r.Offers body :=
    hCarries.offers hHeader hPosition (hBody.trans (by decide))
  rw [accepted_iff_describes hKey hr]
  refine ⟨⟨?wellFormed, ?accepted⟩, ?overruns⟩
  case wellFormed =>
    rintro ⟨l, hl⟩
    refine ⟨⟨l, hl.toDescribes⟩, fun hOverruns => ?_⟩
    obtain ⟨n, hText⟩ := hl.overruns_iff.mp hOverruns
    exact hl.whole n hText
  case accepted =>
    rintro ⟨⟨l, hl⟩, hInside⟩
    exact ⟨l, hl, fun n hText => hInside (hl.overruns_iff.mpr ⟨n, hText⟩)⟩
  case overruns =>
    rintro ⟨l, hl⟩ hOverruns
    obtain ⟨n, hText⟩ := hl.overruns_iff.mp hOverruns
    exact ⟨l, n, hl, hText⟩

theorem version_text_accepted_wellFormed :
    let body := (blank smallKey (.whole [0x31, 0x30, 0x2E, 0x39, 0x38])).bytes
    (∃ r', readPrelude smallKey (.ofFrame (littleEndian headerLength body.length ++ body)) =
        (.ok blankPrelude, r')) ∧
      ∃ l : Layout, l.WellFormed smallKey blankPrelude body := by
  intro body
  have hBody : body.length ≤ maxLoginBody := by decide +kernel
  have hAccepted := accepted_blank (by decide +kernel) hBody
  have hFrame : (littleEndian headerLength body.length ++ body).length ≤ FrameReader.capacity := by
    decide +kernel
  refine ⟨hAccepted, ?_⟩
  exact (accepted_wellFormed_iff (by decide +kernel) hBody (FrameReader.carries_ofFrame hFrame)
    (length_littleEndian ..) rfl).1.mpr ⟨hAccepted, by decide +kernel⟩

/-- A version text of 65535 bytes is announced, where 22 bytes are left. -/
theorem overlong_version_text_accepted :
    let body : Octets := [0, 0, 0, 0, 1, 2, 0, 0x4A, 4, 0, 0, 0, 0, 0xFF, 0xFF, 0, 0, 0] ++ zeros 19
    17 ≤ smallKey.blockLength ∧ body.length ≤ maxLoginBody ∧
      (∃ r', readPrelude smallKey (.ofFrame (littleEndian headerLength body.length ++ body)) =
        (.ok blankPrelude, r')) ∧
      ¬ ∃ l : Layout, l.WellFormed smallKey blankPrelude body := by
  intro body
  have hBytes : body = (blank smallKey (.overlong 0xFFFF)).bytes := by decide +kernel
  have hAccepted := accepted_blank (by decide +kernel)
    (show (blank smallKey (.overlong 0xFFFF)).bytes.length ≤ maxLoginBody by decide +kernel)
  refine ⟨by decide +kernel, by decide +kernel, hBytes ▸ hAccepted, ?_⟩
  rintro ⟨l, hl⟩
  obtain ⟨n, hText⟩ := hl.overruns_iff.mp (by decide +kernel)
  exact hl.whole n hText

end Login

end Gatehouse
