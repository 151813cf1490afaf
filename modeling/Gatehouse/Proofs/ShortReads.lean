import Gatehouse.Proofs.DeclaredBytes

/-!
# Short reads

What a read makes of a value that does not end before the declared length. A number that is cut off
reads as zero and keeps the cursor. Texts and positions are made of several reads, each of which
looks at its own bytes only, so that the parts which are whole move the cursor before one is missed.
-/

namespace Gatehouse.Wire

open Octets

/-- The zero or empty value of a kind. -/
def Field.Kind.blank : Field.Kind → Field
  | .scalar s => .scalar s 0
  | .text => .text ""
  | .position => .position ⟨0, 0, 0⟩

namespace FrameReader

/-- How many bytes the value at the cursor takes up. The first two of a text say how many follow. -/
def extent (r : FrameReader) : Field.Kind → Nat
  | .scalar s => s.size
  | .text => 2 + ofLittleEndian (slice r.store r.position (r.position + 2))
  | .position => 5

/-- The value at the cursor goes beyond the declared length. -/
def Crosses (r : FrameReader) (kind : Field.Kind) : Prop :=
  r.length < r.position + r.extent kind

instance (r : FrameReader) (kind : Field.Kind) : Decidable (r.Crosses kind) :=
  inferInstanceAs (Decidable (r.length < r.position + r.extent kind))

/-- How far the cursor moves over such a value: past the length of a text, and past everything that
is left of a position. -/
def strayed (r : FrameReader) : Field.Kind → Nat
  | .scalar _ => 0
  | .text => if r.remaining < 2 then 0 else 2
  | .position => r.remaining

variable {r : FrameReader}

theorem Crosses.remaining_lt {kind : Field.Kind} (h : r.Crosses kind) :
    r.remaining < r.extent kind := by
  have hPos : 0 < r.extent kind := by
    cases kind with
    | scalar s => cases s <;> exact Nat.succ_pos _
    | text => exact Nat.add_pos_left Nat.two_pos _
    | position => exact Nat.succ_pos _
  rw [Crosses] at h
  rw [remaining]
  omega

theorem take_of_short {n : Nat} (hShort : r.remaining < n) : r.take n = (none, r) := by
  rw [take, if_pos hShort]

theorem number_of_short {size : Nat} (hShort : r.remaining < size) : r.number size = (0, r) := by
  rw [number, take_of_short hShort]

theorem number_of_enough {size : Nat} (hEnough : ¬ r.remaining < size) :
    r.number size = (ofLittleEndian (slice r.store r.position (r.position + size)),
      { r with position := r.position + size }) := by
  rw [number, take, if_neg hEnough]

/-- A number moves the cursor over its bytes or not at all. -/
theorem number_cursor (size : Nat) (r : FrameReader) :
    ∃ n, (r.number size).2 = { r with position := r.position + n } ∧
      (r.remaining < size ∧ n = 0 ∨ size ≤ r.remaining ∧ n = size) := by
  by_cases hShort : r.remaining < size
  · exact ⟨0, congrArg Prod.snd (number_of_short hShort), .inl ⟨hShort, rfl⟩⟩
  · exact ⟨size, congrArg Prod.snd (number_of_enough hShort), .inr ⟨Nat.le_of_not_lt hShort, rfl⟩⟩

end FrameReader

namespace Read

variable {r : FrameReader}

theorem scalar_of_short {s : Scalar} (hShort : r.remaining < s.size) : scalar s r = (0, r) := by
  have hZero : s.ofBits 0 = 0 := by cases s <;> decide
  change (s.ofBits (r.number s.size).1, (r.number s.size).2) = _
  rw [FrameReader.number_of_short hShort, hZero]

theorem text_of_short {r : FrameReader} (h : r.Crosses .text) :
    text r = ("", { r with position := r.position + r.strayed .text }) := by
  have hShort := h.remaining_lt
  have hText : text r =
      if (r.number 2).1 = 0 then ("", (r.number 2).2)
      else ((((r.number 2).2.take (r.number 2).1).1.map Latin1.decode).getD "",
        ((r.number 2).2.take (r.number 2).1).2) := by
    simp only [text, number, bytes, bind, StateT.bind, pure]
    split <;> rfl
  rw [hText]
  by_cases hLength : r.remaining < 2
  · rw [FrameReader.number_of_short hLength, if_pos rfl, FrameReader.strayed, if_pos hLength]
    rfl
  · -- the length of the text is read, and the cursor stays behind it
    rw [FrameReader.number_of_enough hLength, FrameReader.strayed, if_neg hLength]
    rw [FrameReader.extent] at hShort
    dsimp only
    split
    case isTrue => rfl
    case isFalse =>
      rw [FrameReader.take_of_short]
      · rfl
      · simp only [FrameReader.remaining] at hShort hLength ⊢
        omega

theorem position_eq (r : FrameReader) :
    position r =
      (⟨UInt16.ofNat (r.number 2).1, UInt16.ofNat ((r.number 2).2.number 2).1,
          UInt8.ofNat (((r.number 2).2.number 2).2.number 1).1⟩,
        (((r.number 2).2.number 2).2.number 1).2) :=
  rfl

/-- Each coordinate that is whole is taken, so that nothing of a short position is left. -/
theorem position_cursor (h : r.Crosses .position) :
    (position r).2 = { r with position := r.position + r.remaining } := by
  have hShort := h.remaining_lt
  obtain ⟨x, hX, _⟩ := r.number_cursor 2
  obtain ⟨y, hY, _⟩ := FrameReader.number_cursor 2 { r with position := r.position + x }
  obtain ⟨z, hZ, _⟩ := FrameReader.number_cursor 1 { r with position := r.position + x + y }
  rw [position_eq, hX, hY, hZ]
  simp only [FrameReader.remaining, FrameReader.extent] at *
  congr 1
  omega

theorem position_of_nothing (hNothing : r.remaining = 0) : position r = (⟨0, 0, 0⟩, r) := by
  have hNumber : ∀ size, 0 < size → r.number size = (0, r) :=
    fun size hSize => FrameReader.number_of_short (hNothing ▸ hSize)
  rw [position_eq, hNumber 2 Nat.two_pos, hNumber 2 Nat.two_pos, hNumber 1 Nat.one_pos]
  rfl

/-! ## The store -/

/-- The bytes are left alone. -/
def Keeps {α : Type} (read : Read α) : Prop :=
  ∀ r : FrameReader, (read r).2.store = r.store

theorem keeps_pure {α : Type} (a : α) : (pure a : Read α).Keeps :=
  fun _ => rfl

theorem Keeps.bind {α β : Type} {read : Read α} {next : α → Read β} (hRead : read.Keeps)
    (hNext : ∀ a, (next a).Keeps) : (read >>= next).Keeps :=
  fun r => (hNext _ _).trans (hRead r)

theorem keeps_bytes (n : Nat) : (bytes n).Keeps := by
  intro r
  rw [bytes, FrameReader.take]
  split <;> rfl

theorem keeps_number (size : Nat) : (number size).Keeps := by
  rw [number_eq_bytes]
  exact (keeps_bytes size).bind fun _ => keeps_pure _

theorem keeps_u8 : u8.Keeps :=
  (keeps_number 1).bind fun _ => keeps_pure _

theorem keeps_u32 : u32.Keeps :=
  (keeps_number 4).bind fun _ => keeps_pure _

theorem keeps_words : words.Keeps :=
  keeps_u32.bind fun _ => keeps_u32.bind fun _ => keeps_u32.bind fun _ => keeps_u32.bind fun _ =>
    keeps_pure _

theorem keeps_text : text.Keeps := by
  refine (keeps_number 2).bind fun n => ?_
  split
  · exact keeps_pure ""
  · exact (keeps_bytes n).bind fun _ => keeps_pure _

/-! ## Values that are cut off -/

/-- A value that crosses the declared length reads as blank and keeps the cursor, unless it is a
text whose length is there or a position of which a byte is left. The text is empty all the same. -/
theorem field_of_crosses {kind : Field.Kind} (h : r.Crosses kind) :
    (field kind r).2 = { r with position := r.position + r.strayed kind } ∧
      (field kind r = (kind.blank, r) ↔ r.strayed kind = 0) ∧
      (kind ≠ .position → (field kind r).1 = kind.blank) := by
  cases kind with
  | scalar s =>
    have hField : field (.scalar s) r = (Field.Kind.blank (.scalar s), r) := by
      change (Field.scalar s (scalar s r).1, (scalar s r).2) = _
      rw [scalar_of_short h.remaining_lt]
      rfl
    exact ⟨congrArg Prod.snd hField, iff_of_true hField rfl, fun _ => congrArg Prod.fst hField⟩
  | text =>
    have hField : field .text r =
        (.text "", { r with position := r.position + r.strayed .text }) := by
      change (Field.text (text r).1, (text r).2) = _
      rw [text_of_short h]
    rw [hField]
    refine ⟨rfl, ?_, fun _ => rfl⟩
    constructor
    · intro hStill
      have hPosition := congrArg (fun x => x.2.position) hStill
      exact Nat.add_eq_left.mp hPosition
    · intro hNone
      rw [hNone]
      rfl
  | position =>
    have hCursor : (field .position r).2 = { r with position := r.position + r.remaining } :=
      position_cursor h
    refine ⟨hCursor, ?_, fun hOther => absurd rfl hOther⟩
    constructor
    · intro hStill
      rw [hStill] at hCursor
      exact (Nat.add_eq_left.mp (congrArg FrameReader.position hCursor).symm)
    · intro hNothing
      change (Field.position (position r).1, (position r).2) = _
      rw [position_of_nothing hNothing]
      rfl

/-- Two bytes are left where four are asked for. -/
theorem field_of_two_bytes :
    let r := FrameReader.ofFrame [2, 0, 0xAA, 0xBB]
    r.Crosses (.scalar .u32) ∧ field (.scalar .u32) r = (.scalar .u32 0, r) := by
  intro r
  have h : r.Crosses (.scalar .u32) := by decide +kernel
  exact ⟨h, (field_of_crosses h).2.1.mpr rfl⟩

/-- A text of sixteen bytes of which one is there reads as empty, with the cursor behind its length.
As a position the same three bytes are not blank, and none of them is left. -/
theorem short_text_moves_cursor :
    let r := FrameReader.ofFrame [3, 0, 0x10, 0, 0x61]
    r.Crosses .text ∧ field .text r ≠ (Field.Kind.blank .text, r) ∧
      (field .text r).1 = .text "" ∧ r.position = 2 ∧ (field .text r).2.position = 4 ∧
      r.Crosses .position ∧ field .position r ≠ (Field.Kind.blank .position, r) ∧
      (field .position r).1 = .position ⟨16, 0, 97⟩ ∧ (field .position r).2.position = 5 := by
  intro r
  have hText : (field .text r).2.position = 4 := by decide +kernel
  have hPosition : (field .position r).2.position = 5 := by decide +kernel
  have hCursor : r.position = 2 := rfl
  refine ⟨by decide +kernel, fun h => ?_, by decide +kernel, hCursor, hText, by decide +kernel,
    fun h => ?_, by decide +kernel, hPosition⟩
  · rw [h, hCursor] at hText
    contradiction
  · rw [h, hCursor] at hPosition
    contradiction

end Read

end Gatehouse.Wire
