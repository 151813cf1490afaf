import Gatehouse.Proofs.FrameSizes
import Gatehouse.Proofs.MessageReading
import Mathlib.Data.List.Forall2

/-!
# Searching for messages

A search of the client ends with the frame that holds what it was after, and the messages behind it
go with the frame: the next search begins with the frame that follows. A search through all messages
in a row begins right behind the message that was found. The two come to the same as long as what
goes with a frame is not what the next search is after.
-/

namespace Gatehouse

open Wire Octets

namespace Search

variable {α : Type}

def behind (wanted : α → Bool) : List α → List α
  | [] => []
  | x :: xs => if wanted x then xs else behind wanted xs

/-- One search after the other, each from behind what the one before it has found. -/
def flat : List (α → Bool) → List α → List (Option α)
  | [], _ => []
  | wanted :: later, xs => xs.find? wanted :: flat later (behind wanted xs)

/-- One search after the other, each from behind the frame where the one before it has ended. -/
def framed : List (α → Bool) → List (List α) → List (Option α)
  | [], _ => []
  | wanted :: later, frames =>
    frames.flatten.find? wanted :: framed later (behind (·.any wanted) frames)

/-- What goes with the frame that a search ends in. -/
def passed (wanted : α → Bool) : List (List α) → List α
  | [] => []
  | frame :: frames => if frame.any wanted then behind wanted frame else passed wanted frames

/-- What goes with a frame is not what the next search is after. -/
def NoneMissed : List (α → Bool) → List (List α) → Prop
  | [], _ => True
  | wanted :: later, frames =>
    (∀ next ∈ later.head?, ∀ x ∈ passed wanted frames, next x = false) ∧
      NoneMissed later (behind (·.any wanted) frames)

theorem behind_append (wanted : α → Bool) (xs ys : List α) :
    behind wanted (xs ++ ys) =
      if xs.any wanted then behind wanted xs ++ ys else behind wanted ys := by
  induction xs with
  | nil => rfl
  | cons x xs ih =>
    rw [List.cons_append, behind, behind, List.any_cons]
    cases hWanted : wanted x with
    | true => rfl
    | false => rw [Bool.false_or, if_neg Bool.false_ne_true, if_neg Bool.false_ne_true, ih]

theorem behind_flatten (wanted : α → Bool) (frames : List (List α)) :
    behind wanted frames.flatten =
      passed wanted frames ++ (behind (·.any wanted) frames).flatten := by
  induction frames with
  | nil => rfl
  | cons frame frames ih =>
    rw [List.flatten_cons, behind_append, passed, behind, ih]
    split <;> rfl

theorem behind_sublist (wanted : α → Bool) (xs : List α) : (behind wanted xs).Sublist xs := by
  induction xs with
  | nil => exact List.Sublist.refl _
  | cons x xs ih =>
    rw [behind]
    split
    · exact List.sublist_cons_self x xs
    · exact ih.cons x

/-- A search that finds something leaves fewer elements of each kind that it is among. -/
theorem countP_behind_lt {wanted kind : α → Bool} {xs : List α} (hFound : xs.any wanted = true)
    (hKind : ∀ x, wanted x = true → kind x = true) :
    (behind wanted xs).countP kind < xs.countP kind := by
  induction xs with
  | nil => cases hFound
  | cons x xs ih =>
    rw [behind]
    by_cases hWanted : wanted x = true
    · rw [if_pos hWanted, List.countP_cons_of_pos (hKind x hWanted)]
      exact Nat.lt_succ_self _
    · rw [List.any_cons, Bool.eq_false_of_not_eq_true hWanted, Bool.false_or] at hFound
      rw [if_neg hWanted]
      exact (ih hFound).trans_le (List.sublist_cons_self x xs).countP_le

/-! ## The two searches -/

theorem flat_append {next : α → Bool} {xs : List α} (hNone : ∀ x ∈ xs, next x = false)
    (later : List (α → Bool)) (ys : List α) :
    flat (next :: later) (xs ++ ys) = flat (next :: later) ys := by
  have hAny : xs.any next = false := List.any_eq_false.mpr fun x hx => by simp [hNone x hx]
  have hFind : xs.find? next = none := List.find?_eq_none.mpr fun x hx => by simp [hNone x hx]
  rw [flat, flat, List.find?_append, hFind, Option.none_or, behind_append, hAny,
    if_neg Bool.false_ne_true]

theorem framed_eq_flat {wanted : List (α → Bool)} {frames : List (List α)}
    (hNone : NoneMissed wanted frames) : framed wanted frames = flat wanted frames.flatten := by
  induction wanted generalizing frames with
  | nil => rfl
  | cons first later ih =>
    obtain ⟨hPassed, hLater⟩ := hNone
    rw [framed, flat, behind_flatten, ih hLater]
    cases later with
    | nil => rfl
    | cons next later => rw [flat_append (hPassed next rfl)]

theorem noneMissed_of_length_le_one {frames : List (List α)}
    (hSingle : ∀ frame ∈ frames, frame.length ≤ 1) (wanted : List (α → Bool)) :
    NoneMissed wanted frames := by
  have hPassed : ∀ (first : α → Bool) (frames : List (List α)),
      (∀ frame ∈ frames, frame.length ≤ 1) → passed first frames = [] := by
    intro first frames hSingle
    induction frames with
    | nil => rfl
    | cons frame frames ih =>
      obtain ⟨hFrame, hFrames⟩ := List.forall_mem_cons.mp hSingle
      rw [passed, ih hFrames]
      match frame, hFrame with
      | [], _ => rfl
      | [x], _ => cases first x <;> simp [behind]
  induction wanted generalizing frames with
  | nil => trivial
  | cons first later ih =>
    refine ⟨fun next _ => ?_, ih fun frame hFrame => hSingle frame ?_⟩
    · rw [hPassed first frames hSingle]
      exact List.forall_mem_nil _
    · exact (behind_sublist _ frames).subset hFrame

/-- Each search that finds something uses up a frame that is not empty. -/
theorem countP_framed_le (wanted : List (α → Bool)) (frames : List (List α)) :
    (framed wanted frames).countP Option.isSome ≤ frames.countP (!·.isEmpty) := by
  induction wanted generalizing frames with
  | nil => exact Nat.zero_le _
  | cons first later ih =>
    rw [framed]
    cases hFind : frames.flatten.find? first with
    | none =>
      rw [List.countP_cons_of_neg (by simp)]
      exact (ih _).trans ((behind_sublist _ frames).countP_le ..)
    | some x =>
      have hFound : frames.any (·.any first) = true := by
        rw [← List.any_flatten, List.any_eq_true]
        exact ⟨x, List.mem_of_find?_eq_some hFind, List.find?_some hFind⟩
      have hLess : (behind (·.any first) frames).countP (!·.isEmpty) <
          frames.countP (!·.isEmpty) := by
        refine countP_behind_lt hFound fun frame hAny => ?_
        cases frame with
        | nil => cases hAny
        | cons => rfl
      rw [List.countP_cons_of_pos (by rfl)]
      exact (Nat.succ_le_succ (ih _)).trans hLess

theorem flat_replicate (xs : List α) :
    flat (List.replicate xs.length fun _ => true) xs = xs.map some := by
  induction xs with
  | nil => rfl
  | cons x xs ih => exact congrArg (some x :: ·) ih

theorem length_le_one_of_length_flatten_le {frames : List (List α)}
    (hLength : frames.flatten.length ≤ frames.countP (!·.isEmpty)) :
    ∀ frame ∈ frames, frame.length ≤ 1 := by
  have hEach : ∀ frames : List (List α), frames.countP (!·.isEmpty) ≤ frames.flatten.length := by
    intro frames
    induction frames with
    | nil => exact Nat.zero_le _
    | cons frame frames ih =>
      rw [List.flatten_cons, List.length_append]
      cases frame with
      | nil => simpa using ih
      | cons x xs =>
        rw [List.countP_cons_of_pos (by rfl), List.length_cons]
        omega
  induction frames with
  | nil => exact List.forall_mem_nil _
  | cons frame frames ih =>
    have hRest := hEach frames
    rw [List.flatten_cons, List.length_append] at hLength
    cases frame with
    | nil =>
      rw [List.countP_cons_of_neg (by simp)] at hLength
      exact List.forall_mem_cons.mpr ⟨Nat.zero_le _, ih (by simpa using hLength)⟩
    | cons x xs =>
      rw [List.countP_cons_of_pos (by rfl), List.length_cons] at hLength
      exact List.forall_mem_cons.mpr ⟨by rw [List.length_cons]; omega, ih (by omega)⟩

/-- Only frames of one message can be searched one after the other whatever is wanted. -/
theorem framed_eq_flat_iff (frames : List (List α)) :
    (∀ wanted, framed wanted frames = flat wanted frames.flatten) ↔
      ∀ frame ∈ frames, frame.length ≤ 1 := by
  constructor
  · intro hSame
    refine length_le_one_of_length_flatten_le ?_
    have hAll := hSame (List.replicate frames.flatten.length fun _ => true)
    rw [flat_replicate] at hAll
    have hCount := countP_framed_le (List.replicate frames.flatten.length fun _ => true) frames
    have hFound : frames.flatten.countP (Option.isSome ∘ some) = frames.flatten.length :=
      List.countP_eq_length.mpr fun _ _ => rfl
    rwa [hAll, List.countP_map, hFound] at hCount
  · intro hSingle wanted
    exact framed_eq_flat (noneMissed_of_length_le_one hSingle wanted)

end Search

/-! ## Frames with messages -/

namespace Wire

theorem FrameReader.placed_ofFrame {frame : Octets} (hHeader : headerLength ≤ frame.length)
    (hCapacity : frame.length ≤ capacity) : (ofFrame frame).Placed := by
  obtain ⟨rest, hStore, hLength⟩ := carries_ofFrame hCapacity
  refine ⟨hLength ▸ hHeader, ?_⟩
  rw [hStore, hLength, List.length_append]
  exact Nat.le_add_right ..

theorem FrameReader.Placed.offers {r : FrameReader} (hr : r.Placed)
    (hCapacity : r.store.length ≤ capacity) : r.Offers r.unread := by
  obtain ⟨hPosition, hLength⟩ := hr
  have hEnd : r.unreadEnd = r.length := Nat.max_eq_left hPosition
  have hSize : r.unread.length = r.length - r.position := by
    rw [FrameReader.unread, hEnd, length_slice hLength]
  have hRest : (r.store.drop r.position).drop (r.length - r.position) = r.store.drop r.length := by
    rw [List.drop_drop, Nat.add_sub_cancel' hPosition]
  refine ⟨r.store.take r.position, r.store.drop r.length, ?_, ?_, ?_, hLength.trans hCapacity⟩
  · rw [FrameReader.unread, hEnd, slice, ← hRest, List.append_assoc, List.take_append_drop,
      List.take_append_drop]
  · rw [List.length_take_of_le (hPosition.trans hLength)]
  · rw [hSize, Nat.add_sub_cancel' hPosition]

theorem ServerMessage.readAll_offered {ms : List ServerMessage} {r : FrameReader}
    (hKnown : ∀ m ∈ ms, m.isUnknown = false) (hr : r.Offers (ms.flatMap encode)) :
    (readAll r).1 = ms.map restrict := by
  rw [← List.append_nil (ms.flatMap encode)] at hr
  have hNone : ∀ q : FrameReader, q.Offers [] → (readAll q).1 = [] := by
    intro q hq
    rw [readAll_eq, if_neg (by rw [hq.remaining]; exact Nat.lt_irrefl 0)]
  rw [readAll_flatMap_encode hKnown hr hr.pass, hNone _ hr.pass, List.append_nil]

end Wire

namespace Client

structure Holds (key? : Option Xtea.Key) (frame : Octets) (messages : List ServerMessage) :
    Prop where
  inBounds : InBounds frame
  whole : frame.length = headerLength + declaredLength frame
  opens : openFrame key? frame = .ok messages

variable {key? : Option Xtea.Key} {c : Client} {ms : List ServerMessage}

theorem holds_sealedFrame (key : Xtea.Key) (mode : ChecksumMode) (sequence : UInt32)
    (hKnown : ∀ m ∈ ms, m.isUnknown = false)
    (hFits : (ms.flatMap ServerMessage.encode).length ≤ maxReadable) :
    Holds (some key) (sealedFrame key mode sequence (ms.flatMap ServerMessage.encode))
      (ms.map ServerMessage.restrict) := by
  have hGathered := hFits.trans (show maxReadable ≤ maxPayload by decide)
  have hBounds := (inBounds_sealedFrame_iff key mode sequence hGathered).mpr hFits
  have hWhole := length_sealedFrame_eq_declaredLength key mode sequence hGathered
  refine ⟨hBounds, hWhole, ?_⟩
  have hCapacity : (sealedFrame key mode sequence (ms.flatMap ServerMessage.encode)).length ≤
      FrameReader.capacity := by
    rw [hWhole, FrameReader.capacity]
    exact Nat.add_le_add_left hBounds.2 _
  have hPlaced := FrameReader.placed_ofFrame (hWhole ▸ Nat.le_add_right ..) hCapacity
  obtain ⟨hOpened, hUnread⟩ :=
    decrypt_sealedFrame (FrameReader.carries_ofFrame hCapacity) hGathered
  have hBounded := Read.bounded_decrypt key
  have hStore := (hBounded.capacity _ hPlaced).trans (FrameReader.length_store_ofFrame _)
  have hOffers := (hBounded.placed _ hPlaced).offers hStore.le
  rw [openFrame]
  split
  case h_1 r hDecrypted =>
    rw [hDecrypted] at hUnread
    change (FrameReader.decrypt key _).2.Offers (FrameReader.decrypt key _).2.unread at hOffers
    rw [hDecrypted, hUnread] at hOffers
    rw [ServerMessage.readAll_offered hKnown hOffers]
  case h_2 hDecrypted => rw [hDecrypted] at hOpened; cases hOpened

theorem holds_plainFrame (hKnown : ∀ m ∈ ms, m.isUnknown = false)
    (hFits : checksumLength + (ms.flatMap ServerMessage.encode).length ≤ maxBody) :
    Holds none (plainFrame (ms.flatMap ServerMessage.encode)) (ms.map ServerMessage.restrict) := by
  set payload := ms.flatMap ServerMessage.encode
  have hFrame : plainFrame payload =
      littleEndian headerLength (checksumLength + payload.length) ++
        (zeros checksumLength ++ payload) := List.append_assoc ..
  have hBody : (zeros checksumLength ++ payload).length = checksumLength + payload.length := by
    rw [List.length_append, length_zeros]
  have hLength :
      (plainFrame payload).length = headerLength + (checksumLength + payload.length) := by
    rw [hFrame, List.length_append, length_littleEndian, hBody]
  have hDeclared : declaredLength (plainFrame payload) = checksumLength + payload.length := by
    rw [declaredLength, hFrame, List.take_left' (length_littleEndian ..),
      ofLittleEndian_littleEndian, Nat.mod_eq_of_lt]
    exact hFits.trans_lt (by decide)
  have hInBounds : InBounds (plainFrame payload) := by
    rw [InBounds, hDeclared]
    exact ⟨Nat.le_add_right_of_le (by decide), hFits⟩
  refine ⟨hInBounds, by rw [hLength, hDeclared], ?_⟩
  have hOffers : (FrameReader.ofFrame (plainFrame payload)).Offers
      (zeros checksumLength ++ payload) := by
    rw [hFrame]
    exact FrameReader.offers_ofFrame (length_littleEndian ..) (hBody ▸ hFits)
  have hSeek : (FrameReader.ofFrame (plainFrame payload)).seek FrameReader.cipherStart =
      { FrameReader.ofFrame (plainFrame payload) with
        position := headerLength + (zeros checksumLength).length } := by
    obtain ⟨-, -, -, hPosition, hEnd, -⟩ := hOffers
    have hStart : FrameReader.cipherStart ≤ (FrameReader.ofFrame (plainFrame payload)).length := by
      rw [hEnd, hBody, ← Nat.add_assoc]
      exact Nat.le_add_right ..
    rw [FrameReader.seek, Nat.min_eq_left (hStart.trans (Nat.le_max_left ..)), length_zeros]
    rfl
  rw [openFrame, hSeek]
  exact congrArg Except.ok (ServerMessage.readAll_offered hKnown hOffers.pass)

theorem Holds.readFrame_eq {frame rest : Octets} (hFrame : Holds c.key? frame ms)
    (hInbox : c.inbox = frame ++ rest) :
    readFrame c = (.ok ms, { c with inbox := rest }) := by
  rw [readFrame, hInbox, nextFrame_append rest hFrame.inBounds hFrame.whole]
  simp only [Except.bind, hFrame.opens]

theorem readFrame_of_end (hInbox : c.inbox = []) :
    readFrame c = (.error .closed, { c with inbox := [] }) := by
  rw [readFrame, hInbox]
  rfl

/-! ## Searches -/

theorem readUntil_of_ok (wanted : ServerMessage → Bool) {c' : Client}
    (hFrame : readFrame c = (.ok ms, c')) :
    readUntil wanted c =
      match ms.find? wanted with
      | some m => (.ok m, c')
      | none => readUntil wanted c' := by
  rw [readUntil]
  split
  case h_1 e other hError => rw [hFrame] at hError; cases hError
  case h_2 found other hOk =>
    rw [hFrame] at hOk
    cases hOk
    rfl

theorem readUntil_of_error (wanted : ServerMessage → Bool) {c' : Client} {e : Error}
    (hFrame : readFrame c = (.error e, c')) : readUntil wanted c = (.error e, c') := by
  rw [readUntil]
  split
  case h_1 other left hError =>
    rw [hFrame] at hError
    cases hError
    rfl
  case h_2 found left hOk => rw [hFrame] at hOk; cases hOk

/-- Where nothing is found, the search has come to the end of what the server has sent. -/
def outcome : Option ServerMessage → Except Error ServerMessage
  | some m => .ok m
  | none => .error .closed

theorem outcome_injective : Function.Injective outcome := by
  rintro (_ | m) (_ | m') h <;> cases h <;> rfl

variable {frames : List Octets} {messages : List (List ServerMessage)}

theorem readUntil_frames (wanted : ServerMessage → Bool) (hKey : c.key? = key?)
    (hFrames : List.Forall₂ (Holds key?) frames messages) (hInbox : c.inbox = frames.flatten) :
    ∃ left, List.Forall₂ (Holds key?) left (Search.behind (·.any wanted) messages) ∧
      readUntil wanted c =
        (outcome (messages.flatten.find? wanted), { c with inbox := left.flatten }) := by
  induction hFrames generalizing c with
  | nil => exact ⟨[], .nil, readUntil_of_error wanted (readFrame_of_end hInbox)⟩
  | @cons frame found frames messages hFrame hFrames ih =>
    have hRead := (hKey ▸ hFrame).readFrame_eq hInbox
    rw [readUntil_of_ok wanted hRead, List.flatten_cons, List.find?_append, Search.behind]
    cases hFind : found.find? wanted with
    | some m =>
      have hAny : found.any wanted = true :=
        List.any_eq_true.mpr ⟨m, List.mem_of_find?_eq_some hFind, List.find?_some hFind⟩
      rw [if_pos hAny]
      exact ⟨frames, hFrames, rfl⟩
    | none =>
      have hAny : ¬ found.any wanted = true := by simpa using hFind
      rw [if_neg hAny]
      exact ih (c := { c with inbox := frames.flatten }) hKey rfl

def readsUntil : List (ServerMessage → Bool) → Client → List (Except Error ServerMessage) × Client
  | [], c => ([], c)
  | wanted :: later, c =>
    let (result, c) := readUntil wanted c
    let (results, c) := readsUntil later c
    (result :: results, c)

theorem readsUntil_frames (wanted : List (ServerMessage → Bool)) (hKey : c.key? = key?)
    (hFrames : List.Forall₂ (Holds key?) frames messages) (hInbox : c.inbox = frames.flatten) :
    (readsUntil wanted c).1 = (Search.framed wanted messages).map outcome := by
  induction wanted generalizing c frames messages with
  | nil => rfl
  | cons first later ih =>
    obtain ⟨left, hLeft, hRead⟩ := readUntil_frames first hKey hFrames hInbox
    rw [readsUntil, hRead, Search.framed, List.map_cons]
    exact congrArg (List.cons _) (ih (c := { c with inbox := left.flatten }) hKey hLeft rfl)

/-- Searches match the messages in order, each from the frame behind the one in which the search
before it has ended. That is a search through all messages in a row unless a message that the next
search would have found goes with a frame, and whatever is wanted only if there is one message to a
frame. -/
theorem searches_go_by_frames (c : Client) (frames : List Octets)
    (messages : List (List ServerMessage)) (hFrames : List.Forall₂ (Holds c.key?) frames messages)
    (hInbox : c.inbox = frames.flatten) :
    (∀ wanted, (readsUntil wanted c).1 = (Search.framed wanted messages).map outcome) ∧
    (∀ wanted, Search.NoneMissed wanted messages →
      (readsUntil wanted c).1 = (Search.flat wanted messages.flatten).map outcome) ∧
    ((∀ wanted, (readsUntil wanted c).1 = (Search.flat wanted messages.flatten).map outcome) ↔
      ∀ found ∈ messages, found.length ≤ 1) := by
  have hRead : ∀ wanted,
      (readsUntil wanted c).1 = (Search.framed wanted messages).map outcome :=
    fun wanted => readsUntil_frames wanted rfl hFrames hInbox
  refine ⟨hRead, fun wanted hNone => ?_, ?_⟩
  · rw [hRead, Search.framed_eq_flat hNone]
  · rw [← Search.framed_eq_flat_iff]
    refine forall_congr' fun wanted => ?_
    rw [hRead]
    exact outcome_injective.list_map.eq_iff

/-- Four messages in two sealed frames, of which the second and the third are wanted. -/
theorem searches_of_sealed_frames :
    let key : Xtea.Key := .ofWords ⟨1, 2, 3, 4⟩
    let first := [ServerMessage.ping, .enterWorld]
    let second := [ServerMessage.pingBack, .ping]
    let frames := [sealedFrame key .adler 1 (first.flatMap ServerMessage.encode),
      sealedFrame key .adler 2 (second.flatMap ServerMessage.encode)]
    let c := { new ⟨3233, 17⟩ .adler frames.flatten with key? := some key }
    (readsUntil [(· == .enterWorld), (· == .pingBack)] c).1 = [.ok .enterWorld, .ok .pingBack] := by
  intro key first second frames c
  have hFrames : List.Forall₂ (Holds c.key?) frames [first, second] :=
    .cons (holds_sealedFrame key .adler 1 (by decide) (by decide))
      (.cons (holds_sealedFrame key .adler 2 (by decide) (by decide)) .nil)
  obtain ⟨-, hFlat, -⟩ := searches_go_by_frames c frames [first, second] hFrames rfl
  have hNone : Search.NoneMissed [(· == .enterWorld), (· == .pingBack)] [first, second] := by
    refine ⟨fun next hNext x hPassed => ?_, fun next hNext => ?_, trivial⟩
    · cases hPassed
    · cases hNext
  exact (hFlat _ hNone).trans rfl

/-- Two replies to a ping come in one frame. Both are asked for, and the second is lost. -/
theorem second_reply_lost :
    let frame : Octets := [0x06, 0x00, 0x00, 0x00, 0x00, 0x00, 0x1e, 0x1e]
    let messages := [ServerMessage.pingBack, .pingBack]
    let wanted : List (ServerMessage → Bool) := [(· == .pingBack), (· == .pingBack)]
    let c := new ⟨3233, 17⟩ .adler frame
    Holds c.key? frame messages ∧
      (readsUntil wanted c).1 = [.ok .pingBack, .error .closed] ∧
      (Search.flat wanted messages).map outcome = [.ok .pingBack, .ok .pingBack] := by
  intro frame messages wanted c
  have hBytes : plainFrame (messages.flatMap ServerMessage.encode) = frame := by decide +kernel
  have hFrame : Holds c.key? frame messages :=
    hBytes ▸ holds_plainFrame (by decide) (by decide)
  have hFrames : List.Forall₂ (Holds none) [frame] [messages] := .cons hFrame .nil
  refine ⟨hFrame, ?_, rfl⟩
  exact (readsUntil_frames wanted rfl hFrames (List.append_nil frame).symm).trans rfl

end Client

end Gatehouse
