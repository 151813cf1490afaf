import Gatehouse.Octets

/-!
# Stretches of bytes

Replacing and cutting out a stretch of a byte string that is given in parts. The offsets are stated
as equations, so that a layout can name its fields by their lengths.
-/

namespace Gatehouse.Octets

theorem overwrite_append {xs ys zs patch : Octets} {start : Nat} (hStart : start = xs.length)
    (hPatch : patch.length = ys.length) :
    overwrite (xs ++ ys ++ zs) start patch = xs ++ patch ++ zs := by
  subst hStart
  have hTake : (xs ++ ys ++ zs).take xs.length = xs := by
    rw [List.append_assoc, List.take_left]
  have hDrop : (xs ++ ys ++ zs).drop (xs.length + ys.length) = zs := by
    rw [← List.length_append, List.drop_left]
  rw [overwrite, hTake, hPatch, hDrop]

theorem overwrite_overwrite {bs xs ys : Octets} {start : Nat} (hStart : start ≤ bs.length) :
    overwrite (overwrite bs start xs) (start + xs.length) ys = overwrite bs start (xs ++ ys) := by
  have hFront : (bs.take start ++ xs).length = start + xs.length := by
    rw [List.length_append, List.length_take_of_le hStart]
  have hTake : (overwrite bs start xs).take (start + xs.length) = bs.take start ++ xs :=
    List.take_left' hFront
  have hDrop : (overwrite bs start xs).drop (start + xs.length + ys.length) =
      bs.drop (start + (xs ++ ys).length) := by
    rw [← List.drop_drop, overwrite, List.drop_left' hFront, List.drop_drop, List.length_append,
      Nat.add_assoc]
  rw [overwrite, hTake, hDrop, overwrite, ← List.append_assoc (bs.take start)]

theorem slice_append {xs ys zs : Octets} {start stop : Nat} (hStart : start = xs.length)
    (hStop : stop = xs.length + ys.length) : slice (xs ++ ys ++ zs) start stop = ys := by
  subst hStart hStop
  rw [slice, Nat.add_sub_cancel_left, List.append_assoc, List.drop_left, List.take_left]

theorem length_overwrite {bs patch : Octets} {start : Nat}
    (hFits : start + patch.length ≤ bs.length) :
    (overwrite bs start patch).length = bs.length := by
  simp only [overwrite, List.length_append, List.length_take, List.length_drop]
  omega

/-! What a replacement leaves alone, and what it puts in. -/

theorem take_overwrite_of_le {bs patch : Octets} {start n : Nat} (hBefore : n ≤ start)
    (hInside : start ≤ bs.length) : (overwrite bs start patch).take n = bs.take n := by
  have hFront : n ≤ (bs.take start).length := by rwa [List.length_take_of_le hInside]
  rw [overwrite, List.append_assoc, List.take_append_of_le_length hFront, List.take_take,
    Nat.min_eq_left hBefore]

theorem drop_overwrite_of_le {bs patch : Octets} {start n : Nat}
    (hBehind : start + patch.length ≤ n) (hInside : start ≤ bs.length) :
    (overwrite bs start patch).drop n = bs.drop n := by
  have hFront : (bs.take start ++ patch).length = start + patch.length := by
    rw [List.length_append, List.length_take_of_le hInside]
  obtain ⟨more, rfl⟩ := Nat.exists_eq_add_of_le hBehind
  rw [← List.drop_drop, overwrite, List.drop_left' hFront, List.drop_drop]

theorem slice_overwrite {bs patch : Octets} {start stop : Nat} (hInside : start ≤ bs.length)
    (hStop : stop = start + patch.length) :
    slice (overwrite bs start patch) start stop = patch := by
  have hFront : start = (bs.take start).length := (List.length_take_of_le hInside).symm
  rw [overwrite]
  exact slice_append hFront (by rw [← hFront, hStop])

theorem length_slice {bs : Octets} {start stop : Nat} (hStop : stop ≤ bs.length) :
    (slice bs start stop).length = stop - start := by
  simp only [slice, List.length_take, List.length_drop]
  omega

@[simp]
theorem length_zeros (n : Nat) : (zeros n).length = n := List.length_replicate

/-- A byte string is what stands before a stretch, the stretch, and what stands behind it. -/
theorem take_append_slice_append_drop {bs : Octets} {start stop : Nat} (hOrder : start ≤ stop) :
    bs.take start ++ slice bs start stop ++ bs.drop stop = bs := by
  have hBehind : bs.drop stop = (bs.drop start).drop (stop - start) := by
    rw [List.drop_drop, Nat.add_sub_cancel' hOrder]
  rw [slice, hBehind, List.append_assoc, List.take_append_drop, List.take_append_drop]

theorem split?_append {n : Nat} {xs ys : Octets} (hEnough : n ≤ xs.length) :
    split? n (xs ++ ys) = some (xs.take n, xs.drop n ++ ys) := by
  have hLonger : n ≤ (xs ++ ys).length := by
    rw [List.length_append]
    omega
  rw [split?_eq, if_pos hLonger, List.take_append_of_le_length hEnough,
    List.drop_append_of_le_length hEnough]

end Gatehouse.Octets
