import Mathlib.Data.List.Nodup

/-!
# Lists with keys

Where no key comes twice, taking out a key takes out one element.
-/

namespace Gatehouse

variable {α κ : Type} [DecidableEq κ] {l : List α} {key : α → κ} {x : α}

theorem perm_cons_filter_key (hDistinct : (l.map key).Nodup) (hx : x ∈ l) :
    l.Perm (x :: l.filter (key · != key x)) := by
  obtain ⟨front, rest, rfl⟩ := List.append_of_mem hx
  rw [List.map_append, List.map_cons, List.nodup_middle, List.nodup_cons, ← List.map_append]
    at hDistinct
  have hOthers : ∀ y ∈ front ++ rest, (key y != key x) = true := by
    intro y hy
    refine bne_iff_ne.mpr fun hSame => hDistinct.1 ?_
    rw [← hSame]
    exact List.mem_map_of_mem hy
  have hKept : (front ++ x :: rest).filter (key · != key x) = front ++ rest := by
    rw [List.filter_append, List.filter_cons_of_neg (by simp), ← List.filter_append,
      List.filter_eq_self.mpr hOthers]
  rw [hKept]
  exact List.perm_middle

end Gatehouse
