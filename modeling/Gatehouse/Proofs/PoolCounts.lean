import Mathlib.Data.List.Induction
import Mathlib.Data.List.Infix
import Mathlib.Data.List.Perm.Subperm
import Mathlib.Order.Bounds.Basic
import Gatehouse.Proofs.Keys
import Gatehouse.Proofs.Reuse

/-!
# Counting the buffers of a pool

Each buffer has the number that was the count of the buffers made before it. What a use of a pool
does is told by these numbers: they go from the free ones to those on loan and back, a new one comes
in where none is free, and one is lost where a buffer comes back to a full pool. As long as no more
buffers are on loan than the pool keeps, none is lost, and there are as many as were ever on loan at
once.
-/

namespace Gatehouse.Lending

variable {l m : Lending} {n : Nat}

def free (l : Lending) : List Nat :=
  l.pool.free.map (·.serial)

def onLoan (l : Lending) : List Nat :=
  l.loans.map (·.2.serial)

/-- The loans are told apart by their numbers, which come from a counter. -/
structure Numbered (l : Lending) : Prop where
  distinct : (l.loans.map Prod.fst).Nodup
  counted : ∀ loan ∈ l.loans, loan.1 < l.lent

/-- What a use can do with the buffers. -/
inductive Moves (l m : Lending) : Prop where
  | still (hFree : m.free = l.free) (hLoans : m.onLoan = l.onLoan)
    (hMade : m.pool.allocated = l.pool.allocated)
  | made (hNone : l.free = []) (hFree : m.free = [])
    (hLoans : m.onLoan = l.pool.allocated :: l.onLoan)
    (hMade : m.pool.allocated = l.pool.allocated + 1)
  | lentAgain (serial : Nat) (hFree : l.free = serial :: m.free)
    (hLoans : m.onLoan = serial :: l.onLoan) (hMade : m.pool.allocated = l.pool.allocated)
  | returned (serial : Nat) (hRoom : l.free.length < l.pool.capacity)
    (hFree : m.free = l.free ++ [serial]) (hLoans : l.onLoan.Perm (serial :: m.onLoan))
    (hMade : m.pool.allocated = l.pool.allocated)
  | lost (serial : Nat) (hFull : l.pool.capacity ≤ l.free.length) (hFree : m.free = l.free)
    (hLoans : l.onLoan.Perm (serial :: m.onLoan)) (hMade : m.pool.allocated = l.pool.allocated)

/-! ## The uses -/

theorem moves_acquire (l : Lending) : l.Moves l.acquire.2 := by
  rcases l with ⟨⟨capacity, free, allocated⟩, loans, lent⟩
  cases free with
  | nil => exact .made rfl rfl rfl rfl
  | cons b free => exact .lentAgain b.serial rfl rfl rfl

theorem Numbered.acquire (hl : l.Numbered) : l.acquire.2.Numbered := by
  refine ⟨List.nodup_cons.mpr ⟨fun hThere => ?_, hl.distinct⟩, fun loan hLoan => ?_⟩
  · obtain ⟨loan, hLoan, hNumber⟩ := List.mem_map.mp hThere
    exact Nat.lt_irrefl _ (hNumber ▸ hl.counted loan hLoan)
  · rcases List.mem_cons.mp hLoan with rfl | hThere
    · exact Nat.lt_succ_self _
    · exact Nat.lt_succ_of_lt (hl.counted loan hThere)

theorem loans_set (l : Lending) (n : Nat) (buffer : Wire.FrameBuffer) :
    (l.set n buffer).loans.map (fun loan => (loan.1, loan.2.serial)) =
      l.loans.map fun loan => (loan.1, loan.2.serial) := by
  rw [set, List.map_map]
  refine List.map_congr_left fun loan _ => ?_
  dsimp only [Function.comp_apply]
  split <;> rfl

/-- Editing leaves the buffers where they are. -/
structure Stays (l m : Lending) : Prop where
  pool : m.pool = l.pool
  lent : m.lent = l.lent
  loans : m.loans.map (fun loan => (loan.1, loan.2.serial)) =
    l.loans.map fun loan => (loan.1, loan.2.serial)

theorem stays_edit (l : Lending) (n : Nat) (next : Wire.FrameBuffer.Edit) :
    l.Stays (l.edit n next) := by
  have hSame : l.Stays l := ⟨rfl, rfl, rfl⟩
  have hSet : ∀ buffer, l.Stays (l.set n buffer) := fun buffer => ⟨rfl, rfl, loans_set l n buffer⟩
  cases next with
  | append bs =>
    change l.Stays (l.append n bs).2
    rw [Lending.append]
    split
    · exact hSet _
    · exact hSame
  | _ =>
    simp only [Lending.edit]
    split
    · exact hSame
    · exact hSet _

theorem Stays.moves (h : l.Stays m) : l.Moves m := by
  have hLoans := congrArg (List.map Prod.snd) h.loans
  rw [List.map_map, List.map_map] at hLoans
  exact .still (by rw [free, free, h.pool]) hLoans (by rw [h.pool])

theorem Stays.numbers (h : l.Stays m) : m.loans.map Prod.fst = l.loans.map Prod.fst := by
  have hNumbers := congrArg (List.map Prod.fst) h.loans
  rwa [List.map_map, List.map_map] at hNumbers

theorem Numbered.stays (hl : l.Numbered) (h : l.Stays m) : m.Numbered := by
  refine ⟨h.numbers ▸ hl.distinct, fun loan hLoan => ?_⟩
  have hThere : loan.1 ∈ l.loans.map Prod.fst := h.numbers ▸ List.mem_map_of_mem hLoan
  obtain ⟨before, hBefore, hNumber⟩ := List.mem_map.mp hThere
  rw [h.lent, ← hNumber]
  exact hl.counted before hBefore

theorem Numbered.perm_loans (hl : l.Numbered) {b : PooledBuffer} (hLoan : l.loan? n = some b) :
    l.loans.Perm ((n, b) :: l.loans.filter (·.1 != n)) := by
  rw [loan?, List.lookup_eq_some_iff] at hLoan
  obtain ⟨front, rest, hLoans, -⟩ := hLoan
  have hThere : (n, b) ∈ l.loans := hLoans ▸ List.mem_append_right front (List.mem_cons_self ..)
  exact perm_cons_filter_key hl.distinct hThere

theorem Numbered.drop (hl : l.Numbered) (n : Nat) : (l.drop n).Numbered := by
  rw [Lending.drop]
  split
  case h_1 => exact hl
  case h_2 b hLoan =>
    exact ⟨hl.distinct.sublist (List.filter_sublist.map _),
      fun loan hThere => hl.counted loan (List.mem_filter.mp hThere).1⟩

theorem Numbered.moves_drop (hl : l.Numbered) (n : Nat) : l.Moves (l.drop n) := by
  rw [Lending.drop]
  split
  case h_1 => exact .still rfl rfl rfl
  case h_2 b hLoan =>
    have hLoans : l.onLoan.Perm (b.serial :: (l.loans.filter (·.1 != n)).map (·.2.serial)) :=
      (hl.perm_loans hLoan).map _
    have hLength : l.free.length = l.pool.free.length := List.length_map ..
    rw [BufferPool.release]
    split
    case isTrue hRoom =>
      exact .returned b.serial (hLength ▸ hRoom) (List.map_append ..) hLoans rfl
    case isFalse hFull =>
      exact .lost b.serial (hLength ▸ Nat.le_of_not_lt hFull) rfl hLoans rfl

theorem Numbered.apply (hl : l.Numbered) (use : Use) : (use.apply l).Numbered := by
  cases use with
  | acquire => exact hl.acquire
  | edit n next => exact hl.stays (stays_edit l n next)
  | drop n => exact hl.drop n

theorem Numbered.moves (hl : l.Numbered) (use : Use) : l.Moves (use.apply l) := by
  cases use with
  | acquire => exact moves_acquire l
  | edit n next => exact (stays_edit l n next).moves
  | drop n => exact hl.moves_drop n

theorem capacity_apply (l : Lending) (use : Use) :
    (use.apply l).pool.capacity = l.pool.capacity := by
  cases use with
  | acquire =>
    change l.pool.acquire.2.capacity = _
    rw [BufferPool.acquire]
    split <;> rfl
  | edit n next => exact congrArg BufferPool.capacity (stays_edit l n next).pool
  | drop n =>
    change (l.drop n).pool.capacity = _
    rw [Lending.drop]
    split
    · rfl
    · dsimp only
      rw [BufferPool.release]
      split <;> rfl

/-! ## What the uses keep -/

/-- No buffer is in two places, none has a number that is still to come, and no more are free than
are kept. -/
structure Counted (l : Lending) : Prop where
  distinct : (l.free ++ l.onLoan).Nodup
  made : ∀ serial ∈ l.free ++ l.onLoan, serial < l.pool.allocated
  room : l.free.length ≤ l.pool.capacity

theorem Counted.moves (hl : l.Counted) (h : l.Moves m)
    (hCapacity : m.pool.capacity = l.pool.capacity) : m.Counted := by
  obtain ⟨hDistinct, hMade, hRoom⟩ := hl
  cases h with
  | still hFree hLoans hSame =>
    exact ⟨hFree ▸ hLoans ▸ hDistinct, hFree ▸ hLoans ▸ hSame ▸ hMade, hFree ▸ hCapacity ▸ hRoom⟩
  | made hNone hFree hLoans hMore =>
    rw [hNone, List.nil_append] at hDistinct hMade
    refine ⟨?_, ?_, hFree ▸ Nat.zero_le _⟩
    · rw [hFree, hLoans, List.nil_append, List.nodup_cons]
      exact ⟨fun hThere => Nat.lt_irrefl _ (hMade _ hThere), hDistinct⟩
    · rw [hFree, hLoans, hMore, List.nil_append, List.forall_mem_cons]
      exact ⟨Nat.lt_succ_self _, fun serial hThere => Nat.lt_succ_of_lt (hMade serial hThere)⟩
  | lentAgain serial hFree hLoans hSame =>
    have hPerm : (m.free ++ m.onLoan).Perm (l.free ++ l.onLoan) := by
      rw [hFree, hLoans]
      exact List.perm_middle
    refine ⟨hPerm.nodup_iff.mpr hDistinct, fun k hk => hSame ▸ hMade k (hPerm.mem_iff.mp hk), ?_⟩
    rw [hFree, List.length_cons] at hRoom
    omega
  | returned serial hSpare hFree hLoans hSame =>
    have hPerm : (m.free ++ m.onLoan).Perm (l.free ++ l.onLoan) := by
      rw [hFree, List.append_assoc, List.singleton_append]
      exact hLoans.symm.append_left l.free
    refine ⟨hPerm.nodup_iff.mpr hDistinct, fun k hk => hSame ▸ hMade k (hPerm.mem_iff.mp hk), ?_⟩
    rw [hFree, List.length_append, List.length_singleton]
    omega
  | lost serial hFull hFree hLoans hSame =>
    have hPerm : (l.free ++ l.onLoan).Perm (serial :: (m.free ++ m.onLoan)) := by
      rw [hFree]
      exact (hLoans.append_left l.free).trans List.perm_middle
    refine ⟨(List.nodup_cons.mp (hPerm.nodup_iff.mp hDistinct)).2, fun k hk => ?_, ?_⟩
    · exact hSame ▸ hMade k (hPerm.mem_iff.mpr (List.mem_cons_of_mem serial hk))
    · rwa [hFree, hCapacity]

/-- The numbers of the buffers that are there are among those that were given out. -/
theorem Counted.subperm (hl : l.Counted) :
    (l.free ++ l.onLoan).Subperm (List.range l.pool.allocated) :=
  List.subperm_of_subset hl.distinct fun serial hThere => List.mem_range.mpr (hl.made serial hThere)

/-- What is lent out next is on loan to nobody. -/
theorem Counted.serial_acquire_ne (hl : l.Counted) :
    ∀ loan ∈ l.loans, loan.2.serial ≠ l.pool.acquire.1.serial := by
  have hNext := hl.moves (moves_acquire l) (capacity_apply l .acquire)
  obtain ⟨-, hOnLoan, -⟩ := List.nodup_append.mp hNext.distinct
  obtain ⟨hFresh, -⟩ := List.nodup_cons.mp hOnLoan
  intro loan hThere hSame
  refine hFresh ?_
  change l.pool.acquire.1.serial ∈ l.onLoan
  rw [← hSame]
  exact List.mem_map_of_mem hThere

theorem Moves.allocated_le (h : l.Moves m) : l.pool.allocated ≤ m.pool.allocated := by
  cases h with
  | made _ _ _ hMade => exact hMade ▸ Nat.le_succ _
  | still _ _ hMade | lentAgain _ _ _ hMade | returned _ _ _ _ hMade | lost _ _ _ _ hMade =>
    exact hMade.ge

/-- If as many buffers are there as were ever made, and these are no more than a pool keeps, then no
use loses one. -/
theorem Moves.allocated_eq (h : l.Moves m)
    (hAll : l.pool.allocated = l.free.length + l.onLoan.length)
    (hFew : l.pool.allocated ≤ l.pool.capacity) :
    m.pool.allocated = m.free.length + m.onLoan.length ∧
      m.pool.allocated = max l.pool.allocated m.onLoan.length := by
  cases h with
  | still hFree hLoans hMade =>
    rw [hFree, hLoans, hMade]
    omega
  | made hNone hFree hLoans hMade =>
    rw [hNone, List.length_nil] at hAll
    rw [hFree, hLoans, hMade, List.length_nil, List.length_cons]
    omega
  | lentAgain serial hFree hLoans hMade =>
    rw [hFree, List.length_cons] at hAll
    rw [hLoans, hMade, List.length_cons]
    omega
  | returned serial hRoom hFree hLoans hMade =>
    have hLength := hLoans.length_eq
    rw [List.length_cons] at hLength
    rw [hFree, hMade, List.length_append, List.length_singleton]
    omega
  | lost serial hFull hFree hLoans hMade =>
    -- the buffer that comes back is one of those counted, so the pool has room for it
    have hLength := hLoans.length_eq
    rw [List.length_cons] at hLength
    omega

/-! ## Runs -/

theorem ofUses_append (capacity : Nat) (uses : List Use) (use : Use) :
    ofUses capacity (uses ++ [use]) = use.apply (ofUses capacity uses) :=
  List.foldl_append ..

theorem capacity_ofUses (capacity : Nat) (uses : List Use) :
    (ofUses capacity uses).pool.capacity = max capacity 1 := by
  induction uses using List.reverseRecOn with
  | nil => rfl
  | append_singleton uses use ih => rw [ofUses_append, capacity_apply, ih]

theorem counted_ofUses (capacity : Nat) (uses : List Use) :
    (ofUses capacity uses).Numbered ∧ (ofUses capacity uses).Counted := by
  induction uses using List.reverseRecOn with
  | nil => exact ⟨⟨List.nodup_nil, nofun⟩, ⟨List.nodup_nil, nofun, Nat.zero_le _⟩⟩
  | append_singleton uses use ih =>
    rw [ofUses_append]
    exact ⟨ih.1.apply use, ih.2.moves (ih.1.moves use) (capacity_apply _ use)⟩

/-- The numbers of buffers that have been on loan at once. -/
def loanCounts (capacity : Nat) (uses : List Use) : Set Nat :=
  {k | ∃ past, past <+: uses ∧ (ofUses capacity past).loans.length = k}

theorem loanCounts_append (capacity : Nat) (uses : List Use) (use : Use) :
    loanCounts capacity (uses ++ [use]) =
      insert (ofUses capacity (uses ++ [use])).loans.length (loanCounts capacity uses) := by
  ext k
  simp only [loanCounts, Set.mem_ofPred_eq, Set.mem_insert_iff, List.prefix_concat_iff,
    or_and_right, exists_or, exists_eq_left, eq_comm (a := k)]

theorem allocated_isGreatest (capacity : Nat) (uses : List Use)
    (hFew : ∀ k ∈ loanCounts capacity uses, k ≤ max capacity 1) :
    let l := ofUses capacity uses
    l.pool.allocated = l.free.length + l.onLoan.length ∧
      IsGreatest (loanCounts capacity uses) l.pool.allocated := by
  induction uses using List.reverseRecOn with
  | nil =>
    refine ⟨rfl, ⟨[], List.prefix_rfl, rfl⟩, ?_⟩
    rintro k ⟨past, hPast, rfl⟩
    rw [List.prefix_nil.mp hPast]
    rfl
  | append_singleton uses use ih =>
    rw [loanCounts_append] at hFew ⊢
    obtain ⟨hAll, hGreatest⟩ := ih fun k hk => hFew k (Set.mem_insert_of_mem _ hk)
    have hMoves := (counted_ofUses capacity uses).1.moves use
    have hCapacity := (capacity_ofUses capacity uses).ge
    obtain ⟨hThere, hMade⟩ := hMoves.allocated_eq hAll
      ((hFew _ (Set.mem_insert_of_mem _ hGreatest.1)).trans hCapacity)
    rw [ofUses_append]
    refine ⟨hThere, ?_⟩
    rw [hMade, max_comm, onLoan, List.length_map]
    exact hGreatest.insert _

/-- What is lent out is empty and in nobody else's hands. No more buffers are free than a pool
keeps, the count of those made does not go down, and it covers those that are there. As long as no
more have been on loan than a pool keeps, all that were made are there, and they are as many as the
most that have been on loan at once. -/
theorem pool_accounts (capacity : Nat) (uses : List Use) :
    let l := ofUses capacity uses
    (∃ loan, l.acquire.2.loan? l.acquire.1 = some loan ∧ loan.buffer.isEmpty = true ∧
      ∀ other ∈ l.loans, other.2.serial ≠ loan.serial) ∧
    l.pool.available ≤ max capacity 1 ∧
    (∀ use : Use, l.pool.allocated ≤ (use.apply l).pool.allocated) ∧
    l.pool.available + l.loans.length ≤ l.pool.allocated ∧
    ((∀ past, past <+: uses → (ofUses capacity past).loans.length ≤ max capacity 1) →
      (l.free ++ l.onLoan).Perm (List.range l.pool.allocated) ∧
      l.pool.allocated = l.pool.available + l.loans.length ∧
      IsGreatest (loanCounts capacity uses) l.pool.allocated) := by
  intro l
  obtain ⟨hNumbered, hCounted⟩ := counted_ofUses capacity uses
  have hFree : l.free.length = l.pool.available := List.length_map ..
  have hLoans : l.onLoan.length = l.loans.length := List.length_map ..
  have hThere := hCounted.subperm
  have hLength := hThere.length_le
  rw [List.length_append, List.length_range, hFree, hLoans] at hLength
  refine ⟨⟨l.pool.acquire.1, List.lookup_cons_self, ?empty, hCounted.serial_acquire_ne⟩, ?room,
    fun use => (hNumbered.moves use).allocated_le, hLength, fun hFew => ?all⟩
  case empty => exact beq_iff_eq.mpr (sound_ofUses capacity uses).pool.acquire.2.1
  case room => exact hFree ▸ capacity_ofUses capacity uses ▸ hCounted.room
  case all =>
    obtain ⟨hAll, hGreatest⟩ := allocated_isGreatest capacity uses <| by
      rintro k ⟨past, hPast, rfl⟩
      exact hFew past hPast
    refine ⟨hThere.perm_of_length_le ?_, ?_, hGreatest⟩
    · rw [List.length_append, List.length_range]
      exact hAll.le
    · rwa [hFree, hLoans] at hAll

/-- Two buffers are on loan at once, and the first to come back is lent out again. -/
theorem pool_accounts_two :
    let uses : List Use :=
      [.acquire, .acquire, .edit 0 (.append [1, 2, 3]), .drop 0, .acquire, .drop 1]
    let l := ofUses 2 uses
    (∀ past, past <+: uses → (ofUses 2 past).loans.length ≤ max 2 1) ∧
      l.pool.allocated = 2 ∧ l.free = [1] ∧ l.onLoan = [0] ∧ IsGreatest (loanCounts 2 uses) 2 := by
  intro uses l
  have hPasts : ∀ past ∈ uses.inits, (ofUses 2 past).loans.length ≤ max 2 1 := by decide +kernel
  have hFew : ∀ past, past <+: uses → (ofUses 2 past).loans.length ≤ max 2 1 :=
    fun past hPast => hPasts past ((List.mem_inits past uses).mpr hPast)
  have hMade : l.pool.allocated = 2 := by decide +kernel
  obtain ⟨-, -, -, -, hAll⟩ := pool_accounts 2 uses
  obtain ⟨-, -, hGreatest⟩ := hAll hFew
  exact ⟨hFew, hMade, by decide +kernel, by decide +kernel, hMade ▸ hGreatest⟩

end Gatehouse.Lending
