import Mathlib.Algebra.BigOperators.Intervals
import Mathlib.Algebra.Order.Floor.Div
import Mathlib.Algebra.Order.Floor.Ring
import Mathlib.Data.Rat.Floor
import Mathlib.Tactic.Linarith

/-!
# Pages of a listing

A listing of `total` rows read in pages of one size, the first being page one: how
many pages there are, which rows a page holds, and that the pages put together are
the listing.
-/

namespace Paging

set_option autoImplicit false

universe u

/-! ### Counts -/

/-- The number of pages: the quotient rounded up. -/
def pageCount (total size : ℕ) : ℕ := total ⌈/⌉ size

/-- The number of rows on a page. -/
def rowsOn (total size page : ℕ) : ℕ := min size (total - (page - 1) * size)

variable {total size page n : ℕ}

@[simp] theorem pageCount_zero (size : ℕ) : pageCount 0 size = 0 := zero_ceilDiv size

theorem pageCount_le_iff (hsize : 0 < size) : pageCount total size ≤ n ↔ total ≤ n * size := by
  rw [pageCount, ceilDiv_le_iff_le_mul hsize, mul_comm]

theorem lt_pageCount_iff (hsize : 0 < size) : n < pageCount total size ↔ n * size < total := by
  simpa using not_congr (@pageCount_le_iff total size n hsize)

/-- A page before the last one is full. -/
theorem rowsOn_of_lt (hsize : 0 < size) (hpage : 1 ≤ page) (h : page < pageCount total size) :
    rowsOn total size page = size := by
  have hrows : page * size < total := (lt_pageCount_iff hsize).mp h
  have hsplit : page * size = (page - 1) * size + size := by
    obtain ⟨before, rfl⟩ := Nat.exists_eq_add_of_le' hpage
    simp [Nat.add_mul]
  exact min_eq_left (by omega)

/-- The rows of the first pages are as many as fit there. -/
theorem sum_rowsOn (total size n : ℕ) :
    ∑ i ∈ Finset.range n, rowsOn total size (i + 1) = min total (n * size) := by
  induction n with
  | zero => simp
  | succ n ih =>
      rw [Finset.sum_range_succ, ih, rowsOn, Nat.add_sub_cancel, Nat.succ_mul]
      omega

/-- The rows of all pages are the rows of the listing. -/
theorem sum_rowsOn_all (hsize : 0 < size) (h : pageCount total size ≤ n) :
    ∑ i ∈ Finset.range n, rowsOn total size (i + 1) = total := by
  rw [sum_rowsOn]
  exact min_eq_left ((pageCount_le_iff hsize).mp h)

/-- The rational quotient rounded up is the number of pages. -/
theorem ceil_quotient (hsize : 0 < size) : ⌈(total / size : ℚ)⌉ = pageCount total size := by
  have hpos : (0 : ℚ) < size := by exact_mod_cast hsize
  apply le_antisymm
  · rw [Int.ceil_le, div_le_iff₀ hpos]
    exact_mod_cast (pageCount_le_iff hsize).mp le_rfl
  · rw [Int.le_ceil_iff]
    rcases Nat.eq_zero_or_pos (pageCount total size) with hzero | hcount
    · have hquotient : (0 : ℚ) ≤ total / size := by positivity
      rw [hzero]
      push_cast
      linarith
    · have hbefore : (pageCount total size - 1) * size < total :=
        (lt_pageCount_iff hsize).mp (Nat.sub_lt hcount one_pos)
      rw [lt_div_iff₀ hpos]
      have hcast : (((pageCount total size - 1) * size : ℕ) : ℚ) < total := by exact_mod_cast hbefore
      rw [Nat.cast_mul, Nat.cast_sub hcount, Nat.cast_one] at hcast
      exact_mod_cast hcast

/-! ### Rows -/

variable {α : Type u}

/-- The rows of a page. -/
def slice (rows : List α) (size page : ℕ) : List α := (rows.drop ((page - 1) * size)).take size

theorem slice_sublist (rows : List α) (size page : ℕ) : (slice rows size page).Sublist rows :=
  (List.take_sublist _ _).trans (List.drop_sublist _ _)

/-- The first pages, one after the other, are the first rows. -/
theorem flatMap_slice (rows : List α) (size n : ℕ) :
    (List.range n).flatMap (fun i => slice rows size (i + 1)) = rows.take (n * size) := by
  induction n with
  | zero => simp
  | succ n ih =>
      rw [List.range_succ, List.flatMap_append, ih, Nat.succ_mul, List.take_add]
      simp [slice]

/-- All pages, one after the other, are the listing. -/
theorem flatMap_slice_all (rows : List α) (hsize : 0 < size)
    (h : pageCount rows.length size ≤ n) :
    (List.range n).flatMap (fun i => slice rows size (i + 1)) = rows := by
  rw [flatMap_slice, List.take_of_length_le ((pageCount_le_iff hsize).mp h)]

end Paging
