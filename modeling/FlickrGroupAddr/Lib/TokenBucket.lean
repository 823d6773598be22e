import Mathlib.Algebra.Order.Group.Abs

/-!
# Token buckets over an ordered group

A bucket holds a credit and the watermark up to which credit was granted.  Time
is a linearly ordered group and credit grows one for one with it, so the amount
granted over a run is the advance of the watermark: `credit - watermark` never
rises, and falls by the charge whenever a charge is spent.
-/

namespace TokenBucket

set_option autoImplicit false

universe u

structure Bucket (α : Type u) where
  credit : α
  watermark : α
deriving DecidableEq

variable {α : Type u} [AddCommGroup α] [LinearOrder α]

namespace Bucket

/-- Credit at time `t`: what is left and what time granted, up to the capacity.
A clock behind the watermark grants nothing. -/
def refill (capacity : α) (b : Bucket α) (t : α) : α :=
  if t ≤ b.watermark then b.credit
  else min capacity (b.credit + (t - b.watermark))

/-- Spend a charge at time `t`. -/
def spend (capacity charge : α) (b : Bucket α) (t : α) : Bucket α :=
  ⟨b.refill capacity t - charge, max b.watermark t⟩

variable {capacity charge : α} {b : Bucket α} {t : α}

theorem refill_of_le (h : t ≤ b.watermark) : b.refill capacity t = b.credit := if_pos h

theorem refill_of_lt (h : b.watermark < t) :
    b.refill capacity t = min capacity (b.credit + (t - b.watermark)) :=
  if_neg (not_le.mpr h)

theorem refill_le (h : b.credit ≤ capacity) : b.refill capacity t ≤ capacity := by
  unfold refill
  split
  · exact h
  · exact min_le_left _ _

variable [IsOrderedAddMonoid α]

theorem le_refill (h : b.credit ≤ capacity) : b.credit ≤ b.refill capacity t := by
  unfold refill
  split
  · exact le_refl _
  · next hlate =>
      refine le_min h (le_add_of_nonneg_right ?_)
      exact sub_nonneg.mpr (le_of_lt (not_le.mp hlate))

/-- A refill grants at most what the watermark advances. -/
theorem refill_sub_le : b.refill capacity t - b.credit ≤ max b.watermark t - b.watermark := by
  unfold refill
  split
  · next hearly => rw [sub_self, max_eq_left hearly, sub_self]
  · next hlate =>
      rw [max_eq_right (le_of_lt (not_le.mp hlate)), sub_le_iff_le_add']
      exact min_le_right _ _

/-- A charge is paid by credit or by the advance of the watermark. -/
theorem spend_potential :
    charge + (b.spend capacity charge t).credit ≤
      b.credit + ((b.spend capacity charge t).watermark - b.watermark) := by
  have hgrant : b.refill capacity t ≤ b.credit + (max b.watermark t - b.watermark) :=
    sub_le_iff_le_add'.mp refill_sub_le
  simpa only [spend, add_sub_cancel] using hgrant

/-- A bucket that was idle for as long as its capacity takes to fill is full. -/
theorem refill_of_idle (hcredit : 0 ≤ b.credit) (hpos : 0 < capacity)
    (hidle : capacity ≤ t - b.watermark) : b.refill capacity t = capacity := by
  have hlate : b.watermark < t := sub_pos.mp (hpos.trans_le hidle)
  rw [refill_of_lt hlate]
  exact min_eq_left (hidle.trans (le_add_of_nonneg_left hcredit))

/-- After such a wait a charge leaves what a new bucket opens with. -/
theorem spend_of_idle (hcredit : 0 ≤ b.credit) (hpos : 0 < capacity)
    (hidle : capacity ≤ t - b.watermark) :
    b.spend capacity charge t = ⟨capacity - charge, t⟩ := by
  have hlate : b.watermark < t := sub_pos.mp (hpos.trans_le hidle)
  rw [spend, refill_of_idle hcredit hpos hidle, max_eq_right hlate.le]

theorem spend_credit_nonneg (h : charge ≤ b.refill capacity t) :
    0 ≤ (b.spend capacity charge t).credit :=
  sub_nonneg.mpr h

theorem spend_credit_le (h : b.credit ≤ capacity) (hcharge : 0 ≤ charge) :
    (b.spend capacity charge t).credit ≤ capacity :=
  (sub_le_self _ hcharge).trans (refill_le h)

end Bucket

end TokenBucket
