import Mathlib.Algebra.Order.Group.MinMax
import Mathlib.Tactic.Abel

/-!
# The part of an interval below a base

The interval from `lower` to `upper`, which may be unbounded, overlaps the one
from zero to `base` in a certain length.  The length grows with the base, and
cutting an unbounded interval in two cuts its overlap in two.
-/

namespace Matcher.Foundation

universe u

variable {α : Type u} [AddCommGroup α] [LinearOrder α]

def overlap (lower : α) (upper : Option α) (base : α) : α :=
  max 0 (upper.elim base (min base) - max lower 0)

variable [IsOrderedAddMonoid α] {lower upper base : α}

theorem overlap_mono (lower : α) (upper : Option α) {smaller larger : α} (h : smaller ≤ larger) :
    overlap lower upper smaller ≤ overlap lower upper larger := by
  apply max_le_max_left
  apply sub_le_sub_right
  cases upper with
  | none => exact h
  | some upper => exact min_le_min_right upper h

theorem overlap_of_le (hlower : 0 ≤ lower) (upper : Option α) (hbase : base ≤ lower) :
    overlap lower upper base = 0 := by
  have hend : upper.elim base (min base) ≤ lower := by
    cases upper with
    | none => exact hbase
    | some upper => exact (min_le_left base upper).trans hbase
  rw [overlap, max_eq_left hlower, max_eq_left (sub_nonpos.mpr hend)]

theorem overlap_unbounded (hlower : 0 ≤ lower) (hbase : lower ≤ base) :
    overlap lower none base = base - lower := by
  rw [overlap, max_eq_left hlower, Option.elim_none, max_eq_right (sub_nonneg.mpr hbase)]

theorem overlap_bounded (hlower : 0 ≤ lower) (hbase : lower ≤ base) (hupper : lower ≤ upper) :
    overlap lower (some upper) base = min base upper - lower := by
  rw [overlap, max_eq_left hlower, Option.elim_some,
    max_eq_right (sub_nonneg.mpr (le_min hbase hupper))]

theorem overlap_split (hlower : 0 ≤ lower) (hupper : lower ≤ upper) (base : α) :
    overlap lower none base = overlap lower (some upper) base + overlap upper none base := by
  have hpositive : 0 ≤ upper := hlower.trans hupper
  rcases le_total base lower with hbelow | hbase
  · rw [overlap_of_le hlower none hbelow, overlap_of_le hlower _ hbelow,
      overlap_of_le hpositive none (hbelow.trans hupper), add_zero]
  rw [overlap_unbounded hlower hbase, overlap_bounded hlower hbase hupper]
  rcases le_total base upper with hwithin | hbeyond
  · rw [overlap_of_le hpositive none hwithin, min_eq_left hwithin, add_zero]
  · rw [overlap_unbounded hpositive hbeyond, min_eq_right hbeyond]
    abel

end Matcher.Foundation
