import Mathlib.Data.Finset.Max
import Mathlib.Tactic.Linarith
import Matcher.Fee.Charges
import Matcher.Foundation.Overlap

/-!
# Tiered fees as marginal rates

The loop of a tiered fee carries what is left of the base and the upper bound of
the last tier.  On tiers that validate it computes the sum, over the tiers, of
the rate times the part of the base that lies in the tier.
-/

namespace Matcher.Fee

open Foundation

/-- The tiers with their lower bounds: each begins where the one before ends. -/
def tierIntervals : Decimal → List Tier → List (Decimal × Tier)
  | _, [] => []
  | lower, tier :: rest => (lower, tier) :: tierIntervals (tier.upTo.getD lower) rest

def marginalFee (lower : Decimal) (tiers : List Tier) (base : Decimal) : Decimal :=
  ((tierIntervals lower tiers).map fun interval =>
    interval.2.rate * overlap interval.1 interval.2.upTo base).sum

theorem marginalFee_nil (lower base : Decimal) : marginalFee lower [] base = 0 := rfl

theorem marginalFee_unbounded {tier : Tier} (hupper : tier.upTo = none) (lower base : Decimal) :
    marginalFee lower [tier] base = tier.rate * overlap lower none base := by
  simp [marginalFee, tierIntervals, hupper]

theorem marginalFee_bounded {tier : Tier} {upper : Decimal} (hupper : tier.upTo = some upper)
    (lower : Decimal) (rest : List Tier) (base : Decimal) :
    marginalFee lower (tier :: rest) base =
      tier.rate * overlap lower (some upper) base + marginalFee upper rest base := by
  simp [marginalFee, tierIntervals, hupper]

section Brackets

variable {lower base : Decimal} {tiers : List Tier} {smaller larger : Decimal}

section

variable (h : Brackets lower tiers)

include h

theorem Brackets.rate_nonneg : ∀ tier ∈ tiers, 0 ≤ tier.rate := by
  induction h with
  | nil => simp
  | unbounded hlow => simpa using hlow
  | bounded hlow _ _ _ _ ih => simpa using ⟨hlow, ih⟩

theorem marginalFee_of_le (hlower : 0 ≤ lower) (hbase : base ≤ lower) :
    marginalFee lower tiers base = 0 := by
  induction h with
  | nil => rfl
  | @unbounded lower tier _ _ hupper =>
    rw [marginalFee_unbounded hupper, overlap_of_le hlower none hbase, mul_zero]
  | @bounded lower upper tier rest _ _ hupper hwidth _ ih =>
    rw [marginalFee_bounded hupper, overlap_of_le hlower _ hbase, mul_zero, zero_add]
    exact ih (hlower.trans hwidth.le) (hbase.trans hwidth.le)

theorem sumTiers_eq_marginalFee
    (hlower : 0 ≤ lower) {remaining : Decimal} (hremaining : 0 ≤ remaining) :
    sumTiers tiers remaining 0 lower = marginalFee lower tiers (lower + remaining) := by
  induction h generalizing remaining with
  | nil => rfl
  | @unbounded lower tier _ _ hupper =>
    rw [sumTiers_unbounded hupper lower hremaining, marginalFee_unbounded hupper,
      overlap_unbounded hlower (le_add_of_nonneg_right hremaining), add_sub_cancel_left, mul_comm]
  | @bounded lower upper tier rest _ _ hupper hwidth hrest ih =>
    have hpositive : 0 ≤ upper := hlower.trans hwidth.le
    have hinside : overlap lower (some upper) (lower + remaining) =
        min remaining (upper - lower) := by
      rw [overlap_bounded hlower (le_add_of_nonneg_right hremaining)
        hwidth.le, ← min_sub_sub_right, add_sub_cancel_left]
    rw [sumTiers_bracket hupper hwidth rest hremaining, marginalFee_bounded hupper, hinside,
      mul_comm, ih hpositive (sub_nonneg.mpr (min_le_left _ _))]
    congr 1
    -- Either the base ends within the tier or the rest starts at its end.
    rcases le_total remaining (upper - lower) with hwithin | hbeyond
    · rw [min_eq_left hwithin, sub_self, add_zero, marginalFee_of_le hrest hpositive le_rfl,
        marginalFee_of_le hrest hpositive (by linarith)]
    · rw [min_eq_right hbeyond]
      congr 1
      ring

theorem marginalFee_mono (hle : smaller ≤ larger) :
    marginalFee lower tiers smaller ≤ marginalFee lower tiers larger := by
  induction h with
  | nil => exact le_rfl
  | @unbounded lower tier hlow _ hupper =>
    rw [marginalFee_unbounded hupper, marginalFee_unbounded hupper]
    exact mul_le_mul_of_nonneg_left (overlap_mono lower none hle) hlow
  | @bounded lower upper tier rest hlow _ hupper _ _ ih =>
    rw [marginalFee_bounded hupper, marginalFee_bounded hupper]
    exact add_le_add (mul_le_mul_of_nonneg_left (overlap_mono lower _ hle) hlow) ih

theorem marginalFee_growth (hlower : 0 ≤ lower) {highest : Decimal} (hnonneg : 0 ≤ highest)
    (hhighest : ∀ tier ∈ tiers, tier.rate ≤ highest) (hle : smaller ≤ larger) :
    marginalFee lower tiers larger - marginalFee lower tiers smaller ≤
      highest * (overlap lower none larger - overlap lower none smaller) := by
  induction h with
  | nil lower =>
    rw [marginalFee_nil, marginalFee_nil, sub_self]
    exact mul_nonneg hnonneg (sub_nonneg.mpr (overlap_mono lower none hle))
  | @unbounded lower tier _ _ hupper =>
    rw [marginalFee_unbounded hupper, marginalFee_unbounded hupper, ← mul_sub]
    exact mul_le_mul_of_nonneg_right (hhighest tier List.mem_cons_self)
      (sub_nonneg.mpr (overlap_mono lower none hle))
  | @bounded lower upper tier rest _ _ hupper hwidth _ ih =>
    have hgain : 0 ≤ overlap lower (some upper) larger - overlap lower (some upper) smaller :=
      sub_nonneg.mpr (overlap_mono lower _ hle)
    have hfirst := mul_le_mul_of_nonneg_right (hhighest tier List.mem_cons_self) hgain
    have hrest := ih (hlower.trans hwidth.le)
      (fun other hother => hhighest other (List.mem_cons_of_mem _ hother))
    rw [marginalFee_bounded hupper, marginalFee_bounded hupper,
      overlap_split hlower hwidth.le larger, overlap_split hlower hwidth.le smaller]
    linarith

end

end Brackets

/--
A valid tiered fee is the sum of each tier's rate times the part of the base in
the tier.  It grows with the base, and by at most the highest rate.
-/
theorem tiered_fee_marginal {tiers : List Tier}
    (hvalid : (FeeStructure.tiered tiers).validate = .ok ()) :
    (∀ base, 0 ≤ base → (FeeStructure.tiered tiers).calculate base =
      .ok (((tierIntervals 0 tiers).map fun interval =>
        interval.2.rate * overlap interval.1 interval.2.upTo base).sum)) ∧
    ∃ highest ∈ tiers, (∀ tier ∈ tiers, tier.rate ≤ highest.rate) ∧
      ∀ smaller larger smallerFee largerFee, 0 ≤ smaller → smaller ≤ larger →
        (FeeStructure.tiered tiers).calculate smaller = .ok smallerFee →
        (FeeStructure.tiered tiers).calculate larger = .ok largerFee →
          smallerFee ≤ largerFee ∧ largerFee - smallerFee ≤ (larger - smaller) * highest.rate := by
  obtain ⟨hnonempty, htiers⟩ := guard_eq_ok.mp hvalid
  have hbrackets := validateTiers_brackets htiers
  have hcalculate : ∀ base, 0 ≤ base →
      (FeeStructure.tiered tiers).calculate base = .ok (marginalFee 0 tiers base) := by
    intro base hbase
    rw [FeeStructure.calculate_of_valid hvalid hbase, FeeStructure.amount,
      sumTiers_eq_marginalFee hbrackets le_rfl hbase, zero_add]
  obtain ⟨highest, hmem, hhighest⟩ := tiers.toFinset.exists_max_image
    (·.rate) ((List.toFinset_nonempty_iff tiers).mpr hnonempty)
  simp only [List.mem_toFinset] at hmem hhighest
  refine ⟨hcalculate, highest, hmem, hhighest, ?_⟩
  intro smaller larger smallerFee largerFee hsmaller hle hfirst hsecond
  have hlarger : 0 ≤ larger := hsmaller.trans hle
  cases (hcalculate smaller hsmaller).symm.trans hfirst
  cases (hcalculate larger hlarger).symm.trans hsecond
  refine ⟨marginalFee_mono hbrackets hle, ?_⟩
  have hgrowth := marginalFee_growth hbrackets le_rfl
    (hbrackets.rate_nonneg highest hmem) hhighest hle
  rw [overlap_unbounded le_rfl hsmaller, overlap_unbounded le_rfl hlarger,
    sub_zero, sub_zero, mul_comm] at hgrowth
  exact hgrowth

def twoTiers : List Tier := [⟨some 100, 1 / 10⟩, ⟨none, 1 / 20⟩]

theorem tiered_fee_marginal_two :
    (FeeStructure.tiered twoTiers).validate = .ok () ∧
      (FeeStructure.tiered twoTiers).calculate 150 = .ok (1 / 10 * 100 + 1 / 20 * 50) := by
  have hvalid : (FeeStructure.tiered twoTiers).validate = .ok () := by decide +kernel
  refine ⟨hvalid, ?_⟩
  rw [(tiered_fee_marginal hvalid).1 150 (by norm_num)]
  exact congrArg Except.ok (by decide +kernel)

end Matcher.Fee
