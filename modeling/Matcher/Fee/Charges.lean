import Matcher.Fee.NewSchedule
import Matcher.Foundation.Rounding

/-!
# What a valid item charges

A valid fee structure never fails on an amount that is not negative, and its fee
is a charge: it grows with the amount, and by no more than the amount does.
Rounding makes it a levy on the grid of the schedule's decimal places, whatever
the rounding mode.
-/

namespace Matcher.Fee

open Foundation

variable {structure_ : FeeStructure} {lower : Decimal} {tiers : List Tier}

/-! ## Fee structures -/

def FeeStructure.amount : FeeStructure → Decimal → Decimal
  | .flat amount, _ => amount
  | .percentage rate, base => base * rate
  | .tiered tiers, base => sumTiers tiers base 0 0

theorem FeeStructure.calculate_of_valid (hvalid : structure_.validate = .ok ()) {base : Decimal}
    (hbase : 0 ≤ base) :
    structure_.calculate base = .ok (structure_.amount base) := by
  cases structure_ with
  | flat =>
    simp only [FeeStructure.calculate, hvalid]
    rfl
  | percentage | tiered =>
    simp only [FeeStructure.calculate, hvalid, if_neg (not_lt.mpr hbase)]
    rfl

theorem sumTiers_zero (tiers : List Tier) (total lower : Decimal) :
    sumTiers tiers 0 total lower = total := by
  cases tiers with
  | nil => rfl
  | cons => simp [sumTiers]

theorem sumTiers_total (tiers : List Tier) (remaining total lower : Decimal) :
    sumTiers tiers remaining total lower = total + sumTiers tiers remaining 0 lower := by
  induction tiers generalizing remaining total lower with
  | nil => simp [sumTiers]
  | cons _ _ ih =>
    simp only [sumTiers]
    split
    next => simp
    next =>
      split
      next => exact ih remaining total lower
      next =>
        rw [ih, ih _ (0 + _)]
        ring

theorem sumTiers_bracket {tier : Tier} {upper : Decimal} (hupper : tier.upTo = some upper)
    (hwidth : lower < upper) (rest : List Tier) {remaining : Decimal} (hremaining : 0 ≤ remaining) :
    sumTiers (tier :: rest) remaining 0 lower =
      min remaining (upper - lower) * tier.rate +
        sumTiers rest (remaining - min remaining (upper - lower)) 0 upper := by
  have hpositive : 0 < upper - lower := sub_pos.mpr hwidth
  rcases hremaining.eq_or_lt with rfl | hsome
  · rw [sumTiers_zero, min_eq_left hpositive.le, sub_zero, sumTiers_zero]
    simp
  have hcap : calculateTierCap tier lower remaining = min remaining (upper - lower) := by
    simp only [calculateTierCap, hupper, if_neg (not_le.mpr hpositive)]
    split
    next habove => rw [min_eq_right habove.le]
    next hwithin => rw [min_eq_left (not_lt.mp hwithin)]
  have hcapPositive : 0 < min remaining (upper - lower) := lt_min hsome hpositive
  rw [sumTiers, if_neg (not_le.mpr hsome)]
  simp only [hcap, if_neg (not_le.mpr hcapPositive), hupper, Option.getD_some]
  rw [sumTiers_total, zero_add]

theorem sumTiers_unbounded {tier : Tier} (hupper : tier.upTo = none)
    (lower : Decimal) {remaining : Decimal} (hremaining : 0 ≤ remaining) :
    sumTiers [tier] remaining 0 lower = remaining * tier.rate := by
  rcases hremaining.eq_or_lt with rfl | hsome
  · rw [sumTiers_zero, zero_mul]
  · simp [sumTiers, calculateTierCap, hupper, not_le.mpr hsome]

theorem validateTiers_after_infinite {index : ℕ}
    (h : validateTiers tiers index lower true = .ok ()) : tiers = [] := by
  cases tiers with
  | nil => rfl
  | cons => cases h

/-- Tiers that continue each other upwards from `lower`, with rates up to one;
only the last may be unbounded. -/
inductive Brackets : Decimal → List Tier → Prop
  | nil (lower : Decimal) : Brackets lower []
  | unbounded {lower : Decimal} {tier : Tier} (hlow : 0 ≤ tier.rate)
      (hhigh : tier.rate ≤ 1) (hupper : tier.upTo = none) :
      Brackets lower [tier]
  | bounded {lower upper : Decimal} {tier : Tier} {rest : List Tier}
      (hlow : 0 ≤ tier.rate) (hhigh : tier.rate ≤ 1)
      (hupper : tier.upTo = some upper) (hwidth : lower < upper)
      (hrest : Brackets upper rest) : Brackets lower (tier :: rest)

theorem validateTiers_brackets {index : ℕ}
    (h : validateTiers tiers index lower false = .ok ()) : Brackets lower tiers := by
  induction tiers generalizing index lower with
  | nil => exact .nil lower
  | cons tier _ ih =>
    rw [validateTiers, if_neg (by simp)] at h
    obtain ⟨hrate, h⟩ := guard_eq_ok.mp h
    have hlow : 0 ≤ tier.rate := not_lt.mp fun hlow => hrate (.inl hlow)
    have hhigh : tier.rate ≤ 1 := not_lt.mp fun hhigh => hrate (.inr hhigh)
    cases hupper : tier.upTo with
    | none =>
      simp only [hupper] at h
      obtain rfl := validateTiers_after_infinite h
      exact .unbounded hlow hhigh hupper
    | some =>
      simp only [hupper] at h
      obtain ⟨-, h⟩ := guard_eq_ok.mp h
      obtain ⟨hincreasing, h⟩ := guard_eq_ok.mp h
      exact .bounded hlow hhigh hupper (not_le.mp hincreasing) (ih h)

theorem sumTiers_charge (h : Brackets lower tiers) :
    Charge fun remaining => sumTiers tiers remaining 0 lower := by
  induction h with
  | nil => exact Charge.const le_rfl
  | @unbounded lower tier hlow hhigh hupper =>
    exact (Charge.proportional hlow hhigh).congr fun base hbase =>
      sumTiers_unbounded hupper lower hbase
  | @bounded lower upper tier rest hlow hhigh hupper hwidth hrest ih =>
    exact (Charge.bracket (sub_nonneg.mpr hwidth.le)
      (Charge.proportional hlow hhigh) ih).congr fun base hbase =>
        sumTiers_bracket hupper hwidth rest hbase

theorem FeeStructure.charge_of_valid
    (hvalid : structure_.validate = .ok ()) : Charge structure_.amount := by
  cases structure_ with
  | flat =>
    obtain ⟨hnonneg, -⟩ := guard_eq_ok.mp hvalid
    exact Charge.const (not_lt.mp hnonneg)
  | percentage =>
    obtain ⟨hrate, -⟩ := guard_eq_ok.mp hvalid
    exact Charge.proportional (not_lt.mp fun hlow => hrate (.inl hlow))
      (not_lt.mp fun hhigh => hrate (.inr hhigh))
  | tiered =>
    obtain ⟨-, htiers⟩ := guard_eq_ok.mp hvalid
    exact sumTiers_charge (validateTiers_brackets htiers)

/-! ## Rounding -/

def decimalPlaces (scale : ℤ) : ℕ :=
  (min (max scale 0) maxRoundingScale).toNat

theorem roundAmount_levy (scale : ℤ) (mode : RoundingMode) :
    Levy (Decimal.grid (decimalPlaces scale)) fun amount => roundAmount amount scale mode := by
  cases mode with
  | halfUp => exact Decimal.levy_roundWith Rounding.halfAwayFromZero
  | bankers => exact Decimal.levy_roundWith Rounding.halfToEven
  | floor => exact Decimal.levy_roundWith Rounding.floor
  | ceil => exact Decimal.levy_roundWith Rounding.ceil
  | truncate => exact Decimal.levy_roundWith Rounding.towardZero
  | other => exact Decimal.levy_roundWith Rounding.halfAwayFromZero

/-! ## Items -/

/-- The rounded fee of an item; an item without a structure has none. -/
def FeeScheduleItem.levy (item : FeeScheduleItem) (scale : ℤ) (mode : RoundingMode)
    (base : Decimal) : Decimal :=
  match item.structure_ with
  | none => 0
  | some structure_ => roundAmount (structure_.amount base) scale mode

def FeeScheduleItem.Priced (item : FeeScheduleItem) : Prop :=
  ∃ structure_, item.structure_ = some structure_ ∧ structure_.validate = .ok ()

variable {item : FeeScheduleItem}

theorem FeeScheduleItem.Priced.itemFee (hitem : item.Priced) {base : Decimal}
    (hbase : 0 ≤ base) (scale : ℤ) (mode : RoundingMode) :
    Fee.itemFee item base scale mode = .ok (item.levy scale mode base) := by
  obtain ⟨structure_, hstructure, hvalid⟩ := hitem
  simp only [Fee.itemFee, FeeScheduleItem.levy, hstructure,
    FeeStructure.calculate_of_valid hvalid hbase]

theorem FeeScheduleItem.Priced.levy (hitem : item.Priced) (scale : ℤ) (mode : RoundingMode) :
    Levy (Decimal.grid (decimalPlaces scale)) (item.levy scale mode) := by
  obtain ⟨structure_, hstructure, hvalid⟩ := hitem
  have hlevy : item.levy scale mode =
      fun base => roundAmount (structure_.amount base) scale mode := by
    funext base
    simp only [FeeScheduleItem.levy, hstructure]
  rw [hlevy]
  exact (roundAmount_levy scale mode).of_charge (FeeStructure.charge_of_valid hvalid)

end Matcher.Fee
