import Mathlib.Algebra.Group.Subgroup.ZPowers.Basic
import Mathlib.Tactic.Linarith
import Mathlib.Tactic.Positivity
import Matcher.Foundation.Decimal
import Matcher.Foundation.Levy

/-!
# Rounding to a grid

A rounding to integers keeps its result in an interval of length one around the
rounded number: from the number down to one less for the floor, half a unit to
each side for rounding to the nearest.  Two consequences are all that arithmetic
on rounded amounts needs.  Rounding is monotone, and a whole number added to the
larger side of a strict inequality can be taken out of the rounding.
-/

namespace Matcher.Foundation

/-- On numbers that are not negative the result lies between `bias` and
`bias + 1` above the number. -/
structure Rounding (bias : ℚ) (toInteger : ℚ → ℤ) : Prop where
  zero : toInteger 0 = 0
  lower : ∀ value, 0 ≤ value → value + bias ≤ toInteger value
  upper : ∀ value, 0 ≤ value → (toInteger value : ℚ) ≤ value + bias + 1

namespace Rounding

variable {bias : ℚ} {toInteger : ℚ → ℤ}

theorem le_add_of_lt (h : Rounding bias toInteger) {smaller larger : ℚ} {whole : ℤ}
    (hsmaller : 0 ≤ smaller) (hlarger : 0 ≤ larger) (hlt : smaller < larger + whole) :
    toInteger smaller ≤ toInteger larger + whole := by
  have hupper := h.upper smaller hsmaller
  have hlower := h.lower larger hlarger
  have hbelow : (toInteger smaller : ℚ) < toInteger larger + whole + 1 := by linarith
  exact Int.lt_add_one_iff.mp (by exact_mod_cast hbelow)

theorem floor : Rounding (-1) Int.floor where
  zero := Int.floor_zero
  lower value _ := by linarith [Int.lt_floor_add_one value]
  upper value _ := by linarith [Int.floor_le value]

theorem ceil : Rounding 0 Int.ceil where
  zero := Int.ceil_zero
  lower value _ := by linarith [Int.le_ceil value]
  upper value _ := by linarith [Int.ceil_lt_add_one value]

theorem towardZero : Rounding (-1) Decimal.towardZero where
  zero := by simp [Decimal.towardZero]
  lower value hvalue := by
    rw [Decimal.towardZero, if_neg (not_lt.mpr hvalue)]
    exact floor.lower value hvalue
  upper value hvalue := by
    rw [Decimal.towardZero, if_neg (not_lt.mpr hvalue)]
    exact floor.upper value hvalue

theorem halfAwayFromZero : Rounding (-1 / 2) Decimal.halfAwayFromZero where
  zero := by norm_num [Decimal.halfAwayFromZero]
  lower value hvalue := by
    rw [Decimal.halfAwayFromZero, if_neg (not_lt.mpr hvalue)]
    linarith [Int.lt_floor_add_one (value + 1 / 2)]
  upper value hvalue := by
    rw [Decimal.halfAwayFromZero, if_neg (not_lt.mpr hvalue)]
    linarith [Int.floor_le (value + 1 / 2)]

theorem halfToEven_between (value : ℚ) :
    value - 1 / 2 ≤ Decimal.halfToEven value ∧ (Decimal.halfToEven value : ℚ) ≤ value + 1 / 2 := by
  have hbelow := Int.floor_le value
  have habove := Int.lt_floor_add_one value
  dsimp only [Decimal.halfToEven]
  split_ifs with hdown hup
  · constructor <;> linarith
  · push_cast
    constructor <;> linarith
  · constructor <;> linarith
  · push_cast
    constructor <;> linarith

theorem halfToEven : Rounding (-1 / 2) Decimal.halfToEven where
  zero := by norm_num [Decimal.halfToEven]
  lower value _ := by linarith [(halfToEven_between value).1]
  upper value _ := by linarith [(halfToEven_between value).2]

end Rounding

/-! ## Decimal places -/

namespace Decimal

def grid (places : ℕ) : AddSubgroup ℚ :=
  AddSubgroup.zmultiples (1 / 10 ^ places)

theorem mem_grid {places : ℕ} {amount : ℚ} :
    amount ∈ grid places ↔ ∃ units : ℤ, amount = units / 10 ^ places := by
  rw [grid, AddSubgroup.mem_zmultiples_iff]
  constructor
  all_goals
    rintro ⟨units, rfl⟩
    exact ⟨units, by rw [zsmul_eq_mul, mul_one_div]⟩

theorem roundWith_mem_grid (toInteger : ℚ → ℤ) (amount : ℚ) (places : ℕ) :
    roundWith toInteger amount places ∈ grid places :=
  mem_grid.mpr ⟨_, rfl⟩

section

variable {bias : ℚ} {toInteger : ℚ → ℤ} {places : ℕ} {smaller larger : ℚ}

theorem roundWith_le_add_of_lt (h : Rounding bias toInteger) {shift : ℚ} (hsmaller : 0 ≤ smaller)
    (hlarger : 0 ≤ larger) (hshift : shift ∈ grid places) (hlt : smaller < larger + shift) :
    roundWith toInteger smaller places ≤ roundWith toInteger larger places + shift := by
  obtain ⟨units, rfl⟩ := mem_grid.mp hshift
  have hscale : (0 : ℚ) < 10 ^ places := by positivity
  have hscaled : smaller * 10 ^ places < larger * 10 ^ places + units := by
    have := mul_lt_mul_of_pos_right hlt hscale
    rwa [add_mul, div_mul_cancel₀ _ hscale.ne'] at this
  have hunits := h.le_add_of_lt (by positivity) (by positivity) hscaled
  have : (toInteger (smaller * 10 ^ places) : ℚ) ≤
      toInteger (larger * 10 ^ places) + units := by exact_mod_cast hunits
  unfold roundWith
  rw [← add_div]
  exact div_le_div_of_nonneg_right this hscale.le

theorem roundWith_mono (h : Rounding bias toInteger)
    (hsmaller : 0 ≤ smaller) (hle : smaller ≤ larger) :
    roundWith toInteger smaller places ≤ roundWith toInteger larger places := by
  rcases hle.eq_or_lt with rfl | hlt
  · exact le_rfl
  · have := roundWith_le_add_of_lt h hsmaller (hsmaller.trans hle)
      (grid places).zero_mem (by simpa using hlt)
    simpa using this

theorem levy_roundWith (h : Rounding bias toInteger) :
    Levy (grid places) fun amount => roundWith toInteger amount places where
  mem amount _ := roundWith_mem_grid toInteger amount places
  nonneg amount hamount := by
    have hzero : roundWith toInteger 0 places = 0 := by simp [roundWith, h.zero]
    rw [← hzero]
    exact roundWith_mono h le_rfl hamount
  mono _ _ hsmaller hle := roundWith_mono h hsmaller hle
  absorbs _ _ _ hbase hle hshift hlt :=
    roundWith_le_add_of_lt h (hbase.trans hle) hbase hshift hlt

end

end Decimal

end Matcher.Foundation
