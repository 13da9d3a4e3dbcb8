import Matcher.Fee.Charges

/-!
# The calculation of a valid schedule

On a valid schedule both loops of the calculator succeed, and what they compute
is a sum of levies on the gross amount or a cascade of levies.  The fees of the
items always add up to the total fee.
-/

namespace Matcher.Fee

open Foundation

section Loops

variable {items : List FeeScheduleItem} {scale : ℤ} {mode : RoundingMode}
  {currency : String} {breakdown : FeeBreakdown} {gross : Money}

/-! ## Item fees -/

def FeeAccumulator.Charged (accumulator : FeeAccumulator) : Prop :=
  accumulator.totalFee = (accumulator.itemFees.map (·.fee.amount)).sum

theorem FeeAccumulator.Charged.start (base : Decimal) : (FeeAccumulator.mk base 0 []).Charged :=
  rfl

theorem FeeAccumulator.Charged.charge {accumulator : FeeAccumulator} (h : accumulator.Charged)
    (item : FeeScheduleItem) (fee nextBase : Decimal) (currency : String) :
    (accumulator.charge item fee nextBase currency).Charged := by
  unfold Charged at h
  simp [Charged, FeeAccumulator.charge, h]

theorem calculateParallel_charged
    (h : calculateParallel gross items scale mode currency = .ok breakdown) :
    breakdown.totalFee.amount = (breakdown.itemFees.map (·.fee.amount)).sum := by
  obtain ⟨final, hloop, h⟩ := bind_eq_ok.mp h
  cases h
  refine foldlM_preserves FeeAccumulator.Charged
    (FeeAccumulator.Charged.start gross.amount) ?_ hloop
  intro item state state' _ hcharged hstep
  obtain ⟨fee, -, hstep⟩ := bind_eq_ok.mp hstep
  cases hstep
  exact hcharged.charge item fee state.base currency

theorem calculateCascading_charged
    (h : calculateCascading gross items scale mode currency = .ok breakdown) :
    breakdown.totalFee.amount = (breakdown.itemFees.map (·.fee.amount)).sum := by
  obtain ⟨final, hloop, h⟩ := bind_eq_ok.mp h
  cases h
  refine foldlM_preserves FeeAccumulator.Charged
    (FeeAccumulator.Charged.start gross.amount) ?_ hloop
  intro item state state' _ hcharged hstep
  obtain ⟨fee, -, hstep⟩ := bind_eq_ok.mp hstep
  cases hstep
  exact hcharged.charge item fee _ currency

/-! ## The two loops -/

def leviesOf (items : List FeeScheduleItem) (scale : ℤ) (mode : RoundingMode) :
    List (Decimal → Decimal) :=
  items.map fun item => item.levy scale mode

theorem mem_leviesOf (hitems : ∀ item ∈ items, item.Priced) :
    ∀ levy ∈ leviesOf items scale mode, Levy (Decimal.grid (decimalPlaces scale)) levy := by
  intro levy hlevy
  obtain ⟨item, hitem, rfl⟩ := List.mem_map.mp hlevy
  exact (hitems item hitem).levy scale mode

theorem parallel_run (scale : ℤ) (mode : RoundingMode) (currency : String)
    (accumulator : FeeAccumulator)
    (hfees : ∀ item ∈ items, itemFee item accumulator.base scale mode =
      .ok (item.levy scale mode accumulator.base)) :
    ∃ final, items.foldlM (parallelStep scale mode currency) accumulator = .ok final ∧
      final.totalFee = accumulator.totalFee +
        ((leviesOf items scale mode).map (· accumulator.base)).sum := by
  induction items generalizing accumulator with
  | nil => exact ⟨accumulator, rfl, by simp [leviesOf]⟩
  | cons item _ ih =>
    have hfee := hfees item (by simp)
    obtain ⟨final, hloop, htotal⟩ :=
      ih (accumulator.charge item (item.levy scale mode accumulator.base) accumulator.base currency)
        (fun other h => hfees other (by simp [h]))
    refine ⟨final, foldlM_cons_eq_ok.mpr ⟨_, ?_, hloop⟩, ?_⟩
    · simp only [parallelStep, hfee]
      rfl
    · rw [htotal]
      simp only [FeeAccumulator.charge, leviesOf, List.map_cons, List.sum_cons]
      ring

theorem cascading_run (hitems : ∀ item ∈ items, item.Priced) (scale : ℤ) (mode : RoundingMode)
    (currency : String) (accumulator : FeeAccumulator) (hbase : 0 ≤ accumulator.base) :
    ∃ final, items.foldlM (cascadingStep scale mode currency) accumulator = .ok final ∧
      Cascade.mk final.base final.totalFee =
        Cascade.run (leviesOf items scale mode) ⟨accumulator.base, accumulator.totalFee⟩ := by
  induction items generalizing accumulator with
  | nil => exact ⟨accumulator, rfl, rfl⟩
  | cons item _ ih =>
    have hfee := (hitems item (by simp)).itemFee hbase scale mode
    have hclamped : ∀ remaining : Decimal,
        (if remaining < 0 then 0 else remaining) = max 0 remaining := by
      intro remaining
      split
      next hnegative => exact (max_eq_left hnegative.le).symm
      next hrest => exact (max_eq_right (not_lt.mp hrest)).symm
    obtain ⟨final, hloop, hfinal⟩ :=
      ih (fun other h => hitems other (by simp [h]))
        (accumulator.charge item (item.levy scale mode accumulator.base)
          (max 0 (accumulator.base - item.levy scale mode accumulator.base)) currency)
        (le_max_left _ _)
    refine ⟨final, foldlM_cons_eq_ok.mpr ⟨_, ?_, hloop⟩, hfinal⟩
    simp only [cascadingStep, hfee, ← hclamped]
    rfl

end Loops

/-! ## Schedules -/

namespace FeeSchedule

def levies (schedule : FeeSchedule) : List (Decimal → Decimal) :=
  leviesOf (sortItemsByPriority schedule.items) schedule.roundingScale schedule.roundingMode

def total (schedule : FeeSchedule) (gross : Decimal) : Decimal :=
  match schedule.applicationOrder with
  | .parallel => (schedule.levies.map (· gross)).sum
  | .cascading => (Cascade.run schedule.levies ⟨gross, 0⟩).taken
  | .other _ => 0

/-- What is left of the gross amount; only a cascade stops at zero. -/
def net (schedule : FeeSchedule) (gross : Decimal) : Decimal :=
  match schedule.applicationOrder with
  | .cascading => max 0 (gross - schedule.total gross)
  | _ => gross - schedule.total gross

variable {schedule : FeeSchedule}

def Priced (schedule : FeeSchedule) : Prop :=
  ∀ item ∈ schedule.items, item.Priced

theorem Valid.priced (hvalid : schedule.Valid) : schedule.Priced :=
  fun item hitem => (hvalid.items item hitem).structure_

theorem Priced.sortedItems (hpriced : schedule.Priced) :
    ∀ item ∈ sortItemsByPriority schedule.items, item.Priced :=
  fun item hitem => hpriced item (mem_stableSort.mp hitem)

theorem Priced.levies (hpriced : schedule.Priced) :
    ∀ levy ∈ schedule.levies, Levy (Decimal.grid (decimalPlaces schedule.roundingScale)) levy :=
  mem_leviesOf hpriced.sortedItems

theorem Valid.levies (hvalid : schedule.Valid) :
    ∀ levy ∈ schedule.levies, Levy (Decimal.grid (decimalPlaces schedule.roundingScale)) levy :=
  hvalid.priced.levies

def applyItems (schedule : FeeSchedule) (gross : Money) (currency : String) :
    Except GoError FeeBreakdown :=
  match schedule.applicationOrder with
  | .parallel =>
    calculateParallel gross (sortItemsByPriority schedule.items)
      schedule.roundingScale schedule.roundingMode currency
  | .cascading =>
    calculateCascading gross (sortItemsByPriority schedule.items)
      schedule.roundingScale schedule.roundingMode currency
  | .other value => .error (.wrap "application order %s: %w" [value] errInvalidApplicationOrder)

end FeeSchedule

variable {schedule : FeeSchedule} {gross : Money} {breakdown : FeeBreakdown}
  {items : List FeeScheduleItem} {currency : String}

theorem calculateSchedule_of_currency (hgross : normalizeCurrency gross.currency = .ok currency)
    (hschedule : normalizeCurrency schedule.currency = .ok currency) :
    calculateSchedule gross (some schedule) = schedule.applyItems gross currency := by
  simp only [calculateSchedule, hgross, hschedule]
  exact if_neg (not_not.mpr rfl)

theorem calculateSchedule_eq_ok :
    calculateSchedule gross (some schedule) = .ok breakdown ↔
      ∃ currency, normalizeCurrency gross.currency = .ok currency ∧
        normalizeCurrency schedule.currency = .ok currency ∧
          schedule.applyItems gross currency = .ok breakdown := by
  constructor
  · intro h
    obtain ⟨grossCurrency, hgross, h⟩ := bind_eq_ok.mp h
    obtain ⟨scheduleCurrency, hschedule, h⟩ := bind_eq_ok.mp h
    obtain ⟨hsame, h⟩ := guard_eq_ok.mp h
    refine ⟨grossCurrency, wrapError_eq_ok.mp hgross, ?_, h⟩
    rw [wrapError_eq_ok.mp hschedule, not_not.mp hsame]
  · rintro ⟨currency, hgross, hschedule, h⟩
    rw [calculateSchedule_of_currency hgross hschedule, h]

theorem calculateSchedule_currency (hvalid : schedule.Valid)
    (h : calculateSchedule gross (some schedule) = .ok breakdown) :
    normalizeCurrency gross.currency = .ok schedule.currency := by
  obtain ⟨currency, hgross, hschedule, -⟩ := calculateSchedule_eq_ok.mp h
  rw [hvalid.currency] at hschedule
  cases hschedule
  exact hgross

structure Calculates (schedule : FeeSchedule) (gross : Decimal) (breakdown : FeeBreakdown) :
    Prop where
  total : breakdown.totalFee.amount = schedule.total gross
  net : breakdown.netAmount.amount = schedule.net gross
  items : breakdown.totalFee.amount = (breakdown.itemFees.map (·.fee.amount)).sum

theorem calculateParallel_calculates (hfees : ∀ item ∈ sortItemsByPriority schedule.items,
      itemFee item gross.amount schedule.roundingScale schedule.roundingMode =
        .ok (item.levy schedule.roundingScale schedule.roundingMode
          gross.amount)) (horder : schedule.applicationOrder = .parallel) (currency : String) :
    ∃ breakdown,
      calculateParallel gross (sortItemsByPriority schedule.items)
          schedule.roundingScale schedule.roundingMode currency =
        .ok breakdown ∧
      Calculates schedule gross.amount breakdown := by
  obtain ⟨final, hloop, htotal⟩ := parallel_run
    schedule.roundingScale schedule.roundingMode currency
    ⟨gross.amount, 0, []⟩ hfees
  have hsum : final.totalFee = schedule.total gross.amount := by
    simpa [FeeSchedule.total, horder, FeeSchedule.levies] using htotal
  have hok : calculateParallel gross (sortItemsByPriority schedule.items)
      schedule.roundingScale schedule.roundingMode currency =
        .ok ⟨⟨final.totalFee, currency⟩,
          ⟨gross.amount - final.totalFee, currency⟩, final.itemFees⟩ :=
    bind_eq_ok.mpr ⟨final, hloop, rfl⟩
  refine ⟨_, hok, hsum, ?_, calculateParallel_charged hok⟩
  simp [FeeSchedule.net, horder, hsum]

private theorem calculateCascading_calculates (hpriced : schedule.Priced)
    (hgross : 0 ≤ gross.amount)
    (horder : schedule.applicationOrder = .cascading) (currency : String) :
    ∃ breakdown,
      calculateCascading gross (sortItemsByPriority schedule.items)
          schedule.roundingScale schedule.roundingMode currency =
        .ok breakdown ∧
      Calculates schedule gross.amount breakdown := by
  obtain ⟨final, hloop, hrun⟩ := cascading_run
    hpriced.sortedItems
    schedule.roundingScale schedule.roundingMode currency
    ⟨gross.amount, 0, []⟩ hgross
  have htaken : final.totalFee = schedule.total gross.amount := by
    simp only [FeeSchedule.total, horder]
    exact congrArg Cascade.taken hrun
  have hleft : final.base = schedule.net gross.amount := by
    have hbase : (Cascade.run schedule.levies ⟨gross.amount, 0⟩).base = _ :=
      Cascade.run_base hpriced.levies hgross
    simp only [FeeSchedule.net, FeeSchedule.total, horder]
    rw [add_zero] at hbase
    exact (congrArg Cascade.base hrun).trans hbase
  have hok : calculateCascading gross (sortItemsByPriority schedule.items)
      schedule.roundingScale schedule.roundingMode currency =
        .ok ⟨⟨final.totalFee, currency⟩, ⟨final.base, currency⟩, final.itemFees⟩ :=
    bind_eq_ok.mpr ⟨final, hloop, rfl⟩
  exact ⟨_, hok, htaken, hleft, calculateCascading_charged hok⟩

theorem applyItems_of_priced (hpriced : schedule.Priced)
    (horder : schedule.applicationOrder.isValid = true)
    (hgross : 0 ≤ gross.amount) (currency : String) :
    ∃ breakdown, schedule.applyItems gross currency = .ok breakdown ∧
      Calculates schedule gross.amount breakdown := by
  unfold FeeSchedule.applyItems
  cases hcase : schedule.applicationOrder with
  | parallel =>
    refine calculateParallel_calculates ?_ hcase currency
    intro item hitem
    exact (hpriced.sortedItems item hitem).itemFee hgross _ _
  | cascading => exact calculateCascading_calculates hpriced hgross hcase _
  | other =>
    rw [hcase] at horder
    cases horder

theorem calculateSchedule_of_valid (hvalid : schedule.Valid) (hgross : 0 ≤ gross.amount)
    (hcurrency : normalizeCurrency gross.currency = .ok schedule.currency) :
    ∃ breakdown, calculateSchedule gross (some schedule) = .ok breakdown ∧
      Calculates schedule gross.amount breakdown := by
  obtain ⟨breakdown, happly, hcalculates⟩ := applyItems_of_priced hvalid.priced
    hvalid.applicationOrder hgross schedule.currency
  exact ⟨breakdown, calculateSchedule_eq_ok.mpr
    ⟨schedule.currency, hcurrency, hvalid.currency, happly⟩, hcalculates⟩

theorem FeeSchedule.applyItems_currency (h : schedule.applyItems gross currency = .ok breakdown) :
    breakdown.totalFee.currency = currency := by
  unfold FeeSchedule.applyItems at h
  cases horder : schedule.applicationOrder with
  | parallel | cascading =>
    rw [horder] at h
    obtain ⟨final, -, h⟩ := bind_eq_ok.mp h
    cases h
    rfl
  | other =>
    rw [horder] at h
    cases h

theorem calculateSchedule_totalFee (hvalid : schedule.Valid) (hgross : 0 ≤ gross.amount)
    (hcurrency : normalizeCurrency gross.currency = .ok schedule.currency) :
    ∃ breakdown, calculateSchedule gross (some schedule) = .ok breakdown ∧
      breakdown.totalFee = ⟨schedule.total gross.amount, schedule.currency⟩ := by
  obtain ⟨breakdown, hok, hcalculates⟩ := calculateSchedule_of_valid hvalid hgross hcurrency
  obtain ⟨currency, hnormal, -, happly⟩ := calculateSchedule_eq_ok.mp hok
  rw [hcurrency] at hnormal
  cases hnormal
  refine ⟨breakdown, hok, ?_⟩
  rw [← hcalculates.total, ← FeeSchedule.applyItems_currency happly]

theorem calculateSchedule_calculates (hvalid : schedule.Valid) (hgross : 0 ≤ gross.amount)
    (h : calculateSchedule gross (some schedule) = .ok breakdown) :
    Calculates schedule gross.amount breakdown := by
  obtain ⟨other, hother, hcalculates⟩ := calculateSchedule_of_valid hvalid
    hgross (calculateSchedule_currency hvalid h)
  rw [h] at hother
  cases hother
  exact hcalculates

theorem sortItemsByPriority_perm {permuted : List FeeScheduleItem}
    (hdistinct : (items.map (·.priority)).Nodup) (hperm : permuted.Perm items) :
    sortItemsByPriority permuted = sortItemsByPriority items := by
  have hless : ∀ first second : FeeScheduleItem,
      decide (first.priority < second.priority) = true ↔ first.priority < second.priority :=
    fun first second => decide_eq_true_iff
  refine (stableSort_eq_of_perm hless hperm.symm ?_).symm
  intro item hitem other hother hsame
  exact List.inj_on_of_nodup_map hdistinct hitem hother hsame

theorem calculateSchedule_perm (hdistinct : (schedule.items.map (·.priority)).Nodup)
    (hperm : items.Perm schedule.items) (gross : Money) :
    calculateSchedule gross (some { schedule with items := items }) =
      calculateSchedule gross (some schedule) := by
  simp only [calculateSchedule, sortItemsByPriority_perm hdistinct hperm]

theorem calculateSchedule_conserves (hvalid : schedule.Valid) (hgross : 0 ≤ gross.amount)
    (hok : calculateSchedule gross (some schedule) = .ok breakdown) :
    breakdown.totalFee.amount = (breakdown.itemFees.map (·.fee.amount)).sum ∧
      (schedule.applicationOrder = .parallel →
        breakdown.netAmount.amount + breakdown.totalFee.amount = gross.amount) ∧
      (schedule.applicationOrder = .cascading →
        0 ≤ breakdown.netAmount.amount ∧
          breakdown.netAmount.amount = max 0 (gross.amount - breakdown.totalFee.amount)) ∧
      ∀ items : List FeeScheduleItem, items.Perm schedule.items →
        calculateSchedule gross (some { schedule with items := items }) = .ok breakdown := by
  have hcalculates := calculateSchedule_calculates hvalid hgross hok
  refine ⟨hcalculates.items, ?_, ?_, ?_⟩
  · intro horder
    rw [hcalculates.net, hcalculates.total]
    simp [FeeSchedule.net, horder]
  · intro horder
    have hnet : breakdown.netAmount.amount = max 0 (gross.amount - breakdown.totalFee.amount) := by
      rw [hcalculates.net, hcalculates.total]
      simp [FeeSchedule.net, horder]
    exact ⟨hnet ▸ le_max_left _ _, hnet⟩
  · intro items hperm
    rw [calculateSchedule_perm hvalid.priorities hperm gross]
    exact hok

def cardScheduleInput (order : ApplicationOrder) : NewFeeScheduleInput where
  tenantID := ⟨1⟩
  name := " cards "
  currency := "usd"
  applicationOrder := order
  roundingScale := 2
  roundingMode := .bankers
  items := [⟨"interchange", 2, some (.percentage (3 / 200))⟩, ⟨"scheme", 1, some (.flat (1 / 10))⟩,
    ⟨"surcharge", 3, some (.tiered [⟨some 50, 1 / 100⟩, ⟨none, 1 / 50⟩])⟩]

def cardSchedule (order : ApplicationOrder) : FeeSchedule where
  id := ⟨7⟩
  name := "cards"
  currency := "USD"
  applicationOrder := order
  roundingScale := 2
  roundingMode := .bankers
  items := [⟨⟨0⟩, "interchange", 2, some (.percentage (3 / 200))⟩,
    ⟨⟨1⟩, "scheme", 1, some (.flat (1 / 10))⟩,
    ⟨⟨2⟩, "surcharge", 3, some (.tiered [⟨some 50, 1 / 100⟩, ⟨none, 1 / 50⟩])⟩]

theorem cardSchedule_valid : (cardSchedule .parallel).Valid ∧ (cardSchedule .cascading).Valid := by
  have hparallel : newFeeSchedule ⟨7⟩ (fun index => ⟨index⟩)
      (cardScheduleInput .parallel) = .ok (cardSchedule .parallel) := by
    decide +kernel
  have hcascading : newFeeSchedule ⟨7⟩ (fun index => ⟨index⟩)
      (cardScheduleInput .cascading) = .ok (cardSchedule .cascading) := by
    decide +kernel
  exact ⟨newFeeSchedule_valid hparallel, newFeeSchedule_valid hcascading⟩

theorem calculateSchedule_conserves_cards :
    ∃ breakdown,
      calculateSchedule ⟨100, "USD"⟩ (some (cardSchedule .cascading)) = .ok breakdown ∧
        breakdown.totalFee.amount = 307 / 100 ∧
        breakdown.totalFee.amount = (breakdown.itemFees.map (·.fee.amount)).sum ∧
        breakdown.netAmount.amount = max 0 (100 - breakdown.totalFee.amount) := by
  have hcurrency : normalizeCurrency "USD" = .ok "USD" := by decide +kernel
  have htotal : (cardSchedule .cascading).total 100 = 307 / 100 := by decide +kernel
  obtain ⟨breakdown, hok, hcalculates⟩ : ∃ breakdown,
      calculateSchedule ⟨100, "USD"⟩ (some (cardSchedule .cascading)) = .ok breakdown ∧
        Calculates (cardSchedule .cascading) 100 breakdown :=
    calculateSchedule_of_valid cardSchedule_valid.2 (by decide +kernel) hcurrency
  obtain ⟨hsum, -, hnet, -⟩ := calculateSchedule_conserves
    cardSchedule_valid.2 (by decide +kernel) hok
  exact ⟨breakdown, hok, hcalculates.total.trans htotal, hsum, (hnet rfl).2⟩

end Matcher.Fee
