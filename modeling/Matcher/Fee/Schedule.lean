import Matcher.Foundation.Decimal
import Matcher.Foundation.GoError
import Matcher.Foundation.StableSort
import Matcher.Foundation.Text
import Matcher.Foundation.Uuid

/-!
# Fee schedules

A schedule prices a gross amount by a list of items, each a flat, percentage or
tiered fee.  The items apply in the order of their priorities, either all to the
gross amount or each to what the previous ones left.
-/

namespace Matcher.Fee

open Foundation

/-! ## Errors -/

def errNilFeeStructure : GoError :=
  .sentinel ⟨"ErrNilFeeStructure", "fee structure is nil"⟩

def errInvalidCurrency : GoError :=
  .sentinel ⟨"ErrInvalidCurrency", "invalid currency"⟩

def errCurrencyMismatch : GoError :=
  .sentinel ⟨"ErrCurrencyMismatch", "currency mismatch"⟩

def errNegativeAmount : GoError :=
  .sentinel ⟨"ErrNegativeAmount", "amount must be non-negative"⟩

def errInvalidPercentageRate : GoError :=
  .sentinel ⟨"ErrInvalidPercentageRate", "percentage rate must be between 0 and 1 inclusive"⟩

def errInvalidTieredDefinition : GoError :=
  .sentinel ⟨"ErrInvalidTieredDefinition", "invalid tiered fee definition"⟩

def errInvalidApplicationOrder : GoError :=
  .sentinel ⟨"ErrInvalidApplicationOrder", "invalid application order"⟩

def errNilSchedule : GoError :=
  .sentinel ⟨"ErrNilSchedule", "fee schedule is nil"⟩

def errGrossConvergenceFailed : GoError :=
  .sentinel ⟨"ErrGrossConvergenceFailed", "gross calculation failed to converge"⟩

def flatFeeAssertion : GoError :=
  .sentinel ⟨"AssertionError", "flat fee must be non-negative"⟩

/-! ## Money -/

def validCurrencies : List String := [
  "AED", "AFN", "ALL", "AMD", "ANG", "AOA", "ARS", "AUD", "AWG", "AZN", "BAM",
  "BBD", "BDT", "BGN", "BHD", "BIF", "BMD", "BND", "BOB", "BRL", "BSD", "BTN",
  "BWP", "BYN", "BZD", "CAD", "CDF", "CHF", "CLP", "CNY", "COP", "CRC", "CUP",
  "CVE", "CZK", "DJF", "DKK", "DOP", "DZD", "EGP", "ERN", "ETB", "EUR", "FJD",
  "FKP", "GBP", "GEL", "GHS", "GIP", "GMD", "GNF", "GTQ", "GYD", "HKD", "HNL",
  "HTG", "HUF", "IDR", "ILS", "INR", "IQD", "IRR", "ISK", "JMD", "JOD", "JPY",
  "KES", "KGS", "KHR", "KMF", "KPW", "KRW", "KWD", "KYD", "KZT", "LAK", "LBP",
  "LKR", "LRD", "LSL", "LYD", "MAD", "MDL", "MGA", "MKD", "MMK", "MNT", "MOP",
  "MRU", "MUR", "MVR", "MWK", "MXN", "MYR", "MZN", "NAD", "NGN", "NIO", "NOK",
  "NPR", "NZD", "OMR", "PAB", "PEN", "PGK", "PHP", "PKR", "PLN", "PYG", "QAR",
  "RON", "RSD", "RUB", "RWF", "SAR", "SBD", "SCR", "SDG", "SEK", "SGD", "SHP",
  "SLE", "SOS", "SRD", "SSP", "STN", "SVC", "SYP", "SZL", "THB", "TJS", "TMT",
  "TND", "TOP", "TRY", "TTD", "TWD", "TZS", "UAH", "UGX", "USD", "UYU", "UZS",
  "VES", "VND", "VUV", "WST", "XAF", "XCD", "XOF", "XPF", "YER", "ZAR", "ZMW",
  "ZWL"]

structure Money where
  amount : Decimal
  currency : String
deriving DecidableEq, Repr

def normalizeCurrency (currency : String) : Except GoError String :=
  let normalized := toUpper (trimSpace currency)
  if normalized = "" then .error errInvalidCurrency
  else if normalized ∈ validCurrencies then .ok normalized
  else .error errInvalidCurrency

def newMoney (amount : Decimal) (currency : String) : Except GoError Money := do
  let normalized ← normalizeCurrency currency
  return ⟨amount, normalized⟩

/-! ## Fee structures -/

structure Tier where
  upTo : Option Decimal
  rate : Decimal
deriving DecidableEq, Repr

inductive FeeStructure
  | flat (amount : Decimal)
  | percentage (rate : Decimal)
  | tiered (tiers : List Tier)
deriving DecidableEq, Repr

def tieredError (format : String) (index : ℕ) : GoError :=
  .wrap format [Nat.repr index] errInvalidTieredDefinition

/-- One pass over the tiers with the previous upper bound. -/
def validateTiers : List Tier → ℕ → Decimal → Bool → Except GoError Unit
  | [], _, _, _ => .ok ()
  | tier :: rest, index, prevUpper, seenInfinite =>
    if seenInfinite then
      .error (tieredError "%w: tier after infinite upper bound (index=%d)" index)
    else if tier.rate < 0 ∨ 1 < tier.rate then
      .error (tieredError "%w: invalid rate at index=%d" index)
    else
      match tier.upTo with
      | none => validateTiers rest (index + 1) prevUpper true
      | some upper =>
        if upper ≤ 0 then
          .error (tieredError "%w: upper bound must be > 0 (index=%d)" index)
        else if upper ≤ prevUpper then
          .error (tieredError "%w: upper bounds must be strictly increasing (index=%d)" index)
        else validateTiers rest (index + 1) upper seenInfinite

def FeeStructure.validate : FeeStructure → Except GoError Unit
  | .flat amount =>
    if amount < 0 then .error (.wrap "flat fee: %w" [] flatFeeAssertion)
    else .ok ()
  | .percentage rate =>
    if rate < 0 ∨ 1 < rate then
      .error (.wrap "percentage fee: %w" [] errInvalidPercentageRate)
    else .ok ()
  | .tiered tiers =>
    if tiers = [] then
      .error (.wrap "tiered fee: %w" [] errInvalidTieredDefinition)
    else validateTiers tiers 0 0 false

def calculateTierCap (tier : Tier) (lower remaining : Decimal) : Decimal :=
  match tier.upTo with
  | none => remaining
  | some upper =>
    let maxInBracket := upper - lower
    if maxInBracket ≤ 0 then 0
    else if maxInBracket < remaining then maxInBracket
    else remaining

def sumTiers : List Tier → (remaining total lower : Decimal) → Decimal
  | [], _, total, _ => total
  | tier :: rest, remaining, total, lower =>
    if remaining ≤ 0 then total
    else
      let tierCap := calculateTierCap tier lower remaining
      if tierCap ≤ 0 then sumTiers rest remaining total lower
      else
        sumTiers rest (remaining - tierCap) (total + tierCap * tier.rate) (tier.upTo.getD lower)

def FeeStructure.calculate (structure_ : FeeStructure) (baseAmount : Decimal) :
    Except GoError Decimal :=
  match structure_ with
  | .flat amount => do
      structure_.validate
      return amount
  | .percentage rate =>
    if baseAmount < 0 then .error errNegativeAmount
    else do
      structure_.validate
      return baseAmount * rate
  | .tiered tiers =>
    if baseAmount < 0 then .error errNegativeAmount
    else do
      structure_.validate
      return sumTiers tiers baseAmount 0 0

/-! ## Schedules -/

inductive ApplicationOrder
  | parallel
  | cascading
  | other (value : String)
deriving DecidableEq, Repr

structure FeeScheduleItem where
  id : UUID
  name : String
  priority : ℤ
  structure_ : Option FeeStructure
deriving DecidableEq, Repr

structure FeeSchedule where
  id : UUID
  name : String
  currency : String
  applicationOrder : ApplicationOrder
  roundingScale : ℤ
  roundingMode : RoundingMode
  items : List FeeScheduleItem
deriving DecidableEq, Repr

structure ItemFee where
  itemID : UUID
  itemName : String
  fee : Money
  baseUsed : Money
deriving DecidableEq, Repr

structure FeeBreakdown where
  totalFee : Money
  netAmount : Money
  itemFees : List ItemFee
deriving DecidableEq, Repr

def maxRoundingScale : ℤ := 10

/-- The scale is clamped to the supported range and never rejected. -/
def roundAmount (amount : Decimal) (scale : ℤ) (mode : RoundingMode) : Decimal :=
  let places := (min (max scale 0) maxRoundingScale).toNat
  (Decimal.roundIn mode amount places).getD (Decimal.round amount places)

def sortItemsByPriority (items : List FeeScheduleItem) : List FeeScheduleItem :=
  stableSort (fun first second => first.priority < second.priority) items

def itemError (item : FeeScheduleItem) (cause : GoError) : GoError :=
  .wrap "calculate item %q (id=%s): %w" [item.name, item.id.toText] cause

def itemFee (item : FeeScheduleItem) (base : Decimal) (scale : ℤ) (mode : RoundingMode) :
    Except GoError Decimal :=
  match item.structure_ with
  | none => .error errNilFeeStructure
  | some structure_ =>
    match structure_.calculate base with
    | .error cause => .error (itemError item cause)
    | .ok fee => .ok (roundAmount fee scale mode)

structure FeeAccumulator where
  base : Decimal
  totalFee : Decimal
  itemFees : List ItemFee

def FeeAccumulator.charge (accumulator : FeeAccumulator)
    (item : FeeScheduleItem) (fee nextBase : Decimal) (currency : String) :
    FeeAccumulator where
  base := nextBase
  totalFee := accumulator.totalFee + fee
  itemFees := accumulator.itemFees ++
    [⟨item.id, item.name, ⟨fee, currency⟩, ⟨accumulator.base, currency⟩⟩]

def parallelStep (scale : ℤ) (mode : RoundingMode) (currency : String)
    (accumulator : FeeAccumulator) (item : FeeScheduleItem) :
    Except GoError FeeAccumulator := do
  let fee ← itemFee item accumulator.base scale mode
  return accumulator.charge item fee accumulator.base currency

def calculateParallel (gross : Money) (items : List FeeScheduleItem)
    (scale : ℤ) (mode : RoundingMode) (currency : String) :
    Except GoError FeeBreakdown := do
  let final ← items.foldlM (parallelStep scale mode currency) ⟨gross.amount, 0, []⟩
  return ⟨⟨final.totalFee, currency⟩, ⟨gross.amount - final.totalFee, currency⟩, final.itemFees⟩

def cascadingStep (scale : ℤ) (mode : RoundingMode) (currency : String)
    (accumulator : FeeAccumulator) (item : FeeScheduleItem) :
    Except GoError FeeAccumulator := do
  let fee ← itemFee item accumulator.base scale mode
  let remaining := accumulator.base - fee
  let nextBase := if remaining < 0 then 0 else remaining
  return accumulator.charge item fee nextBase currency

def calculateCascading (gross : Money) (items : List FeeScheduleItem)
    (scale : ℤ) (mode : RoundingMode) (currency : String) :
    Except GoError FeeBreakdown := do
  let final ← items.foldlM (cascadingStep scale mode currency) ⟨gross.amount, 0, []⟩
  return ⟨⟨final.totalFee, currency⟩, ⟨final.base, currency⟩, final.itemFees⟩

def calculateSchedule (gross : Money) (schedule : Option FeeSchedule) :
    Except GoError FeeBreakdown :=
  match schedule with
  | none => .error errNilSchedule
  | some schedule => do
      let grossCurrency ←
        wrapError "gross currency: %w" (normalizeCurrency gross.currency)
      let scheduleCurrency ←
        wrapError "schedule currency: %w" (normalizeCurrency schedule.currency)
      if grossCurrency ≠ scheduleCurrency then
        .error (.wrap "gross currency %s vs schedule currency %s: %w"
          [grossCurrency, scheduleCurrency] errCurrencyMismatch)
      else
        let sorted := sortItemsByPriority schedule.items
        match schedule.applicationOrder with
        | .parallel =>
          calculateParallel gross sorted schedule.roundingScale schedule.roundingMode grossCurrency
        | .cascading =>
          calculateCascading gross sorted schedule.roundingScale schedule.roundingMode grossCurrency
        | .other value =>
          .error (.wrap "application order %s: %w" [value] errInvalidApplicationOrder)

/-! ## Gross from net -/

def maxIterations : ℕ := 100

def convergencePrecision : ℕ := 10

def convergenceEpsilon : Decimal := 1 / 10 ^ convergencePrecision

/-- Fixed-point iteration `gross := net + fees(gross)`. -/
def grossIteration (net : Money) (schedule : FeeSchedule) :
    (remaining : ℕ) → (grossEstimate lastDiff : Decimal) → Except GoError (Money × FeeBreakdown)
  | 0, _, lastDiff =>
    .error (.wrap "%w: after %d iterations (remaining diff: %s)"
      [Nat.repr maxIterations, lastDiff.toFixed convergencePrecision]
      errGrossConvergenceFailed)
  | remaining + 1, grossEstimate, _ => do
      let iteration := Nat.repr (maxIterations - (remaining + 1))
      let grossMoney ← (newMoney grossEstimate net.currency).mapError
        (GoError.wrap "create gross money iteration %d: %w" [iteration])
      let breakdown ← (calculateSchedule grossMoney (some schedule)).mapError
        (GoError.wrap "calculate gross iteration %d: %w" [iteration])
      let impliedNet := grossEstimate - breakdown.totalFee.amount
      let diff := |impliedNet - net.amount|
      if diff ≤ convergenceEpsilon then
        return (grossMoney, breakdown)
      else
        grossIteration net schedule remaining (net.amount + breakdown.totalFee.amount) diff

def calculateGrossFromNet (net : Money) (schedule : Option FeeSchedule) :
    Except GoError (Money × FeeBreakdown) :=
  match schedule with
  | none => .error errNilSchedule
  | some schedule => do
      let normNet ← normalizeCurrency net.currency
      let normSched ← normalizeCurrency schedule.currency
      if normNet ≠ normSched then
        .error (.wrap "%w: net=%s schedule=%s" [normNet, normSched] errCurrencyMismatch)
      else grossIteration net schedule maxIterations net.amount 0

end Matcher.Fee
