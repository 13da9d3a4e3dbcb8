import Matcher.Matching.DeterministicSort

/-!
# Rule evaluators

Each evaluator decides whether a rule of its kind accepts a left and a right
candidate.  A configuration the evaluator does not support is an error, raised
only when the evaluation reaches it.
-/

namespace Matcher.Matching

open Foundation

/-! ## Text comparison -/

/-- Equality up to the case of ASCII letters only. -/
def equalFold (left right : String) : Bool :=
  left.toList.map lowerAscii = right.toList.map lowerAscii

/-! ## Exact rules -/

def errExactConfigRequired : GoError :=
  .sentinel ⟨"ErrExactConfigRequired", "exact config is required"⟩

def errInvalidDatePrecision : GoError :=
  .sentinel ⟨"ErrInvalidDatePrecision", "invalid date precision"⟩

variable (left right : CandidateTransaction)

def matchAmountAndCurrency (cfg : ExactConfig) : Bool :=
  if cfg.matchAmount && left.amount ≠ right.amount then false
  else if cfg.matchCurrency && left.currency ≠ right.currency then false
  else true

def baseCurrenciesMatch : Bool :=
  if left.currencyBase = "" || right.currencyBase = "" then false
  else left.currencyBase = right.currencyBase

def baseAmountsEqual : Bool :=
  match left.amountBase, right.amountBase with
  | some leftBase, some rightBase => leftBase = rightBase
  | _, _ => false

def matchBaseAmountAndCurrency (cfg : ExactConfig) : Bool :=
  if cfg.matchBaseAmount && !baseAmountsEqual left right then false
  else if cfg.matchBaseCurrency && !baseCurrenciesMatch left right then false
  else true

def matchDate (left right : CandidateTransaction) (cfg : ExactConfig) : Except GoError Bool :=
  if !cfg.matchDate then .ok true
  else
    match cfg.datePrecision with
    | .day => .ok (dayUTC left.date = dayUTC right.date)
    | .timestamp => .ok (left.date = right.date)
    | .other _ => .error errInvalidDatePrecision

def matchReference (left right : CandidateTransaction) (cfg : ExactConfig) : Bool :=
  if !cfg.matchReference then true
  else
    let leftRef := trimSpace left.reference
    let rightRef := trimSpace right.reference
    if cfg.referenceMustSet && (leftRef = "" || rightRef = "") then false
    else if cfg.caseInsensitive then stringsEqualFold leftRef rightRef
    else leftRef = rightRef

def exactMatch (cfg : Option ExactConfig) : Except GoError Bool :=
  match cfg with
  | none => .error errExactConfigRequired
  | some cfg =>
    if !matchAmountAndCurrency left right cfg then .ok false
    else if !matchBaseAmountAndCurrency left right cfg then .ok false
    else do
      let matched ← matchDate left right cfg
      if !matched then return false
      else if !matchReference left right cfg then return false
      else return true

/-! ## Tolerance rules -/

def errToleranceConfigRequired : GoError :=
  .sentinel ⟨"ErrToleranceConfigRequired", "tolerance config is required"⟩

def errInvalidRoundingMode : GoError :=
  .sentinel ⟨"ErrInvalidRoundingMode", "invalid rounding mode"⟩

def errInvalidRoundingScale : GoError :=
  .sentinel ⟨"ErrInvalidRoundingScale", "rounding scale must be >= 0"⟩

def errInvalidDateWindowDays : GoError :=
  .sentinel ⟨"ErrInvalidDateWindowDays", "date window days must be >= 0"⟩

def errInvalidTolerance : GoError :=
  .sentinel ⟨"ErrInvalidTolerance", "tolerances must be non-negative"⟩

def maxInt32 : ℤ := 2 ^ 31 - 1

def roundAmount (amount : Decimal) (scale : ℤ) (mode : RoundingMode) : Except GoError Decimal :=
  if scale < 0 then .error errInvalidRoundingScale
  else if maxInt32 < scale then .error errInvalidRoundingScale
  else
    match Decimal.roundIn mode amount scale.toNat with
    | some rounded => .ok rounded
    | none => .error errInvalidRoundingMode

def averageDivisor : Decimal := 2

def toleranceThreshold (absTol pctTol left right : Decimal) (base : TolerancePercentageBase) :
    Decimal :=
  let leftAbs := |left|
  let rightAbs := |right|
  let baseAmount :=
    match base with
    | .min => if rightAbs < leftAbs then rightAbs else leftAbs
    | .average => Decimal.div (leftAbs + rightAbs) averageDivisor
    | .left => leftAbs
    | .right => rightAbs
    | .max | .other _ => if leftAbs < rightAbs then rightAbs else leftAbs
  let percentThreshold := pctTol * baseAmount
  if absTol < percentThreshold then percentThreshold else absTol

def validateToleranceConfig (cfg : Option ToleranceConfig) : Except GoError ToleranceConfig :=
  match cfg with
  | none => .error errToleranceConfigRequired
  | some cfg =>
    if cfg.dateWindowDays < 0 then .error errInvalidDateWindowDays
    else if cfg.absAmountTolerance < 0 ∨ cfg.percentTolerance < 0 then
      .error errInvalidTolerance
    else do
      let _ ← roundAmount 0 cfg.roundingScale cfg.roundingMode
      return cfg

def toleranceCurrencyMatch (cfg : ToleranceConfig) : Bool :=
  if cfg.matchCurrency && left.currency ≠ right.currency then false
  else if cfg.matchBaseCurrency && !baseCurrenciesMatch left right then false
  else true

def toleranceDateMatch (cfg : ToleranceConfig) : Bool :=
  absDayDiff left.date right.date ≤ cfg.dateWindowDays

/-- The amounts a tolerance rule compares; absent when a base amount is. -/
def toleranceAmounts (cfg : ToleranceConfig) : Option (Decimal × Decimal) :=
  if cfg.matchBaseAmount then
    match left.amountBase, right.amountBase with
    | some leftBase, some rightBase => some (leftBase, rightBase)
    | _, _ => none
  else some (left.amount, right.amount)

def toleranceReferenceMatch (cfg : ToleranceConfig) : Bool :=
  if !cfg.matchReference then true
  else
    let leftRef := trimSpace left.reference
    let rightRef := trimSpace right.reference
    if cfg.referenceMustSet && (leftRef = "" || rightRef = "") then false
    else if leftRef = "" && rightRef = "" then true
    else if cfg.caseInsensitive then equalFold leftRef rightRef
    else leftRef = rightRef

def toleranceMatch (cfg : Option ToleranceConfig) : Except GoError Bool := do
  let cfg ← validateToleranceConfig cfg
  if !toleranceCurrencyMatch left right cfg then return false
  else if !toleranceDateMatch left right cfg then return false
  else
    match toleranceAmounts left right cfg with
    | none => return false
    | some (leftAmount, rightAmount) =>
      if !toleranceReferenceMatch left right cfg then return false
      else do
        let leftRounded ←
          roundAmount leftAmount cfg.roundingScale cfg.roundingMode
        let rightRounded ←
          roundAmount rightAmount cfg.roundingScale cfg.roundingMode
        let diff := |leftRounded - rightRounded|
        let threshold := toleranceThreshold cfg.absAmountTolerance
          cfg.percentTolerance leftRounded rightRounded cfg.percentageBase
        if threshold < diff then return false else return true

/-! ## Date lag rules -/

def errDateLagConfigRequired : GoError :=
  .sentinel ⟨"ErrDateLagConfigRequired", "date lag config is required"⟩

def errDateLagDaysMustBeNonNeg : GoError :=
  .sentinel ⟨"ErrDateLagDaysMustBeNonNeg", "minDays/maxDays must be >= 0"⟩

def errDateLagMaxMustBeGTEMin : GoError :=
  .sentinel ⟨"ErrDateLagMaxMustBeGTEMin", "maxDays must be >= minDays"⟩

def errDateLagFeeToleranceNegative : GoError :=
  .sentinel ⟨"ErrDateLagFeeToleranceNegative", "feeTolerance must be non-negative"⟩

def errDateLagInvalidDirection : GoError :=
  .sentinel ⟨"ErrDateLagInvalidDirection", "invalid date lag direction"⟩

def validateDateLagConfig (cfg : Option DateLagConfig) : Except GoError DateLagConfig :=
  match cfg with
  | none => .error errDateLagConfigRequired
  | some cfg =>
    if cfg.minDays < 0 ∨ cfg.maxDays < 0 then
      .error errDateLagDaysMustBeNonNeg
    else if cfg.maxDays < cfg.minDays then .error errDateLagMaxMustBeGTEMin
    else .ok cfg

def dateLagCurrencyMatch (cfg : DateLagConfig) : Bool :=
  if cfg.matchCurrency && left.currency ≠ right.currency then false
  else if !cfg.matchCurrency && (left.currency = "" || right.currency = "") then
    false
  else true

def amountWithinFeeTolerance (feeTolerance : Decimal) : Bool :=
  !(feeTolerance < |left.amount - right.amount|)

/-- The lag in the configured direction; `-1` signals that there is none. -/
def directedLag (signed minDays : ℤ) : ℤ :=
  if signed < 0 ∨ (signed = 0 ∧ 0 < minDays) then -1 else signed

def computeDateLagDiff (cfg : DateLagConfig) : Except GoError ℤ :=
  let signed := signedDayDiff left.date right.date
  match cfg.direction with
  | .abs => .ok (if signed < 0 then -signed else signed)
  | .leftBeforeRight => .ok (directedLag signed cfg.minDays)
  | .rightBeforeLeft => .ok (directedLag (-signed) cfg.minDays)
  | .other _ => .error errDateLagInvalidDirection

def isWithinDateLagBounds (diff : ℤ) (cfg : DateLagConfig) : Bool :=
  if cfg.inclusive then cfg.minDays ≤ diff && diff ≤ cfg.maxDays
  else cfg.minDays < diff && diff < cfg.maxDays

def dateLagMatch (cfg : Option DateLagConfig) : Except GoError Bool := do
  let cfg ← validateDateLagConfig cfg
  if !dateLagCurrencyMatch left right cfg then return false
  else if cfg.feeTolerance < 0 then .error errDateLagFeeToleranceNegative
  else if !amountWithinFeeTolerance left right cfg.feeTolerance then
    return false
  else do
    let diff ← computeDateLagDiff left right cfg
    if diff < 0 then return false
    else return isWithinDateLagBounds diff cfg

end Matcher.Matching
