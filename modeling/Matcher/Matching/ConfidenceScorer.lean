import Matcher.Matching.Evaluators

/-!
# Confidence scores

The score of an accepted pair is the weighted sum of four components, on a scale
of one hundred.  The weights are the decimal numbers 0.40, 0.30, 0.20 and 0.10;
their floating-point sums round to the same integers for every combination of
components.
-/

namespace Matcher.Matching

open Foundation

structure ConfidenceWeights where
  amount : ℚ
  currency : ℚ
  date : ℚ
  reference : ℚ

def defaultConfidenceWeights : ConfidenceWeights where
  amount := 40 / 100
  currency := 30 / 100
  date := 20 / 100
  reference := 10 / 100

structure ConfidenceComponents where
  amountMatch : Bool
  currencyMatch : Bool
  dateMatch : Bool
  referenceScore : ℚ

def scoreMaxValue : ℚ := 100

def calculateConfidenceScore (components : ConfidenceComponents) (weights : ConfidenceWeights) :
    ℤ :=
  let amount := if components.amountMatch then weights.amount else 0
  let currency := if components.currencyMatch then weights.currency else 0
  let date := if components.dateMatch then weights.date else 0
  let reference := components.referenceScore * weights.reference
  Decimal.halfAwayFromZero ((amount + currency + date + reference) * scoreMaxValue)

/-- One component scored by whether both currencies are set and equal. -/
def currenciesScore (left right : String) : Bool :=
  left ≠ "" && left = right

structure ReferenceMatchOptions where
  caseInsensitive : Bool
  referenceMustSet : Bool

/-- References are scored as stored, without trimming. -/
def calculateReferenceScoreWithOptions (opts : ReferenceMatchOptions)
    (left right : CandidateTransaction) : ℚ :=
  let leftRef := left.reference
  let rightRef := right.reference
  if opts.referenceMustSet && (leftRef = "" || rightRef = "") then 0
  else if leftRef = "" && rightRef = "" then 1
  else if opts.caseInsensitive then
    if equalFold leftRef rightRef then 1 else 0
  else if leftRef = rightRef then 1 else 0

/-! ## Exact rules -/

variable (cfg : ExactConfig) (left right : CandidateTransaction)

def evaluateExactAmountMatch : Bool :=
  if cfg.matchBaseAmount then baseAmountsEqual left right
  else if cfg.matchAmount then left.amount = right.amount
  else true

def evaluateExactCurrencyMatch : Bool :=
  if cfg.matchBaseCurrency then
    currenciesScore left.currencyBase right.currencyBase
  else if cfg.matchCurrency then currenciesScore left.currency right.currency
  else if left.currency = "" || right.currency = "" then false
  else left.currency = right.currency

def evaluateExactDateMatch : Bool :=
  if !cfg.matchDate then true
  else
    match cfg.datePrecision with
    | .day => dayUTC left.date = dayUTC right.date
    | .timestamp => left.date = right.date
    | .other _ => true

def evaluateExactReferenceScore : ℚ :=
  if !cfg.matchReference then 1
  else
    calculateReferenceScoreWithOptions ⟨cfg.caseInsensitive, cfg.referenceMustSet⟩ left right

def extractExactComponents : ConfidenceComponents where
  amountMatch := evaluateExactAmountMatch cfg left right
  currencyMatch := evaluateExactCurrencyMatch cfg left right
  dateMatch := evaluateExactDateMatch cfg left right
  referenceScore := evaluateExactReferenceScore cfg left right

/-! ## Tolerance rules -/

def isWithinTolerance (left right absTolerance percentTolerance : Decimal)
    (base : TolerancePercentageBase) : Bool :=
  let diff := |left - right|
  let threshold := toleranceThreshold absTolerance percentTolerance left right base
  !(threshold < diff)

def evaluateToleranceReferenceScore (cfg : ToleranceConfig) (left right : CandidateTransaction) :
    ℚ :=
  if !cfg.matchReference then 0
  else
    calculateReferenceScoreWithOptions ⟨cfg.caseInsensitive, cfg.referenceMustSet⟩ left right

def extractToleranceComponents (cfg : ToleranceConfig) (left right : CandidateTransaction) :
    ConfidenceComponents where
  amountMatch :=
    match toleranceAmounts left right cfg with
    | some (leftAmount, rightAmount) =>
      isWithinTolerance leftAmount rightAmount cfg.absAmountTolerance
        cfg.percentTolerance cfg.percentageBase
    | none => false
  currencyMatch :=
    if cfg.matchBaseCurrency then
      currenciesScore left.currencyBase right.currencyBase
    else if cfg.matchCurrency then currenciesScore left.currency right.currency
    else
      left.currency ≠ "" && right.currency ≠ "" && left.currency = right.currency
  dateMatch :=
    if 0 ≤ cfg.dateWindowDays then
      absDayDiff left.date right.date ≤ cfg.dateWindowDays
    else true
  referenceScore := evaluateToleranceReferenceScore cfg left right

/-! ## Date lag rules -/

/-- The scorer compares magnitudes, unlike the evaluator. -/
def isWithinFeeTolerance (left right feeTolerance : Decimal) : Bool :=
  let diff := |(|left| - |right|)|
  !(feeTolerance < diff)

def extractDateLagComponents (cfg : DateLagConfig) (left right : CandidateTransaction) :
    ConfidenceComponents where
  amountMatch :=
    isWithinFeeTolerance left.amount right.amount cfg.feeTolerance
  currencyMatch :=
    if cfg.matchCurrency then currenciesScore left.currency right.currency
    else
      left.currency ≠ "" && right.currency ≠ "" && left.currency = right.currency
  dateMatch :=
    let dayDiff := absDayDiff left.date right.date
    cfg.minDays ≤ dayDiff &&
      ((cfg.inclusive && dayDiff ≤ cfg.maxDays) || (!cfg.inclusive && dayDiff < cfg.maxDays))
  referenceScore := 0

/-! ## Scores -/

/-- A missing configuration scores zero. -/
def scoreWith {Config : Type}
    (extract : Config → CandidateTransaction → CandidateTransaction → ConfidenceComponents)
    (cfg : Option Config) (left right : CandidateTransaction) : ℤ :=
  match cfg with
  | none => 0
  | some cfg => calculateConfidenceScore (extract cfg left right) defaultConfidenceWeights

def scoreExactConfidence : Option ExactConfig → CandidateTransaction → CandidateTransaction → ℤ :=
  scoreWith extractExactComponents

def scoreToleranceConfidence : Option ToleranceConfig →
    CandidateTransaction → CandidateTransaction → ℤ :=
  scoreWith extractToleranceComponents

def scoreDateLagConfidence : Option DateLagConfig → CandidateTransaction →
    CandidateTransaction → ℤ :=
  scoreWith extractDateLagComponents

end Matcher.Matching
