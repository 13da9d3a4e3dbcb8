import Matcher.Command.RunPreparation
import Matcher.Exceptions.Severity
import Matcher.Fee.Monotonicity

/-!
# Fee verification

After the groups of a run are stored, the fee of every transaction in a
confirmed group is checked.  The expected fee comes from the schedule that the
fee rules select, the actual one from the metadata of the transaction.  A
deviation is recorded as a variance and an exception; an error stops the run.
-/

namespace Matcher.Fee

open Foundation

/-! ## Verifier -/

def errToleranceNegative : GoError :=
  .sentinel ⟨"ErrToleranceNegative", "tolerance must be non-negative"⟩

inductive VarianceType
  | match_
  | undercharge
  | overcharge
deriving DecidableEq, Repr

def VarianceType.text : VarianceType → String
  | .match_ => "MATCH"
  | .undercharge => "UNDERCHARGE"
  | .overcharge => "OVERCHARGE"

structure Tolerance where
  abs : Decimal
  percent : Decimal
deriving DecidableEq, Repr

structure VarianceResult where
  type : VarianceType
  expected : Money
  actual : Money
  delta : Decimal
  threshold : Decimal
deriving DecidableEq, Repr

/-- The larger of the absolute tolerance and the share of the larger fee. -/
def Tolerance.threshold (tolerance : Tolerance) (actual expected : Decimal) : Decimal :=
  let maxAbs := if |expected| < |actual| then |actual| else |expected|
  let percentThreshold := tolerance.percent * maxAbs
  if tolerance.abs < percentThreshold then percentThreshold else tolerance.abs

def verifyFee (actual expected : Money) (tolerance : Tolerance) : Except GoError VarianceResult :=
  if actual.currency ≠ expected.currency then
    .error (.wrap "%w: actual=%s expected=%s"
      [actual.currency, expected.currency] errCurrencyMismatch)
  else if tolerance.abs < 0 ∨ tolerance.percent < 0 then
    .error errToleranceNegative
  else
    let threshold := tolerance.threshold actual.amount expected.amount
    let delta := actual.amount - expected.amount
    let type : VarianceType :=
      if |delta| ≤ threshold then .match_
      else if actual.amount < expected.amount then .undercharge
      else .overcharge
    .ok ⟨type, expected, actual, delta, threshold⟩

/-! ## The expected fee -/

/-- The fee that a valid schedule asks of an amount, none where the search for
the gross amount does not settle. -/
def FeeSchedule.expectedFee (schedule : FeeSchedule) (mode : NormalizationMode) (amount : Decimal) :
    Option Decimal :=
  match mode with
  | .gross =>
    ((List.range maxIterations).find? (schedule.settles amount)).map
      fun rounds => schedule.total (schedule.grossEstimate amount rounds)
  | _ => some (schedule.total amount)

theorem FeeSchedule.Priced.expectedFee_nonneg {schedule : FeeSchedule} (hpriced : schedule.Priced)
    {mode : NormalizationMode} {amount fee : Decimal} (hamount : 0 ≤ amount)
    (hfee : schedule.expectedFee mode amount = some fee) : 0 ≤ fee := by
  unfold FeeSchedule.expectedFee at hfee
  split at hfee
  next =>
    obtain ⟨rounds, -, rfl⟩ := Option.map_eq_some_iff.mp hfee
    exact hpriced.total_nonneg (hpriced.grossEstimate_nonneg hamount rounds)
  next =>
    cases hfee
    exact hpriced.total_nonneg hamount

end Matcher.Fee

namespace Matcher.Command

open Foundation
open Exceptions (ExceptionTransactionInput)
open Fee (FeeRule FeeSchedule MetadataMember Money NormalizationMode Tolerance)

/-! ## Fees of the metadata -/

def reasonFeeVariance : String := "FEE_VARIANCE"

def reasonFeeDataMissing : String := "FEE_DATA_MISSING"

def reasonFeeCurrencyMismatch : String := "FEE_CURRENCY_MISMATCH"

/-- The error is the reason of the exception to come. -/
def parseAmount : MetadataMember → Except String Decimal
  | .text value =>
    match Decimal.ofString value with
    | none => .error reasonFeeDataMissing
    | some parsed => .ok parsed
  | .number value => .ok value
  | .other => .error reasonFeeDataMissing

def feeCurrency (feeMap : List (String × MetadataMember)) (expectedCurrency : String) : String :=
  match feeMap.lookup "currency" with
  | some (.text currencyStr) =>
    if trimSpace currencyStr ≠ "" then toUpper (trimSpace currencyStr)
    else expectedCurrency
  | _ => expectedCurrency

def extractActualFee (txn : Transaction) (expectedCurrency : String) : Except String Money :=
  match txn.metadata with
  | none => .error reasonFeeDataMissing
  | some metadata =>
    match metadata.lookup "fee" with
    | some (.object _ feeMap) =>
      match feeMap.lookup "amount" with
      | none => .error reasonFeeDataMissing
      | some amountRaw => do
          let amount ← parseAmount amountRaw
          let currency := feeCurrency feeMap expectedCurrency
          if currency ≠ expectedCurrency then
            .error reasonFeeCurrencyMismatch
          else return ⟨amount, currency⟩
    | _ => .error reasonFeeDataMissing

/-! ## Inputs -/

structure FeeVerificationInput where
  ctxInfo : Option ReconciliationContextInfo
  txByID : TransactionMap
  sourceTypeByID : UUID → String
  leftSourceIDs : Finset UUID
  rightSourceIDs : Finset UUID
  leftRules : List FeeRule
  rightRules : List FeeRule
  allSchedules : UUID → Option FeeSchedule

def FeeVerificationInput.normalizationMode (input : FeeVerificationInput) : NormalizationMode :=
  match input.ctxInfo with
  | none => .none
  | some ctxInfo => ctxInfo.feeNormalization.getD .none

def resolveScheduleForTransaction (transactionID : UUID) (feeInput : FeeVerificationInput) :
    Option FeeSchedule :=
  match feeInput.txByID transactionID with
  | none => none
  | some txn =>
    if txn.sourceID ∈ feeInput.leftSourceIDs then
      Fee.resolveFeeSchedule txn.metadata feeInput.leftRules feeInput.allSchedules
    else if txn.sourceID ∈ feeInput.rightSourceIDs then
      Fee.resolveFeeSchedule txn.metadata feeInput.rightRules feeInput.allSchedules
    else none

def expectedFeeForTransaction (txn : Transaction) (schedule : FeeSchedule)
    (mode : NormalizationMode) : Except GoError Money :=
  let amount : Money := ⟨|txn.amount|, txn.currency⟩
  if mode = .gross then do
    let (_, breakdown) ← wrapError "calculate gross from net: %w"
      (Fee.calculateGrossFromNet amount (some schedule))
    return breakdown.totalFee
  else do
    let breakdown ← wrapError "calculate schedule: %w"
      (Fee.calculateSchedule amount (some schedule))
    return breakdown.totalFee

/-! ## Findings -/

structure FeeVariance where
  id : UUID
  contextID : UUID
  runID : UUID
  matchGroupID : UUID
  transactionID : UUID
  feeScheduleID : UUID
  feeScheduleNameSnapshot : String
  currency : String
  expectedFee : Decimal
  actualFee : Decimal
  delta : Decimal
  toleranceAbs : Decimal
  tolerancePct : Decimal
  varianceType : String
deriving DecidableEq, Repr

def newFeeVariance (id contextID runID matchGroupID transactionID feeScheduleID : UUID)
    (feeScheduleNameSnapshot currency : String) (expected actual tolAbs tolPct : Decimal)
    (varianceType : String) : Except GoError FeeVariance :=
  if contextID = UUID.zero then
    .error (assertionError "fee variance context id: %w" "context id is required")
  else if runID = UUID.zero then
    .error (assertionError "fee variance run id: %w" "run id is required")
  else if matchGroupID = UUID.zero then
    .error (assertionError "fee variance match group id: %w" "match group id is required")
  else if transactionID = UUID.zero then
    .error (assertionError "fee variance transaction id: %w" "transaction id is required")
  else if feeScheduleID = UUID.zero then
    .error (assertionError "fee variance fee schedule id: %w" "fee schedule id is required")
  else if feeScheduleNameSnapshot = "" then
    .error (assertionError "fee variance fee schedule name snapshot: %w"
      "fee schedule name snapshot is required")
  else if currency = "" then
    .error (assertionError "fee variance currency: %w" "currency is required")
  else if expected < 0 ∨ actual < 0 then
    .error (assertionError "fee variance amounts: %w" "fees must be non-negative")
  else if tolAbs < 0 ∨ tolPct < 0 then
    .error (assertionError "fee variance tolerances: %w" "tolerances must be non-negative")
  else if varianceType = "" then
    .error (assertionError "fee variance type: %w" "variance type is required")
  else
    .ok {
      id := id
      contextID := contextID
      runID := runID
      matchGroupID := matchGroupID
      transactionID := transactionID
      feeScheduleID := feeScheduleID
      feeScheduleNameSnapshot := feeScheduleNameSnapshot
      currency := currency
      expectedFee := expected
      actualFee := actual
      delta := |expected - actual|
      toleranceAbs := tolAbs
      tolerancePct := tolPct
      varianceType := varianceType }

def buildExceptionInputFromTx (txn : Transaction) (sourceTypeByID : UUID → String)
    (reason : String) :
    ExceptionTransactionInput where
  transactionID := txn.id
  amountAbsBase :=
    match txn.amountBase with
    | some amountBase => |amountBase|
    | none => |txn.amount|
  transactionDate := some txn.date
  sourceType := sourceTypeByID txn.sourceID
  fxMissing := txn.amountBase.isNone && txn.baseCurrency.isSome
  reason := reason

structure FeeFindings where
  variances : List FeeVariance
  exceptionInputs : List ExceptionTransactionInput
  skippedNoSchedule : ℕ
deriving DecidableEq, Repr

structure FeeItemResult where
  variance : Option FeeVariance
  exceptionInput : Option ExceptionTransactionInput
deriving DecidableEq, Repr

/-- The part of `processFeeForItem` that follows the extraction of the fee.  A
fatal error of the item is the error of the result. -/
def compareFees (newVarianceID : UUID) (item : MatchItem) (group : MatchGroup)
    (createdRun : MatchRun) (feeInput : FeeVerificationInput) (schedule : FeeSchedule)
    (tolerance : Tolerance) (txn : Transaction) (actualFee : Money) :
    Except GoError FeeItemResult :=
  let excepted (reason : String) : ExceptionTransactionInput :=
    buildExceptionInputFromTx txn feeInput.sourceTypeByID reason
  match expectedFeeForTransaction txn schedule feeInput.normalizationMode with
  | .error calcErr =>
    if calcErr.Is Fee.errCurrencyMismatch then
      .ok ⟨none, some (excepted reasonFeeCurrencyMismatch)⟩
    else .error (.wrap "calculate expected fee: %w" [] calcErr)
  | .ok expectedFee =>
    match Fee.verifyFee actualFee expectedFee tolerance with
    | .error verifyErr =>
      if verifyErr.Is Fee.errCurrencyMismatch then
        .ok ⟨none, some (excepted reasonFeeCurrencyMismatch)⟩
      else .error (.wrap "verify fee variance: %w" [] verifyErr)
    | .ok varianceResult =>
      if varianceResult.type ≠ .match_ then do
        let fv ← wrapError "create fee variance: %w"
          (newFeeVariance newVarianceID createdRun.contextID createdRun.id
            group.id item.transactionID schedule.id schedule.name
            schedule.currency expectedFee.amount actualFee.amount
            tolerance.abs tolerance.percent varianceResult.type.text)
        return ⟨some fv, some (excepted reasonFeeVariance)⟩
      else .ok ⟨none, none⟩

def processFeeForItem (newVarianceID : UUID) (item : MatchItem) (group : MatchGroup)
    (createdRun : MatchRun) (feeInput : FeeVerificationInput) (schedule : FeeSchedule)
    (tolerance : Tolerance) : Except GoError FeeItemResult :=
  match feeInput.txByID item.transactionID with
  | none => .ok ⟨none, none⟩
  | some txn =>
    match extractActualFee txn schedule.currency with
    | .error reason =>
      .ok ⟨none, some (buildExceptionInputFromTx txn feeInput.sourceTypeByID reason)⟩
    | .ok actualFee =>
      compareFees newVarianceID item group createdRun feeInput schedule tolerance txn actualFee

/-- The items of a group.  `newVarianceID` stands for the identifiers that
`uuid.New` hands out. -/
def collectItemFindings (newVarianceID : ℕ → UUID) (group : MatchGroup) (createdRun : MatchRun)
    (feeInput : FeeVerificationInput) (tolerance : Tolerance) (findings : FeeFindings)
    (item : MatchItem) : Except GoError FeeFindings :=
  match resolveScheduleForTransaction item.transactionID feeInput with
  | none => .ok { findings with skippedNoSchedule := findings.skippedNoSchedule + 1 }
  | some schedule => do
      let result ← processFeeForItem (newVarianceID findings.variances.length)
        item group createdRun feeInput schedule tolerance
      return { findings with
        variances := findings.variances ++ result.variance.toList
        exceptionInputs :=
          findings.exceptionInputs ++ result.exceptionInput.toList }

def collectFeeFindings (newVarianceID : ℕ → UUID) (groups : List MatchGroup) (createdRun : MatchRun)
    (feeInput : FeeVerificationInput) (tolerance : Tolerance) : Except GoError FeeFindings :=
  groups.foldlM (fun findings group =>
    if group.status ≠ .confirmed then .ok findings
    else
      group.items.foldlM (collectItemFindings newVarianceID group createdRun
        feeInput tolerance) findings) ⟨[], [], 0⟩

end Matcher.Command
