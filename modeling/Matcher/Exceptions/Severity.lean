import Matcher.Foundation.Utf8
import Matcher.Matching.Types
import Mathlib.Order.Basic

/-!
# Severities

An unmatched transaction is classified by its amount, its age and its source; the
first rule that matches gives the severity.  When the exception of a transaction
is there already, the upsert keeps the greater of the two severities.
-/

namespace Matcher.Exceptions

open Foundation
open Matching (Instant)

inductive ExceptionSeverity
  | low
  | medium
  | high
  | critical
deriving DecidableEq, Repr

namespace ExceptionSeverity

def rank : ExceptionSeverity → ℕ
  | .low => 0
  | .medium => 1
  | .high => 2
  | .critical => 3

theorem rank_injective : Function.Injective rank := by
  intro first second h
  cases first <;> cases second <;> first | rfl | cases h

instance : LinearOrder ExceptionSeverity := LinearOrder.lift' rank rank_injective

end ExceptionSeverity

/-! ## Classification -/

structure SeverityClassificationInput where
  amountAbsBase : Decimal
  ageHours : ℤ
  sourceType : String
  fxMissing : Bool

structure SeverityRule where
  severity : ExceptionSeverity
  minAmountAbsBase : Option Decimal
  minAgeHours : Option ℤ
  regulatorySourceTypes : List String

structure SeverityClassificationResult where
  severity : ExceptionSeverity
  reasons : List String

def reasonFXRateUnavailable : String := "FX_RATE_UNAVAILABLE"

def errEmptySeverityRules : GoError :=
  .sentinel ⟨"ErrEmptySeverityRules", "severity rules are required"⟩

def defaultSeverityRules (regulatorySourceTypes : List String) : List SeverityRule := [
  ⟨.critical, some 100000, some 120, regulatorySourceTypes⟩,
  ⟨.high, some 10000, some 72, []⟩,
  ⟨.medium, some 1000, some 24, []⟩,
  ⟨.low, none, none, []⟩]

def normalizeSeverityInput (input : SeverityClassificationInput) : SeverityClassificationInput :=
  { input with
    amountAbsBase := |input.amountAbsBase|
    ageHours := max input.ageHours 0
    sourceType := trimSpace input.sourceType }

def isSourceTypeAllowed (sourceType : String) (allowed : List String) : Bool :=
  sourceType ≠ "" ∧ allowed.any fun candidate => stringsEqualFold sourceType (trimSpace candidate)

/-- A rule without conditions matches everything. -/
def matchesSeverityRule (input : SeverityClassificationInput) (rule : SeverityRule) : Bool :=
  if rule.minAmountAbsBase = none ∧ rule.minAgeHours = none ∧
      rule.regulatorySourceTypes = [] then true
  else
    rule.minAmountAbsBase.any (· ≤ input.amountAbsBase) ||
      rule.minAgeHours.any (· ≤ input.ageHours) ||
      isSourceTypeAllowed input.sourceType rule.regulatorySourceTypes

def classifyExceptionSeverity (input : SeverityClassificationInput) (rules : List SeverityRule) :
    Except GoError SeverityClassificationResult :=
  if rules = [] then .error errEmptySeverityRules
  else
    let normalized := normalizeSeverityInput input
    let reasons := if normalized.fxMissing then [reasonFXRateUnavailable] else []
    match rules.find? (matchesSeverityRule normalized) with
    | some rule => .ok ⟨rule.severity, reasons⟩
    | none => .ok ⟨.low, reasons⟩

/-! ## Inputs of the upsert -/

structure ExceptionTransactionInput where
  transactionID : UUID
  amountAbsBase : Decimal
  transactionDate : Option Instant
  sourceType : String
  fxMissing : Bool
  reason : String
deriving DecidableEq, Repr

def nanosecondsPerHour : ℤ := 3600000000000

/-- Whole hours, and none for a date that is missing or to come. -/
def ageHours (transactionDate : Option Instant) (now : Instant) : ℤ :=
  match transactionDate with
  | none => 0
  | some date => if 0 < now - date then (now - date) / nanosecondsPerHour else 0

def classifySeverity (input : ExceptionTransactionInput) (now : Instant)
    (rules : List SeverityRule) : ExceptionSeverity :=
  match classifyExceptionSeverity {
      amountAbsBase := input.amountAbsBase
      ageHours := ageHours input.transactionDate now
      sourceType := input.sourceType
      fxMissing := input.fxMissing } rules with
  | .error _ => .medium
  | .ok result => result.severity

def reasonUnmatched : String := "UNMATCHED"

def validReasons : List String := [reasonUnmatched, "FX_RATE_UNAVAILABLE", "MISSING_BASE_AMOUNT",
  "MISSING_BASE_CURRENCY", "SPLIT_INCOMPLETE", "VALIDATION_FAILED",
  "SOURCE_MISMATCH", "DUPLICATE_TRANSACTION", "FEE_VARIANCE",
  "FEE_DATA_MISSING", "FEE_CURRENCY_MISMATCH"]

def maxReasonLength : ℕ := 64

/-- The reason is cut to its first bytes before it is looked up. -/
def sanitizeReason (reason : String) : String :=
  if reason = "" then reasonUnmatched
  else
    match validReasons.find? fun valid =>
      utf8 valid = (utf8 reason).take maxReasonLength with
    | some valid => valid
    | none => reasonUnmatched

def sanitizeInputReason (reason : String) : String :=
  if trimSpace reason = "" then reasonUnmatched else sanitizeReason reason

/-! ## The upsert's own choice -/

def upsertSeverity (stored excluded : ExceptionSeverity) : ExceptionSeverity :=
  if excluded = .critical then excluded
  else if excluded = .high ∧ stored ∉ [.critical] then excluded
  else if excluded = .medium ∧ stored ∉ [.critical, .high] then excluded
  else stored

theorem upsertSeverity_eq_max (stored excluded : ExceptionSeverity) :
    upsertSeverity stored excluded = max stored excluded := by
  cases stored <;> cases excluded <;> decide

/-- `NULL` compares with nothing, so a missing reason is replaced. -/
def upsertReason (stored : Option String) (excluded : String) : String :=
  match stored with
  | some reason =>
    if excluded = reasonUnmatched ∧ reason ≠ reasonUnmatched then reason
    else excluded
  | none => excluded

end Matcher.Exceptions
