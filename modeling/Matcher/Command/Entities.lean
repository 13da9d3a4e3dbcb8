import Matcher.Fee.Rule
import Matcher.Matching.Types

/-!
# Entities of the matching commands

Stored transactions, and the match items, groups and runs the commands create.
An item carries the bounds its constructor checks, and a confidence score its
range.  Timestamps that no command reads are left out.
-/

namespace Matcher.Command

open Foundation
open Matching (Instant)

/-! ## Transactions -/

inductive ExtractionStatus
  | pending
  | complete
  | failed
deriving DecidableEq, Repr

inductive TransactionStatus
  | unmatched
  | matched
  | ignored
  | pendingReview
deriving DecidableEq, Repr

def TransactionStatus.text : TransactionStatus → String
  | .unmatched => "UNMATCHED"
  | .matched => "MATCHED"
  | .ignored => "IGNORED"
  | .pendingReview => "PENDING_REVIEW"

structure Transaction where
  id : UUID
  sourceID : UUID
  externalID : String
  amount : Decimal
  currency : String
  amountBase : Option Decimal
  baseCurrency : Option String
  extractionStatus : ExtractionStatus
  status : TransactionStatus
  date : Instant
  metadata : Option Fee.Metadata
deriving DecidableEq, Repr

def plainTransaction (id : UUID) (amount : Decimal) : Transaction where
  id := id
  sourceID := UUID.zero
  externalID := "REF"
  amount := amount
  currency := "USD"
  amountBase := none
  baseCurrency := none
  extractionStatus := .complete
  status := .unmatched
  date := 0
  metadata := none

/-! ## Scores and items -/

def errConfidenceScoreOutOfRange : GoError :=
  .sentinel ⟨"ErrConfidenceScoreOutOfRange", "confidence score out of range"⟩

structure ConfidenceScore where
  value : ℤ
  bounds : 0 ≤ value ∧ value ≤ 100
deriving DecidableEq, Repr

def parseConfidenceScore (value : ℤ) : Except GoError ConfidenceScore :=
  if h : 0 ≤ value ∧ value ≤ 100 then .ok ⟨value, h⟩
  else .error errConfidenceScoreOutOfRange

theorem parseConfidenceScore_value {value : ℤ} {confidence : ConfidenceScore}
    (h : parseConfidenceScore value = .ok confidence) : confidence.value = value := by
  unfold parseConfidenceScore at h
  split at h
  next =>
    cases h
    rfl
  next => cases h

theorem parseConfidenceScore_returns {value : ℤ} (hnonneg : 0 ≤ value) (hbound : value ≤ 100) :
    ∃ confidence, parseConfidenceScore value = .ok confidence :=
  ⟨⟨value, hnonneg, hbound⟩, dif_pos ⟨hnonneg, hbound⟩⟩

/-- A failed assertion, wrapped by the name of what was checked, without the details
that the assertion library adds. -/
def assertionError (format message : String) : GoError :=
  .wrap format [] (.sentinel ⟨"AssertionError", "assertion failed: " ++ message⟩)

structure MatchItem where
  matchGroupID : UUID
  transactionID : UUID
  allocatedAmount : Decimal
  allocatedCurrency : String
  expectedAmount : Decimal
  allowPartial : Bool
  bounds : 0 ≤ allocatedAmount ∧ allocatedAmount ≤ expectedAmount
deriving DecidableEq, Repr

def newMatchItem (transactionID : UUID) (allocatedAmount : Decimal) (currency : String)
    (expectedAmount : Decimal) (allowPartial : Bool) : Except GoError MatchItem :=
  if transactionID = UUID.zero then
    .error (assertionError "match item transaction id: %w" "transaction id is required")
  else if hnegative : allocatedAmount < 0 then
    .error (assertionError "match item allocated amount: %w"
      "allocated amount must be non-negative")
  else if expectedAmount < 0 then
    .error (assertionError "match item expected amount: %w" "expected amount must be non-negative")
  else if hbound : expectedAmount < allocatedAmount then
    .error (assertionError "match item allocation bounds: %w"
      "allocated amount cannot exceed expected amount")
  else if allowPartial = false ∧ allocatedAmount ≠ expectedAmount then
    .error (assertionError "match item full allocation: %w"
      "allocated amount must equal expected amount")
  else if currency = "" then
    .error (assertionError "match item currency: %w" "allocated currency is required")
  else
    .ok {
      matchGroupID := UUID.zero
      transactionID := transactionID
      allocatedAmount := allocatedAmount
      allocatedCurrency := currency
      expectedAmount := expectedAmount
      allowPartial := allowPartial
      bounds := ⟨not_lt.mp hnegative, not_lt.mp hbound⟩ }

theorem newMatchItem_eq_ok {transactionID : UUID} {allocated : Decimal} {currency : String}
    {expected : Decimal} {allowPartial : Bool} {item : MatchItem}
    (h : newMatchItem transactionID allocated currency expected allowPartial = .ok item) :
    item.transactionID = transactionID ∧ item.allocatedAmount = allocated ∧
      item.allocatedCurrency = currency ∧ item.expectedAmount = expected := by
  unfold newMatchItem at h
  split_ifs at h
  cases h
  exact ⟨rfl, rfl, rfl, rfl⟩

/-! ## Groups -/

inductive MatchGroupStatus
  | proposed
  | confirmed
  | rejected
  | revoked
deriving DecidableEq, Repr

structure MatchGroup where
  id : UUID
  contextID : UUID
  runID : UUID
  ruleID : UUID
  confidence : ConfidenceScore
  status : MatchGroupStatus
  items : List MatchItem
  rejectedReason : Option String
deriving DecidableEq, Repr

def minMatchConfidence : ℤ := 60

def autoConfirmConfidence : ℤ := 90

def minMatchItems : ℕ := 2

def maxMatchItems : ℕ := 500

def MatchItem.setGroup (groupID : UUID) (item : MatchItem) : MatchItem :=
  { item with matchGroupID := groupID }

/-- The new group takes the identifier `groupID` and passes it to its items. -/
def newMatchGroup (groupID contextID runID ruleID : UUID) (confidence : ConfidenceScore)
    (items : List MatchItem) : Except GoError MatchGroup :=
  if contextID = UUID.zero then
    .error (assertionError "match group context id: %w" "context id is required")
  else if runID = UUID.zero then
    .error (assertionError "match group run id: %w" "run id is required")
  else if confidence.value < minMatchConfidence then
    .error (assertionError "match group confidence threshold: %w"
      "confidence below minimum match threshold")
  else if items.length < minMatchItems then
    .error (assertionError "match group item count: %w"
      "match group must include at least two items")
  else if maxMatchItems < items.length then
    .error (assertionError "match group item count: %w" "match group must not exceed maximum items")
  else
    .ok {
      id := groupID
      contextID := contextID
      runID := runID
      ruleID := ruleID
      confidence := confidence
      status := .proposed
      items := items.map (MatchItem.setGroup groupID)
      rejectedReason := none }

def MatchGroup.canAutoConfirm (group : MatchGroup) : Bool :=
  autoConfirmConfidence ≤ group.confidence.value

def errMatchGroupMustBeProposedToConfirm : GoError :=
  .sentinel ⟨"ErrMatchGroupMustBeProposedToConfirm", "match group must be proposed to confirm"⟩

def errMatchGroupMustBeProposedToReject : GoError :=
  .sentinel ⟨"ErrMatchGroupMustBeProposedToReject", "match group must be proposed to reject"⟩

def errMatchGroupMustBeConfirmedToRevoke : GoError :=
  .sentinel ⟨"ErrMatchGroupMustBeConfirmedToRevoke", "match group must be confirmed to revoke"⟩

def errMatchGroupRevocationReasonRequired : GoError :=
  .sentinel ⟨"ErrMatchGroupRevocationReasonRequired", "revocation reason is required"⟩

def MatchGroup.confirm (group : MatchGroup) : Except GoError MatchGroup :=
  if group.status ≠ .proposed then .error errMatchGroupMustBeProposedToConfirm
  else .ok { group with status := .confirmed }

def MatchGroup.reject (group : MatchGroup) (reason : String) : Except GoError MatchGroup :=
  let reason := trimSpace reason
  if group.status ≠ .proposed then .error errMatchGroupMustBeProposedToReject
  else if reason = "" then
    .error (assertionError "match group rejection reason: %w" "rejection reason is required")
  else .ok { group with status := .rejected, rejectedReason := some reason }

def MatchGroup.revoke (group : MatchGroup) (reason : String) : Except GoError MatchGroup :=
  let reason := trimSpace reason
  if group.status ≠ .confirmed then .error errMatchGroupMustBeConfirmedToRevoke
  else if reason = "" then
    .error (.wrap "match group revocation reason: %w" []
      (.wrapTwo "%w\n%w" [] (.sentinel ⟨"AssertionError", "revocation reason is required"⟩)
        errMatchGroupRevocationReasonRequired))
  else .ok { group with status := .revoked, rejectedReason := some reason }

/-! ## Runs -/

inductive MatchRunMode
  | dryRun
  | commit
  | other (value : String)
deriving DecidableEq, Repr

def MatchRunMode.isValid : MatchRunMode → Bool
  | .dryRun | .commit => true
  | .other _ => false

inductive MatchRunStatus
  | processing
  | completed
  | failed
deriving DecidableEq, Repr

structure MatchRun where
  id : UUID
  contextID : UUID
  mode : MatchRunMode
  status : MatchRunStatus
  stats : List (String × ℤ)
  failureReason : Option String
deriving DecidableEq, Repr

def errMatchRunMustBeProcessingToComplete : GoError :=
  .sentinel ⟨"ErrMatchRunMustBeProcessingToComplete", "match run must be processing to complete"⟩

def errMatchRunMustBeProcessingToFail : GoError :=
  .sentinel ⟨"ErrMatchRunMustBeProcessingToFail", "match run must be processing to fail"⟩

def errFailureReasonRequired : GoError :=
  .sentinel ⟨"ErrFailureReasonRequired", "failure reason is required"⟩

def newMatchRun (runID contextID : UUID) (mode : MatchRunMode) : Except GoError MatchRun :=
  if contextID = UUID.zero then
    .error (assertionError "match run context id: %w" "context id is required")
  else if !mode.isValid then
    .error (assertionError "match run mode: %w" "invalid match run mode")
  else .ok ⟨runID, contextID, mode, .processing, [], none⟩

def MatchRun.complete (run : MatchRun) (stats : List (String × ℤ)) : Except GoError MatchRun :=
  if run.status ≠ .processing then
    .error errMatchRunMustBeProcessingToComplete
  else
    .ok { run with status := .completed, failureReason := none, stats := stats }

def MatchRun.fail (run : MatchRun) (reason : String) : Except GoError MatchRun :=
  if run.status ≠ .processing then .error errMatchRunMustBeProcessingToFail
  else if reason = "" then .error errFailureReasonRequired
  else .ok { run with status := .failed, failureReason := some reason }

end Matcher.Command
