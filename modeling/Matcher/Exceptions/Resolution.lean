import Matcher.Exceptions.Exception
import Matcher.Foundation.Actors
import Matcher.Foundation.Padding
import Matcher.Foundation.Stateful

/-!
# Forced matches and adjusted entries

Both commands are the same sequence of two transactions around a call of an
external gateway: the exception is first stored as pending, the gateway is called,
and then the resolved exception and the audit event are stored together.  Only a
failed call of the gateway is compensated.
-/

namespace Matcher.Exceptions

open Foundation
open Command (Fault attempt)
open Fee (validCurrencies)
open Matching (Instant)

/-! ## Codes -/

def parseCode {α : Type} (codes : List α) (text : α → String) (invalid : GoError) (value : String) :
    Except GoError α :=
  let trimmed := trimSpace value
  if trimmed = "" then .error invalid
  else
    match codes.find? fun code => text code = toUpper trimmed with
    | some code => .ok code
    | none => .error invalid

inductive OverrideReason
  | policyException
  | opsApproval
  | customerDispute
  | dataCorrection
deriving DecidableEq, Repr

def OverrideReason.text : OverrideReason → String
  | .policyException => "POLICY_EXCEPTION"
  | .opsApproval => "OPS_APPROVAL"
  | .customerDispute => "CUSTOMER_DISPUTE"
  | .dataCorrection => "DATA_CORRECTION"

def errInvalidOverrideReason : GoError :=
  .sentinel ⟨"ErrInvalidOverrideReason", "invalid override reason"⟩

def parseOverrideReason : String → Except GoError OverrideReason :=
  parseCode [.policyException, .opsApproval, .customerDispute, .dataCorrection]
    OverrideReason.text errInvalidOverrideReason

inductive AdjustmentReasonCode
  | amountCorrection
  | currencyCorrection
  | dateCorrection
  | other
deriving DecidableEq, Repr

def AdjustmentReasonCode.text : AdjustmentReasonCode → String
  | .amountCorrection => "AMOUNT_CORRECTION"
  | .currencyCorrection => "CURRENCY_CORRECTION"
  | .dateCorrection => "DATE_CORRECTION"
  | .other => "OTHER"

def errInvalidAdjustmentReason : GoError :=
  .sentinel ⟨"ErrInvalidAdjustmentReason", "invalid adjustment reason"⟩

def parseAdjustmentReason : String → Except GoError AdjustmentReasonCode :=
  parseCode [.amountCorrection, .currencyCorrection, .dateCorrection, .other]
    AdjustmentReasonCode.text errInvalidAdjustmentReason

def errInvalidCurrencyCode : GoError :=
  .sentinel ⟨"ErrInvalidCurrencyCode", "invalid currency code"⟩

/-- The codes are those that fees accept. -/
def parseCurrencyCode : String → Except GoError String :=
  parseCode validCurrencies id errInvalidCurrencyCode

def ExceptionStatus.text : ExceptionStatus → String
  | .open => "OPEN"
  | .assigned => "ASSIGNED"
  | .pendingResolution => "PENDING_RESOLUTION"
  | .resolved => "RESOLVED"

/-! ## Validation -/

def errNilResolutionExecutor : GoError :=
  .sentinel ⟨"ErrNilResolutionExecutor", "resolution executor is required"⟩

def errExceptionIDRequired : GoError :=
  .sentinel ⟨"ErrExceptionIDRequired", "exception id is required"⟩

def errActorRequired : GoError :=
  .sentinel ⟨"ErrActorRequired", "actor is required"⟩

def errZeroAdjustmentAmount : GoError :=
  .sentinel ⟨"ErrZeroAdjustmentAmount", "adjustment amount cannot be zero"⟩

def errNegativeAdjustmentAmount : GoError :=
  .sentinel ⟨"ErrNegativeAdjustmentAmount", "adjustment amount cannot be negative"⟩

/-- Whether the optional executor was wired, and the actor of the request. -/
structure ExceptionUseCase where
  resolutionExecutor : Bool
  actor : String

structure ResolutionParams where
  actor : String
  notes : String
  visible : trimSpace notes ≠ ""

variable (useCase : ExceptionUseCase)

def validateResolution (exceptionID : UUID) (notes : String) : Except GoError ResolutionParams :=
  if useCase.resolutionExecutor = false then .error errNilResolutionExecutor
  else if exceptionID = UUID.zero then .error errExceptionIDRequired
  else if trimSpace useCase.actor = "" then .error errActorRequired
  else if hnotes : trimSpace notes = "" then .error errResolutionNotesRequired
  else
    .ok ⟨trimSpace useCase.actor, trimSpace notes, trimSpace_trimSpace_ne_empty hnotes⟩

structure ForceMatchCommand where
  exceptionID : UUID
  overrideReason : String
  notes : String

structure ForceMatchParams extends ResolutionParams where
  overrideReason : OverrideReason

def validateForceMatch (cmd : ForceMatchCommand) : Except GoError ForceMatchParams := do
  let params ← validateResolution useCase cmd.exceptionID cmd.notes
  let overrideReason ← wrapError "parse override reason: %w"
    (parseOverrideReason cmd.overrideReason)
  return ⟨params, overrideReason⟩

structure AdjustEntryCommand where
  exceptionID : UUID
  reasonCode : String
  notes : String
  amount : Decimal
  currency : String

structure AdjustEntryParams extends ResolutionParams where
  currency : String
  reason : AdjustmentReasonCode

def validateAdjustEntry (cmd : AdjustEntryCommand) : Except GoError AdjustEntryParams := do
  let params ← validateResolution useCase cmd.exceptionID cmd.notes
  if cmd.amount = 0 then .error errZeroAdjustmentAmount
  else if cmd.amount < 0 then .error errNegativeAdjustmentAmount
  else
    let currency ← wrapError "parse currency: %w" (parseCurrencyCode cmd.currency)
    let reason ← wrapError "parse adjustment reason: %w" (parseAdjustmentReason cmd.reasonCode)
    return ⟨params, currency, reason⟩

/-! ## Stored rows and faults -/

structure AuditEvent where
  exceptionID : UUID
  action : String
  actor : String
  notes : String
  reasonCode : Option String
  occurredAt : Instant
  metadata : List (String × String)
deriving DecidableEq, Repr

structure ResolutionStore where
  row : Option Exception
  audits : List AuditEvent

structure ResolutionFaults where
  findByID : Fault
  persist : CommitOutcome GoError
  gateway : Fault
  revert : CommitOutcome GoError
  beginTx : Fault
  nilLease : Bool
  update : Fault
  audit : Fault
  emit : Fault
  commit : CommitOutcome GoError

abbrev Saga := Stateful ResolutionStore GoError

def commit (outcome : CommitOutcome GoError) (after : ResolutionStore) : Saga Unit :=
  fun before =>
    match outcome with
    | .committed => (.ok (), after)
    | .refused cause => (.error cause, before)
    | .unacknowledged cause => (.error cause, after)

def findByID (exceptionID : UUID) (fault : Fault) : Saga Exception := do
  let store ← Stateful.get
  Stateful.ofExcept <|
    match fault with
    | some cause => .error (.wrap "failed to find exception: %w" [] cause)
    | none =>
      match store.row with
      | some exception =>
        if exception.id = exceptionID then .ok exception
        else .error errExceptionNotFound
      | none => .error errExceptionNotFound

def update (exception : Exception) (now : Instant) (outcome : CommitOutcome GoError) :
    Saga Exception :=
  Stateful.mapError (.wrap "failed to update exception: %w" []) do
    let store ← Stateful.get
    let updated ← Stateful.ofExcept (executeUpdate store.row exception now none)
    commit outcome { store with row := some updated }
    return updated

/-! ## The commands -/

/-- Best effort: an error is logged and forgotten. -/
def revertExceptionStatus (exception : Exception) (previousStatus : ExceptionStatus)
    (outcome : CommitOutcome GoError) (clock : ℕ → Instant) : Saga Unit := fun store =>
  match exception.abortResolution previousStatus (clock 2) with
  | .error _ => (.ok (), store)
  | .ok aborted => (.ok (), (update aborted (clock 3) outcome store).2)

def executeWithRevert (exception : Exception) (previousStatus : ExceptionStatus) (gateway : Fault)
    (outcome : CommitOutcome GoError) (clock : ℕ → Instant) : Saga Unit :=
  match gateway with
  | none => pure ()
  | some cause => do
      revertExceptionStatus exception previousStatus outcome clock
      Stateful.ofExcept (.error cause)

structure ResolutionOperation extends ResolutionParams where
  executorError : String
  leaseOperation : String
  emitError : String
  definitionKey : String
  resolutionType : String
  resolutionReason : String
  metadata : ExceptionStatus → Exception → List (String × String)

variable (operation : ResolutionOperation)

def ResolutionOperation.auditEvent (previousStatus : ExceptionStatus) (updated : Exception)
    (occurredAt : Instant) :
    AuditEvent where
  exceptionID := updated.id
  action := operation.resolutionType
  actor := operation.actor
  notes := operation.notes
  reasonCode := some operation.resolutionReason
  occurredAt := occurredAt
  metadata := operation.metadata previousStatus updated

def errCriticalOutboxTxRequired : GoError :=
  .sentinel ⟨"ErrCriticalOutboxTxRequired",
    "critical streaming emission requires an outbox transaction"⟩

/-- The second transaction: the resolved row, the audit event and the stream
event. -/
def persistResolved (previousStatus : ExceptionStatus) (resolved : Exception)
    (faults : ResolutionFaults) (clock : ℕ → Instant) : Saga Exception := do
  Stateful.ofExcept (wrapError "begin transaction: %w" (attempt faults.beginTx (.ok ())))
  Stateful.ofExcept
    (if faults.nilLease then
      .error (.wrap "%s: %w" [operation.leaseOperation] errCriticalOutboxTxRequired)
    else .ok ())
  let store ← Stateful.get
  let updated ← Stateful.ofExcept
    (wrapError "update exception: %w"
      (wrapError "failed to update exception: %w"
        (executeUpdate store.row resolved (clock 5) faults.update)))
  Stateful.ofExcept (wrapError "publish audit: %w" (attempt faults.audit (.ok ())))
  Stateful.ofExcept
    (wrapError operation.emitError
      ((attempt faults.emit (.ok ())).mapError
        (.wrap "emit exception streaming event %s: %w" [operation.definitionKey])))
  Stateful.mapError (.wrap "commit transaction: %w" [])
    (commit faults.commit
      ⟨some updated, store.audits ++ [operation.auditEvent previousStatus updated (clock 6)]⟩)
  return updated

/-- The call of the gateway and what comes after it, for an exception that is
stored as pending. -/
def resolvePending (previousStatus : ExceptionStatus) (exception : Exception)
    (faults : ResolutionFaults) (clock : ℕ → Instant) : Saga Exception := do
  Stateful.mapError (.wrap operation.executorError [])
    (executeWithRevert exception previousStatus faults.gateway faults.revert clock)
  let resolved ← Stateful.ofExcept (wrapError "resolve exception: %w"
    (exception.resolve operation.notes
      ⟨operation.resolutionType, operation.resolutionReason⟩ (clock 4)))
  persistResolved operation previousStatus resolved faults clock

/-- The sequence of both commands; the clock is read at each of its steps. -/
def processResolution (exceptionID : UUID) (faults : ResolutionFaults) (clock : ℕ → Instant) :
    Saga Exception := do
  let loaded ← Stateful.mapError (.wrap "find exception: %w" [])
    (findByID exceptionID faults.findByID)
  Stateful.ofExcept (wrapError "validate transition: %w"
    (validateResolutionTransition loaded.status .resolved))
  let started ← Stateful.ofExcept (wrapError "start resolution: %w"
    (loaded.startResolution (clock 0)))
  let exception ← Stateful.mapError (.wrap "persist pending resolution: %w" [])
    (update started (clock 1) faults.persist)
  resolvePending operation loaded.status exception faults clock

def forceMatchOperation (params : ForceMatchParams) : ResolutionOperation where
  toResolutionParams := params.toResolutionParams
  executorError := "force match executor: %w"
  leaseOperation := "begin force match transaction"
  emitError := "emit force match resolved: %w"
  definitionKey := "exception.force_match_resolved"
  resolutionType := "FORCE_MATCH"
  resolutionReason := params.overrideReason.text
  metadata := fun previousStatus updated =>
    [("previous_status", previousStatus.text), ("resolution_type", "FORCE_MATCH"),
      ("override_reason", params.overrideReason.text),
      ("transaction_id", updated.transactionID.toText)]

def adjustEntryOperation (params : AdjustEntryParams) : ResolutionOperation where
  toResolutionParams := params.toResolutionParams
  executorError := "adjust entry executor: %w"
  leaseOperation := "begin adjust entry transaction"
  emitError := "emit adjust entry resolved: %w"
  definitionKey := "exception.adjust_entry_resolved"
  resolutionType := "ADJUST_ENTRY"
  resolutionReason := params.reason.text
  metadata := fun _ _ => [("currency", params.currency)]

def forceMatch (cmd : ForceMatchCommand) (faults : ResolutionFaults) (clock : ℕ → Instant) :
    Saga Exception := do
  let params ← Stateful.ofExcept (validateForceMatch useCase cmd)
  processResolution (forceMatchOperation params) cmd.exceptionID faults clock

def adjustEntry (cmd : AdjustEntryCommand) (faults : ResolutionFaults) (clock : ℕ → Instant) :
    Saga Exception := do
  let params ← Stateful.ofExcept (validateAdjustEntry useCase cmd)
  processResolution (adjustEntryOperation params) cmd.exceptionID faults clock

end Matcher.Exceptions
