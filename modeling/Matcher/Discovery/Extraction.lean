import Matcher.Command.Store
import Matcher.Foundation.Utf8
import Mathlib.Data.List.Infix

/-!
# Extraction requests and their bridge columns

An extraction that has completed is bridged: it is linked to the ingestion job
that took in its content, or it is marked as terminally failed.  The entity checks
its own fields; the updates of the repository are conditional on the stored link
alone.
-/

namespace Matcher.Discovery

open Foundation
open Command (Fault attempt errNoRows)
open Matching (Instant)

inductive ExtractionStatus
  | pending
  | submitted
  | extracting
  | complete
  | failed
  | cancelled
deriving DecidableEq, Repr

def ExtractionStatus.text : ExtractionStatus → String
  | .pending => "PENDING"
  | .submitted => "SUBMITTED"
  | .extracting => "EXTRACTING"
  | .complete => "COMPLETE"
  | .failed => "FAILED"
  | .cancelled => "CANCELLED"

inductive BridgeErrorClass
  | integrityFailed
  | artifactNotFound
  | sourceUnresolved
  | maxAttemptsExceeded
deriving DecidableEq, Repr

def BridgeErrorClass.text : BridgeErrorClass → String
  | .integrityFailed => "integrity_failed"
  | .artifactNotFound => "artifact_not_found"
  | .sourceUnresolved => "source_unresolved"
  | .maxAttemptsExceeded => "max_attempts_exceeded"

structure ExtractionRequest where
  ingestionJobID : Option UUID
  status : ExtractionStatus
  bridgeAttempts : ℤ
  bridgeLastError : Option BridgeErrorClass
  bridgeLastErrorMessage : Bytes
  bridgeFailedAt : Option Instant
  updatedAt : Instant
deriving DecidableEq, Repr

def errInvalidTransition : GoError :=
  .sentinel ⟨"ErrInvalidTransition", "invalid status transition"⟩

def errBridgeFailureClassRequired : GoError :=
  .sentinel ⟨"ErrBridgeFailureClassRequired", "bridge failure class is required"⟩

def errBridgeFailureMessageRequired : GoError :=
  .sentinel ⟨"ErrBridgeFailureMessageRequired", "bridge failure message is required"⟩

def errExtractionAlreadyLinked : GoError :=
  .sentinel ⟨"ErrExtractionAlreadyLinked", "extraction is already linked to an ingestion job"⟩

def errExtractionNotFound : GoError :=
  .sentinel ⟨"repositories.ErrExtractionNotFound", "extraction request not found"⟩

def errExtractionConflict : GoError :=
  .sentinel ⟨"ErrExtractionConflict", "extraction request changed concurrently"⟩

/-! ## Failure messages -/

def maxBridgeFailureMessageLength : ℕ := 1024

def bridgeMessageSeparator : Bytes := utf8 "\n→ "

def bridgeMessageTruncationSuffix : Bytes := utf8 "..."

def isBridgeControlByte (character : Char) : Bool :=
  character ≠ '\t' && (character.toNat < 0x20 || character.toNat = 0x7F)

def sanitizeBridgeMessage (message : String) : String :=
  String.ofList (message.toList.filter fun character =>
    !isBridgeControlByte character)

/-- The newest entry is cut off first. -/
def appendBridgeFailureMessage (existing addition : Bytes) : Bytes :=
  let candidate := existing ++ bridgeMessageSeparator ++ addition
  if candidate.length ≤ maxBridgeFailureMessageLength then candidate
  else
    let budget := maxBridgeFailureMessageLength - bridgeMessageTruncationSuffix.length
    if budget ≤ existing.length then existing
    else candidate.take budget ++ bridgeMessageTruncationSuffix

/-! ## Transitions -/

namespace ExtractionRequest

def recordBridgeAttempt (er : ExtractionRequest) (now : Instant) : ExtractionRequest :=
  { er with bridgeAttempts := er.bridgeAttempts + 1, updatedAt := now }

def linkToIngestion (er : ExtractionRequest) (ingestionJobID : UUID) (now : Instant) :
    Except GoError ExtractionRequest :=
  if ingestionJobID = UUID.zero then
    .error (.wrap "%w: ingestion job id required" [] errInvalidTransition)
  else if er.status ≠ .complete then
    .error (.wrap "%w: cannot link ingestion job to extraction in state %s"
      [er.status.text] errInvalidTransition)
  else
    match er.ingestionJobID with
    | some linked =>
      if linked ≠ ingestionJobID then
        .error (.wrap "%w: extraction is already linked to ingestion job %s"
          [linked.toText] errExtractionAlreadyLinked)
      else
        .ok { er with ingestionJobID := some ingestionJobID, updatedAt := now }
    | none =>
      .ok { er with ingestionJobID := some ingestionJobID, updatedAt := now }

/-- The first failure is kept; a later one of the same class adds its message. -/
def markBridgeFailed (er : ExtractionRequest) (errorClass : BridgeErrorClass)
    (message : String) (now : Instant) : Except GoError ExtractionRequest :=
  let sanitized := sanitizeBridgeMessage (trimSpace message)
  if sanitized = "" then .error errBridgeFailureMessageRequired
  else
    let trimmed := (utf8 sanitized).take maxBridgeFailureMessageLength
    if er.status ≠ .complete then
      .error (.wrap "%w: cannot mark bridge failure on extraction in state %s"
        [er.status.text] errInvalidTransition)
    else
      match er.bridgeLastError with
      | some failed =>
        if failed = errorClass then
          .ok { er with
            bridgeLastErrorMessage :=
              if trimmed <:+: er.bridgeLastErrorMessage then
                er.bridgeLastErrorMessage
              else
                appendBridgeFailureMessage er.bridgeLastErrorMessage trimmed
            updatedAt := now }
        else
          .error (.wrap "%w: extraction already terminally failed with class %q"
            [failed.text] errBridgeFailureClassRequired)
      | none =>
        .ok { er with
          bridgeLastError := some errorClass
          bridgeLastErrorMessage := trimmed
          bridgeFailedAt := some now
          updatedAt := now }

/-- The row is linked or terminally failed, but not both. -/
def Exclusive (er : ExtractionRequest) : Prop :=
  er.ingestionJobID = none ∨ er.bridgeLastError = none

instance (er : ExtractionRequest) : Decidable er.Exclusive :=
  inferInstanceAs (Decidable (_ ∨ _))

end ExtractionRequest

/-! ## Conditional updates -/

variable (row : Option ExtractionRequest)

/-- `UPDATE … WHERE id = … AND ingestion_job_id IS NULL`: the row after it, or the
error of a statement that has affected no row. -/
def updateUnlinked (change : ExtractionRequest → ExtractionRequest) (fault : Fault)
    (format : String) (missed : GoError) : Except GoError ExtractionRequest :=
  match fault with
  | some cause => .error (.wrap format [] cause)
  | none =>
    match row with
    | none => .error missed
    | some stored =>
      if stored.ingestionJobID = none then .ok (change stored)
      else .error missed

def linkIfUnlinkedTx (ingestionJobID : UUID) (now : Instant) (fault : Fault) :
    Except GoError ExtractionRequest :=
  updateUnlinked row
    (fun stored =>
      { stored with ingestionJobID := some ingestionJobID, updatedAt := now })
    fault "atomic link extraction: %w"
    (match row with
    | none => errExtractionNotFound
    | some stored =>
      if stored.ingestionJobID.isSome then errExtractionAlreadyLinked
      else errExtractionConflict)

def executeIncrementBridgeAttempts (attempts : ℤ) (now : Instant) (fault : Fault) :
    Except GoError ExtractionRequest :=
  updateUnlinked row
    (fun stored => { stored with bridgeAttempts := attempts, updatedAt := now })
    fault "increment bridge attempts exec: %w" errExtractionAlreadyLinked

def executeMarkBridgeFailed (req : ExtractionRequest) (now : Instant) (fault : Fault) :
    Except GoError ExtractionRequest :=
  updateUnlinked row
    (fun stored =>
      { stored with
        bridgeAttempts := req.bridgeAttempts
        bridgeLastError := req.bridgeLastError
        bridgeLastErrorMessage := req.bridgeLastErrorMessage
        bridgeFailedAt := req.bridgeFailedAt
        updatedAt := now })
    fault "mark bridge failed exec: %w"
    (if row.isNone then errExtractionNotFound else errExtractionAlreadyLinked)

theorem updateUnlinked_eq_ok {row : Option ExtractionRequest}
    {change : ExtractionRequest → ExtractionRequest} {fault : Fault}
    {format : String} {missed : GoError} {updated : ExtractionRequest} :
    updateUnlinked row change fault format missed = .ok updated ↔
      fault = none ∧ ∃ stored ∈ row, stored.ingestionJobID = none ∧
        change stored = updated := by
  cases fault with
  | some => simp [updateUnlinked]
  | none =>
    cases row with
    | none => simp [updateUnlinked]
    | some stored =>
      by_cases hlink : stored.ingestionJobID = none <;> simp [updateUnlinked, hlink]

end Matcher.Discovery
