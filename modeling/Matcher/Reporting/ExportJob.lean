import Matcher.Command.Store

/-!
# Export jobs

A job checks each of its transitions against its own status.  The repository
writes a job back by its id alone, whatever status the stored row has; only the
claim of a queued job is conditional on the row.
-/

namespace Matcher.Reporting

open Foundation
open Command (Fault)
open Matching (Instant)

inductive ExportJobStatus
  | queued
  | running
  | succeeded
  | failed
  | expired
  | canceled
deriving DecidableEq, Repr

namespace ExportJobStatus

def text : ExportJobStatus → String
  | .queued => "QUEUED"
  | .running => "RUNNING"
  | .succeeded => "SUCCEEDED"
  | .failed => "FAILED"
  | .expired => "EXPIRED"
  | .canceled => "CANCELED"

def validExportJobTransitions : ExportJobStatus → List ExportJobStatus
  | .queued => [.running, .failed, .canceled, .expired]
  | .running => [.succeeded, .failed, .queued, .canceled, .expired]
  | .failed => [.queued, .expired]
  | .succeeded => [.expired]
  | .expired => []
  | .canceled => []

/-- Statuses that no transition leaves. -/
def Absorbing (status : ExportJobStatus) : Prop :=
  validExportJobTransitions status = []

end ExportJobStatus

structure ExportJob where
  status : ExportJobStatus
  recordsWritten : ℤ
  bytesWritten : ℤ
  fileKey : String
  fileName : String
  sha256 : String
  error : String
  attempts : ℤ
  nextRetryAt : Option Instant
  startedAt : Option Instant
  finishedAt : Option Instant
  expiresAt : Instant
  updatedAt : Instant
deriving DecidableEq, Repr

structure ExportFile where
  fileKey : String
  fileName : String
  sha256 : String
  recordsWritten : ℤ
  bytesWritten : ℤ
deriving DecidableEq, Repr

def errInvalidExportJobTransition : GoError :=
  .sentinel ⟨"ErrInvalidExportJobTransition", "invalid export job status transition"⟩

def errJobInTerminalState : GoError :=
  .sentinel ⟨"ErrJobInTerminalState", "cannot cancel job in terminal state"⟩

/-! ## Transitions -/

namespace ExportJob

variable (job : ExportJob) {change : ExportJob → ExportJob} {next : ExportJobStatus}
  {changed : ExportJob}

def validateTransition (next : ExportJobStatus) : Except GoError Unit :=
  if next ∈ job.status.validExportJobTransitions then .ok ()
  else
    .error (.wrap "%w: %s -> %s" [job.status.text, next.text] errInvalidExportJobTransition)

/-- A transition is validated before the job is changed. -/
def transition (next : ExportJobStatus) (change : ExportJob → ExportJob) :
    Except GoError ExportJob :=
  match job.validateTransition next with
  | .error cause => .error cause
  | .ok () => .ok { change job with status := next }

def markSucceeded (file : ExportFile) (now : Instant) : Except GoError ExportJob :=
  job.transition .succeeded fun job =>
    { job with
      fileKey := file.fileKey
      fileName := file.fileName
      sha256 := file.sha256
      recordsWritten := file.recordsWritten
      bytesWritten := file.bytesWritten
      finishedAt := some now
      updatedAt := now }

def markFailed (message : String) (now : Instant) : Except GoError ExportJob :=
  job.transition .failed fun job =>
    { job with error := message, finishedAt := some now, updatedAt := now }

def markForRetry (message : String) (nextRetryAt now : Instant) : Except GoError ExportJob :=
  job.transition .queued fun job =>
    { job with
      error := message
      startedAt := none
      nextRetryAt := some nextRetryAt
      updatedAt := now }

def markExpired (now : Instant) : Except GoError ExportJob :=
  job.transition .expired fun job => { job with updatedAt := now }

def markCanceled (now : Instant) : Except GoError ExportJob :=
  job.transition .canceled fun job =>
    { job with finishedAt := some now, updatedAt := now }

def isTerminal : Bool :=
  match job.status with
  | .succeeded | .failed | .expired | .canceled => true
  | .queued | .running => false

theorem transition_eq_ok {job : ExportJob} (h : job.transition next change = .ok changed) :
    next ∈ job.status.validExportJobTransitions ∧ changed.status = next := by
  unfold transition validateTransition at h
  split at h
  next => cases h
  next hvalid =>
    cases h
    split at hvalid
    next hmem => exact ⟨hmem, rfl⟩
    next => cases hvalid

theorem not_absorbing_of_transition {job : ExportJob}
    (h : job.transition next change = .ok changed) : ¬ job.status.Absorbing := by
  intro habsorbing
  have hmem := (transition_eq_ok h).1
  rw [habsorbing] at hmem
  exact List.not_mem_nil hmem

/-! ## The repository -/

/-- The whole row is written by its id. -/
def executeUpdate (stored job : ExportJob) : ExportJob :=
  { job with expiresAt := stored.expiresAt }

def requeueForRetry (stored job : ExportJob) : ExportJob :=
  { stored with
    status := job.status
    error := job.error
    nextRetryAt := job.nextRetryAt
    updatedAt := job.updatedAt }

def executeUpdateProgress (stored : ExportJob) (recordsWritten bytesWritten : ℤ) (now : Instant) :
    ExportJob :=
  { stored with recordsWritten := recordsWritten, bytesWritten := bytesWritten, updatedAt := now }

def claimNextQueued (stored : ExportJob) (now : Instant) : Option ExportJob :=
  if stored.status = .queued ∧ stored.nextRetryAt.all (· ≤ now) then
    some { stored with
      status := .running
      startedAt := some now
      attempts := stored.attempts + 1
      updatedAt := now }
  else none

/-- The cleanup worker only lists jobs that have succeeded. -/
def listExpired (stored : ExportJob) (now : Instant) : Option ExportJob :=
  if stored.status = .succeeded ∧ stored.expiresAt < now then some stored
  else none

end ExportJob

end Matcher.Reporting
