import Matcher.Command.Store
import Mathlib.Data.Finset.Basic

/-!
# Entities of the ingestion commands

An ingestion job with its transitions, and the transactions that a job stores.
The stored tables have the constraints of the schema: job ids are unique, and so
is a pair of source and external id among the transactions.  Timestamps that no
command reads are left out.
-/

namespace Matcher.Ingestion

open Foundation
open Command (Fault TransactionStatus attempt)
open Matching (Instant)

/-! ## Jobs -/

inductive JobStatus
  | queued
  | processing
  | completed
  | failed
deriving DecidableEq, Repr

structure RowError where
  row : ℕ
  field : String
  message : String
deriving DecidableEq, Repr

structure JobMetadata where
  fileName : String
  fileSize : ℤ
  totalRows : ℤ
  failedRows : ℤ
  error : String
  errorDetails : List RowError
deriving DecidableEq, Repr

structure IngestionJob where
  id : UUID
  contextID : UUID
  sourceID : UUID
  status : JobStatus
  metadata : JobMetadata
deriving DecidableEq, Repr

variable {job : IngestionJob}

def errContextIDRequired : GoError :=
  .sentinel ⟨"ErrContextIDRequired", "context_id is required"⟩

def errSourceIDRequired : GoError :=
  .sentinel ⟨"ErrSourceIDRequired", "source_id is required"⟩

def errFileNameRequired : GoError :=
  .sentinel ⟨"ErrFileNameRequired", "file name is required"⟩

def errFileSizeInvalid : GoError :=
  .sentinel ⟨"ErrFileSizeInvalid", "file size must be non-negative"⟩

def errTotalRowsInvalid : GoError :=
  .sentinel ⟨"ErrTotalRowsInvalid", "total rows must be non-negative"⟩

def errFailedRowsInvalid : GoError :=
  .sentinel ⟨"ErrFailedRowsInvalid", "failed rows must be non-negative"⟩

def errFailedRowsExceedTotal : GoError :=
  .sentinel ⟨"ErrFailedRowsExceedTotal", "failed rows cannot exceed total rows"⟩

def errErrorMessageRequired : GoError :=
  .sentinel ⟨"ErrErrorMessageRequired", "error message is required"⟩

def errJobMustBeQueued : GoError :=
  .sentinel ⟨"ErrJobMustBeQueued", "job must be queued to start"⟩

def errJobMustBeProcessing : GoError :=
  .sentinel ⟨"ErrJobMustBeProcessing", "job must be processing to complete"⟩

def errJobMustBeProcessingToFail : GoError :=
  .sentinel ⟨"ErrJobMustBeProcessingToFail", "job must be in processing state to fail"⟩

def newIngestionJob (id contextID sourceID : UUID) (fileName : String) (fileSize : ℤ) :
    Except GoError IngestionJob :=
  if contextID = UUID.zero then .error errContextIDRequired
  else if sourceID = UUID.zero then .error errSourceIDRequired
  else if trimSpace fileName = "" then .error errFileNameRequired
  else if fileSize < 0 then .error errFileSizeInvalid
  else
    .ok {
      id := id
      contextID := contextID
      sourceID := sourceID
      status := .queued
      metadata := {
        fileName := trimSpace fileName
        fileSize := fileSize
        totalRows := 0
        failedRows := 0
        error := ""
        errorDetails := [] } }

namespace IngestionJob

def start (job : IngestionJob) : Except GoError IngestionJob :=
  if job.status ≠ .queued then .error errJobMustBeQueued
  else .ok { job with status := .processing }

def complete (job : IngestionJob) (total failed : ℤ) : Except GoError IngestionJob :=
  if job.status ≠ .processing then .error errJobMustBeProcessing
  else if total < 0 then .error errTotalRowsInvalid
  else if failed < 0 then .error errFailedRowsInvalid
  else if total < failed then .error errFailedRowsExceedTotal
  else
    .ok { job with
      status := .completed
      metadata := { job.metadata with totalRows := total, failedRows := failed } }

/-- A job that has failed before is left as it is. -/
def fail (job : IngestionJob) (errMsg : String) : Except GoError IngestionJob :=
  if job.status = .failed then .ok job
  else if job.status ≠ .processing then .error errJobMustBeProcessingToFail
  else if trimSpace errMsg = "" then .error errErrorMessageRequired
  else
    .ok { job with status := .failed, metadata := { job.metadata with error := trimSpace errMsg } }

theorem complete_eq_ok {job' : IngestionJob} {total failed : ℤ}
    (h : job.complete total failed = .ok job') : job'.id = job.id ∧ job'.status = .completed := by
  unfold complete at h
  split_ifs at h
  cases h
  exact ⟨rfl, rfl⟩

theorem fail_of_processing {errMsg : String}
    (hstatus : job.status = .processing) (hmessage : trimSpace errMsg ≠ "") :
    job.fail errMsg = .ok { job with
      status := .failed
      metadata := { job.metadata with error := trimSpace errMsg } } := by
  unfold fail
  rw [if_neg (by rw [hstatus]; decide), if_neg (not_not_intro hstatus), if_neg hmessage]

end IngestionJob

theorem trimSpace_text_wrap {format : String} {character : Char} {rest : List Char}
    (hformat : format.toList = character :: rest) (hverb : character ≠ '%')
    (hspace : isSpace character = false) (operands : List String) (cause : GoError) :
    trimSpace (GoError.wrap format operands cause).text ≠ "" := by
  rw [GoError.text_wrap_eq hformat hverb]
  exact trimSpace_ne_empty hspace _

theorem newIngestionJob_eq_ok {id contextID sourceID : UUID} {fileName : String} {fileSize : ℤ}
    (h : newIngestionJob id contextID sourceID fileName fileSize = .ok job) :
    job.id = id ∧ job.contextID = contextID ∧ job.sourceID = sourceID ∧ job.status = .queued := by
  unfold newIngestionJob at h
  split_ifs at h
  cases h
  exact ⟨rfl, rfl, rfl, rfl⟩

theorem IngestionJob.start_eq_ok {job' : IngestionJob} (h : job.start = .ok job') :
    job' = { job with status := .processing } := by
  unfold IngestionJob.start at h
  split_ifs at h
  exact (Except.ok.inj h).symm

/-! ## Transactions -/

structure IngestedTransaction extends Command.Transaction where
  ingestionJobID : UUID
deriving DecidableEq, Repr

structure ExternalIDKey where
  sourceID : UUID
  externalID : String
deriving DecidableEq, Repr

def IngestedTransaction.key (tx : IngestedTransaction) : ExternalIDKey :=
  ⟨tx.sourceID, tx.externalID⟩

/-! ## Stored rows -/

inductive IngestionEvent
  | completed (jobID : UUID) (transactionCount totalRows failedRows : ℤ)
  | failed (jobID : UUID) (error : String)
deriving DecidableEq, Repr

structure Store where
  transactions : Table IngestedTransaction.key
  jobs : Table IngestionJob.id
  dedupeKeys : Finset String
  outbox : List IngestionEvent

def updateJobRow (job row : IngestionJob) : IngestionJob :=
  if row.id = job.id then
    { row with status := job.status, metadata := job.metadata }
  else row

@[simp] theorem updateJobRow_id (job row : IngestionJob) : (updateJobRow job row).id = row.id := by
  unfold updateJobRow
  split <;> rfl

def Store.createJob (store : Store) (job : IngestionJob) : Except GoError Store :=
  match store.jobs.insertAll [job] with
  | none => .error Command.errDuplicateKey
  | some table => .ok { store with jobs := table }

def Store.updateJob (store : Store) (job : IngestionJob) : Except GoError Store :=
  match store.jobs.find? job.id with
  | none => .error Command.errNoRows
  | some _ =>
    .ok { store with jobs := store.jobs.modify (updateJobRow job) (updateJobRow_id job) }

def Store.enqueue (store : Store) (event : IngestionEvent) : Store :=
  { store with outbox := store.outbox ++ [event] }

theorem Store.createJob_eq_ok {store store' : Store} (h : store.createJob job = .ok store') :
    ∃ table, store.jobs.insertAll [job] = some table ∧ store' = { store with jobs := table } := by
  unfold Store.createJob at h
  split at h
  · cases h
  next table htable =>
  exact ⟨table, htable, (Except.ok.inj h).symm⟩

theorem Store.updateJob_eq_ok {store store' : Store} (h : store.updateJob job = .ok store') :
    store' = { store with jobs := store.jobs.modify (updateJobRow job) (updateJobRow_id job) } := by
  unfold Store.updateJob at h
  split at h
  · cases h
  · exact (Except.ok.inj h).symm

def Store.jobStatus (store : Store) (jobID : UUID) : Option JobStatus :=
  (store.jobs.find? jobID).map IngestionJob.status

end Matcher.Ingestion
