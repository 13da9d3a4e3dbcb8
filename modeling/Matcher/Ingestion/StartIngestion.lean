import Matcher.Ingestion.Streaming

/-!
# StartIngestion

One upload: the job is created in its processing state, the file is processed,
and the job is completed.  A failure of the processing is recorded on the job and
withdraws what was inserted; the dedupe keys are cleared in either case.  Each
call of a repository or of the dedupe service can be answered with an error, and
then it has no effect.
-/

namespace Matcher.Ingestion

open Foundation
open Command (Fault attempt attempt_eq_ok)

inductive IngestionCall
  | createJob
  | chunk (index : ℕ) (call : ChunkCall)
  | completeJob
  | clearDedupKeys
  | clearOnJobFailure
  | failJob
  | cleanupTransactions
  | cleanupOnFailure
deriving DecidableEq, Repr

structure IngestionEnvironment where
  contextID : UUID
  sourceID : UUID
  fileName : String
  fileSize : ℤ
  format : String
  jobID : UUID
  newID : ℕ → UUID
  /-- What the lookup of the source answers; nil is a source not found. -/
  source : Except GoError (Option UUID)
  fieldMap : Except GoError (Option FieldMap)
  parsers : String → Option Parser
  faults : IngestionCall → Fault

/-! ## Preparation -/

def errFormatRequiredUC : GoError :=
  .sentinel ⟨"ErrFormatRequiredUC", "format is required"⟩

def errSourceNotFound : GoError :=
  .sentinel ⟨"ErrSourceNotFound", "source not found"⟩

def errFieldMapNotFound : GoError :=
  .sentinel ⟨"ErrFieldMapNotFound", "field map not found"⟩

def errUnsupportedFormat : GoError :=
  .sentinel ⟨"errUnsupportedFormat", "unsupported format"⟩

/-- A lookup whose missing row is reported by an error of its own. -/
def requireFound {α : Type} (notFound : GoError) (format : String) :
    Except GoError (Option α) → Except GoError α
  | .error cause =>
    if cause.Is Command.errNoRows then .error notFound
    else .error (.wrap format [] cause)
  | .ok none => .error notFound
  | .ok (some value) => .ok value

variable (environment : IngestionEnvironment) {job : IngestionJob}

def loadFieldMap : Except GoError FieldMap := do
  let _ ← requireFound errSourceNotFound "failed to load source: %w" environment.source
  requireFound errFieldMapNotFound "failed to load field map: %w" environment.fieldMap

def startedJob : Except GoError IngestionJob := do
  let job ← wrapError "failed to create job: %w"
    (newIngestionJob environment.jobID environment.contextID
      environment.sourceID environment.fileName environment.fileSize)
  wrapError "failed to start job: %w" job.start

def createAndStartJob (store : Store) : Except GoError (IngestionJob × Store) := do
  let job ← startedJob environment
  let store ← wrapError "failed to create job: %w"
    (attempt (environment.faults .createJob) (store.createJob job))
  return (job, store)

def getParser (format : String) : Except GoError Parser :=
  match environment.parsers (toLower (trimSpace format)) with
  | none => .error (.wrap "%w: %s" [format] errUnsupportedFormat)
  | some parser => .ok parser

def IngestionEnvironment.parser : Except GoError Parser :=
  getParser environment (toLower (trimSpace environment.format))

def requireFormat (format : String) : Except GoError String :=
  if toLower (trimSpace format) = "" then .error errFormatRequiredUC
  else .ok (toLower (trimSpace format))

/-- What comes before the row of the job is written, and that row. -/
def openJob (store : Store) : Except GoError (FieldMap × IngestionJob × Store) := do
  let _ ← requireFormat environment.format
  let fieldMap ← loadFieldMap environment
  let (job, store) ← createAndStartJob environment store
  return (fieldMap, job, store)

structure Opened (environment : IngestionEnvironment) (before : Store)
    (job : IngestionJob) (after : Store) : Prop where
  id : job.id = environment.jobID
  contextID : job.contextID = environment.contextID
  sourceID : job.sourceID = environment.sourceID
  status : job.status = .processing
  started : startedJob environment = .ok job
  row : after.jobs.find? environment.jobID = some job
  transactions : after.transactions = before.transactions
  dedupeKeys : after.dedupeKeys = before.dedupeKeys

theorem openJob_opened {environment : IngestionEnvironment} {store opened : Store}
    {fieldMap : FieldMap} (h : openJob environment store = .ok (fieldMap, job, opened)) :
    Opened environment store job opened := by
  obtain ⟨_, -, h⟩ := bind_eq_ok.mp h
  obtain ⟨_, -, h⟩ := bind_eq_ok.mp h
  obtain ⟨⟨job', store'⟩, hcreated, h⟩ := bind_eq_ok.mp h
  cases h
  obtain ⟨started, hjob, h⟩ := bind_eq_ok.mp hcreated
  obtain ⟨after, hinsert, h⟩ := bind_eq_ok.mp h
  cases h
  obtain ⟨queued, hnew, hstart⟩ := bind_eq_ok.mp hjob
  obtain ⟨hid, hcontext, hsource, -⟩ := newIngestionJob_eq_ok (wrapError_eq_ok.mp hnew)
  have hstarted := IngestionJob.start_eq_ok (wrapError_eq_ok.mp hstart)
  obtain ⟨-, hinsert⟩ := attempt_eq_ok.mp (wrapError_eq_ok.mp hinsert)
  obtain ⟨table, htable, hafter⟩ := Store.createJob_eq_ok hinsert
  subst hstarted hafter
  have hrows := (Table.insertAll_eq_some htable).1
  exact {
    id := hid
    contextID := hcontext
    sourceID := hsource
    status := rfl
    started := hjob
    row := Table.find?_eq_some.mpr ⟨by simp [hrows], hid⟩
    transactions := rfl
    dedupeKeys := rfl }

structure Prepared where
  state : IngestionState
  fieldMap : FieldMap
  parser : Parser

/-- The parser is looked up after the row of the job was written. -/
def prepareIngestion (store : Store) : Except GoError Prepared × Store :=
  match openJob environment store with
  | .error cause => (.error cause, store)
  | .ok (fieldMap, job, store) =>
    match environment.parser with
    | .error cause => (.error (.wrap "failed to get parser: %w" [] cause), store)
    | .ok parser => (.ok ⟨.initial job, fieldMap, parser⟩, store)

/-! ## Failure and completion -/

def withdraw (jobID : UUID) (tx : IngestedTransaction) : IngestedTransaction :=
  if tx.ingestionJobID = jobID ∧ tx.status = .unmatched then
    { tx with status := .ignored }
  else tx

@[simp] theorem withdraw_key (jobID : UUID) (tx : IngestedTransaction) :
    (withdraw jobID tx).key = tx.key := by
  unfold withdraw
  split <;> rfl

variable (store : Store)

def Store.cleanupFailedJobTransactions (jobID : UUID) : Store :=
  { store with transactions := store.transactions.modify (withdraw jobID) (withdraw_key jobID) }

/-- An error of the clearing is logged and nothing else. -/
def Store.clearBestEffort (fault : Fault) (contextID : UUID) (hashes : List String) : Store :=
  if hashes = [] then store
  else
    match fault with
    | some _ => store
    | none => store.clearBatch contextID hashes

def Store.cleanupBestEffort (fault : Fault) (jobID : UUID) : Store :=
  match fault with
  | some _ => store
  | none => store.cleanupFailedJobTransactions jobID

/-- The update of a job and its outbox event, in one transaction. -/
def Store.persistJob (fault : Fault) (job : IngestionJob) (event : IngestionEvent) :
    Except GoError Store :=
  attempt fault ((store.updateJob job).map fun store => store.enqueue event)

@[simp] theorem Store.clearBestEffort_jobs (fault : Fault) (contextID : UUID)
    (hashes : List String) : (store.clearBestEffort fault contextID hashes).jobs = store.jobs := by
  unfold Store.clearBestEffort
  split
  · rfl
  · cases fault with
    | none | some => rfl

@[simp] theorem Store.clearBestEffort_transactions (fault : Fault) (contextID : UUID)
    (hashes : List String) :
    (store.clearBestEffort fault contextID hashes).transactions = store.transactions := by
  unfold Store.clearBestEffort
  split
  · rfl
  · cases fault with
    | none | some => rfl

@[simp] theorem Store.cleanupBestEffort_jobs (fault : Fault) (jobID : UUID) :
    (store.cleanupBestEffort fault jobID).jobs = store.jobs := by
  cases fault with
  | none | some => rfl

theorem Store.persistJob_eq_ok {store store' : Store} {fault : Fault}
    {event : IngestionEvent} (h : store.persistJob fault job event = .ok store') :
    store' = { store with
      jobs := store.jobs.modify (updateJobRow job) (updateJobRow_id job)
      outbox := store.outbox ++ [event] } := by
  obtain ⟨-, h⟩ := attempt_eq_ok.mp h
  cases hupdate : store.updateJob job with
  | error =>
    rw [hupdate] at h
    cases h
  | ok =>
    rw [hupdate, Store.updateJob_eq_ok hupdate] at h
    exact (Except.ok.inj h).symm

theorem Store.persistJob_of_row (job : IngestionJob) {row : IngestionJob}
    (hrow : store.jobs.find? job.id = some row) (event : IngestionEvent) :
    ∃ store', store.persistJob none job event = .ok store' ∧
      store'.jobStatus job.id = some job.status := by
  obtain ⟨hmem, hid⟩ := Table.find?_eq_some.mp hrow
  have hupdated : (store.jobs.modify (updateJobRow job)
      (updateJobRow_id job)).find? job.id = some (updateJobRow job row) := by
    refine Table.find?_eq_some.mpr ⟨?_, ?_⟩
    · exact (Table.mem_modify _).mpr ⟨row, hmem, rfl⟩
    · rw [updateJobRow_id, hid]
  refine ⟨_, by rw [Store.persistJob, attempt, Store.updateJob, hrow]; rfl, ?_⟩
  change ((store.jobs.modify (updateJobRow job) (updateJobRow_id job)).find?
    job.id).map IngestionJob.status = some job.status
  rw [hupdated, updateJobRow, if_pos hid]
  rfl

/-- The error that the caller gets: the cause, if it could be recorded. -/
def failJob (environment : IngestionEnvironment) (job : IngestionJob) (cause : GoError)
    (markedHashes : List String) (store : Store) : GoError × Store :=
  let store := store.clearBestEffort (environment.faults .clearOnJobFailure)
    job.contextID markedHashes
  match job.fail cause.text with
  | .error failure => (.wrap "failed to transition job to failed: %w" [] failure, store)
  | .ok failed =>
    match store.persistJob (environment.faults .failJob) failed
        (.failed failed.id failed.metadata.error) with
    | .error failure => (.wrap "failed to save failed job: %w" [] failure, store)
    | .ok store => (cause, store.cleanupBestEffort (environment.faults .cleanupTransactions) job.id)

def completeIngestionJob (state : IngestionState) (store : Store) :
    Except GoError (IngestionJob × Store) := do
  let job ← wrapError "failed to complete job: %w"
    (state.job.complete state.totalRows state.totalErrors)
  let store ← wrapError "failed to complete ingestion: %w"
    (store.persistJob (environment.faults .completeJob) job
      (.completed job.id state.totalInserted state.totalRows state.totalErrors))
  return (job, store)

theorem completeIngestionJob_eq_ok {environment : IngestionEnvironment} {state : IngestionState}
    {store final : Store} (h : completeIngestionJob environment state store = .ok (job, final)) :
    job.id = state.job.id ∧ job.status = .completed ∧ final.transactions = store.transactions := by
  obtain ⟨completed, hcomplete, h⟩ := bind_eq_ok.mp h
  obtain ⟨stored, hpersist, h⟩ := bind_eq_ok.mp h
  cases h
  obtain ⟨hid, hstatus⟩ := IngestionJob.complete_eq_ok (wrapError_eq_ok.mp hcomplete)
  rw [Store.persistJob_eq_ok (wrapError_eq_ok.mp hpersist)]
  exact ⟨hid, hstatus, rfl⟩

/-! ## The whole call -/

/-- The deferred cleanup runs after the failure was handled. -/
def failIngestion (cause : GoError) (p : Processing) : GoError × Store :=
  let (failure, store) := failJob environment p.state.job cause p.state.markedHashes p.store
  (failure, store.clearBestEffort (environment.faults .cleanupOnFailure)
    p.state.job.contextID p.state.markedHashes)

/-- The deferred cleanup does nothing once the processing has succeeded. -/
def finishIngestion (p : Processing) : Except GoError IngestionJob × Store :=
  match completeIngestionJob environment p.state p.store with
  | .error cause => (.error cause, p.store)
  | .ok (job, store) =>
    (.ok job, store.clearBestEffort (environment.faults .clearDedupKeys)
      p.state.job.contextID p.state.markedHashes)

def process (sha256Hex : String → String) (environment : IngestionEnvironment)
    (prepared : Prepared) (store : Store) : Option GoError × Processing :=
  processIngestionFile sha256Hex
    (fun index call => environment.faults (.chunk index call)) prepared.parser
    prepared.fieldMap environment.newID ⟨prepared.state, 0, store⟩

def startIngestion (sha256Hex : String → String) (environment : IngestionEnvironment)
    (store : Store) : Except GoError IngestionJob × Store :=
  match prepareIngestion environment store with
  | (.error cause, store) => (.error cause, store)
  | (.ok prepared, store) =>
    match process sha256Hex environment prepared store with
    | (some cause, p) =>
      let (failure, store) := failIngestion environment cause p
      (.error failure, store)
    | (none, p) => finishIngestion environment p

/-! ## A sample upload -/

def sampleRecord (externalID : String) : Record where
  externalID := externalID
  amount := 10
  currency := "USD"
  date := 0
  metadata := none

def sampleFile (externalIDs : List String) : ParsedFile where
  rows := externalIDs.map fun externalID => ⟨[], some (sampleRecord externalID)⟩
  failure := none
  text_ne := nofun

def sampleUpload (externalIDs : List String) : IngestionEnvironment where
  contextID := sampleJob.contextID
  sourceID := sampleJob.sourceID
  fileName := "file.csv"
  fileSize := 10
  format := "csv"
  jobID := sampleJob.id
  newID index := ⟨BitVec.ofNat 128 (index + 10)⟩
  source := .ok (some sampleJob.sourceID)
  fieldMap := .ok (some [])
  parsers format :=
    if format = "csv" then some ⟨true, fun _ => sampleFile externalIDs⟩
    else none
  faults _ := none

end Matcher.Ingestion
