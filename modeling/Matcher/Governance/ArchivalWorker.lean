import Matcher.Governance.ArchiveVerification

/-!
# The archival worker

A call of the worker takes a partition from the status that it was left in to the
last one.  Each step of a call is one access to the database or to the storage,
which may fail, may succeed and still report an error, or may be the last before a
crash.  A call starts from a copy of the metadata that may be older than the stored
row, since reads prefer a replica.  The last steps run in one transaction that
detaches the table, drops it and completes the metadata.
-/

namespace Matcher.Governance.Archival

open Foundation
open Command (Fault attempt)
open Matching (Instant)
open Governance (Hashing)

def errMetadataNotFound : GoError :=
  .sentinel ⟨"ErrMetadataNotFound", "archive metadata not found"⟩

def errCriticalOutboxTxRequired : GoError :=
  .sentinel ⟨"ErrCriticalOutboxTxRequired",
    "critical streaming emission requires an outbox transaction"⟩

def errTxCommitRollback : GoError :=
  .sentinel ⟨"pgx.ErrTxCommitRollback", "commit unexpectedly resulted in rollback"⟩

/-! ## Configuration -/

structure ArchivalWorker where
  storagePrefix : String
  storageClass : String
  streamEmitter : Bool
  getObjectStorageKey : String → String → Except GoError String
  hashing : Hashing
  compression : Compression

structure PartitionInfo where
  name : String
  rangeStart : Instant
  rangeEnd : Instant

/-- `%0*d`: the sign counts as one of the characters. -/
def paddedNumber (width : ℕ) (value : ℤ) : String :=
  let digits := if value < 0 then signedDecimal (width - 1) value
    else signedDecimal width value
  String.ofList (digits.map fun byte => Char.ofNat byte.toNat)

def ArchivalWorker.archiveKey (worker : ArchivalWorker) (metadata : ArchiveMetadata) :
    Except GoError String :=
  let date := Date.ofDays (metadata.dateRangeStart / nanosecondsPerDay)
  let year := paddedNumber 4 date.year
  let month := paddedNumber 2 date.month
  let originalKey := worker.storagePrefix ++ "/" ++ year ++ "/" ++ month ++ "/" ++
    metadata.id.toText ++ "/audit_logs_" ++ year ++ "_" ++ month ++ ".jsonl.gz"
  wrapError "build scoped archive storage key: %w"
    (worker.getObjectStorageKey metadata.tenantID.toText originalKey)

/-! ## States -/

structure Reference where
  archiveKey : String
  checksum : String
  rowCount : ℤ
deriving DecidableEq, Repr

def ArchiveMetadata.reference (metadata : ArchiveMetadata) : Reference :=
  ⟨metadata.archiveKey, metadata.checksum, metadata.rowCount⟩

/-- Where a call is, with the metadata that it holds. -/
inductive Phase
  | idle
  | running (metadata : ArchiveMetadata)
  | streamed (metadata : ArchiveMetadata) (archiveKey checksum : String) (compressedSize : ℤ)
  | checked (metadata : ArchiveMetadata)
  | detaching (metadata : ArchiveMetadata) (tx : Tx)
  | dropping (metadata : ArchiveMetadata) (tx : Tx)
  | completing (metadata : ArchiveMetadata) (tx : Tx)
  | emitting (metadata row : ArchiveMetadata) (tx : Tx)
  | committing (metadata row : ArchiveMetadata) (tx : Tx)
  | failing (metadata : ArchiveMetadata) (operation : String) (cause : GoError)

inductive Event
  /-- The verification of an archive succeeded, while the row had some reference. -/
  | verified (checked : Reference) (stored : Option Reference)
  /-- A commit dropped the table and left the row with this reference. -/
  | dropped (stored : Reference)
deriving DecidableEq, Repr

structure State where
  /-- All committed versions of the row, the current one first. -/
  versions : List ArchiveMetadata
  table : Table
  phase : Phase
  events : List Event

inductive WriteOutcome
  | applied
  | failed (cause : GoError)
  /-- The write was committed, and the caller saw an error. -/
  | lost (cause : GoError)

structure TxFaults where
  begin : Fault
  update : Fault
  emit : Fault
  commit : WriteOutcome

inductive Label
  | create (id tenantID : UUID) (now : Instant) (outcome : WriteOutcome)
  | load (lag : ℕ)
  | advance (now : Instant) (outcome : WriteOutcome)
  | stream (faults : StreamFaults) (rows : List CursorRow)
  | upload (now : Instant) (faults : TxFaults)
  | verify (download : Except GoError Bytes)
  | begin (fault : Fault)
  | statement (now : Instant) (fault : Fault)
  | commit (outcome : WriteOutcome)
  | handle (now : Instant) (outcome : WriteOutcome)
  | crash

namespace State

def initial : State := ⟨[], .attached, .idle, []⟩

variable (state : State)

def goto (phase : Phase) : State := { state with phase := phase }

def store (row : ArchiveMetadata) : State :=
  { state with versions := row :: state.versions }

def row : Option ArchiveMetadata := state.versions.head?

/-! ## The row -/

def updated (row metadata : ArchiveMetadata) : ArchiveMetadata :=
  { row with
    rowCount := metadata.rowCount
    archiveKey := metadata.archiveKey
    checksum := metadata.checksum
    compressedSizeBytes := metadata.compressedSizeBytes
    storageClass := metadata.storageClass
    status := metadata.status
    errorMessage := metadata.errorMessage
    archivedAt := metadata.archivedAt
    updatedAt := metadata.updatedAt }

def executeUpdate (metadata : ArchiveMetadata) : Except GoError ArchiveMetadata :=
  match state.row with
  | none => .error errMetadataNotFound
  | some row =>
    if row.id = metadata.id ∧ row.tenantID = metadata.tenantID then
      .ok (updated row metadata)
    else .error errMetadataNotFound

def update (state : State) (metadata : ArchiveMetadata) (outcome : WriteOutcome) : State × Fault :=
  let failed cause := some (.wrap "update archive metadata: %w" [] cause)
  match outcome, state.executeUpdate metadata with
  | .failed cause, _ => (state, failed cause)
  | _, .error cause => (state, failed cause)
  | .applied, .ok row => (state.store row, none)
  | .lost cause, .ok row => (state.store row, failed cause)

/-! ## The steps of a call -/

variable (worker : ArchivalWorker)

/-- The row of a partition is inserted when none was found. -/
def create (partition : PartitionInfo) (state : State) (id tenantID : UUID) (now : Instant)
    (outcome : WriteOutcome) : State :=
  match state.phase with
  | .idle =>
    match newArchiveMetadata id tenantID partition.name partition.rangeStart
      partition.rangeEnd now with
    | .error _ => state
    | .ok metadata =>
      if worker.streamEmitter = false ∨ state.versions ≠ [] then state
      else
        match outcome with
        | .failed _ => state
        | .applied => (state.store metadata).goto (.running metadata)
        | .lost _ => state.store metadata
  | _ => state

def load (lag : ℕ) : State :=
  match state.phase, state.versions.drop lag with
  | .idle, metadata :: _ => state.goto (.running metadata)
  | _, _ => state

/-- The metadata is as before when the update fails. -/
def transitionTo (metadata : ArchiveMetadata) (operation : String)
    (transition : Except GoError ArchiveMetadata) (outcome : WriteOutcome) : State :=
  match transition with
  | .error cause => state.goto (.failing metadata operation (.wrap "state transition: %w" [] cause))
  | .ok next =>
    match state.update next outcome with
    | (state, none) => state.goto (.running next)
    | (state, some cause) =>
      state.goto (.failing metadata operation (.wrap "persist state transition: %w" [] cause))

/-- Here the metadata keeps the new status when the update fails. -/
def transitionToExported (metadata : ArchiveMetadata) (rowCount : ℤ) (now : Instant)
    (outcome : WriteOutcome) : State :=
  match metadata.markExported rowCount now with
  | .error cause =>
    state.goto (.failing metadata "mark exported" (.wrap "mark exported: %w" [] cause))
  | .ok next =>
    match state.update next outcome with
    | (state, none) => state.goto (.running next)
    | (state, some cause) =>
      state.goto (.failing next "mark exported" (.wrap "persist exported state: %w" [] cause))

/-- The transitions that only change the row.  The checks of the source follow the
order of the statuses, so the status alone tells the next one. -/
def advance (now : Instant) (outcome : WriteOutcome) : State :=
  match state.phase with
  | .running metadata =>
    match metadata.status with
    | .pending => state.transitionTo metadata "mark exporting" (metadata.markExporting now) outcome
    | .exporting => state.transitionToExported metadata 0 now outcome
    | .exported => state.transitionTo metadata "mark uploading" (metadata.markUploading now) outcome
    | .uploaded => state.transitionTo metadata "mark verifying" (metadata.markVerifying now) outcome
    | .verified => state.transitionTo metadata "mark detaching" (metadata.markDetaching now) outcome
    | .complete => state.goto .idle
    | .uploading | .verifying | .detaching => state
  | .checked metadata =>
    state.transitionTo metadata "mark verified" (metadata.markVerified now) outcome
  | _ => state

/-- The row count is set before the transition that stores it. -/
def stream (worker : ArchivalWorker) (state : State) (faults : StreamFaults)
    (rows : List CursorRow) : State :=
  match state.phase with
  | .running metadata =>
    if metadata.status = .uploading then
      match worker.archiveKey metadata with
      | .error cause => state.goto (.failing metadata "build archive key" cause)
      | .ok archiveKey =>
        match streamPartitionUpload worker.hashing worker.compression faults
          metadata.partitionName rows with
        | .error cause => state.goto (.failing metadata "stream and upload partition" cause)
        | .ok streamed =>
          state.goto (.streamed { metadata with rowCount := streamed.rowCount } archiveKey
            streamed.checksum streamed.compressedSize)
    else state
  | _ => state

/-- The row as a transaction would leave it, up to its commit. -/
def writeUploaded (state : State) (next : ArchiveMetadata) (faults : TxFaults) :
    Except GoError ArchiveMetadata :=
  if worker.streamEmitter = false then
    .error (.wrap "archive uploaded streaming emitter: %w" [] errCriticalOutboxTxRequired)
  else do
    wrapError "begin archive uploaded transaction: %w" (attempt faults.begin (.ok ()))
    let row ← wrapError "persist uploaded state with tx: %w"
      (wrapError "update archive metadata with tx: %w"
        (attempt faults.update (state.executeUpdate next)))
    wrapError "emit archive uploaded: %w"
      ((attempt faults.emit (.ok ())).mapError
        (.wrap "emit archive streaming event %s: %w" ["archive.uploaded"]))
    return row

def transitionToUploaded (state : State) (metadata : ArchiveMetadata) (archiveKey checksum : String)
    (compressedSize : ℤ) (now : Instant) (faults : TxFaults) : State :=
  let failed (state : State) cause := state.goto (.failing metadata "mark uploaded" cause)
  match metadata.markUploaded archiveKey checksum compressedSize worker.storageClass now with
  | .error cause => failed state (.wrap "mark uploaded: %w" [] cause)
  | .ok next =>
    match state.writeUploaded worker next faults with
    | .error cause => failed state cause
    | .ok row =>
      match faults.commit with
      | .applied => (state.store row).goto (.running next)
      | .failed cause => failed state (.wrap "commit archive uploaded transaction: %w" [] cause)
      | .lost cause =>
        failed (state.store row) (.wrap "commit archive uploaded transaction: %w" [] cause)

def upload (state : State) (now : Instant) (faults : TxFaults) : State :=
  match state.phase with
  | .streamed metadata archiveKey checksum compressedSize =>
    state.transitionToUploaded worker metadata archiveKey checksum compressedSize now faults
  | _ => state

def verify (worker : ArchivalWorker) (state : State) (download : Except GoError Bytes) : State :=
  match state.phase with
  | .running metadata =>
    if metadata.status = .verifying then
      match verifyArchive worker.hashing worker.compression (fun _ => download) metadata with
      | .error cause => state.goto (.failing metadata "verify archive" cause)
      | .ok () =>
        { state with
          phase := .checked metadata
          events := state.events ++ [.verified metadata.reference
            (state.row.map ArchiveMetadata.reference)] }
    else state
  | _ => state

/-! ## The last transaction -/

def failCompletion (metadata : ArchiveMetadata) (cause : GoError) : State :=
  state.goto (.failing metadata "complete archive partition" cause)

def begin (worker : ArchivalWorker) (state : State) (fault : Fault) : State :=
  match state.phase with
  | .running metadata =>
    if metadata.status = .detaching then
      if worker.streamEmitter = false then
        state.failCompletion metadata
          (.wrap "archive completed streaming emitter: %w" [] errCriticalOutboxTxRequired)
      else
        match fault with
        | some cause =>
          state.failCompletion metadata (.wrap "begin archive completion transaction: %w" [] cause)
        | none => state.goto (.detaching metadata ⟨state.table, false⟩)
    else state
  | _ => state

/-- An error that says that the table is already gone is passed over. -/
def passOver (metadata : ArchiveMetadata) (format : String) (err : Fault) (next : Phase) : State :=
  match err with
  | none => state.goto next
  | some cause =>
    if IsPartitionAlreadyDetachedOrAbsent cause then state.goto next
    else state.failCompletion metadata (.wrap format [] cause)

def complete (state : State) (metadata : ArchiveMetadata) (tx : Tx) (now : Instant)
    (fault : Fault) : State :=
  match metadata.markComplete now with
  | .error cause => state.failCompletion metadata (.wrap "mark complete: %w" [] cause)
  | .ok next =>
    let failed cause := state.failCompletion metadata
      (.wrap "persist complete state with tx: %w" []
        (.wrap "update archive metadata with tx: %w" [] cause))
    match tx.exec fault .ok with
    | (_, some cause) => failed cause
    | (tx, none) =>
      match state.executeUpdate next with
      | .error cause => failed cause
      | .ok row => state.goto (.emitting metadata row tx)

def emit (state : State) (metadata row : ArchiveMetadata) (tx : Tx) (fault : Fault) : State :=
  match tx.exec fault .ok with
  | (_, some cause) =>
    state.failCompletion metadata (.wrap "emit archive completed: %w" []
      (.wrap "emit archive streaming event %s: %w" ["archive.completed"] cause))
  | (tx, none) => state.goto (.committing metadata row tx)

def statement (now : Instant) (fault : Fault) : State :=
  match state.phase with
  | .detaching metadata tx =>
    let (tx, err) := detachPartitionWithTx tx metadata.partitionName now fault
    state.passOver metadata "detach partition: %w" err (.dropping metadata tx)
  | .dropping metadata tx =>
    let (tx, err) := dropPartitionWithTx tx metadata.partitionName now fault
    state.passOver metadata "drop partition: %w" err (.completing metadata tx)
  | .completing metadata tx => state.complete metadata tx now fault
  | .emitting metadata row tx => state.emit metadata row tx fault
  | _ => state

/-- What the commit of the transaction makes visible. -/
def apply (row : ArchiveMetadata) (tx : Tx) : State :=
  { state with
    versions := row :: state.versions
    table := tx.table
    events :=
      if state.table ≠ .absent ∧ tx.table = .absent then
        state.events ++ [.dropped row.reference]
      else state.events }

def commit (state : State) (outcome : WriteOutcome) : State :=
  match state.phase with
  | .committing metadata row tx =>
    let failed (state : State) cause := state.failCompletion metadata
      (.wrap "commit archive completion transaction: %w" [] cause)
    match outcome with
    | .failed cause => failed state cause
    | .applied =>
      if tx.aborted then failed state errTxCommitRollback
      else (state.apply row tx).goto .idle
    | .lost cause =>
      if tx.aborted then failed state cause
      else failed (state.apply row tx) cause
  | _ => state

/-! ## Errors -/

/-- The metadata that is reloaded afterwards is read by nobody: the call returns. -/
def handlePartitionError (now : Instant) (outcome : WriteOutcome) : State :=
  match state.phase with
  | .failing metadata operation cause =>
    let wrappedErr := GoError.wrap "%s: %w" [operation] cause
    (state.update (metadata.markError wrappedErr.text now) outcome).1.goto .idle
  | _ => state

def step (partition : PartitionInfo) (state : State) : Label → State
  | .create id tenantID now outcome => state.create worker partition id tenantID now outcome
  | .load lag => state.load lag
  | .advance now outcome => state.advance now outcome
  | .stream faults rows => state.stream worker faults rows
  | .upload now faults => state.upload worker now faults
  | .verify download => state.verify worker download
  | .begin fault => state.begin worker fault
  | .statement now fault => state.statement now fault
  | .commit outcome => state.commit outcome
  | .handle now outcome => state.handlePartitionError now outcome
  | .crash => state.goto .idle

def run (partition : PartitionInfo) (labels : List Label) : State :=
  labels.foldl (step worker partition) initial

end State

end Matcher.Governance.Archival
