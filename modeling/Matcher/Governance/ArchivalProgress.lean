import Matcher.Governance.ArchivalWorker

/-!
# Progress of the archival worker

A call that meets no error takes a new partition to its end: the archive that it
uploads is accepted by its own verification when the partition has rows and their
lines fit into the buffer, and the last transaction then drops the table.  It does
so exactly when the table is still attached: the error of a table that is not can be
passed over, but not undone.
-/

namespace Matcher.Governance.Archival

open Foundation
open Command (Fault attempt)
open Matching (Instant)

section

variable {worker : ArchivalWorker} {partition : PartitionInfo} {state : State}
  {metadata row : ArchiveMetadata} {now later : Instant} {archiveKey : String}
  {clock : ℕ → Instant}

def uploadedAs (metadata : ArchiveMetadata) (archiveKey storageClass : String)
    (streamed : Streamed) (now : Instant) : ArchiveMetadata :=
  { metadata with
    status := .verifying
    rowCount := streamed.rowCount
    archiveKey := archiveKey
    checksum := streamed.checksum
    compressedSizeBytes := streamed.compressedSize
    storageClass := storageClass
    updatedAt := now }

/-- Every step that reads the time has an instant of its own. -/
def uploadLabels (clock : ℕ → Instant) (rows : List Columns) : List Label :=
  [.advance (clock 0) .applied, .advance (clock 1) .applied, .advance (clock 2) .applied,
    .stream noFaults (rows.map CursorRow.clean),
    .upload (clock 3) ⟨none, none, none, .applied⟩, .advance (clock 4) .applied]

def completionLabels (clock : ℕ → Instant) (archive : Bytes) : List Label :=
  [.verify (.ok archive), .advance (clock 5) .applied, .advance (clock 6) .applied,
    .begin none, .statement (clock 7) none, .statement (clock 8) none,
    .statement (clock 9) none, .statement (clock 10) none, .commit .applied]

attribute [local simp] State.step State.advance State.transitionTo State.update State.executeUpdate
  State.row State.updated State.store State.goto State.begin State.statement State.passOver
  State.complete State.emit State.commit State.apply State.failCompletion ArchiveMetadata.leaving
  ArchiveMetadata.markComplete detachPartitionWithTx dropPartitionWithTx partitionStatement
  detachTable dropTable Tx.exec attempt bind Except.bind pure Except.pure

theorem isPartitionName_of_retention
    (h : validateRetentionPeriod metadata.partitionName now = .ok ()) :
    IsPartitionName metadata.partitionName := by
  by_contra hname
  simp [validateRetentionPeriod, parsePartitionBoundFromName, hname] at h

theorem validateRetentionPeriod_later
    (h : validateRetentionPeriod metadata.partitionName now = .ok ()) (hlater : now ≤ later) :
    validateRetentionPeriod metadata.partitionName later = .ok () := by
  have hname := isPartitionName_of_retention h
  exact (validateRetentionPeriod_eq_ok hname).mpr
    (((validateRetentionPeriod_eq_ok hname).mp h).trans hlater)

theorem run_uploadLabels (rows : List Columns)
    (hphase : state.phase = .running metadata) (hstatus : metadata.status = .pending)
    (hrow : state.row = some row) (hid : row.id = metadata.id)
    (htenant : row.tenantID = metadata.tenantID) (hemitter : worker.streamEmitter = true)
    (hclass : worker.storageClass ≠ "") (hkey : worker.archiveKey metadata = .ok archiveKey)
    (hne : archiveKey ≠ "") (hname : IsPartitionName metadata.partitionName) :
    let streamed := uploadOf worker.hashing worker.compression rows
    let final := (uploadLabels clock rows).foldl (State.step worker partition) state
    final.phase = .running
        (uploadedAs metadata archiveKey worker.storageClass streamed (clock 4)) ∧
      final.table = state.table ∧
      ∃ stored, final.row = some stored ∧ stored.id = metadata.id ∧
        stored.tenantID = metadata.tenantID := by
  intro streamed
  have hhead : state.versions.head? = some row := hrow
  have hstream := streamPartitionUpload_clean worker.hashing worker.compression hname rows
  have hchecksum : streamed.checksum ≠ "" := hexString_sum_ne _
  have hsize : ¬ streamed.compressedSize < 0 := by simp [streamed, uploadOf]
  -- The key depends on columns that no transition changes.
  have hsameKey : ∀ status rowCount updatedAt, worker.archiveKey { metadata with
      status := status, rowCount := rowCount, updatedAt := updatedAt } =
      .ok archiveKey := fun _ _ _ => hkey
  simp [uploadLabels, hphase, hstatus, State.transitionToExported, ArchiveMetadata.markExporting,
    ArchiveMetadata.markExported, ArchiveMetadata.markUploading, hhead, hid, htenant, State.stream,
    hsameKey, hstream, State.upload, State.transitionToUploaded, ArchiveMetadata.markUploaded,
    State.writeUploaded, hemitter, wrapError, Except.mapError, ArchiveMetadata.markVerifying,
    hne, hclass, hchecksum, hsize, streamed, uploadedAs]

theorem run_completionLabels {archive : Bytes} (hphase : state.phase = .running metadata)
    (hstatus : metadata.status = .verifying)
    (hverify : verifyArchive worker.hashing worker.compression
      (fun _ => .ok archive) metadata = .ok ()) (hrow : state.row = some row)
    (hid : row.id = metadata.id) (htenant : row.tenantID = metadata.tenantID)
    (htable : state.table = .attached) (hemitter : worker.streamEmitter = true)
    (hname : IsPartitionName metadata.partitionName)
    (hclock : ∀ first second, first ≤ second → clock first ≤ clock second)
    (hretention : validateRetentionPeriod metadata.partitionName (clock 7) = .ok ()) :
    let final := (completionLabels clock archive).foldl (State.step worker partition) state
    final.table = .absent ∧
      ∃ completed, final.row = some completed ∧ completed.status = .complete ∧
        completed.reference = metadata.reference := by
  have hhead : state.versions.head? = some row := hrow
  have hvalid : validatePartitionName metadata.partitionName = .ok () := if_pos hname
  have hretained := validateRetentionPeriod_later hretention (hclock 7 8 (by decide))
  simp [completionLabels, State.verify, hphase, hstatus, hverify, ArchiveMetadata.markVerified,
    hhead, hid, htenant, ArchiveMetadata.markDetaching, hemitter, hvalid, hretention, hretained,
    htable, ArchiveMetadata.reference]

/-- A call without errors archives a partition whose rows fit, and drops it. -/
theorem faultless_call_completes {rows : List Columns} (hphase : state.phase = .running metadata)
    (hstatus : metadata.status = .pending) (hrow : state.row = some row)
    (hid : row.id = metadata.id) (htenant : row.tenantID = metadata.tenantID)
    (htable : state.table = .attached) (hemitter : worker.streamEmitter = true)
    (hclass : worker.storageClass ≠ "") (hkey : worker.archiveKey metadata = .ok archiveKey)
    (hne : archiveKey ≠ "") (hclock : ∀ first second, first ≤ second → clock first ≤ clock second)
    (hretention : validateRetentionPeriod metadata.partitionName (clock 7) = .ok ())
    (hrows : rows ≠ [])
    (hshort : ∀ columns ∈ rows, columns.line.length < maxVerificationLineSize) :
    let streamed := uploadOf worker.hashing worker.compression rows
    let final := (uploadLabels clock rows ++
      completionLabels clock streamed.uploaded).foldl (State.step worker partition) state
    final.table = .absent ∧
      ∃ completed, final.row = some completed ∧ completed.status = .complete ∧
        completed.reference = ⟨archiveKey, streamed.checksum, streamed.rowCount⟩ := by
  intro streamed
  have hname := isPartitionName_of_retention hretention
  obtain ⟨hrunning, hsame, stored, hstored, hid', htenant'⟩ :=
    @run_uploadLabels worker partition state metadata row archiveKey clock rows
      hphase hstatus hrow hid htenant hemitter hclass hkey hne hname
  have hverify : verifyArchive worker.hashing worker.compression
      (fun _ => .ok streamed.uploaded)
      (uploadedAs metadata archiveKey worker.storageClass streamed (clock 4)) =
      .ok () := by
    rw [verifyArchive_uploadOf rfl rfl rfl, if_neg hrows, if_pos hshort]
  rw [List.foldl_append]
  exact run_completionLabels hrunning rfl hverify hstored hid' htenant'
    (hsame.trans htable) hemitter hname hclock hretention

/-! ## The last transaction -/

/-- The transaction when nothing but its own statements can fail. -/
def completeArchiveWithPartitionDropTx (worker : ArchivalWorker)
    (partition : PartitionInfo) (state : State) (now later : Instant) : State :=
  [.begin none, .statement now none, .statement later none, .statement later none,
    .statement later none, .commit .applied].foldl (State.step worker partition) state

def Completes (worker : ArchivalWorker) (partition : PartitionInfo)
    (state : State) (now later : Instant) : Prop :=
  let final := completeArchiveWithPartitionDropTx worker partition state now later
  final.phase = .idle ∧ final.table = .absent ∧ ∃ row, final.row = some row ∧ row.status = .complete

/-- A call that cannot succeed any more: its transaction is aborted, or it has
failed. -/
def Phase.Doomed : Phase → Prop
  | .dropping _ tx | .completing _ tx | .emitting _ _ tx | .committing _ _ tx => tx.aborted = true
  | .failing _ _ _ => True
  | _ => False

theorem Phase.Doomed.passOver (next : Phase) (hnext : next.Doomed) (format : String) (err : Fault) :
    (state.passOver metadata format err next).phase.Doomed := by
  unfold State.passOver
  split
  · exact hnext
  · split
    · exact hnext
    · trivial

theorem partitionStatement_aborted {format name : String} {statement : Table → Except GoError Table}
    {tx : Tx} {fault : Fault} (haborted : tx.aborted = true) :
    (partitionStatement format statement tx name now fault).1.aborted = true := by
  simp only [partitionStatement, Tx.exec, haborted, if_true]
  split
  · exact haborted
  · split <;> exact haborted

theorem Phase.Doomed.statement (h : state.phase.Doomed) (now : Instant) (fault : Fault) :
    (state.statement now fault).phase.Doomed := by
  unfold State.statement
  split
  next hphase => simp [hphase, Phase.Doomed] at h
  next metadata tx hphase =>
    rw [hphase] at h
    exact Phase.Doomed.passOver (.completing _ _) (partitionStatement_aborted h) _ _
  next metadata tx hphase =>
    rw [hphase] at h
    simp only [State.complete, Tx.exec, show tx.aborted = true from h, if_true]
    split <;> trivial
  next metadata row tx hphase =>
    rw [hphase] at h
    simp [show tx.aborted = true from h, Phase.Doomed]
  next => exact h

theorem Phase.Doomed.commit (h : state.phase.Doomed) : (state.commit .applied).phase.Doomed := by
  unfold State.commit
  split
  next metadata row tx hphase =>
    rw [hphase] at h
    simp [show tx.aborted = true from h, Phase.Doomed]
  next => exact h

theorem doomed_of_not_attached (hphase : state.phase = .running metadata)
    (hstatus : metadata.status = .detaching) (hemitter : worker.streamEmitter = true)
    (hname : IsPartitionName metadata.partitionName)
    (hretention : validateRetentionPeriod metadata.partitionName now = .ok ())
    (htable : state.table ≠ .attached) :
    ((state.begin worker none).statement now none).phase.Doomed := by
  have hvalid : validatePartitionName metadata.partitionName = .ok () := if_pos hname
  simp only [State.begin, hphase, hstatus, hemitter, State.goto, State.statement,
    if_true, Bool.true_eq_false, if_false]
  apply Phase.Doomed.passOver (.dropping _ _)
  cases hcase : state.table with
  | attached => exact absurd hcase htable
  | detached | absent => simp [Phase.Doomed, hvalid, hretention]

/-- A table that is not attached aborts the transaction, and the error that is
passed over does not bring it back. -/
theorem completes_iff_attached (hphase : state.phase = .running metadata)
    (hstatus : metadata.status = .detaching) (hrow : state.row = some row)
    (hid : row.id = metadata.id) (htenant : row.tenantID = metadata.tenantID)
    (hemitter : worker.streamEmitter = true)
    (hretention : validateRetentionPeriod metadata.partitionName now = .ok ())
    (hlater : now ≤ later) :
    Completes worker partition state now later ↔ state.table = .attached := by
  have hname := isPartitionName_of_retention hretention
  constructor
  · rintro ⟨hidle, -⟩
    by_contra htable
    have hdoomed := doomed_of_not_attached hphase hstatus hemitter hname hretention htable
    have hfinal : (completeArchiveWithPartitionDropTx worker partition state now
        later).phase.Doomed :=
      (((hdoomed.statement later none).statement later none).statement later none).commit
    rw [hidle] at hfinal
    exact hfinal
  · intro htable
    have hvalid : validatePartitionName metadata.partitionName = .ok () := if_pos hname
    have hretained := validateRetentionPeriod_later hretention hlater
    have hhead : state.versions.head? = some row := hrow
    simp [Completes, completeArchiveWithPartitionDropTx, hphase, hstatus, hemitter, hvalid,
      hretention, hretained, htable, hhead, hid, htenant]

end

def archivist : ArchivalWorker where
  storagePrefix := "archives"
  storageClass := "GLACIER"
  streamEmitter := true
  getObjectStorageKey _ key := .ok key
  hashing := constantHashing
  compression := plainCompression

def detachingState (table : Table) : State :=
  let metadata := { verifyingMetadata
    (uploadOf constantHashing plainCompression []) with status := .detaching }
  ⟨[metadata], table, .running metadata, []⟩

def januaryPartition : PartitionInfo :=
  ⟨"audit_logs_2018_01", 1514764800000000000, 1517443200000000000⟩

theorem faultless_call_completes_january :
    let metadata := { verifyingMetadata
      (uploadOf constantHashing plainCompression []) with status := .pending }
    let clock := fun step : ℕ => 20454 * nanosecondsPerDay + step
    let streamed := uploadOf constantHashing plainCompression [hashedRow 0]
    ((uploadLabels clock [hashedRow 0] ++ completionLabels clock streamed.uploaded).foldl
      (State.step archivist januaryPartition)
      ⟨[metadata], .attached, .running metadata, []⟩).table = .absent :=
  (faultless_call_completes rfl rfl rfl rfl rfl rfl rfl (by decide) rfl (by decide +kernel)
    (fun _ _ hle => by gcongr) (by decide +kernel) (by decide) (by decide +kernel)).1

theorem completes_iff_attached_january :
    Completes archivist januaryPartition (detachingState .attached)
      (20454 * nanosecondsPerDay) (20454 * nanosecondsPerDay) :=
  (completes_iff_attached rfl rfl rfl rfl rfl rfl (by decide +kernel) le_rfl).mpr
    rfl

/-- A table that is detached or absent stays so, and the row stays detaching. -/
theorem detached_partition_never_completes :
    let final := fun table => completeArchiveWithPartitionDropTx archivist
      januaryPartition (detachingState table) (20454 * nanosecondsPerDay)
      (20454 * nanosecondsPerDay)
    (final .detached).table = .detached ∧
      (final .absent).row.map ArchiveMetadata.status = some .detaching ∧
      ∀ table ∈ [Table.detached, .absent], ¬ Completes archivist januaryPartition
        (detachingState table) (20454 * nanosecondsPerDay)
        (20454 * nanosecondsPerDay) := by
  intro final
  refine (and_iff_left_of_imp fun htable => ?_).mpr (by decide +kernel)
  refine (and_iff_left_of_imp fun hstatus => ?_).mpr (by decide +kernel)
  simp only [List.mem_cons, List.not_mem_nil, or_false, forall_eq_or_imp, forall_eq]
  constructor
  · rintro ⟨-, habsent, -⟩
    exact absurd (htable.symm.trans habsent) (by decide)
  · rintro ⟨-, -, row, hrow, hcomplete⟩
    have hmapped : some row.status = some ArchiveStatus.detaching :=
      (congrArg (Option.map ArchiveMetadata.status) hrow).symm.trans hstatus
    rw [hcomplete] at hmapped
    exact absurd hmapped (by decide)

end Matcher.Governance.Archival
