import Matcher.Matching.Types

/-!
# Archive metadata

The record of the archival of one partition.  It goes through nine statuses in a
fixed order: each transition checks the status that it leaves, and an error is
noted without a change of the status.
-/

namespace Matcher.Governance.Archival

open Foundation
open Matching (Instant)

inductive ArchiveStatus
  | pending
  | exporting
  | exported
  | uploading
  | uploaded
  | verifying
  | verified
  | detaching
  | complete
deriving DecidableEq, Repr

def ArchiveStatus.text : ArchiveStatus → String
  | .pending => "PENDING"
  | .exporting => "EXPORTING"
  | .exported => "EXPORTED"
  | .uploading => "UPLOADING"
  | .uploaded => "UPLOADED"
  | .verifying => "VERIFYING"
  | .verified => "VERIFIED"
  | .detaching => "DETACHING"
  | .complete => "COMPLETE"

def errInvalidStateTransition : GoError :=
  .sentinel ⟨"ErrInvalidStateTransition", "invalid state transition"⟩

def errArchiveTenantIDRequired : GoError :=
  .sentinel ⟨"ErrArchiveTenantIDRequired", "tenant id is required"⟩

def errPartitionNameRequired : GoError :=
  .sentinel ⟨"ErrPartitionNameRequired", "partition name is required"⟩

def errDateRangeStartRequired : GoError :=
  .sentinel ⟨"ErrDateRangeStartRequired", "date range start is required"⟩

def errDateRangeEndRequired : GoError :=
  .sentinel ⟨"ErrDateRangeEndRequired", "date range end is required"⟩

def errDateRangeEndBeforeStart : GoError :=
  .sentinel ⟨"ErrDateRangeEndBeforeStart", "date range end must be after start"⟩

def errRowCountMustBeNonNegative : GoError :=
  .sentinel ⟨"ErrRowCountMustBeNonNegative", "row count must be non-negative"⟩

def errArchiveKeyRequired : GoError :=
  .sentinel ⟨"ErrArchiveKeyRequired", "archive key is required"⟩

def errChecksumRequired : GoError :=
  .sentinel ⟨"ErrChecksumRequired", "checksum is required"⟩

def errCompressedSizeNonNegative : GoError :=
  .sentinel ⟨"ErrCompressedSizeNonNegative", "compressed size must be non-negative"⟩

def errStorageClassRequired : GoError :=
  .sentinel ⟨"ErrStorageClassRequired", "storage class is required"⟩

structure ArchiveMetadata where
  id : UUID
  tenantID : UUID
  partitionName : String
  dateRangeStart : Instant
  dateRangeEnd : Instant
  rowCount : ℤ
  archiveKey : String
  checksum : String
  compressedSizeBytes : ℤ
  storageClass : String
  status : ArchiveStatus
  errorMessage : String
  archivedAt : Option Instant
  createdAt : Instant
  updatedAt : Instant
deriving DecidableEq, Repr

/-- The zero `time.Time`: the first instant of the year one. -/
def zeroTime : Instant := -62135596800 * 1000000000

def newArchiveMetadata (id tenantID : UUID) (partitionName : String)
    (rangeStart rangeEnd now : Instant) : Except GoError ArchiveMetadata :=
  if tenantID = UUID.zero then .error errArchiveTenantIDRequired
  else if partitionName = "" then .error errPartitionNameRequired
  else if rangeStart = zeroTime then .error errDateRangeStartRequired
  else if rangeEnd = zeroTime then .error errDateRangeEndRequired
  else if rangeEnd ≤ rangeStart then .error errDateRangeEndBeforeStart
  else .ok {
    id := id
    tenantID := tenantID
    partitionName := partitionName
    dateRangeStart := rangeStart
    dateRangeEnd := rangeEnd
    rowCount := 0
    archiveKey := ""
    checksum := ""
    compressedSizeBytes := 0
    storageClass := ""
    status := .pending
    errorMessage := ""
    archivedAt := none
    createdAt := now
    updatedAt := now }

/-! ## Transitions -/

namespace ArchiveMetadata

variable (metadata : ArchiveMetadata)

/-- The check that each transition starts with. -/
def leaving (source target : ArchiveStatus) (now : Instant) : Except GoError ArchiveMetadata :=
  if metadata.status ≠ source then
    .error (.wrap "%w: cannot transition from %s to %s"
      [metadata.status.text, target.text] errInvalidStateTransition)
  else .ok { metadata with status := target, updatedAt := now }

def markExporting (now : Instant) : Except GoError ArchiveMetadata :=
  metadata.leaving .pending .exporting now

def markExported (rowCount : ℤ) (now : Instant) : Except GoError ArchiveMetadata := do
  let next ← metadata.leaving .exporting .exported now
  if rowCount < 0 then .error errRowCountMustBeNonNegative
  else .ok { next with rowCount := rowCount }

def markUploading (now : Instant) : Except GoError ArchiveMetadata :=
  metadata.leaving .exported .uploading now

def markUploaded (archiveKey checksum : String) (compressedSize : ℤ) (storageClass : String)
    (now : Instant) :
    Except GoError ArchiveMetadata := do
  let next ← metadata.leaving .uploading .uploaded now
  if archiveKey = "" then .error errArchiveKeyRequired
  else if checksum = "" then .error errChecksumRequired
  else if compressedSize < 0 then .error errCompressedSizeNonNegative
  else if storageClass = "" then .error errStorageClassRequired
  else .ok { next with
    archiveKey := archiveKey
    checksum := checksum
    compressedSizeBytes := compressedSize
    storageClass := storageClass }

def markVerifying (now : Instant) : Except GoError ArchiveMetadata :=
  metadata.leaving .uploaded .verifying now

def markVerified (now : Instant) : Except GoError ArchiveMetadata :=
  metadata.leaving .verifying .verified now

def markDetaching (now : Instant) : Except GoError ArchiveMetadata :=
  metadata.leaving .verified .detaching now

def markComplete (now : Instant) : Except GoError ArchiveMetadata := do
  let next ← metadata.leaving .detaching .complete now
  return { next with archivedAt := some now }

def markError (message : String) (now : Instant) : ArchiveMetadata :=
  { metadata with
    errorMessage := if message = "" then "unknown error" else message
    updatedAt := now }

end ArchiveMetadata

end Matcher.Governance.Archival
