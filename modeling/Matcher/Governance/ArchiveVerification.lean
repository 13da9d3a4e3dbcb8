import Matcher.Governance.ArchiveEncoding
import Matcher.Governance.ArchiveMetadata
import Matcher.Governance.HashChain
import Matcher.Governance.Partitions

/-!
# Upload and verification of an archive

A partition is streamed into object storage through a compressor, and the archive
is later downloaded, decompressed and hashed again, line by line.  The verification
wants at least one row, and its scanner has a buffer of one mebibyte: the archive
of a partition that is empty, or has a longer line, is never accepted.
-/

namespace Matcher.Governance.Archival

open Foundation
open Command (Fault attempt attempt_eq_ok)
open Governance (Hashing hashSize)

def errChecksumMismatch : GoError :=
  .sentinel ⟨"ErrChecksumMismatch", "archive checksum does not match source"⟩

def errRowCountMismatch : GoError :=
  .sentinel ⟨"ErrRowCountMismatch", "archive row count does not match source"⟩

def errTooLong : GoError :=
  .sentinel ⟨"bufio.ErrTooLong", "bufio.Scanner: token too long"⟩

/-- `compress/gzip`: a reader may refuse its header, or fail after some bytes. -/
structure Compression where
  gzip : Bytes → Bytes
  gunzip : Bytes → Except GoError (Bytes × Fault)
  gunzip_gzip : ∀ bytes, gunzip (gzip bytes) = .ok (bytes, none)

def hexString (bytes : Bytes) : String :=
  String.ofList ((hexEncode bytes).map fun byte => Char.ofNat byte.toNat)

/-! ## Upload -/

def buildPartitionExportQuery (partitionName : String) : Except GoError String :=
  if IsPartitionName partitionName then
    .ok ("SELECT id, tenant_id, entity_type, entity_id, action, actor_id, " ++
      "changes, created_at, tenant_seq, prev_hash, record_hash, hash_version " ++
      "FROM \"" ++ partitionName ++ "\" ORDER BY created_at")
  else
    .error (.wrap "build partition export query: %w: %s" [partitionName] errInvalidPartitionName)

structure StreamFaults where
  connect : Fault
  begin : Fault
  schema : Fault
  query : Fault
  upload : Fault
  iter : Fault
  commit : Fault

structure Streamed where
  rowCount : ℤ
  checksum : String
  compressedSize : ℤ
  uploaded : Bytes

section

variable (hashing : Hashing) (compression : Compression)

/-- The upload is looked at before the encoder that feeds it. -/
def streamPartitionViaPipe (faults : StreamFaults) (partitionName : String)
    (rows : List CursorRow) : Except GoError Streamed := do
  wrapError "begin read transaction: %w" (attempt faults.begin (.ok ()))
  wrapError "apply tenant schema: %w" (attempt faults.schema (.ok ()))
  let _ ← buildPartitionExportQuery partitionName
  (attempt faults.query (.ok ())).mapError (.wrap "query partition %s: %w" [partitionName])
  wrapError "upload archive: %w" (attempt faults.upload (.ok ()))
  let encoded ← wrapError "encode partition rows: %w" (encodePartitionRows rows faults.iter)
  wrapError "commit read transaction: %w" (attempt faults.commit (.ok ()))
  return {
    rowCount := encoded.rowCount
    checksum := hexString (hashing.sum encoded.hashed)
    compressedSize := (compression.gzip encoded.written).length
    uploaded := compression.gzip encoded.written }

def streamPartitionUpload (faults : StreamFaults) (partitionName : String) (rows : List CursorRow) :
    Except GoError Streamed := do
  attempt faults.connect (.ok ())
  streamPartitionViaPipe hashing compression faults partitionName rows

/-! ## Verification -/

def maxVerificationLineSize : ℕ := 2 ^ 20

def scanArchive (text : Bytes) (readErr : Fault) : Except GoError (List Bytes) :=
  match scanLines maxVerificationLineSize text with
  | none => .error (.wrap "scan archive for verification: %w" [] errTooLong)
  | some lines => wrapError "scan archive for verification: %w" (attempt readErr (.ok lines))

def verifyArchive (download : String → Except GoError Bytes) (metadata : ArchiveMetadata) :
    Except GoError Unit :=
  if metadata.checksum = "" then
    .error (.wrap "%w: checksum is empty" [] errChecksumMismatch)
  else if metadata.rowCount ≤ 0 then
    .error (.wrap "%w: row count is %d" [toString metadata.rowCount] errRowCountMismatch)
  else do
    let archive ← wrapError "download archive for verification: %w"
      (download metadata.archiveKey)
    let (text, readErr) ← wrapError "open gzip reader for verification: %w"
      (compression.gunzip archive)
    let lines ← scanArchive text readErr
    let computedChecksum := hexString (hashing.sum (lines.flatMap (· ++ [lineFeed])))
    if computedChecksum ≠ metadata.checksum then
      .error (.wrap "%w: expected %s, got %s"
        [metadata.checksum, computedChecksum] errChecksumMismatch)
    else if (lines.length : ℤ) ≠ metadata.rowCount then
      .error (.wrap "%w: expected %d rows, got %d"
        [toString metadata.rowCount, toString lines.length] errRowCountMismatch)
    else .ok ()

/-! ## The archive of a partition -/

def uploadOf (rows : List Columns) : Streamed where
  rowCount := rows.length
  checksum := hexString (hashing.sum (archiveText rows))
  compressedSize := (compression.gzip (archiveText rows)).length
  uploaded := compression.gzip (archiveText rows)

variable {hashing compression}

theorem streamPartitionViaPipe_eq_ok {faults : StreamFaults} {partitionName : String}
    {rows : List CursorRow} {streamed : Streamed}
    (h : streamPartitionViaPipe hashing compression faults partitionName rows = .ok streamed) :
    IsPartitionName partitionName ∧
      streamed = uploadOf hashing compression (rows.map CursorRow.columns) := by
  simp only [streamPartitionViaPipe, bind_eq_ok, wrapError_eq_ok, mapError_eq_ok,
    attempt_eq_ok] at h
  obtain ⟨-, -, -, -, query, hquery, -, -, -, -, encoded, hencoded, -, -, h⟩ := h
  cases h
  constructor
  · unfold buildPartitionExportQuery at hquery
    split at hquery
    next hname => exact hname
    next => cases hquery
  · obtain ⟨-, -, rfl⟩ := encodePartitionRows_eq_ok.mp hencoded
    simp only [uploadOf, List.length_map]

theorem hexString_sum_ne (input : Bytes) : hexString (hashing.sum input) ≠ "" := by
  have hlength := hashing.length_sum input
  intro h
  have hlist := congrArg String.toList h
  cases hsum : hashing.sum input with
  | nil =>
    rw [hsum] at hlength
    cases hlength
  | cons =>
    rw [hsum, hexString, String.toList_ofList] at hlist
    cases hlist

theorem Columns.lineFeed_notMem_line (columns : Columns) : lineFeed ∉ columns.line := by
  intro hmem
  rw [Columns.line, AuditLogRow.marshal] at hmem
  exact absurd (le_of_mem_encodeObject hmem) (by decide)

theorem Columns.getLast?_line (columns : Columns) :
    columns.line.getLast? ≠ some carriageReturn := by
  rw [Columns.line, AuditLogRow.marshal, getLast?_encodeObject]
  decide

theorem archiveText_eq_lines (rows : List Columns) :
    archiveText rows = (rows.map Columns.line).flatMap (· ++ [lineFeed]) := by
  rw [List.flatMap_map]
  rfl

theorem scanArchive_archiveText (rows : List Columns) :
    scanArchive (archiveText rows) none =
      if ∀ columns ∈ rows, columns.line.length < maxVerificationLineSize
      then .ok (rows.map Columns.line)
      else .error (.wrap "scan archive for verification: %w" [] errTooLong) := by
  have hlines : ∀ line ∈ rows.map Columns.line,
      lineFeed ∉ line ∧ line.getLast? ≠ some carriageReturn := by
    intro line hline
    obtain ⟨columns, -, rfl⟩ := List.mem_map.mp hline
    exact ⟨columns.lineFeed_notMem_line, columns.getLast?_line⟩
  rw [scanArchive, archiveText_eq_lines, scanLines_flatMap (by decide) hlines]
  simp only [List.forall_mem_map]
  by_cases hshort : ∀ columns ∈ rows, columns.line.length < maxVerificationLineSize
  · rw [if_pos hshort, if_pos hshort]
    rfl
  · rw [if_neg hshort, if_neg hshort]

theorem verifyArchive_uploadOf {rows : List Columns} {metadata : ArchiveMetadata}
    {download : String → Except GoError Bytes}
    (hchecksum : metadata.checksum = (uploadOf hashing compression rows).checksum)
    (hcount : metadata.rowCount = (uploadOf hashing compression rows).rowCount)
    (hdownload : download metadata.archiveKey = .ok (uploadOf hashing compression rows).uploaded) :
    verifyArchive hashing compression download metadata =
      if rows = [] then
        .error (.wrap "%w: row count is %d" ["0"] errRowCountMismatch)
      else if ∀ columns ∈ rows, columns.line.length < maxVerificationLineSize then
        .ok ()
      else .error (.wrap "scan archive for verification: %w" [] errTooLong) := by
  have hchecksum_ne : metadata.checksum ≠ "" := by
    rw [hchecksum]
    exact hexString_sum_ne _
  rw [verifyArchive, if_neg hchecksum_ne]
  cases rows with
  | nil =>
    have hzero : metadata.rowCount = 0 := hcount
    simp only [hzero, le_refl, if_true]
    rfl
  | cons first rest =>
    have hpositive : ¬ metadata.rowCount ≤ 0 := by
      rw [hcount]
      simp only [uploadOf, List.length_cons]
      omega
    rw [if_neg hpositive, if_neg (List.cons_ne_nil first rest), hdownload]
    simp only [uploadOf, wrapError, Except.mapError, bind, Except.bind,
      compression.gunzip_gzip, scanArchive_archiveText]
    by_cases hshort : ∀ columns ∈ first :: rest, columns.line.length < maxVerificationLineSize
    · rw [if_pos hshort, if_pos hshort]
      simp only [← archiveText_eq_lines, hchecksum, hcount, uploadOf,
        List.length_map, ne_eq, not_true, if_false]
    · rw [if_neg hshort, if_neg hshort]

/-- The verification accepts the archive that was uploaded exactly when the
partition has rows, all of whose lines fit into the buffer. -/
theorem uploaded_archive_verifies_iff {faults : StreamFaults} {rows : List CursorRow}
    {streamed : Streamed} {metadata : ArchiveMetadata} {download : String → Except GoError Bytes}
    (hstreamed : streamPartitionUpload hashing compression faults
      metadata.partitionName rows = .ok streamed)
    (hchecksum : metadata.checksum = streamed.checksum)
    (hcount : metadata.rowCount = streamed.rowCount)
    (hdownload : download metadata.archiveKey = .ok streamed.uploaded) :
    verifyArchive hashing compression download metadata = .ok () ↔
      rows ≠ [] ∧ ∀ row ∈ rows, row.columns.line.length < maxVerificationLineSize := by
  unfold streamPartitionUpload at hstreamed
  obtain ⟨-, -, hpipe⟩ := bind_eq_ok.mp hstreamed
  obtain ⟨-, rfl⟩ := streamPartitionViaPipe_eq_ok hpipe
  rw [verifyArchive_uploadOf hchecksum hcount hdownload]
  simp only [List.map_eq_nil_iff, List.forall_mem_map]
  by_cases hempty : rows = []
  · rw [if_pos hempty]
    exact iff_of_false (by intro h; cases h) fun h => h.1 hempty
  · rw [if_neg hempty]
    by_cases hshort : ∀ row ∈ rows, row.columns.line.length < maxVerificationLineSize
    · rw [if_pos hshort]
      exact iff_of_true rfl ⟨hempty, hshort⟩
    · rw [if_neg hshort]
      exact iff_of_false (by intro h; cases h) fun h => hshort h.2

end

/-! ## Archives that are never accepted -/

def noFaults : StreamFaults := ⟨none, none, none, none, none, none, none⟩

theorem streamPartitionUpload_clean (hashing : Hashing) (compression : Compression)
    {partitionName : String} (hname : IsPartitionName partitionName) (rows : List Columns) :
    streamPartitionUpload hashing compression noFaults partitionName
      (rows.map CursorRow.clean) = .ok (uploadOf hashing compression rows) := by
  simp only [streamPartitionUpload, streamPartitionViaPipe, noFaults, attempt,
    buildPartitionExportQuery, if_pos hname, wrapError, Except.mapError, bind,
    Except.bind, encodePartitionRows_clean, pure, Except.pure, uploadOf]

def verifyingMetadata (streamed : Streamed) : ArchiveMetadata where
  id := ⟨1⟩
  tenantID := ⟨2⟩
  partitionName := "audit_logs_2018_01"
  dateRangeStart := 1514764800000000000
  dateRangeEnd := 1517443200000000000
  rowCount := streamed.rowCount
  archiveKey := "audit_logs_2018_01.jsonl.gz"
  checksum := streamed.checksum
  compressedSizeBytes := streamed.compressedSize
  storageClass := "GLACIER"
  status := .verifying
  errorMessage := ""
  archivedAt := none
  createdAt := 0
  updatedAt := 0

/-- Nothing is compressed, and every text has the same digest. -/
def plainCompression : Compression :=
  ⟨id, fun bytes => .ok (bytes, none), fun _ => rfl⟩

def constantHashing : Hashing :=
  ⟨fun _ => List.replicate hashSize 0, fun _ => List.length_replicate, fun _ => .ok []⟩

theorem uploaded_archive_verifies_iff_one_row :
    let streamed := uploadOf constantHashing plainCompression [(hashedRow 0).withoutHashes]
    verifyArchive constantHashing plainCompression
      (fun _ => .ok streamed.uploaded) (verifyingMetadata streamed) = .ok () := by
  intro streamed
  apply (uploaded_archive_verifies_iff
    (streamPartitionUpload_clean constantHashing plainCompression (by decide)
      [(hashedRow 0).withoutHashes]) rfl rfl rfl).mpr
  refine ⟨List.cons_ne_nil _ _, ?_⟩
  simp only [List.map_cons, List.map_nil, List.mem_singleton, forall_eq]
  decide +kernel

def longRow (length : ℕ) : Columns :=
  { hashedRow 0x80 with changes := String.ofList ('"' :: (List.replicate length 'a' ++ ['"'])) }

theorem Columns.length_changes_le (columns : Columns) :
    columns.changes.length ≤ columns.line.length := by
  have hmem : ("changes", JsonValue.text (runes (utf8 columns.changes))) ∈
      present columns.scanned.members := by
    refine List.mem_filterMap.mpr
      ⟨("changes", some (.text (runes (utf8 columns.changes)))), ?_, rfl⟩
    simp [AuditLogRow.members, Columns.scanned]
  calc columns.changes.length
      = (runes (utf8 columns.changes)).length := by
        rw [runes_utf8, List.length_map, String.length_toList]
    _ ≤ (JsonValue.text (runes (utf8 columns.changes))).encode.length :=
        length_le_quoted _
    _ ≤ columns.line.length := length_encode_le hmem

theorem verifyArchive_longRow (hashing : Hashing) (compression : Compression)
    {length : ℕ} (hlength : maxVerificationLineSize ≤ length) :
    let streamed := uploadOf hashing compression [longRow length]
    verifyArchive hashing compression (fun _ => .ok streamed.uploaded)
      (verifyingMetadata streamed) =
      .error (.wrap "scan archive for verification: %w" [] errTooLong) := by
  intro streamed
  have hlong : length ≤ (longRow length).line.length := by
    refine le_trans ?_ (Columns.length_changes_le _)
    simp only [longRow, String.length_ofList, List.length_cons,
      List.length_append, List.length_replicate]
    omega
  rw [verifyArchive_uploadOf rfl rfl rfl, if_neg (List.cons_ne_nil _ _), if_neg]
  intro hshort
  have hline := hshort _ List.mem_cons_self
  omega

/-- Neither the archive of an empty partition nor one with a line of a mebibyte is
accepted, whatever the digest and the compressor are. -/
theorem uploaded_archive_refused :
    (∀ hashing compression,
      let streamed := uploadOf hashing compression []
      streamPartitionUpload hashing compression noFaults "audit_logs_2018_01" [] = .ok streamed ∧
        verifyArchive hashing compression (fun _ => .ok streamed.uploaded)
          (verifyingMetadata streamed) =
          .error (.wrap "%w: row count is %d" ["0"] errRowCountMismatch)) ∧
    (∀ hashing compression,
      let rows := [longRow maxVerificationLineSize]
      let streamed := uploadOf hashing compression rows
      streamPartitionUpload hashing compression noFaults "audit_logs_2018_01"
          (rows.map CursorRow.clean) = .ok streamed ∧
        verifyArchive hashing compression (fun _ => .ok streamed.uploaded)
          (verifyingMetadata streamed) =
          .error (.wrap "scan archive for verification: %w" [] errTooLong)) := by
  have hname : IsPartitionName "audit_logs_2018_01" := by decide
  constructor
  · intro hashing compression streamed
    refine ⟨streamPartitionUpload_clean hashing compression hname [], ?_⟩
    rw [verifyArchive_uploadOf rfl rfl rfl, if_pos rfl]
  · intro hashing compression rows streamed
    exact ⟨streamPartitionUpload_clean hashing compression hname rows,
      verifyArchive_longRow hashing compression (le_refl _)⟩

end Matcher.Governance.Archival
