import Matcher.Command.Store
import Matcher.Foundation.Calendar
import Matcher.Foundation.Json
import Matcher.Foundation.Lines

/-!
# The text of an archive

The rows of a partition are exported one to a line, as JSON objects.  The hashes
of a row are columns of bytes, and they are scanned into strings: the encoder
writes the same escape for every byte that belongs to no character.  An archive
therefore gives back its rows exactly when their hashes are valid UTF-8.
-/

namespace Matcher.Governance.Archival

open Foundation
open Command (Fault attempt attempt_eq_ok)

/-! ## Rows -/

/-- The columns that the export selects, with the timestamp in microseconds. -/
structure Columns where
  id : UUID
  tenantID : UUID
  entityType : String
  entityID : UUID
  action : String
  actorID : Option String
  changes : String
  createdAt : ℤ
  tenantSeq : Option ℤ
  prevHash : Option Bytes
  recordHash : Option Bytes
  hashVersion : ℤ
deriving DecidableEq

/-- A row of the export.  Its strings are those of Go: any bytes. -/
structure AuditLogRow where
  id : Bytes
  tenantID : Bytes
  entityType : Bytes
  entityID : Bytes
  action : Bytes
  actorID : Option Bytes
  changes : Option Bytes
  createdAt : Bytes
  tenantSeq : Option ℤ
  prevHash : Option Bytes
  recordHash : Option Bytes
  hashVersion : Option ℤ

def nanosecondsPerMicrosecond : ℤ := 1000

variable (columns : Columns) {other : Columns}

def Columns.scanned : AuditLogRow where
  id := utf8 columns.id.toText
  tenantID := utf8 columns.tenantID.toText
  entityType := utf8 columns.entityType
  entityID := utf8 columns.entityID.toText
  action := utf8 columns.action
  actorID := columns.actorID.map utf8
  changes := some (utf8 columns.changes)
  createdAt := rfc3339Nano (columns.createdAt * nanosecondsPerMicrosecond)
  tenantSeq := columns.tenantSeq
  prevHash := columns.prevHash
  recordHash := columns.recordHash
  hashVersion := some columns.hashVersion

def scanAuditLogRow (scanErr : Fault) (columns : Columns) : Except GoError AuditLogRow :=
  wrapError "scan row: %w" (attempt scanErr (.ok columns.scanned))

/-- The fields with their tags.  The pointers are left out when they are nil. -/
def AuditLogRow.members (row : AuditLogRow) : List (String × Option JsonValue) := [
  ("id", some (.text (runes row.id))),
  ("tenant_id", some (.text (runes row.tenantID))),
  ("entity_type", some (.text (runes row.entityType))),
  ("entity_id", some (.text (runes row.entityID))),
  ("action", some (.text (runes row.action))),
  ("actor_id", row.actorID.map fun text => .text (runes text)),
  ("changes", row.changes.map fun text => .text (runes text)),
  ("created_at", some (.text (runes row.createdAt))),
  ("tenant_seq", row.tenantSeq.map .number),
  ("prev_hash", row.prevHash.map fun text => .text (runes text)),
  ("record_hash", row.recordHash.map fun text => .text (runes text)),
  ("hash_version", row.hashVersion.map .number)]

def fieldNames : List String :=
  ["id", "tenant_id", "entity_type", "entity_id", "action", "actor_id",
    "changes", "created_at", "tenant_seq", "prev_hash", "record_hash",
    "hash_version"]

theorem fieldNames_nodup : fieldNames.Nodup := by decide

theorem AuditLogRow.members_names (row : AuditLogRow) : row.members.map Prod.fst = fieldNames := rfl

/-- `json.Marshal`. -/
def AuditLogRow.marshal (row : AuditLogRow) : Bytes :=
  encodeObject (present row.members)

/-- `Encode` of a `json.Encoder`. -/
def AuditLogRow.encode (row : AuditLogRow) : Bytes := row.marshal ++ [lineFeed]

/-! ## The loop over the rows -/

/-- A row of the query, and the errors that its scan and its encoding meet. -/
structure CursorRow where
  columns : Columns
  scanErr : Fault
  encodeErr : Fault

def CursorRow.clean : CursorRow := ⟨columns, none, none⟩

structure Encoded where
  hashed : Bytes
  written : Bytes
  rowCount : ℤ

def encodeRow (encoded : Encoded) (row : CursorRow) : Except GoError Encoded := do
  let scanned ← wrapError "scan audit log row: %w" (scanAuditLogRow row.scanErr row.columns)
  let hashed := encoded.hashed ++ scanned.marshal ++ [lineFeed]
  let written ← wrapError "encode audit log row to gzip: %w"
    (attempt row.encodeErr (.ok (encoded.written ++ scanned.encode)))
  return ⟨hashed, written, encoded.rowCount + 1⟩

def encodePartitionRows (rows : List CursorRow) (iterErr : Fault) : Except GoError Encoded := do
  let encoded ← rows.foldlM encodeRow ⟨[], [], 0⟩
  wrapError "iterate partition rows: %w" (attempt iterErr (.ok encoded))

/-! ## What the loop writes -/

def Columns.line : Bytes := columns.scanned.marshal

variable (rows : List Columns) {encoded : Encoded}

def archiveText : Bytes :=
  rows.flatMap fun columns => columns.line ++ [lineFeed]

theorem encodeRow_eq_ok {next : Encoded} {row : CursorRow} :
    encodeRow encoded row = .ok next ↔
      (row.scanErr = none ∧ row.encodeErr = none) ∧
        next = ⟨encoded.hashed ++ (row.columns.line ++ [lineFeed]),
          encoded.written ++ (row.columns.line ++ [lineFeed]),
          encoded.rowCount + 1⟩ := by
  obtain ⟨columns, scanErr, encodeErr⟩ := row
  cases scanErr with
  | some => simp [encodeRow, scanAuditLogRow, wrapError, attempt,
      Except.mapError, bind, Except.bind]
  | none =>
    cases encodeErr with
    | some => simp [encodeRow, scanAuditLogRow, wrapError, attempt,
        Except.mapError, bind, Except.bind]
    | none =>
      simp [encodeRow, scanAuditLogRow, wrapError, attempt, Except.mapError, bind,
        Except.bind, pure, Except.pure, AuditLogRow.encode, Columns.line, eq_comm]

theorem foldlM_encodeRow_eq_ok {rows : List CursorRow} {last : Encoded} :
    rows.foldlM encodeRow encoded = .ok last ↔
      (∀ row ∈ rows, row.scanErr = none ∧ row.encodeErr = none) ∧
        last = ⟨encoded.hashed ++ archiveText (rows.map CursorRow.columns),
          encoded.written ++ archiveText (rows.map CursorRow.columns),
          encoded.rowCount + rows.length⟩ := by
  induction rows generalizing encoded with
  | nil => simp [archiveText, pure, Except.pure, eq_comm]
  | cons row rows ih =>
    have hcount : encoded.rowCount + 1 + rows.length = encoded.rowCount + (row :: rows).length := by
      rw [List.length_cons]
      omega
    have htext : ∀ bytes, bytes ++ (row.columns.line ++ [lineFeed]) ++
        archiveText (rows.map CursorRow.columns) =
          bytes ++ archiveText ((row :: rows).map CursorRow.columns) := by
      intro bytes
      rw [List.append_assoc]
      rfl
    rw [List.foldlM_cons, bind_eq_ok]
    simp only [encodeRow_eq_ok, ih, List.forall_mem_cons]
    constructor
    · rintro ⟨next, ⟨hrow, rfl⟩, hrows, rfl⟩
      rw [htext, htext, hcount]
      exact ⟨⟨hrow, hrows⟩, rfl⟩
    · rintro ⟨⟨hrow, hrows⟩, rfl⟩
      refine ⟨_, ⟨hrow, rfl⟩, hrows, ?_⟩
      rw [htext, htext, hcount]

theorem encodePartitionRows_eq_ok {rows : List CursorRow} {iterErr : Fault} :
    encodePartitionRows rows iterErr = .ok encoded ↔
      iterErr = none ∧
        (∀ row ∈ rows, row.scanErr = none ∧ row.encodeErr = none) ∧
        encoded = ⟨archiveText (rows.map CursorRow.columns),
          archiveText (rows.map CursorRow.columns), rows.length⟩ := by
  unfold encodePartitionRows
  rw [bind_eq_ok]
  simp only [wrapError_eq_ok, attempt_eq_ok, foldlM_encodeRow_eq_ok]
  simp only [List.nil_append, zero_add, Except.ok.injEq]
  constructor
  · rintro ⟨_, ⟨hrows, rfl⟩, hiter, rfl⟩
    exact ⟨hiter, hrows, rfl⟩
  · rintro ⟨hiter, hrows, rfl⟩
    exact ⟨_, ⟨hrows, rfl⟩, hiter, rfl⟩

theorem map_columns_clean : (rows.map CursorRow.clean).map CursorRow.columns = rows := by
  rw [List.map_map]
  exact List.map_id rows

theorem encodePartitionRows_clean :
    encodePartitionRows (rows.map CursorRow.clean) none =
      .ok ⟨archiveText rows, archiveText rows, rows.length⟩ := by
  rw [encodePartitionRows_eq_ok, map_columns_clean, List.length_map]
  refine ⟨rfl, ?_, rfl⟩
  simp [CursorRow.clean]

/-! ## What the text gives back -/

def Columns.withoutHashes : Columns :=
  { columns with prevHash := none, recordHash := none }

/-- The same in every column, but for the invalid bytes of the hashes. -/
structure Columns.Alike (columns other : Columns) : Prop where
  withoutHashes : columns.withoutHashes = other.withoutHashes
  prevHash : columns.prevHash.map runes = other.prevHash.map runes
  recordHash : columns.recordHash.map runes = other.recordHash.map runes

theorem text_utf8_inj {text other : String} :
    JsonValue.text (runes (utf8 text)) = .text (runes (utf8 other)) ↔ text = other := by
  rw [JsonValue.text.injEq]
  exact ⟨text_eq_of_runes, fun h => h ▸ rfl⟩

theorem map_runes_utf8_inj {text other : Option String} :
    (text.map utf8).map runes = (other.map utf8).map runes ↔ text = other := by
  simp only [Option.map_map]
  exact (Option.map_injective fun _ _ => text_eq_of_runes).eq_iff

theorem map_text_inj {bytes other : Option Bytes} :
    bytes.map (fun text => JsonValue.text (runes text)) =
      other.map (fun text => JsonValue.text (runes text)) ↔
      bytes.map runes = other.map runes := by
  have hmap : ∀ bytes : Option Bytes,
      bytes.map (fun text => JsonValue.text (runes text)) =
        (bytes.map runes).map JsonValue.text := by
    intro bytes
    rw [Option.map_map]
    rfl
  rw [hmap, hmap]
  exact (Option.map_injective fun _ _ => JsonValue.text.inj).eq_iff

theorem map_number_inj {number other : Option ℤ} :
    number.map JsonValue.number = other.map JsonValue.number ↔ number = other :=
  (Option.map_injective fun _ _ => JsonValue.number.inj).eq_iff

theorem text_rfc3339Nano_inj {time other : ℤ} :
    JsonValue.text (runes (rfc3339Nano (time * nanosecondsPerMicrosecond))) =
      .text (runes (rfc3339Nano (other * nanosecondsPerMicrosecond))) ↔
      time = other := by
  constructor
  · intro h
    have hvalid : ValidUtf8 (rfc3339Nano (other * nanosecondsPerMicrosecond)) :=
      .of_ascii fun _ => lt_of_mem_rfc3339Nano
    have hinstant := rfc3339Nano_injective (validUtf8_iff.mp hvalid _ (JsonValue.text.inj h))
    unfold nanosecondsPerMicrosecond at hinstant
    omega
  · rintro rfl
    rfl

theorem members_eq_iff {columns : Columns} :
    columns.scanned.members = other.scanned.members ↔ columns.Alike other := by
  simp only [AuditLogRow.members, Columns.scanned, List.cons.injEq, Prod.mk.injEq, true_and,
    and_true, Option.some.injEq, Option.map_some, text_utf8_inj, UUID.toText_injective.eq_iff,
    map_text_inj, map_runes_utf8_inj, map_number_inj, text_rfc3339Nano_inj, JsonValue.number.injEq]
  constructor
  · rintro ⟨hid, htenant, htype, hentity, haction, hactor, hchanges, hcreated,
      hseq, hprev, hrecord, hversion⟩
    refine ⟨?_, hprev, hrecord⟩
    simp only [Columns.withoutHashes, hid, htenant, htype, hentity, haction,
      hactor, hchanges, hcreated, hseq, hversion]
  · rintro ⟨hcolumns, hprev, hrecord⟩
    simp only [Columns.withoutHashes, Columns.mk.injEq, true_and] at hcolumns
    obtain ⟨hid, htenant, htype, hentity, haction, hactor, hchanges, hcreated,
      hseq, hversion⟩ := hcolumns
    exact ⟨hid, htenant, htype, hentity, haction, hactor, hchanges, hcreated,
      hseq, hprev, hrecord, hversion⟩

theorem line_eq_iff {columns : Columns} : columns.line = other.line ↔ columns.Alike other := by
  rw [← members_eq_iff]
  constructor
  · intro h
    have hpresent : present columns.scanned.members = present other.scanned.members :=
      encodeObject_delimited.injective trivial h
    apply present_inj _ _ hpresent
    · rw [AuditLogRow.members_names, AuditLogRow.members_names]
    · rw [AuditLogRow.members_names]
      exact fieldNames_nodup
  · intro h
    rw [Columns.line, Columns.line, AuditLogRow.marshal, AuditLogRow.marshal, h]

theorem Columns.Alike.refl : columns.Alike columns :=
  ⟨rfl, rfl, rfl⟩

theorem line_delimited : Delimited (fun _ => True)
    fun members : List (String × JsonValue) => encodeObject members ++ [lineFeed] := by
  intro members others rest rest' _ _ h
  simp only [List.append_assoc, List.singleton_append] at h
  obtain ⟨hmembers, htail⟩ := encodeObject_delimited trivial trivial h
  exact ⟨hmembers, (List.cons.inj htail).2⟩

theorem archiveText_eq_iff {rows others : List Columns} :
    archiveText rows = archiveText others ↔ List.Forall₂ Columns.Alike rows others := by
  have htext : ∀ rows, archiveText rows =
      (rows.map fun columns => present columns.scanned.members).flatMap
        fun members => encodeObject members ++ [lineFeed] := by
    intro rows
    rw [List.flatMap_map]
    rfl
  constructor
  · intro h
    rw [htext, htext] at h
    have hmembers := line_delimited.flatMap_injective (fun _ => by simp) h
    rw [← List.forall₂_eq_eq_eq, List.forall₂_map_left_iff, List.forall₂_map_right_iff] at hmembers
    apply hmembers.imp
    intro columns other hpresent
    apply line_eq_iff.mp
    rw [Columns.line, Columns.line, AuditLogRow.marshal, AuditLogRow.marshal, hpresent]
  · intro h
    induction h with
    | nil => rfl
    | cons hcolumns _ ih =>
      simp only [archiveText, List.flatMap_cons] at ih ⊢
      rw [line_eq_iff.mpr hcolumns, ih]

/-! ## Archives that give back their rows -/

def ArchivedAs (bytes : Bytes) : Prop :=
  ∃ cursor iterErr encoded, cursor.map CursorRow.columns = rows ∧
    encodePartitionRows cursor iterErr = .ok encoded ∧ encoded.written = bytes

theorem archivedAs_iff {rows : List Columns} {bytes : Bytes} :
    ArchivedAs rows bytes ↔ archiveText rows = bytes := by
  constructor
  · rintro ⟨cursor, iterErr, encoded, rfl, hencoded, rfl⟩
    obtain ⟨-, -, rfl⟩ := encodePartitionRows_eq_ok.mp hencoded
    rfl
  · rintro rfl
    refine ⟨rows.map CursorRow.clean, none, _, map_columns_clean rows,
      encodePartitionRows_clean rows, rfl⟩

structure Columns.HashesReadable (columns : Columns) : Prop where
  prevHash : ∀ hash ∈ columns.prevHash, ValidUtf8 hash
  recordHash : ∀ hash ∈ columns.recordHash, ValidUtf8 hash

theorem map_runes_unique_iff {hash : Option Bytes} :
    (∀ other, other.map runes = hash.map runes → other = hash) ↔
      ∀ bytes ∈ hash, ValidUtf8 bytes := by
  cases hash with
  | none => simp
  | some =>
    simp only [Option.mem_def, Option.some.injEq, forall_eq', validUtf8_iff]
    constructor
    · intro hunique other hrunes
      exact Option.some.inj (hunique (some other) (congrArg some hrunes))
    · intro hunique other hrunes
      obtain ⟨text, rfl, hruns⟩ := Option.map_eq_some_iff.mp hrunes
      rw [hunique text hruns]

theorem Columns.alike_unique_iff {columns : Columns} :
    (∀ other : Columns, other.Alike columns → other = columns) ↔ columns.HashesReadable := by
  constructor
  · intro hunique
    refine ⟨map_runes_unique_iff.mp ?_, map_runes_unique_iff.mp ?_⟩
    · intro other hother
      have hsame := hunique { columns with prevHash := other } ⟨rfl, hother, rfl⟩
      exact congrArg Columns.prevHash hsame
    · intro other hother
      have hsame := hunique { columns with recordHash := other } ⟨rfl, rfl, hother⟩
      exact congrArg Columns.recordHash hsame
  · rintro ⟨hprev, hrecord⟩ other ⟨hcolumns, hother, hother'⟩
    have hprev := map_runes_unique_iff.mpr hprev _ hother
    have hrecord := map_runes_unique_iff.mpr hrecord _ hother'
    calc other
        = { other.withoutHashes with
            prevHash := other.prevHash, recordHash := other.recordHash } := rfl
      _ = { columns.withoutHashes with
            prevHash := columns.prevHash, recordHash := columns.recordHash } := by
          rw [hcolumns, hprev, hrecord]

theorem forall₂_unique_iff {α : Type} {related : α → α → Prop}
    (hrefl : ∀ value, related value value) {values : List α} :
    (∀ others, List.Forall₂ related others values → others = values) ↔
      ∀ value ∈ values, ∀ other, related other value → other = value := by
  induction values with
  | nil => simp
  | cons value values ih =>
    rw [List.forall_mem_cons, ← ih]
    constructor
    · intro hunique
      constructor
      · intro other hother
        have hsame := hunique (other :: values)
          (.cons hother (List.forall₂_same.mpr fun value _ => hrefl value))
        exact (List.cons.inj hsame).1
      · intro others hothers
        exact (List.cons.inj (hunique (value :: others) (.cons (hrefl value) hothers))).2
    · rintro ⟨hvalue, hvalues⟩ others hothers
      cases hothers with
      | cons hother hothers => rw [hvalue _ hother, hvalues _ hothers]

/-- An archive gives back its rows exactly when all of their hashes are valid
UTF-8. -/
theorem archive_determines_rows_iff :
    (∀ others bytes, ArchivedAs rows bytes → ArchivedAs others bytes → others = rows) ↔
      ∀ columns ∈ rows, columns.HashesReadable := by
  have hrows : (∀ others bytes, ArchivedAs rows bytes → ArchivedAs others bytes → others = rows) ↔
      ∀ others, List.Forall₂ Columns.Alike others rows → others = rows := by
    simp only [archivedAs_iff, ← archiveText_eq_iff]
    constructor
    · intro hunique others hothers
      exact hunique others _ rfl hothers
    · rintro hunique others _ rfl hothers
      exact hunique others hothers
  rw [hrows, forall₂_unique_iff Columns.Alike.refl]
  simp only [Columns.alike_unique_iff]

def hashedRow (first : UInt8) : Columns where
  id := ⟨1⟩
  tenantID := ⟨2⟩
  entityType := "reconciliation_context"
  entityID := ⟨3⟩
  action := "CREATE"
  actorID := none
  changes := "\x7b\x7d"
  createdAt := 0
  tenantSeq := some 1
  prevHash := some (List.replicate 32 0)
  recordHash := some (first :: List.replicate 31 0)
  hashVersion := 1

/-- Two record hashes that differ, and one archive for both. -/
theorem hashes_lost_in_archive :
    ∃ bytes, ArchivedAs [hashedRow 0x80] bytes ∧
      ArchivedAs [hashedRow 0x81] bytes ∧
      [hashedRow 0x80] ≠ [hashedRow 0x81] := by
  refine ⟨archiveText [hashedRow 0x80], archivedAs_iff.mpr rfl,
    archivedAs_iff.mpr (archiveText_eq_iff.mpr (.cons ?_ .nil)), by decide⟩
  exact ⟨rfl, rfl, by decide +kernel⟩

end Matcher.Governance.Archival
