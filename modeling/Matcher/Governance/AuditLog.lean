import Matcher.Governance.HashChain

/-!
# Audit logs and their rows

An audit log carries the bounds on its texts that its constructor checks, so the
columns of its table hold them.  A row that is read back has the data that its
hash was computed from: the columns keep the texts, the bytes of the changes, and
the timestamp to the microsecond.
-/

namespace Matcher.Governance

open Foundation

/-! ## Audit logs -/

def maxEntityTypeLength : ℕ := 50

def maxActionLength : ℕ := 50

def maxActorIDLength : ℕ := 255

structure AuditLog where
  id : UUID
  tenantID : UUID
  entityType : String
  entityID : UUID
  action : String
  actorID : Option String
  changes : Bytes
  createdAt : Timestamp
  tenantSeq : ℤ
  prevHash : Bytes
  recordHash : Bytes
  hashVersion : ℤ
deriving DecidableEq, Repr

/-- The lengths, in bytes, that the constructor checks. -/
structure AuditLog.Fits (log : AuditLog) : Prop where
  entityType : log.entityType.utf8ByteSize ≤ maxEntityTypeLength
  action : log.action.utf8ByteSize ≤ maxActionLength
  actorID : ∀ actorID ∈ log.actorID, actorID.utf8ByteSize ≤ maxActorIDLength

structure CheckedLog extends AuditLog where
  fits : toAuditLog.Fits

/-! ## Before the record is hashed -/

def Timestamp.truncate (time : Timestamp) (unit : ℤ) : Timestamp :=
  ⟨time.instant - time.instant % unit, time.zone⟩

def microsecond : ℤ := 1000

/-- A log whose timestamp is as precise as the column that will hold it. -/
structure PreparedLog extends CheckedLog where
  truncated : createdAt.instant % microsecond = 0

/-- The tenant of the context comes first, if it can be had. -/
def CheckedLog.prepare (log : CheckedLog) (contextTenantID : Except GoError UUID) :
    PreparedLog where
  toAuditLog := { log.toAuditLog with
    tenantID := match contextTenantID with
      | .ok tenantID => tenantID
      | .error _ => log.tenantID
    createdAt := log.createdAt.truncate microsecond }
  fits := ⟨log.fits.entityType, log.fits.action, log.fits.actorID⟩
  truncated := by
    show (_ - _ % microsecond) % microsecond = 0
    exact Int.emod_eq_zero_of_dvd (Int.dvd_self_sub_emod)

def AuditLog.recordData (log : AuditLog) (tenantSeq : ℤ) : RecordData where
  id := log.id
  tenantID := log.tenantID
  tenantSeq := tenantSeq
  entityType := log.entityType
  entityID := log.entityID
  action := log.action
  actorID := log.actorID
  changes := log.changes
  createdAt := log.createdAt
  hashVersion := Governance.hashVersion

/-! ## Rows -/

/-- A row of `audit_logs`, with the timestamp in microseconds. -/
structure AuditLogRow where
  id : UUID
  tenantID : UUID
  entityType : String
  entityID : UUID
  action : String
  actorID : Option String
  changes : Bytes
  createdAt : ℤ
  tenantSeq : ℤ
  prevHash : Bytes
  recordHash : Bytes
  hashVersion : ℤ
deriving DecidableEq, Repr

def errValueTooLong : GoError :=
  .sentinel ⟨"StringDataRightTruncation", "value too long for type character varying"⟩

/-- A `VARCHAR` column: excess spaces are cut off, other excess is refused. -/
def varchar (limit : ℕ) (text : String) : Except GoError String :=
  if text.length ≤ limit then .ok text
  else if (text.toList.drop limit).all (· = ' ') then
    .ok (String.ofList (text.toList.take limit))
  else .error errValueTooLong

def insertRow (log : AuditLog) (tenantSeq : ℤ) (prevHash recordHash : Bytes) :
    Except GoError AuditLogRow := do
  let entityType ← varchar 50 log.entityType
  let action ← varchar 50 log.action
  let actorID ← log.actorID.mapM (varchar 255)
  return {
    id := log.id
    tenantID := log.tenantID
    entityType := entityType
    entityID := log.entityID
    action := action
    actorID := actorID
    changes := log.changes
    createdAt := log.createdAt.instant / microsecond
    tenantSeq := tenantSeq
    prevHash := prevHash
    recordHash := recordHash
    hashVersion := hashVersion }

def scanAuditLog (row : AuditLogRow) : AuditLog where
  id := row.id
  tenantID := row.tenantID
  entityType := row.entityType
  entityID := row.entityID
  action := row.action
  actorID := row.actorID
  changes := row.changes
  createdAt := ⟨row.createdAt * microsecond, Zone.utc⟩
  tenantSeq := row.tenantSeq
  prevHash := row.prevHash
  recordHash := row.recordHash
  hashVersion := row.hashVersion

def auditLogToChainRecord (log : AuditLog) : ChainRecord where
  tenantSeq := log.tenantSeq
  prevHash := log.prevHash
  recordHash := log.recordHash
  hashVersion := log.hashVersion
  data := { log.recordData log.tenantSeq with hashVersion := log.hashVersion }

def AuditLogRow.chainRecord (row : AuditLogRow) : ChainRecord :=
  auditLogToChainRecord (scanAuditLog row)

/-! ## What the columns keep -/

theorem varchar_of_fits {limit : ℕ} {text : String} (hfits : text.utf8ByteSize ≤ limit) :
    varchar limit text = .ok text :=
  if_pos ((length_le_utf8ByteSize text).trans hfits)

theorem PreparedLog.insertRow_eq (log : PreparedLog) (tenantSeq : ℤ) (prevHash recordHash : Bytes) :
    insertRow log.toAuditLog tenantSeq prevHash recordHash = .ok {
      id := log.id
      tenantID := log.tenantID
      entityType := log.entityType
      entityID := log.entityID
      action := log.action
      actorID := log.actorID
      changes := log.changes
      createdAt := log.createdAt.instant / microsecond
      tenantSeq := tenantSeq
      prevHash := prevHash
      recordHash := recordHash
      hashVersion := hashVersion } := by
  have htype : varchar 50 log.entityType = .ok log.entityType := varchar_of_fits log.fits.entityType
  have haction : varchar 50 log.action = .ok log.action := varchar_of_fits log.fits.action
  have hactor : log.actorID.mapM (varchar 255) = .ok log.actorID := by
    cases hlog : log.actorID with
    | none => rfl
    | some actorID =>
      have hactor : varchar 255 actorID = .ok actorID :=
        varchar_of_fits (log.fits.actorID actorID hlog)
      rw [Option.mapM_some, hactor]
      rfl
  unfold insertRow
  rw [htype, haction, hactor]
  rfl

theorem computeRecordHash_congr {hashing : Hashing} {record other : RecordData}
    (h : record.normalized = other.normalized) (prevHash : Bytes) :
    computeRecordHash hashing prevHash record = computeRecordHash hashing prevHash other := by
  unfold computeRecordHash
  rw [h]

theorem PreparedLog.insertRow_sealed {hashing : Hashing} {log : PreparedLog} {tenantSeq : ℤ}
    {prevHash recordHash : Bytes} {row : AuditLogRow} (hhash : computeRecordHash hashing prevHash
      (log.toAuditLog.recordData tenantSeq) = .ok recordHash)
    (hrow : insertRow log.toAuditLog tenantSeq prevHash recordHash = .ok row) :
    row.tenantID = log.tenantID ∧ row.tenantSeq = tenantSeq ∧
      row.prevHash = prevHash ∧ row.chainRecord.Sealed hashing := by
  rw [log.insertRow_eq] at hrow
  cases hrow
  refine ⟨rfl, rfl, rfl, ?_⟩
  have hinstant : log.createdAt.instant / microsecond * microsecond = log.createdAt.instant :=
    Int.ediv_mul_cancel (Int.dvd_of_emod_eq_zero log.truncated)
  show computeRecordHash hashing prevHash _ = .ok recordHash
  rw [← hhash]
  apply computeRecordHash_congr
  simp [RecordData.normalized, Timestamp.utc, AuditLogRow.chainRecord,
    auditLogToChainRecord, scanAuditLog, AuditLog.recordData, hinstant]

end Matcher.Governance
