import Matcher.Command.Store
import Matcher.Governance.AuditLog

/-!
# Writers of the audit log

Each writer runs in a transaction of its own, one statement at a time, and a
transaction sees the committed rows and its own.  Who increments the sequence of
a tenant holds the row of that tenant until the end of the transaction.  Callers
roll a transaction back when a call in it fails.
-/

namespace Matcher.Governance

open Foundation
open Command (Fault attempt errNoRows)

def errPreviousRecordNotFound : GoError :=
  .sentinel ⟨"ErrPreviousRecordNotFound", "previous record not found"⟩

def rowsOf (tenantID : UUID) (rows : List AuditLogRow) : List AuditLogRow :=
  rows.filter (·.tenantID = tenantID)

/-! ## Transactions -/

inductive Phase
  | idle
  | locking (log : PreparedLog)
  | acquiring (log : PreparedLog)
  | reading (log : PreparedLog) (tenantSeq : ℤ)
  | inserting (log : PreparedLog) (tenantSeq : ℤ) (prevHash : Bytes)

/-- What a transaction has written, and what its last call returned. -/
structure Transaction where
  phase : Phase
  rows : List AuditLogRow
  nextSeq : UUID → Option ℤ
  returned : Option (Except GoError AuditLog)

def Transaction.fresh (returned : Option (Except GoError AuditLog)) : Transaction where
  phase := .idle
  rows := []
  nextSeq _ := none
  returned := returned

structure Database (κ : Type) where
  rows : List AuditLogRow
  nextSeq : UUID → Option ℤ
  holder : UUID → Option κ
  transaction : κ → Transaction

inductive Label (κ : Type)
  | create (session : κ) (contextTenantID : Except GoError UUID) (log : CheckedLog)
  | statement (session : κ) (fault : Fault)
  | commit (session : κ)
  | rollback (session : κ)

variable {κ : Type} [DecidableEq κ]

namespace Database

def initial : Database κ where
  rows := []
  nextSeq _ := none
  holder _ := none
  transaction _ := .fresh none

variable (db : Database κ) (session : κ)

def visibleRows : List AuditLogRow :=
  db.rows ++ (db.transaction session).rows

def visibleSeq (tenantID : UUID) : Option ℤ :=
  ((db.transaction session).nextSeq tenantID).or (db.nextSeq tenantID)

def HeldByOther (tenantID : UUID) : Prop :=
  ∃ holder ∈ db.holder tenantID, holder ≠ session

instance (db : Database κ) (session : κ) (tenantID : UUID) :
    Decidable (db.HeldByOther session tenantID) :=
  inferInstanceAs (Decidable (∃ holder ∈ db.holder tenantID, _))

def put (transaction : Transaction) : Database κ :=
  { db with transaction := Function.update db.transaction session transaction }

def goto (phase : Phase) : Database κ :=
  db.put session { db.transaction session with phase := phase }

def hold (tenantID : UUID) : Database κ :=
  { db with holder := Function.update db.holder tenantID (some session) }

def release : Database κ :=
  { db with
    holder := fun tenantID =>
      if db.holder tenantID = some session then none else db.holder tenantID }

def rollback (returned : Option (Except GoError AuditLog)) : Database κ :=
  (db.put session (.fresh returned)).release session

/-- A transaction is committed between the calls that run in it. -/
def commit : Database κ :=
  match (db.transaction session).phase with
  | .idle =>
    ({ db with rows := db.visibleRows session, nextSeq := db.visibleSeq session }.put session
        (.fresh (db.transaction session).returned)).release session
  | _ => db

/-! ## The statements of a call -/

def fail (cause : GoError) : Database κ :=
  db.rollback session (some (.error cause))

/-- `SELECT … FOR UPDATE`: a row that another transaction has only just inserted
is not seen, and one that is held is waited for. -/
def lockChainState (fault : Fault) (log : PreparedLog) : Database κ :=
  match attempt fault (match db.visibleSeq session log.tenantID with
    | none => .error errNoRows
    | some _ => .ok ()) with
  | .ok () =>
    if db.HeldByOther session log.tenantID then db
    else (db.hold session log.tenantID).goto session (.acquiring log)
  | .error cause =>
    if cause.Is errNoRows then db.goto session (.acquiring log)
    else
      db.fail session (.wrap "acquire sequence: %w" [] (.wrap "lock chain state: %w" [] cause))

/-- The upsert: the first number is one, and the row holds the one after. -/
def upsertChainState : Option ℤ → ℤ
  | none => 2
  | some nextSeq => nextSeq + 1

def acquireNextSequence (fault : Fault) (log : PreparedLog) : Database κ :=
  match fault with
  | some cause =>
    db.fail session (.wrap "acquire sequence: %w" [] (.wrap "upsert chain state: %w" [] cause))
  | none =>
    if db.HeldByOther session log.tenantID then db
    else
      let nextSeq := upsertChainState (db.visibleSeq session log.tenantID)
      let transaction := db.transaction session
      (db.hold session log.tenantID).put session { transaction with
        phase := .reading log (nextSeq - 1)
        nextSeq :=
          Function.update transaction.nextSeq log.tenantID (some nextSeq) }

def getPreviousHash (fault : Fault) (tenantID : UUID) (currentSeq : ℤ) : Except GoError Bytes :=
  if currentSeq = 1 then .ok genesisHash
  else
    match attempt fault (match (db.visibleRows session).find? (fun row =>
        row.tenantID = tenantID ∧ row.tenantSeq = currentSeq - 1) with
      | none => .error errNoRows
      | some row => .ok row.recordHash) with
    | .ok prevHash => .ok prevHash
    | .error cause =>
      if cause.Is errNoRows then
        .error (.wrap "%w: seq %d" [toString (currentSeq - 1)] errPreviousRecordNotFound)
      else .error (.wrap "query previous hash: %w" [] cause)

end Database

/-- The hash and the insertion of a record, up to the row that is stored. -/
def insertRecord (hashing : Hashing) (fault : Fault) (log : PreparedLog)
    (tenantSeq : ℤ) (prevHash : Bytes) : Except GoError AuditLogRow := do
  let recordHash ← wrapError "compute record hash: %w"
    (computeRecordHash hashing prevHash (log.toAuditLog.recordData tenantSeq))
  wrapError "scanning audit log: %w"
    (attempt fault (insertRow log.toAuditLog tenantSeq prevHash recordHash))

namespace Database

def append (db : Database κ) (session : κ) (row : AuditLogRow) : Database κ :=
  let transaction := db.transaction session
  db.put session { transaction with
    phase := .idle
    rows := transaction.rows ++ [row]
    returned := some (.ok (scanAuditLog row)) }

def statement (hashing : Hashing) (db : Database κ) (session : κ) (fault : Fault) : Database κ :=
  match (db.transaction session).phase with
  | .idle => db
  | .locking log => db.lockChainState session fault log
  | .acquiring log => db.acquireNextSequence session fault log
  | .reading log tenantSeq =>
    match db.getPreviousHash session fault log.tenantID tenantSeq with
    | .error cause => db.fail session (.wrap "get previous hash: %w" [] cause)
    | .ok prevHash => db.goto session (.inserting log tenantSeq prevHash)
  | .inserting log tenantSeq prevHash =>
    match insertRecord hashing fault log tenantSeq prevHash with
    | .error cause => db.fail session cause
    | .ok row => db.append session row

/-- A call starts when the one before it in the same transaction is over. -/
def executeCreate (db : Database κ) (session : κ)
    (contextTenantID : Except GoError UUID) (log : CheckedLog) : Database κ :=
  match (db.transaction session).phase with
  | .idle => db.goto session (.locking (log.prepare contextTenantID))
  | _ => db

def step (hashing : Hashing) (db : Database κ) : Label κ → Database κ
  | .create session contextTenantID log => db.executeCreate session contextTenantID log
  | .statement session fault => db.statement hashing session fault
  | .commit session => db.commit session
  | .rollback session => db.rollback session (db.transaction session).returned

def readChainByTenantSeq (db : Database κ) (tenantID : UUID) : List AuditLog :=
  ((rowsOf tenantID db.rows).insertionSort
    (fun row other => row.tenantSeq ≤ other.tenantSeq)).map scanAuditLog

end Database

end Matcher.Governance
