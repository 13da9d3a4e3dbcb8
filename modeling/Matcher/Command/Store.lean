import Matcher.Command.Entities
import Matcher.Foundation.Table

/-!
# The stored rows of a context

The tables that the matching commands read and write, for one reconciliation
context, and the repository operations on them.  None of the updates has a
condition on the status that it overwrites.  A write that fails leaves the tables
as they were.
-/

namespace Matcher.Command

open Foundation

inductive OutboxEvent
  | matchConfirmed (groupID : UUID)
  | matchUnmatched (groupID : UUID)
deriving DecidableEq, Repr

structure Db where
  transactions : Table Transaction.id
  runs : Table MatchRun.id
  groups : Table MatchGroup.id
  items : List MatchItem
  outbox : List OutboxEvent

/-- An error that the database answers a call with, if it does. -/
abbrev Fault := Option GoError

def attempt {α : Type} (fault : Fault) (result : Except GoError α) : Except GoError α :=
  match fault with
  | some cause => .error cause
  | none => result

theorem attempt_eq_ok {α : Type} {fault : Fault} {result : Except GoError α} {value : α} :
    attempt fault result = .ok value ↔ fault = none ∧ result = .ok value := by
  cases fault with
  | none | some => simp [attempt]

def errDuplicateKey : GoError :=
  .sentinel ⟨"unique_violation", "duplicate key value violates unique constraint"⟩

def errNoRows : GoError :=
  .sentinel ⟨"sql.ErrNoRows", "sql: no rows in result set"⟩

/-! ## Transactions -/

def inWindow (startDate endDate : Option Matching.Instant) (tx : Transaction) : Bool :=
  (startDate.all fun first => first ≤ tx.date) && endDate.all fun last => tx.date ≤ last

/-- By date and then by id, as the query orders its rows. -/
def candidateLess (first second : Transaction) : Bool :=
  first.date < second.date ||
    (first.date = second.date && first.id.value.toNat < second.id.value.toNat)

variable (db : Db) {db' : Db} {run : MatchRun}

def Db.listUnmatchedByContext (startDate endDate : Option Matching.Instant) (limit : ℕ) :
    List Transaction :=
  (stableSort candidateLess (db.transactions.rows.filter fun tx =>
    tx.extractionStatus = .complete && tx.status = .unmatched &&
      inWindow startDate endDate tx)).take limit

def Db.findByContextAndIDs (transactionIDs : List UUID) : List Transaction :=
  db.transactions.rows.filter fun tx => tx.id ∈ transactionIDs

def setStatus (transactionIDs : List UUID) (status : TransactionStatus) (tx : Transaction) :
    Transaction :=
  if tx.id ∈ transactionIDs then { tx with status := status } else tx

@[simp] theorem setStatus_id (transactionIDs : List UUID) (status : TransactionStatus)
    (tx : Transaction) : (setStatus transactionIDs status tx).id = tx.id := by
  unfold setStatus
  split <;> rfl

theorem setStatus_status (transactionIDs : List UUID)
    (status : TransactionStatus) (tx : Transaction) :
    (setStatus transactionIDs status tx).status =
      if tx.id ∈ transactionIDs then status else tx.status := by
  unfold setStatus
  split <;> rfl

def Db.AllUnmatched (transactionIDs : List UUID) : Prop :=
  ∀ id ∈ transactionIDs, ∃ tx ∈ db.transactions.rows, tx.id = id ∧ tx.status = .unmatched

instance (db : Db) (transactionIDs : List UUID) : Decidable (db.AllUnmatched transactionIDs) :=
  inferInstanceAs (Decidable (∀ id ∈ transactionIDs, _))

/-- The status update of the given rows, whatever their status was. -/
def Db.markStatus (transactionIDs : List UUID) (status : TransactionStatus) : Db :=
  { db with
    transactions := db.transactions.modify (setStatus transactionIDs status)
      (setStatus_id transactionIDs status) }

theorem Db.mem_markStatus {db : Db} {transactionIDs : List UUID} {status : TransactionStatus}
    {tx' : Transaction} (h : tx' ∈ (db.markStatus transactionIDs status).transactions.rows) :
    ∃ tx ∈ db.transactions.rows, tx'.id = tx.id ∧
      tx'.status = if tx.id ∈ transactionIDs then status else tx.status := by
  obtain ⟨tx, htx, rfl⟩ := List.mem_map.mp h
  exact ⟨tx, htx, setStatus_id _ _ _, setStatus_status _ _ _⟩

theorem Db.markStatus_nil (status : TransactionStatus) : db.markStatus [] status = db := by
  have hsame : ∀ tx, setStatus [] status tx = tx := fun _ =>
    if_neg List.not_mem_nil
  unfold Db.markStatus
  rw [Table.modify_of_eq _ hsame]

/-! ## Groups, items and runs -/

/-- The items of a group are stored in their own table. -/
def MatchGroup.row (group : MatchGroup) : MatchGroup :=
  { group with items := [] }

def Db.createGroups (groups : List MatchGroup) : Except GoError Db :=
  match db.groups.insertAll (groups.map MatchGroup.row) with
  | none => .error errDuplicateKey
  | some table => .ok { db with groups := table }

def Db.createItems (items : List MatchItem) : Db :=
  { db with items := db.items ++ items }

def Db.listItems (groupID : UUID) : List MatchItem :=
  db.items.filter fun item => item.matchGroupID = groupID

def updateGroupRow (group row : MatchGroup) : MatchGroup :=
  if row.id = group.id then
    { row with status := group.status, rejectedReason := group.rejectedReason }
  else row

@[simp] theorem updateGroupRow_id (group row : MatchGroup) :
    (updateGroupRow group row).id = row.id := by
  unfold updateGroupRow
  split <;> rfl

def Db.updateGroup (group : MatchGroup) : Except GoError Db :=
  match db.groups.find? group.id with
  | none => .error errNoRows
  | some _ =>
    .ok { db with groups := db.groups.modify (updateGroupRow group) (updateGroupRow_id group) }

def Db.createRun (run : MatchRun) : Except GoError Db :=
  match db.runs.insertAll [run] with
  | none => .error errDuplicateKey
  | some table => .ok { db with runs := table }

def updateRunRow (run row : MatchRun) : MatchRun :=
  if row.id = run.id then
    { row with status := run.status, stats := run.stats, failureReason := run.failureReason }
  else row

@[simp] theorem updateRunRow_id (run row : MatchRun) : (updateRunRow run row).id = row.id := by
  unfold updateRunRow
  split <;> rfl

def Db.updateRun (run : MatchRun) : Except GoError Db :=
  match db.runs.find? run.id with
  | none => .error errNoRows
  | some _ =>
    .ok { db with runs := db.runs.modify (updateRunRow run) (updateRunRow_id run) }

def confirmedEvents (groups : List MatchGroup) : List OutboxEvent :=
  (groups.filter fun group => group.status = .confirmed).map fun group =>
    .matchConfirmed group.id

def Db.enqueue (events : List OutboxEvent) : Db :=
  { db with outbox := db.outbox ++ events }

/-! ## What the operations leave alone -/

theorem Db.createGroups_eq_ok {db : Db} {groups : List MatchGroup}
    (h : db.createGroups groups = .ok db') :
    ∃ table, db.groups.insertAll (groups.map MatchGroup.row) = some table ∧
      db' = { db with groups := table } := by
  unfold Db.createGroups at h
  split at h
  · cases h
  next table htable =>
  exact ⟨table, htable, (Except.ok.inj h).symm⟩

theorem Db.createRun_eq_ok {db : Db} (h : db.createRun run = .ok db') :
    ∃ table, db.runs.insertAll [run] = some table ∧ db' = { db with runs := table } := by
  unfold Db.createRun at h
  split at h
  · cases h
  next table htable =>
  exact ⟨table, htable, (Except.ok.inj h).symm⟩

theorem Db.updateRun_eq_ok {db : Db} (h : db.updateRun run = .ok db') :
    db' = { db with runs := db.runs.modify (updateRunRow run) (updateRunRow_id run) } := by
  unfold Db.updateRun at h
  split at h
  · cases h
  · exact (Except.ok.inj h).symm

theorem Db.updateGroup_eq_ok {db : Db} {group : MatchGroup} (h : db.updateGroup group = .ok db') :
    db' = { db with
      groups := db.groups.modify (updateGroupRow group) (updateGroupRow_id group) } := by
  unfold Db.updateGroup at h
  split at h
  · cases h
  · exact (Except.ok.inj h).symm

end Matcher.Command
