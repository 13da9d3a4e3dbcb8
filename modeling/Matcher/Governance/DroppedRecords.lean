import Matcher.Governance.ArchivalWorker
import Matcher.Governance.AuditChain

/-!
# Records in dropped partitions

A call reads the hash of the record before its own from the table that archival
drops partitions from.  So a tenant whose last record was dropped can append nothing
more.
-/

namespace Matcher.Governance

open Foundation
open Command (attempt errNoRows)
open Matching (Instant)

/-! ## Calls and drops, one after the other -/

def partitionName (createdAt : ℤ) : String :=
  let date := Date.ofDays (createdAt * microsecond / nanosecondsPerDay)
  "audit_logs_" ++ Archival.paddedNumber 4 date.year ++ "_" ++ Archival.paddedNumber 2 date.month

namespace Database

/-- A call in a transaction of its own, when nothing else runs and nothing fails. -/
def createAlone (hashing : Hashing) (db : Database Unit)
    (contextTenantID : Except GoError UUID) (log : CheckedLog) : Database Unit :=
  let run (db : Database Unit) := statement hashing db () none
  (run (run (run (run (db.executeCreate () contextTenantID log))))).commit ()

/-- What the last transaction of an archival removes. -/
def dropPartition (db : Database Unit) (name : String) (now : Instant) : Database Unit :=
  let (detached, _) := Archival.detachPartitionWithTx ⟨.attached, false⟩ name now none
  let (dropped, _) := Archival.dropPartitionWithTx detached name now none
  if dropped.table = .absent then
    { db with rows := db.rows.filter fun row => partitionName row.createdAt ≠ name }
  else db

structure AtRest (db : Database Unit) : Prop where
  transaction : ∃ returned, db.transaction () = .fresh returned
  holder : db.holder = fun _ => none

def returning (db : Database Unit) (result : Except GoError AuditLog) : Database Unit :=
  db.put () (.fresh (some result))

def createdRow (hashing : Hashing) (db : Database Unit) (log : PreparedLog) :
    Except GoError AuditLogRow := do
  let tenantSeq := upsertChainState (db.nextSeq log.tenantID) - 1
  let prevHash ← wrapError "get previous hash: %w"
    (db.getPreviousHash () none log.tenantID tenantSeq)
  insertRecord hashing none log tenantSeq prevHash

variable {hashing : Hashing} {db : Database Unit}

attribute [local simp] executeCreate statement lockChainState acquireNextSequence HeldByOther hold
  visibleRows visibleSeq append fail rollback release commit goto put returning Transaction.fresh
  attempt wrapError Except.mapError bind Except.bind

theorem createAlone_eq (hrest : db.AtRest) (contextTenantID : Except GoError UUID)
    (log : CheckedLog) :
    let prepared := log.prepare contextTenantID
    db.createAlone hashing contextTenantID log =
      match db.createdRow hashing prepared with
      | .error cause => db.returning (.error cause)
      | .ok row => { db with
          rows := db.rows ++ [row]
          nextSeq := Function.update db.nextSeq prepared.tenantID
            (some (upsertChainState (db.nextSeq prepared.tenantID))) }.returning
              (.ok (scanAuditLog row)) := by
  intro prepared
  obtain ⟨returned, hfresh⟩ := hrest.transaction
  have hnoRows : errNoRows.Is errNoRows := by decide
  have hreleased : ∀ holder : UUID → Option Unit, (fun tenantID =>
      if holder tenantID = some () then none else holder tenantID) = fun _ => none := by
    intro holder
    funext tenantID
    cases holder tenantID <;> simp
  have hread : ∀ holder transaction, (transaction ()).rows = [] →
      getPreviousHash ⟨db.rows, db.nextSeq, holder, transaction⟩ () none =
        db.getPreviousHash () none := by
    intro holder transaction hrows
    simp [funext_iff, getPreviousHash, hrows, hfresh]
  have hacquired : statement hashing (statement hashing
      (db.executeCreate () contextTenantID log) () none) () none =
      (db.hold () prepared.tenantID).put () { Transaction.fresh returned with
        phase := .reading prepared (upsertChainState (db.nextSeq prepared.tenantID) - 1)
        nextSeq := Function.update (fun _ => none) prepared.tenantID
          (some (upsertChainState (db.nextSeq prepared.tenantID))) } := by
    cases hseq : db.nextSeq prepared.tenantID <;>
      simp [hfresh, prepared, hseq, hnoRows, hrest.holder]
  simp only [createAlone, hacquired, createdRow]
  cases hprev : db.getPreviousHash () none prepared.tenantID
      (upsertChainState (db.nextSeq prepared.tenantID) - 1) with
  | error cause => simp [hread, hprev, hreleased, hrest.holder, funext_iff]
  | ok prevHash =>
    cases hrow : insertRecord hashing none prepared
        (upsertChainState (db.nextSeq prepared.tenantID) - 1) prevHash <;>
      simp [hread, hprev, hrow, hreleased, hrest.holder, funext_iff]
    intro tenantID
    by_cases htenant : tenantID = prepared.tenantID <;> simp [htenant]

end Database

/-! ## Histories -/

inductive Event
  | append (contextTenantID : Except GoError UUID) (log : CheckedLog)
  | drop (name : String) (now : Instant)

structure History where
  db : Database Unit
  written : List AuditLogRow

namespace History

def initial : History := ⟨.initial, []⟩

def step (hashing : Hashing) (history : History) : Event → History
  | .append contextTenantID log =>
    let db := history.db.createAlone hashing contextTenantID log
    ⟨db, history.written ++ db.rows.drop history.db.rows.length⟩
  | .drop name now => { history with db := history.db.dropPartition name now }

def chain (history : History) (tenantID : UUID) : List AuditLogRow :=
  rowsOf tenantID history.written

/-- One more call succeeds, with the next number of its tenant and linked to the
last record of its tenant. -/
def Continues (hashing : Hashing) (history : History)
    (contextTenantID : Except GoError UUID) (log : CheckedLog) : Prop :=
  let chain := history.chain (log.prepare contextTenantID).tenantID
  ∃ created, ((history.db.createAlone hashing contextTenantID log).transaction
      ()).returned = some (.ok created) ∧
    created.tenantSeq = chain.length + 1 ∧ created.prevHash = nextPrevHash chain ∧
    (auditLogToChainRecord created).Sealed hashing

/-- The tenant has no record yet, or its last one is in no dropped partition. -/
def LastStored (history : History) (tenantID : UUID) : Prop :=
  history.chain tenantID = [] ∨ ∃ row ∈ history.db.rows, row.tenantID = tenantID ∧
    row.tenantSeq = (history.chain tenantID).length

structure Sound (hashing : Hashing) (history : History) : Prop where
  rest : history.db.AtRest
  ledger : ∀ tenantID, Ledger hashing (history.chain tenantID) (history.db.nextSeq tenantID) none
  stored : ∀ row ∈ history.db.rows, row ∈ history.written

attribute [local simp] Database.returning Database.put Transaction.fresh

section

variable {hashing : Hashing} {history : History} {log : PreparedLog} {row : AuditLogRow}

section

variable (h : history.Sound hashing)

include h

theorem Sound.tenantSeq_eq (tenantID : UUID) :
    Database.upsertChainState (history.db.nextSeq tenantID) - 1 =
      (history.chain tenantID).length + 1 :=
  ((h.ledger tenantID).assign.assigned _ rfl).1

theorem Sound.getPreviousHash_iff (tenantID : UUID) {prevHash : Bytes} :
    history.db.getPreviousHash () none tenantID
        (Database.upsertChainState (history.db.nextSeq tenantID) - 1) = .ok prevHash ↔
      history.LastStored tenantID ∧ nextPrevHash (history.chain tenantID) = prevHash := by
  obtain ⟨returned, hfresh⟩ := h.rest.transaction
  have hnoRows : errNoRows.Is errNoRows := by decide
  have hlinked : ∀ row ∈ history.db.rows, row.tenantID = tenantID →
      row.tenantSeq = (history.chain tenantID).length →
      row.recordHash = nextPrevHash (history.chain tenantID) := by
    intro row hrow htenant hseq
    have hnumber := h.tenantSeq_eq tenantID
    refine (h.ledger tenantID).assign.recordHash_eq (List.mem_filter.mpr
      ⟨h.stored row hrow, decide_eq_true htenant⟩) ?_
    omega
  rw [h.tenantSeq_eq, Database.getPreviousHash, Database.visibleRows, hfresh]
  by_cases hempty : history.chain tenantID = []
  · simp [hempty, LastStored, nextPrevHash]
  · have hpositive := List.length_pos_of_ne_nil hempty
    rw [if_neg (by omega), LastStored, or_iff_right hempty]
    cases hfind : List.find? _ _ with
    | none =>
      have hnone := List.find?_eq_none.mp hfind
      simp at hnone
      simp [attempt, hnoRows]
      intro row hrow htenant hseq
      exact absurd hseq (hnone row hrow htenant)
    | some row =>
      have hrow := List.mem_of_find?_eq_some hfind
      have hfound := List.find?_some hfind
      simp at hrow hfound
      simp only [attempt, Except.ok.injEq, hlinked row hrow hfound.1 hfound.2]
      exact (and_iff_right ⟨row, hrow, hfound⟩).symm

theorem Sound.length_nextPrevHash (tenantID : UUID) :
    (nextPrevHash (history.chain tenantID)).length = hashSize := by
  have hchained := (h.ledger tenantID).chained
  rw [nextPrevHash]
  generalize (history.chain tenantID).map AuditLogRow.chainRecord = records at *
  induction records using List.reverseRecOn with
  | nil => exact List.length_replicate
  | append_singleton =>
    rw [chained_append_singleton] at hchained
    obtain ⟨-, canonical, -, hhash⟩ := computeRecordHash_eq_ok hchained.2.2
    rw [lastHash_append_singleton, hhash, hashing.length_sum]

theorem Sound.of_createdRow (hrow : history.db.createdRow hashing log = .ok row) :
    history.LastStored log.tenantID ∧ row.tenantID = log.tenantID ∧
      row.tenantSeq = (history.chain log.tenantID).length + 1 ∧
      row.prevHash = nextPrevHash (history.chain log.tenantID) ∧
      row.chainRecord.Sealed hashing := by
  obtain ⟨prevHash, hprev, hrow⟩ := bind_eq_ok.mp hrow
  obtain ⟨hstored, rfl⟩ := (h.getPreviousHash_iff log.tenantID).mp (wrapError_eq_ok.mp hprev)
  obtain ⟨htenant, hseq, hlink, hsealed⟩ := insertRecord_eq_ok hrow
  exact ⟨hstored, htenant, hseq.trans (h.tenantSeq_eq _), hlink, hsealed⟩

theorem Sound.exists_createdRow (hmarshal : ∀ tenantSeq, ∃ canonical,
      hashing.marshal (log.toAuditLog.recordData tenantSeq).normalized = .ok canonical)
    (hstored : history.LastStored log.tenantID) :
    ∃ row, history.db.createdRow hashing log = .ok row := by
  have hprev := (h.getPreviousHash_iff log.tenantID).mpr ⟨hstored, rfl⟩
  obtain ⟨canonical, hcanonical⟩ :=
    hmarshal (Database.upsertChainState (history.db.nextSeq log.tenantID) - 1)
  simp [Database.createdRow, hprev, insertRecord, computeRecordHash,
    h.length_nextPrevHash, hcanonical, wrapError, attempt, PreparedLog.insertRow_eq,
    Except.mapError, bind, Except.bind, pure, Except.pure]

theorem Sound.append (hseq : row.tenantSeq = (history.chain row.tenantID).length + 1)
    (hprev : row.prevHash = nextPrevHash (history.chain row.tenantID))
    (hsealed : row.chainRecord.Sealed hashing) (result : Except GoError AuditLog) :
    Sound hashing ⟨{ history.db with
      rows := history.db.rows ++ [row]
      nextSeq := Function.update history.db.nextSeq row.tenantID
        (some (Database.upsertChainState (history.db.nextSeq row.tenantID)))
      }.returning result, history.written ++ [row]⟩ := by
  refine ⟨⟨⟨some result, by simp⟩, h.rest.holder⟩, ?_, ?_⟩
  · intro tenantID
    by_cases htenant : tenantID = row.tenantID
    · subst htenant
      have hledger := (h.ledger row.tenantID).assign.append
        (hseq.trans (h.tenantSeq_eq row.tenantID).symm) hprev hsealed
      simpa [chain, rowsOf] using hledger
    · simpa [chain, rowsOf, htenant, Ne.symm htenant] using h.ledger tenantID
  · intro other hother
    rcases List.mem_append.mp hother with hold | hnew
    · exact List.mem_append_left _ (h.stored other hold)
    · exact List.mem_append_right _ hnew

theorem Sound.step (event : Event) : (history.step hashing event).Sound hashing := by
  cases event with
  | append =>
    simp only [History.step, Database.createAlone_eq h.rest]
    split
    next cause _ =>
      refine ⟨⟨⟨some (.error cause), ?_⟩, h.rest.holder⟩, ?_, ?_⟩
      · simp
      · simpa [chain] using h.ledger
      · simpa using h.stored
    next row hrow =>
      obtain ⟨-, htenant, hseq, hprev, hsealed⟩ := h.of_createdRow hrow
      rw [← htenant] at hseq hprev ⊢
      simpa using h.append hseq hprev hsealed _
  | drop =>
    simp only [History.step, Database.dropPartition]
    split
    · exact ⟨⟨h.rest.transaction, h.rest.holder⟩, h.ledger,
        fun row hrow => h.stored row (List.mem_of_mem_filter hrow)⟩
    · exact h

end

theorem initial_sound : initial.Sound hashing :=
  ⟨⟨⟨none, rfl⟩, rfl⟩, fun _ => .empty, fun _ h => h⟩

end

/-- Whatever was dropped, a call continues the chain exactly if the last record of
its tenant is still stored. -/
theorem append_continues_iff {hashing : Hashing} (events : List Event)
    {contextTenantID : Except GoError UUID} {log : CheckedLog}
    (hmarshal : ∀ tenantSeq, ∃ canonical, hashing.marshal
      ((log.prepare contextTenantID).toAuditLog.recordData tenantSeq).normalized = .ok canonical) :
    let history := events.foldl (step hashing) initial
    history.Continues hashing contextTenantID log ↔
      history.LastStored (log.prepare contextTenantID).tenantID := by
  intro history
  have h : history.Sound hashing :=
    Meets.invariant (Meets.of_forall (fun _ _ => trivial) _ events) (Sound hashing)
      initial_sound fun _ event h _ => h.step event
  rw [Continues, Database.createAlone_eq h.rest]
  constructor
  · rintro ⟨created, hreturned, -⟩
    split at hreturned
    next => simp at hreturned
    next row hrow => exact (h.of_createdRow hrow).1
  · intro hstored
    obtain ⟨row, hrow⟩ := h.exists_createdRow hmarshal hstored
    obtain ⟨-, -, hseq, hprev, hsealed⟩ := h.of_createdRow hrow
    refine ⟨scanAuditLog row, ?_, hseq, hprev, hsealed⟩
    simp [hrow]

def loggedOn (day : ℤ) : CheckedLog :=
  let log := Database.sampleLog
  { log with
    createdAt := ⟨day * nanosecondsPerDay, localZone⟩
    fits := ⟨log.fits.entityType, log.fits.action, log.fits.actorID⟩ }

/-- A record of January 2018, and a partition dropped on 1 January 2026. -/
def januaryRecordAnd (dropped : String) : History :=
  [.append (.ok ⟨7⟩) (loggedOn 17546),
    .drop dropped (20454 * nanosecondsPerDay)].foldl (step sampleHashing) initial

theorem append_continues_iff_kept :
    (januaryRecordAnd "audit_logs_2017_12").Continues sampleHashing (.ok ⟨7⟩) (loggedOn 20455) := by
  refine (append_continues_iff _ fun _ => ⟨_, rfl⟩).mpr (.inr ?_)
  decide +kernel

/-- The tenant can append nothing any more. -/
theorem append_fails_after_drop :
    let history := januaryRecordAnd "audit_logs_2018_01"
    ((history.db.createAlone sampleHashing (.ok ⟨7⟩) (loggedOn 20455)).transaction
        ()).returned = some (.error (.wrap "get previous hash: %w" []
          (.wrap "%w: seq %d" ["1"] errPreviousRecordNotFound))) ∧
      ¬ history.Continues sampleHashing (.ok ⟨7⟩) (loggedOn 20455) := by
  intro history
  refine (and_iff_left_of_imp fun hfailed => ?_).mpr (by decide +kernel)
  rintro ⟨created, hreturned, -⟩
  rw [hfailed] at hreturned
  cases hreturned

end History

end Matcher.Governance
