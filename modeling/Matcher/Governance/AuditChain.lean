import Matcher.Foundation.Transition
import Matcher.Governance.AuditWriters

/-!
# The chain that the writers leave

The rows that a transaction adds continue the committed chain of each tenant whose
sequence row it holds, and it adds none of any other tenant.  So the committed
rows of a tenant are numbered without gap and verify, whatever the interleaving.
-/

namespace Matcher.Governance

open Foundation
open Command (Fault)

variable {κ : Type} [DecidableEq κ] {log : PreparedLog} {row : AuditLogRow} {prevHash : Bytes}
  {tenantID : UUID} {tenantSeq : ℤ} {fault : Fault} {other : κ}

/-! ## What the rows of one tenant satisfy -/

def nextSeqAfter : List AuditLogRow → Option ℤ
  | [] => none
  | row :: rest => some ((row :: rest).length + 1)

/-- The rows are the chain from its first record on, and the sequence row is
ahead of them by the number that has been assigned and not been used. -/
structure Ledger (hashing : Hashing) (rows : List AuditLogRow) (nextSeq assigned : Option ℤ) :
    Prop where
  consecutive : Consecutive 1 (rows.map AuditLogRow.chainRecord)
  chained : Chained ChainRecord.prevHash ChainRecord.recordHash
    (ChainRecord.Sealed hashing) genesisHash (rows.map AuditLogRow.chainRecord)
  unassigned : assigned = none → nextSeq = nextSeqAfter rows
  assigned : ∀ tenantSeq ∈ assigned, tenantSeq = rows.length + 1 ∧ nextSeq = some (tenantSeq + 1)

def nextPrevHash (rows : List AuditLogRow) : Bytes :=
  lastHash ChainRecord.recordHash genesisHash (rows.map AuditLogRow.chainRecord)

namespace Ledger

variable {hashing : Hashing} {rows : List AuditLogRow} {nextSeq : Option ℤ}
  {tenantSeq : ℤ}

theorem empty : Ledger hashing [] none none :=
  ⟨trivial, trivial, fun _ => rfl, nofun⟩

theorem assign (h : Ledger hashing rows nextSeq none) :
    Ledger hashing rows (some (Database.upsertChainState nextSeq))
      (some (Database.upsertChainState nextSeq - 1)) := by
  refine ⟨h.consecutive, h.chained, nofun, ?_⟩
  rintro tenantSeq ⟨⟩
  rw [h.unassigned rfl]
  cases rows with
  | nil => exact ⟨rfl, rfl⟩
  | cons =>
    constructor
    · simp [nextSeqAfter, Database.upsertChainState]
    · simp

theorem append (h : Ledger hashing rows nextSeq (some tenantSeq)) (hseq : row.tenantSeq = tenantSeq)
    (hprev : row.prevHash = nextPrevHash rows) (hsealed : row.chainRecord.Sealed hashing) :
    Ledger hashing (rows ++ [row]) nextSeq none := by
  obtain ⟨hassigned, hnextSeq⟩ := h.assigned tenantSeq rfl
  refine ⟨?_, ?_, fun _ => ?_, nofun⟩
  · rw [List.map_append, List.map_singleton, consecutive_append_singleton, List.length_map]
    refine ⟨h.consecutive, ?_⟩
    show row.tenantSeq = 1 + rows.length
    omega
  · rw [List.map_append, List.map_singleton, chained_append_singleton]
    exact ⟨h.chained, hprev, hsealed⟩
  · rw [hnextSeq, hassigned]
    cases rows with
    | nil => rfl
    | cons => simp [nextSeqAfter]

theorem recordHash_eq (h : Ledger hashing rows nextSeq (some tenantSeq)) (hrow : row ∈ rows)
    (hseq : row.tenantSeq = tenantSeq - 1) : row.recordHash = nextPrevHash rows := by
  obtain ⟨hassigned, -⟩ := h.assigned tenantSeq rfl
  have hlast : (rows.map AuditLogRow.chainRecord).getLast? = some row.chainRecord := by
    apply h.consecutive.eq_last (List.mem_map_of_mem hrow)
    rw [List.length_map]
    show row.tenantSeq + 1 = 1 + rows.length
    omega
  rw [nextPrevHash, lastHash, hlast]
  rfl

theorem genesisHash_eq (h : Ledger hashing rows nextSeq (some 1)) :
    genesisHash = nextPrevHash rows := by
  obtain ⟨hassigned, -⟩ := h.assigned 1 rfl
  have hempty : rows = [] := List.eq_nil_of_length_eq_zero (by omega)
  rw [hempty]
  rfl

end Ledger

/-! ## The invariant -/

def Phase.assigned (tenantID : UUID) : Phase → Option ℤ
  | .reading log tenantSeq => if log.tenantID = tenantID then some tenantSeq else none
  | .inserting log tenantSeq _ => if log.tenantID = tenantID then some tenantSeq else none
  | _ => none

structure Transaction.Untouched (transaction : Transaction) (tenantID : UUID) : Prop where
  rows : rowsOf tenantID transaction.rows = []
  nextSeq : transaction.nextSeq tenantID = none
  assigned : transaction.phase.assigned tenantID = none

/-- What a session writes continues the chains of the tenants that it holds. -/
structure Database.SoundFor (hashing : Hashing) (db : Database κ) (session : κ) : Prop where
  untouched : ∀ tenantID, db.holder tenantID ≠ some session →
    (db.transaction session).Untouched tenantID
  held : ∀ tenantID, db.holder tenantID = some session →
    Ledger hashing (rowsOf tenantID (db.visibleRows session)) (db.visibleSeq session tenantID)
      ((db.transaction session).phase.assigned tenantID)
  linked : ∀ log tenantSeq prevHash,
    (db.transaction session).phase = .inserting log tenantSeq prevHash →
    prevHash = nextPrevHash (rowsOf log.tenantID (db.visibleRows session))

structure Database.Sound (hashing : Hashing) (db : Database κ) : Prop where
  committed : ∀ tenantID, Ledger hashing (rowsOf tenantID db.rows) (db.nextSeq tenantID) none
  session : ∀ session, db.SoundFor hashing session

section

variable {hashing : Hashing} {db next : Database κ} {session : κ}

theorem rowsOf_append (tenantID : UUID) (rows more : List AuditLogRow) :
    rowsOf tenantID (rows ++ more) = rowsOf tenantID rows ++ rowsOf tenantID more :=
  List.filter_append rows more

theorem Transaction.fresh_untouched (returned : Option (Except GoError AuditLog))
    (tenantID : UUID) : (Transaction.fresh returned).Untouched tenantID :=
  ⟨rfl, rfl, rfl⟩

namespace Database

omit [DecidableEq κ] in
theorem visible_of_untouched (h : (db.transaction session).Untouched tenantID) :
    rowsOf tenantID (db.visibleRows session) = rowsOf tenantID db.rows ∧
      db.visibleSeq session tenantID = db.nextSeq tenantID := by
  constructor
  · rw [visibleRows, rowsOf_append, h.rows, List.append_nil]
  · rw [visibleSeq, h.nextSeq, Option.none_or]

omit [DecidableEq κ] in
theorem Sound.visible (h : db.Sound hashing) (session : κ) (tenantID : UUID) :
    Ledger hashing (rowsOf tenantID (db.visibleRows session)) (db.visibleSeq session tenantID)
      ((db.transaction session).phase.assigned tenantID) := by
  by_cases hheld : db.holder tenantID = some session
  · exact (h.session session).held tenantID hheld
  · have huntouched := (h.session session).untouched tenantID hheld
    obtain ⟨hrows, hnextSeq⟩ := visible_of_untouched huntouched
    rw [hrows, hnextSeq, huntouched.assigned]
    exact h.committed tenantID

omit [DecidableEq κ] in
theorem SoundFor.of_frame (h : db.SoundFor hashing session)
    (htransaction : next.transaction session = db.transaction session)
    (hholder : ∀ tenantID, next.holder tenantID = some session ↔ db.holder tenantID = some session)
    (hstable : ∀ tenantID, db.holder tenantID = some session →
      rowsOf tenantID next.rows = rowsOf tenantID db.rows ∧
        next.nextSeq tenantID = db.nextSeq tenantID) : next.SoundFor hashing session := by
  have hvisible : ∀ tenantID, db.holder tenantID = some session →
      rowsOf tenantID (next.visibleRows session) = rowsOf tenantID (db.visibleRows session) ∧
        next.visibleSeq session tenantID = db.visibleSeq session tenantID := by
    intro tenantID hheld
    obtain ⟨hrows, hnextSeq⟩ := hstable tenantID hheld
    constructor
    · rw [visibleRows, visibleRows, rowsOf_append, rowsOf_append, hrows, htransaction]
    · rw [visibleSeq, visibleSeq, hnextSeq, htransaction]
  refine ⟨?_, ?_, ?_⟩
  · intro tenantID hheld
    rw [htransaction]
    exact h.untouched tenantID (mt (hholder tenantID).mpr hheld)
  · intro tenantID hheld
    have hheld := (hholder tenantID).mp hheld
    obtain ⟨hrows, hnextSeq⟩ := hvisible tenantID hheld
    rw [hrows, hnextSeq, htransaction]
    exact h.held tenantID hheld
  · intro log tenantSeq prevHash hphase
    rw [htransaction] at hphase
    -- The call has a number of the tenant, so its session holds the tenant.
    have hheld : db.holder log.tenantID = some session := by
      by_contra hheld
      have hassigned := (h.untouched log.tenantID hheld).assigned
      rw [hphase] at hassigned
      simp [Phase.assigned] at hassigned
    rw [(hvisible log.tenantID hheld).1]
    exact h.linked log tenantSeq prevHash hphase

@[simp] theorem put_transaction_self (db : Database κ) (session : κ) (transaction : Transaction) :
    (db.put session transaction).transaction session = transaction :=
  Function.update_self ..

theorem put_transaction_of_ne (hne : other ≠ session) (db : Database κ)
    (transaction : Transaction) :
    (db.put session transaction).transaction other = db.transaction other :=
  Function.update_of_ne hne ..

theorem Sound.put (h : db.Sound hashing) {transaction : Transaction}
    (huntouched : ∀ tenantID, db.holder tenantID ≠ some session → transaction.Untouched tenantID)
    (hheld : ∀ tenantID, db.holder tenantID = some session →
      Ledger hashing (rowsOf tenantID (db.rows ++ transaction.rows))
        ((transaction.nextSeq tenantID).or (db.nextSeq tenantID))
        (transaction.phase.assigned tenantID)) (hlinked : ∀ log tenantSeq prevHash,
      transaction.phase = .inserting log tenantSeq prevHash →
      prevHash = nextPrevHash (rowsOf log.tenantID (db.rows ++ transaction.rows))) :
    (db.put session transaction).Sound hashing := by
  refine ⟨h.committed, fun other => ?_⟩
  by_cases hne : other = session
  · subst hne
    refine ⟨?_, ?_, ?_⟩
    · rw [put_transaction_self]
      exact huntouched
    · rw [visibleRows, put_transaction_self]
      intro tenantID
      rw [visibleSeq, put_transaction_self]
      exact hheld tenantID
    · rw [visibleRows, put_transaction_self]
      exact hlinked
  · exact (h.session other).of_frame (put_transaction_of_ne hne db transaction)
      (fun _ => Iff.rfl) (fun _ _ => ⟨rfl, rfl⟩)

theorem Sound.goto (h : db.Sound hashing) {phase : Phase}
    (hassigned : ∀ tenantID, phase.assigned tenantID =
      (db.transaction session).phase.assigned tenantID) (hlinked : ∀ log tenantSeq prevHash,
      phase = .inserting log tenantSeq prevHash →
      prevHash = nextPrevHash (rowsOf log.tenantID (db.visibleRows session))) :
    (db.goto session phase).Sound hashing := by
  apply h.put
  · intro tenantID hheld
    have huntouched := (h.session session).untouched tenantID hheld
    exact ⟨huntouched.rows, huntouched.nextSeq, (hassigned tenantID).trans huntouched.assigned⟩
  · intro tenantID hheld
    rw [hassigned]
    exact h.visible session tenantID
  · exact hlinked

omit [DecidableEq κ] in
theorem hold_holder_self (db : Database κ) (session : κ) (tenantID : UUID) :
    (db.hold session tenantID).holder tenantID = some session :=
  Function.update_self ..

omit [DecidableEq κ] in
theorem hold_holder_of_ne {other : UUID} (hne : other ≠ tenantID) (db : Database κ) (session : κ) :
    (db.hold session tenantID).holder other = db.holder other :=
  Function.update_of_ne hne ..

theorem Sound.hold (h : db.Sound hashing) (hfree : ¬ db.HeldByOther session tenantID) :
    (db.hold session tenantID).Sound hashing := by
  refine ⟨h.committed, fun other => ?_⟩
  by_cases hne : other = session
  · subst hne
    refine ⟨?_, fun tenant _ => h.visible _ tenant, (h.session _).linked⟩
    intro tenant hheld
    apply (h.session _).untouched
    by_cases htenant : tenant = tenantID
    · rw [htenant] at hheld
      exact absurd (hold_holder_self ..) hheld
    · rwa [hold_holder_of_ne htenant] at hheld
  · refine (h.session other).of_frame ?_ ?_ (fun _ _ => ⟨rfl, rfl⟩)
    · rfl
    · intro tenant
      by_cases htenant : tenant = tenantID
      · rw [htenant, hold_holder_self]
        apply iff_of_false
        · exact fun hheld => hne (Option.some.inj hheld).symm
        · exact fun hheld => hfree ⟨other, hheld, hne⟩
      · rw [hold_holder_of_ne htenant]

theorem Sound.assign (h : db.Sound hashing) (hheld : db.holder log.tenantID = some session)
    (hassigned : ∀ tenantID, (db.transaction session).phase.assigned tenantID = none) :
    (db.put session { db.transaction session with
      phase := .reading log (upsertChainState (db.visibleSeq session log.tenantID) - 1)
      nextSeq := Function.update (db.transaction session).nextSeq log.tenantID
        (some (upsertChainState (db.visibleSeq session log.tenantID))) }).Sound
      hashing := by
  apply h.put
  · intro tenantID hother
    have hne : log.tenantID ≠ tenantID := by
      rintro rfl
      exact hother hheld
    have huntouched := (h.session session).untouched tenantID hother
    exact ⟨huntouched.rows, (Function.update_of_ne hne.symm ..).trans huntouched.nextSeq,
      if_neg hne⟩
  · intro tenantID _
    have hledger := h.visible session tenantID
    rw [hassigned] at hledger
    by_cases htenant : log.tenantID = tenantID
    · subst htenant
      simp only [Function.update_self, Option.some_or, Phase.assigned, if_true]
      exact hledger.assign
    · simp only [Function.update_of_ne (Ne.symm htenant), Phase.assigned, if_neg htenant]
      exact hledger
  · intro _ _ _ hphase
    simp at hphase

theorem Sound.append (h : db.Sound hashing)
    (hphase : (db.transaction session).phase = .inserting log tenantSeq prevHash)
    (htenant : row.tenantID = log.tenantID) (hseq : row.tenantSeq = tenantSeq)
    (hprev : row.prevHash = prevHash) (hsealed : row.chainRecord.Sealed hashing) :
    (db.append session row).Sound hashing := by
  have hlinked := (h.session session).linked log tenantSeq prevHash hphase
  have hassigned : ∀ tenantID, log.tenantID ≠ tenantID →
      rowsOf tenantID [row] = [] ∧ (db.transaction session).phase.assigned tenantID = none := by
    intro tenantID hne
    rw [hphase]
    exact ⟨by simp [rowsOf, htenant, hne], if_neg hne⟩
  apply h.put
  · intro tenantID hother
    have huntouched := (h.session session).untouched tenantID hother
    have hne : log.tenantID ≠ tenantID := by
      rintro rfl
      have hnone := huntouched.assigned
      rw [hphase] at hnone
      simp [Phase.assigned] at hnone
    refine ⟨?_, huntouched.nextSeq, rfl⟩
    rw [rowsOf_append, huntouched.rows, (hassigned tenantID hne).1, List.append_nil]
  · intro tenantID _
    have hledger := h.visible session tenantID
    rw [← List.append_assoc, rowsOf_append]
    by_cases hne : log.tenantID = tenantID
    · subst hne
      have hrow : rowsOf log.tenantID [row] = [row] := by simp [rowsOf, htenant]
      rw [hphase, Phase.assigned, if_pos rfl] at hledger
      rw [hrow]
      exact hledger.append hseq (hprev.trans hlinked) hsealed
    · rw [(hassigned tenantID hne).1, List.append_nil]
      rw [(hassigned tenantID hne).2] at hledger
      exact hledger
  · intro _ _ _ hphase
    simp at hphase

theorem release_holder (hne : other ≠ session) (tenantID : UUID) :
    (db.release session).holder tenantID = some other ↔ db.holder tenantID = some other := by
  unfold release
  dsimp only
  split
  case isTrue hheld =>
    rw [hheld]
    exact iff_of_false nofun fun h => hne (Option.some.inj h).symm
  case isFalse => rfl

omit [DecidableEq κ] in
theorem SoundFor.fresh {returned : Option (Except GoError AuditLog)}
    (htransaction : db.transaction session = .fresh returned)
    (hcommitted : ∀ tenantID, Ledger hashing (rowsOf tenantID db.rows) (db.nextSeq tenantID) none) :
    db.SoundFor hashing session := by
  have huntouched : ∀ tenantID, (db.transaction session).Untouched tenantID := by
    rw [htransaction]
    exact Transaction.fresh_untouched returned
  refine ⟨fun tenantID _ => huntouched tenantID, ?_, ?_⟩
  · intro tenantID _
    obtain ⟨hrows, hnextSeq⟩ := visible_of_untouched (huntouched tenantID)
    rw [hrows, hnextSeq, (huntouched tenantID).assigned]
    exact hcommitted tenantID
  · intro log tenantSeq prevHash hphase
    rw [htransaction] at hphase
    cases hphase

theorem Sound.rollback (h : db.Sound hashing) (returned : Option (Except GoError AuditLog)) :
    (db.rollback session returned).Sound hashing := by
  refine ⟨h.committed, fun other => ?_⟩
  by_cases hne : other = session
  · subst hne
    exact .fresh (put_transaction_self ..) h.committed
  · exact (h.session other).of_frame (put_transaction_of_ne hne ..)
      (release_holder hne) (fun _ _ => ⟨rfl, rfl⟩)

theorem Sound.commit (h : db.Sound hashing) : (db.commit session).Sound hashing := by
  unfold Database.commit
  split
  case h_1 hidle =>
    have hcommitted : ∀ tenantID,
        Ledger hashing (rowsOf tenantID (db.visibleRows session))
          (db.visibleSeq session tenantID) none := by
      intro tenantID
      have hledger := h.visible session tenantID
      rw [hidle] at hledger
      exact hledger
    refine ⟨hcommitted, fun other => ?_⟩
    by_cases hne : other = session
    · subst hne
      exact .fresh (put_transaction_self ..) hcommitted
    · refine (h.session other).of_frame (put_transaction_of_ne hne ..) (release_holder hne) ?_
      intro tenantID hheld
      apply visible_of_untouched
      apply (h.session session).untouched
      rw [hheld]
      exact fun h => hne (Option.some.inj h)
  case h_2 => exact h

/-! ## One step -/

theorem Sound.lockChainState (h : db.Sound hashing)
    (hphase : (db.transaction session).phase = .locking log) (fault : Fault) :
    (db.lockChainState session fault log).Sound hashing := by
  have hassigned : ∀ tenantID, (Phase.acquiring log).assigned tenantID =
      (db.transaction session).phase.assigned tenantID := by
    rw [hphase]
    exact fun _ => rfl
  have hnotInserting : ∀ other tenantSeq prevHash,
      Phase.acquiring log ≠ .inserting other tenantSeq prevHash := by
    intro _ _ _ h
    cases h
  unfold Database.lockChainState
  split
  case h_1 =>
    split
    case isTrue => exact h
    case isFalse hfree =>
      exact (h.hold hfree).goto hassigned fun _ _ _ hphase =>
        absurd hphase (hnotInserting _ _ _)
  case h_2 =>
    split
    case isTrue =>
      exact h.goto hassigned fun _ _ _ hphase =>
        absurd hphase (hnotInserting _ _ _)
    case isFalse => exact h.rollback _

theorem Sound.acquireNextSequence (h : db.Sound hashing)
    (hphase : (db.transaction session).phase = .acquiring log) (fault : Fault) :
    (db.acquireNextSequence session fault log).Sound hashing := by
  unfold Database.acquireNextSequence
  split
  case h_1 => exact h.rollback _
  case h_2 =>
    split
    case isTrue => exact h
    case isFalse hfree =>
      apply (h.hold hfree).assign (hold_holder_self ..)
      intro tenantID
      show (db.transaction session).phase.assigned tenantID = none
      rw [hphase]
      rfl

omit [DecidableEq κ] in
theorem Sound.getPreviousHash (h : db.Sound hashing)
    (hphase : (db.transaction session).phase = .reading log tenantSeq)
    (hread : db.getPreviousHash session fault log.tenantID tenantSeq = .ok prevHash) :
    prevHash = nextPrevHash (rowsOf log.tenantID (db.visibleRows session)) := by
  have hledger := h.visible session log.tenantID
  rw [hphase, Phase.assigned, if_pos rfl] at hledger
  unfold Database.getPreviousHash at hread
  split at hread
  case isTrue hfirst =>
    subst hfirst
    rw [← Except.ok.inj hread]
    exact hledger.genesisHash_eq
  case isFalse =>
    split at hread
    case h_1 hash hhash =>
      obtain ⟨-, hhash⟩ := Command.attempt_eq_ok.mp hhash
      split at hhash
      case h_1 => cases hhash
      case h_2 row hrow =>
        cases hread
        have hfound := List.find?_some hrow
        obtain ⟨htenant, hseq⟩ := of_decide_eq_true hfound
        rw [← Except.ok.inj hhash]
        apply hledger.recordHash_eq _ hseq
        exact List.mem_filter.mpr ⟨List.mem_of_find?_eq_some hrow, decide_eq_true htenant⟩
    case h_2 =>
      split at hread <;> cases hread

end Database

theorem insertRecord_eq_ok (h : insertRecord hashing fault log tenantSeq prevHash = .ok row) :
    row.tenantID = log.tenantID ∧ row.tenantSeq = tenantSeq ∧
      row.prevHash = prevHash ∧ row.chainRecord.Sealed hashing := by
  obtain ⟨recordHash, hhash, hrow⟩ := bind_eq_ok.mp h
  obtain ⟨-, hrow⟩ := Command.attempt_eq_ok.mp (wrapError_eq_ok.mp hrow)
  exact PreparedLog.insertRow_sealed (wrapError_eq_ok.mp hhash) hrow

namespace Database

theorem Sound.statement (h : db.Sound hashing) (session : κ) (fault : Fault) :
    (db.statement hashing session fault).Sound hashing := by
  unfold Database.statement
  split
  case h_1 => exact h
  case h_2 log hphase => exact h.lockChainState hphase fault
  case h_3 log hphase => exact h.acquireNextSequence hphase fault
  case h_4 log tenantSeq hphase =>
    split
    case h_1 => exact h.rollback _
    case h_2 prevHash hread =>
      apply h.goto
      · rw [hphase]
        exact fun _ => rfl
      · rintro _ _ _ ⟨⟩
        exact h.getPreviousHash hphase hread
  case h_5 log tenantSeq prevHash hphase =>
    split
    case h_1 => exact h.rollback _
    case h_2 row hrow =>
      obtain ⟨htenant, hseq, hprev, hsealed⟩ := insertRecord_eq_ok hrow
      exact h.append hphase htenant hseq hprev hsealed

theorem Sound.executeCreate (h : db.Sound hashing) (session : κ)
    (contextTenantID : Except GoError UUID) (log : CheckedLog) :
    (db.executeCreate session contextTenantID log).Sound hashing := by
  unfold Database.executeCreate
  split
  case h_1 hidle =>
    apply h.goto
    · rw [hidle]
      exact fun _ => rfl
    · intro _ _ _ hphase
      cases hphase
  case h_2 => exact h

omit [DecidableEq κ] in
theorem initial_sound : (initial : Database κ).Sound hashing :=
  ⟨fun _ => Ledger.empty, fun _ => .fresh rfl fun _ => Ledger.empty⟩

theorem Sound.step (h : db.Sound hashing) (label : Label κ) :
    (db.step hashing label).Sound hashing := by
  cases label with
  | create session contextTenantID log => exact h.executeCreate session contextTenantID log
  | statement session fault => exact h.statement session fault
  | commit => exact h.commit
  | rollback => exact h.rollback _

/-! ## Every run -/

omit [DecidableEq κ] in
theorem Sound.readChainByTenantSeq_eq (h : db.Sound hashing) (tenantID : UUID) :
    db.readChainByTenantSeq tenantID = (rowsOf tenantID db.rows).map scanAuditLog := by
  have hseq := (h.committed tenantID).consecutive.tenantSeq_eq
  have hsorted : ((rowsOf tenantID db.rows).map AuditLogRow.tenantSeq).Pairwise (· ≤ ·) := by
    have hmap : (rowsOf tenantID db.rows).map AuditLogRow.tenantSeq =
        ((rowsOf tenantID db.rows).map AuditLogRow.chainRecord).map ChainRecord.tenantSeq := by
      rw [List.map_map]
      rfl
    rw [hmap, hseq, List.pairwise_map]
    exact List.pairwise_le_range.imp fun hle => by omega
  unfold readChainByTenantSeq
  rw [(List.pairwise_map.mp hsorted).insertionSort_eq]

/-- Each tenant's committed records are numbered without gap, and verify. -/
theorem committed_chain_verifies (hashing : Hashing) (labels : List (Label κ)) (tenantID : UUID) :
    let chain := (labels.foldl (step hashing) initial).readChainByTenantSeq tenantID
    chain.map AuditLog.tenantSeq =
        (List.range chain.length).map (fun position : ℕ =>
          (1 : ℤ) + position) ∧
      verifyChain hashing (chain.map auditLogToChainRecord) = .ok () := by
  have hsound : (labels.foldl (step hashing) initial).Sound hashing :=
    Meets.invariant (Meets.of_forall (fun _ _ => trivial) _ labels)
      (Sound hashing) initial_sound fun _ label h _ => h.step label
  have hledger := hsound.committed tenantID
  dsimp only
  rw [hsound.readChainByTenantSeq_eq]
  generalize rowsOf tenantID _ = rows at hledger
  constructor
  · have hseq := hledger.consecutive.tenantSeq_eq
    rw [List.length_map, List.map_map] at hseq
    rw [List.map_map, List.length_map]
    exact hseq
  · rw [List.map_map]
    apply (verifyChain_eq_ok _).mpr ⟨hledger.consecutive, hledger.chained⟩
    cases rows with
    | nil => exact nofun
    | cons =>
      rintro _ ⟨⟩
      exact hledger.consecutive.1

def sampleLog : CheckedLog where
  id := ⟨1⟩
  tenantID := ⟨7⟩
  entityType := "match_group"
  entityID := ⟨8⟩
  action := "CREATE"
  actorID := none
  changes := emptyObject
  createdAt := ⟨1234567, localZone⟩
  tenantSeq := 0
  prevHash := []
  recordHash := []
  hashVersion := 0
  fits := ⟨by decide +kernel, by decide +kernel, nofun⟩

-- The second writer waits for the first one, whose first record is rolled back.
example :
    let call := fun session : Bool => Label.create session (.ok ⟨7⟩) sampleLog
    let run := fun session : Bool => Label.statement session none
    (([call true, call false, run true, run false, run true, run false,
      run true, run true, .rollback true, run false, run false, run false,
      .commit false, call true, run true, run true, run true, run true,
      .commit true].foldl (step sampleHashing) initial).readChainByTenantSeq
        ⟨7⟩).map AuditLog.tenantSeq = [1, 2] := by
  decide +kernel

end Database

end

end Matcher.Governance
