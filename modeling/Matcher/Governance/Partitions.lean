import Matcher.Command.Store
import Matcher.Foundation.Calendar
import Mathlib.Data.List.Infix

/-!
# Partitions of the audit log

The statements of the partition manager run in a transaction of their caller.  The
name of the partition and its age are checked first, without touching the
transaction.  A statement that fails aborts the transaction: nothing else can run
in it, and it cannot be committed.
-/

namespace Matcher.Governance.Archival

open Foundation
open Command (Fault attempt attempt_eq_ok)
open Matching (Instant)

/-! ## Names -/

def errInvalidPartitionName : GoError :=
  .sentinel ⟨"ErrInvalidPartitionName", "invalid partition name format"⟩

def errRetentionPeriodActive : GoError :=
  .sentinel ⟨"ErrRetentionPeriodActive", "partition within retention period"⟩

def digitShape (character : Char) : Char :=
  if character.isDigit then '0' else character

variable (name : String) {now : Instant} {format : String} {fault err : Fault}

/-- `^audit_logs_\d{4}_\d{2}$`. -/
def IsPartitionName : Prop :=
  name.toList.map digitShape = "audit_logs_0000_00".toList

instance (name : String) : Decidable (IsPartitionName name) :=
  inferInstanceAs (Decidable (_ = _))

example : IsPartitionName "audit_logs_2026_02" ∧
    ¬ IsPartitionName "audit_logs_2026_2" ∧
    ¬ IsPartitionName "audit_logs_2026_02;" := by decide

def validatePartitionName : Except GoError Unit :=
  if IsPartitionName name then .ok ()
  else .error (.wrap "%w: %s" [name] errInvalidPartitionName)

def number (digits : List Char) : ℤ :=
  digits.foldl (fun value digit => 10 * value + (digit.toNat - 48 : ℕ)) 0

/-- The first day after the month that a partition is named after. -/
def endDate : Date :=
  let year := number ((name.toList.drop 11).take 4)
  let month := number (name.toList.drop 16)
  let months := 12 * year + month
  ⟨months / 12, (months % 12).toNat + 1, 1⟩

def partitionEnd : Instant := (endDate name).toDays * nanosecondsPerDay

example : partitionEnd "audit_logs_1999_12" = 10957 * nanosecondsPerDay := by
  decide +kernel

def parsePartitionBoundFromName : Except GoError Instant :=
  if IsPartitionName name then .ok (partitionEnd name)
  else .error (.wrap "%w: %s" [name] errInvalidPartitionName)

def minRetentionYears : ℤ := 7

def daysPerYear : ℤ := 365

def retentionDuration : ℤ := minRetentionYears * daysPerYear * nanosecondsPerDay

def retentionError : GoError :=
  .wrap "partition %s data is within %d-year retention period: %w" [name, "7"]
    errRetentionPeriodActive

def validateRetentionPeriod (now : Instant) : Except GoError Unit :=
  match parsePartitionBoundFromName name with
  | .error cause => .error (.wrap "parse partition bound: %w" [] cause)
  | .ok endDate =>
    if now - endDate < retentionDuration then .error (retentionError name)
    else .ok ()

/-! ## Statements -/

inductive Table
  | attached
  | detached
  | absent
deriving DecidableEq, Repr

structure Tx where
  table : Table
  aborted : Bool
deriving DecidableEq, Repr

def errTransactionAborted : GoError :=
  .sentinel ⟨"in_failed_sql_transaction", "current transaction is aborted, " ++
    "commands ignored until end of transaction block"⟩

def Tx.exec (tx : Tx) (fault : Fault) (statement : Table → Except GoError Table) : Tx × Fault :=
  if tx.aborted then (tx, some errTransactionAborted)
  else
    match attempt fault (statement tx.table) with
    | .ok table => ({ tx with table := table }, none)
    | .error cause => ({ tx with aborted := true }, some cause)

def detachTable : Table → Except GoError Table
  | .attached => .ok .detached
  | .detached => .error (.sentinel ⟨"wrong_object_type", "relation \"" ++ name ++
      "\" is not a partition of relation \"audit_logs\""⟩)
  | .absent => .error (.sentinel ⟨"undefined_table", "relation \"" ++ name ++ "\" does not exist"⟩)

/-- `DROP TABLE IF EXISTS`. -/
def dropTable (_ : Table) : Except GoError Table := .ok .absent

/-- The checks of a partition, and the statement after them. -/
def partitionStatement (format : String) (statement : Table → Except GoError Table) (tx : Tx)
    (name : String) (now : Instant) (fault : Fault) : Tx × Fault :=
  match validatePartitionName name with
  | .error cause => (tx, some cause)
  | .ok () =>
    match validateRetentionPeriod name now with
    | .error cause => (tx, some cause)
    | .ok () =>
      match tx.exec fault statement with
      | (tx, none) => (tx, none)
      | (tx, some cause) => (tx, some (.wrap format [name] cause))

def detachPartitionWithTx (tx : Tx) (name : String) (now : Instant) (fault : Fault) : Tx × Fault :=
  partitionStatement "detach partition %s: %w" (detachTable name) tx name now fault

def dropPartitionWithTx (tx : Tx) (name : String) (now : Instant) (fault : Fault) : Tx × Fault :=
  partitionStatement "drop partition %s: %w" dropTable tx name now fault

/-! ## Errors that are passed over -/

/-- `strings.Contains`. -/
def Contains (text pattern : String) : Prop := pattern.toList <:+: text.toList

instance (text pattern : String) : Decidable (Contains text pattern) :=
  inferInstanceAs (Decidable (_ <:+: _))

def IsPartitionAlreadyDetachedOrAbsent (err : GoError) : Prop :=
  Contains (toLower err.text) "is not a partition" ∨
    Contains (toLower err.text) "does not exist" ∨
    Contains (toLower err.text) "undefined_table"

instance (err : GoError) : Decidable (IsPartitionAlreadyDetachedOrAbsent err) :=
  inferInstanceAs (Decidable (_ ∨ _))

theorem digitShape_lowerCharacter (character : Char) :
    digitShape (lowerCharacter character) = lowerCharacter (digitShape character) := by
  have hcode : character.isDigit = true ↔ 48 ≤ character.toNat ∧ character.toNat ≤ 57 := by
    simp only [Char.isDigit, Bool.and_eq_true, decide_eq_true_eq]
    exact Iff.rfl
  by_cases hdigit : character.isDigit = true
  · have hlower : lowerCharacter character = character := by
      have hrange := hcode.mp hdigit
      simp only [lowerCharacter]
      rw [if_neg (by omega), if_neg (by omega), if_neg (by omega)]
    rw [hlower]
    simp only [digitShape, hdigit, if_true]
    decide
  · have hletters : ∀ offset : Fin 26, digitShape (Char.ofNat (97 + offset)) =
        Char.ofNat (97 + offset) := by decide
    have hshape : digitShape character = character := if_neg hdigit
    rw [hshape]
    simp only [lowerCharacter]
    split
    next hrange =>
      have hletter := hletters ⟨character.toNat - 65, by omega⟩
      have hsum : 97 + (character.toNat - 65) = character.toNat + 32 := by omega
      simp only [hsum] at hletter
      exact hletter
    next =>
      split
      · decide
      · split
        · decide
        · exact hshape

def retentionShape : List Char :=
  "partition audit_logs_0000_00 data is within 0-year retention period: ".toList ++
    "partition within retention period".toList

variable {name : String} {statement : Table → Except GoError Table}

theorem retentionError_text (hname : IsPartitionName name) :
    (retentionError name).text.toList.map digitShape = retentionShape := by
  have htext : (retentionError name).text.toList =
      "partition ".toList ++ (name.toList ++
        (" data is within 7-year retention period: " ++
          "partition within retention period").toList) := by
    rw [retentionError, GoError.text, String.toList_ofList]
    rfl
  rw [htext, List.map_append, List.map_append, hname]
  decide +kernel

theorem not_contains_of_shape {text pattern : String} {shape : List Char}
    (hshape : text.toList.map digitShape = shape)
    (hpattern : pattern.toList.map digitShape = pattern.toList)
    (h : ¬ pattern.toList <:+: shape.map lowerCharacter) : ¬ Contains (toLower text) pattern := by
  intro hcontains
  have hmap := List.IsInfix.map digitShape hcontains
  rw [hpattern, toLower, String.toList_ofList, List.map_map] at hmap
  apply h
  rw [← hshape, List.map_map]
  have hcomp : digitShape ∘ lowerCharacter = lowerCharacter ∘ digitShape :=
    funext digitShape_lowerCharacter
  rwa [hcomp] at hmap

theorem retentionError_not_passed (hname : IsPartitionName name) :
    ¬ IsPartitionAlreadyDetachedOrAbsent (retentionError name) := by
  have hpatterns : ∀ pattern ∈
      ["is not a partition", "does not exist", "undefined_table"],
      pattern.toList.map digitShape = pattern.toList ∧
        ¬ pattern.toList <:+: retentionShape.map lowerCharacter := by
    decide +kernel
  have hnone : ∀ pattern ∈
      ["is not a partition", "does not exist", "undefined_table"],
      ¬ Contains (toLower (retentionError name).text) pattern :=
    fun pattern hpattern => not_contains_of_shape (retentionError_text hname)
      (hpatterns pattern hpattern).1 (hpatterns pattern hpattern).2
  rintro (hcontains | hcontains | hcontains)
  · exact hnone _ (by decide) hcontains
  · exact hnone _ (by decide) hcontains
  · exact hnone _ (by decide) hcontains

/-! ## What a statement leaves -/

theorem Tx.exec_eq {tx next : Tx} (h : tx.exec fault statement = (next, err)) :
    (err = none ∧ tx.aborted = false ∧ statement tx.table = .ok next.table) ∨
      ((∃ cause, err = some cause) ∧ next.aborted = true) := by
  unfold Tx.exec at h
  split at h
  next haborted =>
    cases h
    exact .inr ⟨⟨_, rfl⟩, haborted⟩
  next hopen =>
    split at h
    next table hstatement =>
      cases h
      exact .inl ⟨rfl, by simpa using hopen, (attempt_eq_ok.mp hstatement).2⟩
    next cause hstatement =>
      cases h
      exact .inr ⟨⟨cause, rfl⟩, rfl⟩

/-- On a partition with a proper name, an error that is passed over comes from the
statement and has aborted the transaction. -/
theorem partitionStatement_eq {tx next : Tx} (hname : IsPartitionName name)
    (h : partitionStatement format statement tx name now fault = (next, err))
    (hpassed : ∀ cause ∈ err, IsPartitionAlreadyDetachedOrAbsent cause) :
    next.aborted = true ∨ statement tx.table = .ok next.table := by
  have hvalid : validatePartitionName name = .ok () := if_pos hname
  simp only [partitionStatement, hvalid] at h
  split at h
  next cause hretention =>
    cases h
    simp only [validateRetentionPeriod, parsePartitionBoundFromName, if_pos hname] at hretention
    split at hretention
    · cases hretention
      exact absurd (hpassed _ rfl) (retentionError_not_passed hname)
    · cases hretention
  next hretention =>
    split at h
    next tx' hexec =>
      cases h
      rcases Tx.exec_eq hexec with ⟨-, -, htable⟩ | ⟨⟨cause, hcause⟩, -⟩
      · exact .inr htable
      · cases hcause
    next tx' cause hexec =>
      cases h
      rcases Tx.exec_eq hexec with ⟨hnone, -⟩ | ⟨-, haborted⟩
      · cases hnone
      · exact .inl haborted

/-! ## Retention in calendar years -/

/-- Seven calendar years after the end of the month. -/
def retentionEnd (name : String) : Instant :=
  ((endDate name).addYears minRetentionYears).toDays * nanosecondsPerDay

def leapDaysRetained (name : String) : ℤ :=
  (endDate name).leapDaysWithin minRetentionYears

/-- A statement that the database refuses aborts an open transaction, so this
tells that one was issued. -/
def Issues (call : Tx → String → Instant → Fault → Tx × Fault) (name : String) (now : Instant) :
    Prop :=
  ∃ table cause, (call ⟨table, false⟩ name now (some cause)).1.aborted = true

theorem retentionEnd_eq (name : String) :
    retentionEnd name = partitionEnd name + retentionDuration +
      leapDaysRetained name * nanosecondsPerDay := by
  rw [retentionEnd, Date.toDays_addYears, partitionEnd, retentionDuration, daysPerYear,
    leapDaysRetained]
  ring

theorem validateRetentionPeriod_eq_ok (hname : IsPartitionName name) :
    validateRetentionPeriod name now = .ok () ↔ partitionEnd name + retentionDuration ≤ now := by
  have hduration : now - partitionEnd name < retentionDuration ↔
      ¬ partitionEnd name + retentionDuration ≤ now := by
    rw [not_le]
    exact sub_lt_iff_lt_add'
  simp [validateRetentionPeriod, parsePartitionBoundFromName, hname, hduration]

theorem issues_partitionStatement
    (statement : String → Table → Except GoError Table) (hname : IsPartitionName name) :
    Issues (fun tx name => partitionStatement format (statement name) tx name) name
      now ↔ partitionEnd name + retentionDuration ≤ now := by
  rw [← validateRetentionPeriod_eq_ok hname]
  have hvalid : validatePartitionName name = .ok () := if_pos hname
  cases hretention : validateRetentionPeriod name now with
  | error => simp [Issues, partitionStatement, hvalid, hretention]
  | ok =>
    simp only [iff_true]
    refine ⟨.attached, errTransactionAborted, ?_⟩
    simp [partitionStatement, hvalid, hretention, Tx.exec, attempt]

/-- The statements can be issued before seven calendar years are over, by as many
days as those years have leap days. -/
theorem statements_keep_calendar_years_iff {name : String}
    (hname : IsPartitionName name) (now : Instant) :
    ((Issues detachPartitionWithTx name now ∨ Issues dropPartitionWithTx name now →
      retentionEnd name ≤ now) ↔
      now < partitionEnd name + retentionDuration ∨
        partitionEnd name + retentionDuration + leapDaysRetained name * nanosecondsPerDay ≤ now) ∧
      0 ≤ leapDaysRetained name ∧ leapDaysRetained name ≤ 2 := by
  constructor
  · rw [show Issues detachPartitionWithTx name now ↔ _ from
        issues_partitionStatement detachTable hname,
      show Issues dropPartitionWithTx name now ↔ _ from
        issues_partitionStatement (fun _ => dropTable) hname,
      or_self, ← retentionEnd_eq, ← not_le, imp_iff_not_or]
  · exact Date.leapDaysWithin_seven _

theorem statements_keep_calendar_years_after_retention :
    Issues detachPartitionWithTx "audit_logs_2018_12" (20454 * nanosecondsPerDay) ∧
      retentionEnd "audit_logs_2018_12" ≤ 20454 * nanosecondsPerDay :=
  have hissues : Issues detachPartitionWithTx "audit_logs_2018_12" (20454 * nanosecondsPerDay) :=
    ⟨.attached, errTransactionAborted, by decide +kernel⟩
  ⟨hissues, (statements_keep_calendar_years_iff (by decide) _).1.mpr
    (.inr (by decide +kernel)) (.inl hissues)⟩

/-- The partition of December 2018 can be dropped on 30 December 2025. -/
theorem december_dropped_early :
    Date.ofDays 20452 = ⟨2025, 12, 30⟩ ∧
      Issues detachPartitionWithTx "audit_logs_2018_12" (20452 * nanosecondsPerDay) ∧
      Issues dropPartitionWithTx "audit_logs_2018_12" (20452 * nanosecondsPerDay) ∧
      ¬ retentionEnd "audit_logs_2018_12" ≤ 20452 * nanosecondsPerDay :=
  ⟨by decide +kernel, ⟨.attached, errTransactionAborted, by decide +kernel⟩,
    ⟨.attached, errTransactionAborted, by decide +kernel⟩, by decide +kernel⟩

end Matcher.Governance.Archival
