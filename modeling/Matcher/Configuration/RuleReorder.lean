import Matcher.Command.Store
import Matcher.Foundation.UniqueTable

/-!
# Reordering the rules of a context

The priorities of a context are first shifted out of the way, all by one offset,
and then the listed rules get the priorities from one on.  Nothing brings the
rules that are not listed back, and the shift writes one row at a time under the
unique constraint of context and priority.
-/

namespace Matcher.Configuration

open Foundation
open Command (errDuplicateKey errNoRows)

/-! ## Rows -/

def maxInteger : ℤ := 2 ^ 31 - 1

structure RuleRow where
  id : UUID
  contextID : UUID
  priority : ℤ
  positive : 0 < priority
  fits : priority ≤ maxInteger
deriving DecidableEq

variable {row : RuleRow} {later : List UUID}

def RuleRow.entry (row : RuleRow) : UUID × ℤ :=
  (row.contextID, row.priority)

abbrev RuleTable := UniqueTable RuleRow.id RuleRow.entry

def errIntegerOutOfRange : GoError :=
  .sentinel ⟨"numeric_value_out_of_range", "integer out of range"⟩

def errPriorityCheck : GoError :=
  .sentinel ⟨"check_violation", "new row violates check constraint match_rules_priority_check"⟩

def errPriorityNull : GoError :=
  .sentinel ⟨"not_null_violation", "null value in column priority"⟩

/-- Assigns the column of one row, under its type and its check. -/
def RuleRow.setPriority (row : RuleRow) (priority : ℤ) : Except GoError RuleRow :=
  if hfits : priority ≤ maxInteger then
    if hpositive : 0 < priority then
      .ok { row with priority, positive := hpositive, fits := hfits }
    else .error errPriorityCheck
  else .error errIntegerOutOfRange

theorem RuleRow.setPriority_eq_ok {next : RuleRow} {priority : ℤ} :
    row.setPriority priority = .ok next ↔
      next.id = row.id ∧ next.contextID = row.contextID ∧ next.priority = priority := by
  unfold setPriority
  constructor
  · intro h
    split_ifs at h
    cases h
    exact ⟨rfl, rfl, rfl⟩
  · obtain ⟨id, contextID, value, hpositive, hfits⟩ := next
    rintro ⟨rfl, rfl, rfl⟩
    rw [dif_pos hfits, dif_pos hpositive]

/-! ## The repository call -/

def reorderPriorityOffset : ℕ := 1000

def errRuleIDsRequired : GoError :=
  .sentinel ⟨"ErrRuleIDsRequired", "rule ids are required"⟩

variable (contextID : UUID) (ruleIDs : List UUID) {shifted : RuleTable}

def reorderOffset : ℕ :=
  ruleIDs.length + reorderPriorityOffset

/-- `UPDATE match_rules SET priority = priority + $1 WHERE context_id = $2` -/
def shiftPriorities (offset : ℕ) (order : VisitOrder RuleRow) (table : RuleTable) :
    Except GoError RuleTable :=
  table.update errDuplicateKey (fun row => row.contextID = contextID)
    (fun row => row.setPriority (row.priority + offset)) order

def casePriority (id : UUID) : Option ℤ :=
  if id ∈ ruleIDs then some (ruleIDs.idxOf id + 1) else none

def reorderSelects (row : RuleRow) : Bool :=
  row.contextID = contextID && row.id ∈ ruleIDs

def buildReorderQuery (order : VisitOrder RuleRow) (table : RuleTable) : Except GoError RuleTable :=
  table.update errDuplicateKey (reorderSelects contextID ruleIDs)
    (fun row =>
      match casePriority ruleIDs row.id with
      | some priority => row.setPriority priority
      | none => .error errPriorityNull)
    order

/-- The two statements and the count of the rows, in one transaction: an error
leaves the table as it was. -/
def reorderPriorities (shiftOrder assignOrder : VisitOrder RuleRow) (contextID : UUID)
    (ruleIDs : List UUID) (table : RuleTable) : Except GoError RuleTable :=
  if ruleIDs.length = 0 then .error errRuleIDsRequired
  else
    (do
      let shifted ←
        shiftPriorities contextID (reorderOffset ruleIDs) shiftOrder table
      let assigned ← buildReorderQuery contextID ruleIDs assignOrder shifted
      let rowsAffected := (shifted.rows.filter (reorderSelects contextID ruleIDs)).length
      if rowsAffected ≠ ruleIDs.length then .error errNoRows
      else .ok assigned).mapError fun cause =>
        .wrap "failed to reorder match rule priorities: %w" []
          (.wrap "with tenant tx provider: %w" [] cause)

/-! ## The rows after a call -/

def RuleRow.withPriority (row : RuleRow) (priority : ℤ) : RuleRow :=
  match row.setPriority priority with
  | .ok next => next
  | .error _ => row

namespace RuleRow

variable {row : RuleRow} {priority : ℤ}

theorem setPriority_eq_withPriority (hpositive : 0 < priority) (hfits : priority ≤ maxInteger) :
    row.setPriority priority = .ok (row.withPriority priority) := by
  simp [withPriority, setPriority, hpositive, hfits]

theorem withPriority_priority (hpositive : 0 < priority) (hfits : priority ≤ maxInteger) :
    (row.withPriority priority).priority = priority :=
  (setPriority_eq_ok.mp (setPriority_eq_withPriority hpositive hfits)).2.2

@[simp] theorem withPriority_id : (row.withPriority priority).id = row.id := by
  unfold withPriority
  split
  case h_1 next h => exact (setPriority_eq_ok.mp h).1
  case h_2 => rfl

@[simp] theorem withPriority_contextID : (row.withPriority priority).contextID = row.contextID := by
  unfold withPriority
  split
  case h_1 next h => exact (setPriority_eq_ok.mp h).2.1
  case h_2 => rfl

end RuleRow

def shiftedRow (offset : ℕ) (row : RuleRow) : RuleRow :=
  if row.contextID = contextID then row.withPriority (row.priority + offset)
  else row

def assignedRow (row : RuleRow) : RuleRow :=
  if reorderSelects contextID ruleIDs row then
    row.withPriority (ruleIDs.idxOf row.id + 1)
  else row

def reorderedRow (row : RuleRow) : RuleRow :=
  assignedRow contextID ruleIDs (shiftedRow contextID (reorderOffset ruleIDs) row)

section Rows

variable {contextID : UUID} {ruleIDs : List UUID} {offset : ℕ}

@[simp] theorem shiftedRow_id (row : RuleRow) : (shiftedRow contextID offset row).id = row.id := by
  unfold shiftedRow
  split_ifs <;> simp

@[simp] theorem shiftedRow_contextID (row : RuleRow) :
    (shiftedRow contextID offset row).contextID = row.contextID := by
  unfold shiftedRow
  split_ifs <;> simp

@[simp] theorem assignedRow_id (row : RuleRow) :
    (assignedRow contextID ruleIDs row).id = row.id := by
  unfold assignedRow
  split_ifs <;> simp

@[simp] theorem assignedRow_contextID (row : RuleRow) :
    (assignedRow contextID ruleIDs row).contextID = row.contextID := by
  unfold assignedRow
  split_ifs <;> simp

@[simp] theorem reorderedRow_id (row : RuleRow) :
    (reorderedRow contextID ruleIDs row).id = row.id := by
  simp [reorderedRow]

@[simp] theorem reorderedRow_contextID (row : RuleRow) :
    (reorderedRow contextID ruleIDs row).contextID = row.contextID := by
  simp [reorderedRow]

end Rows

/-! ## When a call succeeds -/

/-- The rows of a context can be shifted in every order: the column has room, and
no priority is exactly the offset above another one. -/
structure Shiftable (contextID : UUID) (offset : ℕ) (table : RuleTable) : Prop where
  fits : ∀ row ∈ table.rows, row.contextID = contextID → row.priority + offset ≤ maxInteger
  apart : ∀ row ∈ table.rows, row.contextID = contextID →
    ∀ other ∈ table.rows, other.contextID = contextID → other.priority ≠ row.priority + offset

structure Lists (contextID : UUID) (table : RuleTable) (ruleIDs : List UUID) : Prop where
  nonempty : ruleIDs ≠ []
  nodup : ruleIDs.Nodup
  known : ∀ id ∈ ruleIDs, ∃ row ∈ table.rows, row.contextID = contextID ∧ row.id = id

section Succeeds

variable {contextID : UUID} {ruleIDs : List UUID} {offset : ℕ}
  {table : RuleTable}

theorem Shiftable.shifted_priority (h : Shiftable contextID offset table)
    (hrow : row ∈ table.rows) (hcontext : row.contextID = contextID) :
    (shiftedRow contextID offset row).priority = row.priority + offset := by
  unfold shiftedRow
  rw [if_pos hcontext]
  have hpositive := row.positive
  exact RuleRow.withPriority_priority (by omega) (h.fits row hrow hcontext)

theorem Shiftable.shiftPriorities (h : Shiftable contextID offset table)
    (order : VisitOrder RuleRow) :
    ∃ shifted, shiftPriorities contextID offset order table = .ok shifted ∧
      shifted.rows = table.rows.map (shiftedRow contextID offset) := by
  have hassigns : UniqueTable.Assigns
      (fun row : RuleRow => decide (row.contextID = contextID))
      (fun row => row.setPriority (row.priority + offset))
      (shiftedRow contextID offset) table := by
    refine ⟨?_, fun row _ _ => shiftedRow_id row, ?_, ?_⟩
    · intro row hrow hselected
      have hcontext := of_decide_eq_true hselected
      have hpositive := row.positive
      rw [shiftedRow, if_pos hcontext]
      exact RuleRow.setPriority_eq_withPriority (by omega) (h.fits row hrow hcontext)
    · intro row hrow hselected other hother hid hentry
      have hcontext := of_decide_eq_true hselected
      simp only [RuleRow.entry, Prod.mk.injEq, shiftedRow_contextID,
        h.shifted_priority hrow hcontext] at hentry
      exact h.apart row hrow hcontext other hother (hentry.1.trans hcontext) hentry.2
    · intro row hrow hselected other hother hchosen hid hentry
      have hcontext := of_decide_eq_true hselected
      have hcontext' := of_decide_eq_true hchosen
      simp only [RuleRow.entry, Prod.mk.injEq, shiftedRow_contextID,
        h.shifted_priority hrow hcontext, h.shifted_priority hother hcontext'] at hentry
      have hsame : other = row := by
        refine table.eq_of_index hother hrow (Prod.ext hentry.1 ?_)
        have := hentry.2
        change other.priority = row.priority
        omega
      exact hid (congrArg RuleRow.id hsame)
  obtain ⟨shifted, hok, hrows⟩ := hassigns.update errDuplicateKey order
  refine ⟨shifted, hok, hrows.trans (List.map_congr_left ?_)⟩
  intro row _
  by_cases hcontext : row.contextID = contextID
  · simp [hcontext]
  · simp [hcontext, shiftedRow]

theorem shiftable_of_forall (hoffset : 0 < offset) (h : ∀ order, ∃ shifted,
      Configuration.shiftPriorities contextID offset order table = .ok shifted) :
    Shiftable contextID offset table := by
  have hfirst : ∀ row ∈ table.rows, row.contextID = contextID →
      ∃ next, row.setPriority (row.priority + offset) = .ok next ∧
        ∀ other ∈ table.rows, other.id ≠ next.id → other.entry ≠ next.entry :=
    fun row hrow hcontext =>
      UniqueTable.update_first h hrow (decide_eq_true hcontext)
  constructor
  · intro row hrow hcontext
    obtain ⟨next, hnext, _⟩ := hfirst row hrow hcontext
    rw [← (RuleRow.setPriority_eq_ok.mp hnext).2.2]
    exact next.fits
  · intro row hrow hcontext other hother hcontext' hpriority
    obtain ⟨next, hnext, hfree⟩ := hfirst row hrow hcontext
    obtain ⟨hid, hcontextID, hvalue⟩ := RuleRow.setPriority_eq_ok.mp hnext
    have hne : other.id ≠ next.id := by
      intro hsame
      rw [table.eq_of_key hother hrow (hsame.trans hid)] at hpriority
      omega
    refine hfree other hother hne (Prod.ext ?_ (hpriority.trans hvalue.symm))
    exact hcontext'.trans (hcontext.symm.trans hcontextID.symm)

theorem Lists.length_le (hlists : Lists contextID table ruleIDs)
    (h : Shiftable contextID (reorderOffset ruleIDs) table) :
    (ruleIDs.length : ℤ) ≤ maxInteger := by
  -- the shift of any listed rule bounds the offset, and so the length
  obtain ⟨id, hid⟩ := List.exists_mem_of_ne_nil ruleIDs hlists.nonempty
  obtain ⟨row, hrow, hcontext, _⟩ := hlists.known id hid
  have hfits := h.fits row hrow hcontext
  have hpositive := row.positive
  simp only [reorderOffset] at hfits
  omega

theorem assigned_priority (hlength : (ruleIDs.length : ℤ) ≤ maxInteger)
    (hselected : reorderSelects contextID ruleIDs row) :
    (assignedRow contextID ruleIDs row).priority = ruleIDs.idxOf row.id + 1 := by
  have hlisted : row.id ∈ ruleIDs := by
    simp only [reorderSelects, Bool.and_eq_true, decide_eq_true_eq] at hselected
    exact hselected.2
  have hindex := List.idxOf_lt_length_of_mem hlisted
  rw [assignedRow, if_pos hselected]
  exact RuleRow.withPriority_priority (by omega) (by omega)

theorem buildReorderQuery_of_shifted (hlength : (ruleIDs.length : ℤ) ≤ maxInteger)
    (habove : ∀ row ∈ shifted.rows, row.contextID = contextID → (ruleIDs.length : ℤ) < row.priority)
    (order : VisitOrder RuleRow) :
    ∃ assigned, buildReorderQuery contextID ruleIDs order shifted = .ok assigned ∧
      assigned.rows = shifted.rows.map (assignedRow contextID ruleIDs) := by
  have hlisted : ∀ {row : RuleRow}, reorderSelects contextID ruleIDs row →
      row.contextID = contextID ∧ row.id ∈ ruleIDs := by
    intro row hselected
    simpa [reorderSelects] using hselected
  have hassigns : UniqueTable.Assigns (reorderSelects contextID ruleIDs)
      (fun row =>
        match casePriority ruleIDs row.id with
        | some priority => row.setPriority priority
        | none => .error errPriorityNull)
      (assignedRow contextID ruleIDs) shifted := by
    refine ⟨?_, fun row _ _ => assignedRow_id row, ?_, ?_⟩
    · intro row hrow hselected
      have hindex := List.idxOf_lt_length_of_mem (hlisted hselected).2
      simp only [casePriority, if_pos (hlisted hselected).2, assignedRow, if_pos hselected]
      exact RuleRow.setPriority_eq_withPriority (by omega) (by omega)
    · intro row hrow hselected other hother hid hentry
      simp only [RuleRow.entry, Prod.mk.injEq, assignedRow_contextID,
        assigned_priority hlength hselected] at hentry
      have hindex := List.idxOf_lt_length_of_mem (hlisted hselected).2
      have hlow := habove other hother (hentry.1.trans (hlisted hselected).1)
      omega
    · intro row hrow hselected other hother hchosen hid hentry
      simp only [RuleRow.entry, Prod.mk.injEq, assignedRow_contextID,
        assigned_priority hlength hselected, assigned_priority hlength hchosen] at hentry
      refine hid ((List.idxOf_inj (hlisted hchosen).2).mp ?_)
      have := hentry.2
      omega
  obtain ⟨assigned, hok, hrows⟩ := hassigns.update errDuplicateKey order
  refine ⟨assigned, hok, hrows.trans (List.map_congr_left ?_)⟩
  intro row _
  by_cases hselected : reorderSelects contextID ruleIDs row
  · simp [hselected]
  · simp [hselected, assignedRow]

section

variable (hlists : Lists contextID table ruleIDs)

include hlists

theorem Lists.rowsAffected (hrows : shifted.rows = table.rows.map (shiftedRow contextID offset)) :
    (shifted.rows.filter (reorderSelects contextID ruleIDs)).length = ruleIDs.length := by
  have hperm : ((shifted.rows.filter (reorderSelects contextID ruleIDs)).map
      RuleRow.id).Perm ruleIDs := by
    refine (List.perm_ext_iff_of_nodup ?_ hlists.nodup).mpr ?_
    · exact shifted.nodup.sublist (List.filter_sublist.map _)
    · intro id
      simp only [List.mem_map, List.mem_filter, reorderSelects, Bool.and_eq_true, decide_eq_true_eq]
      constructor
      · rintro ⟨row, ⟨_, _, hlisted⟩, rfl⟩
        exact hlisted
      · intro hlisted
        obtain ⟨row, hrow, hcontext, rfl⟩ := hlists.known id hlisted
        refine ⟨shiftedRow contextID offset row, ⟨?_, ?_⟩, shiftedRow_id row⟩
        · rw [hrows]
          exact List.mem_map_of_mem hrow
        · simpa using ⟨hcontext, hlisted⟩
  simpa using hperm.length_eq

/-- The whole call: it depends on the order of the rows neither in its success nor
in its result. -/
theorem Lists.reorderPriorities (h : Shiftable contextID (reorderOffset ruleIDs) table)
    (shiftOrder assignOrder : VisitOrder RuleRow) :
    ∃ next, reorderPriorities shiftOrder assignOrder contextID ruleIDs table = .ok next ∧
      next.rows = table.rows.map (reorderedRow contextID ruleIDs) := by
  obtain ⟨shifted, hshift, hrows⟩ := h.shiftPriorities shiftOrder
  have habove : ∀ row ∈ shifted.rows, row.contextID = contextID →
      (ruleIDs.length : ℤ) < row.priority := by
    rw [hrows]
    intro row hrow hcontext
    obtain ⟨old, hold, rfl⟩ := List.mem_map.mp hrow
    rw [shiftedRow_contextID] at hcontext
    rw [h.shifted_priority hold hcontext]
    have hpositive := old.positive
    simp only [reorderOffset]
    omega
  obtain ⟨assigned, hassign, hnext⟩ :=
    buildReorderQuery_of_shifted (hlists.length_le h) habove assignOrder
  refine ⟨assigned, ?_, ?_⟩
  · unfold Configuration.reorderPriorities
    rw [if_neg (mt List.length_eq_zero_iff.mp hlists.nonempty), mapError_eq_ok]
    refine bind_eq_ok.mpr ⟨shifted, hshift, bind_eq_ok.mpr ⟨assigned, hassign, ?_⟩⟩
    exact if_neg (not_not.mpr (hlists.rowsAffected hrows))
  · rw [hnext, hrows, List.map_map]
    rfl

theorem Lists.forall_ok_iff :
    (∀ shiftOrder assignOrder, ∃ next,
      Configuration.reorderPriorities shiftOrder assignOrder contextID ruleIDs table = .ok next) ↔
      Shiftable contextID (reorderOffset ruleIDs) table := by
  constructor
  · intro h
    refine shiftable_of_forall (by simp [reorderOffset, reorderPriorityOffset]) ?_
    intro order
    obtain ⟨next, hnext⟩ := h order (.stored RuleRow)
    unfold Configuration.reorderPriorities at hnext
    rw [if_neg (mt List.length_eq_zero_iff.mp hlists.nonempty), mapError_eq_ok] at hnext
    obtain ⟨shifted, hshift, _⟩ := bind_eq_ok.mp hnext
    exact ⟨shifted, hshift⟩
  · intro h shiftOrder assignOrder
    obtain ⟨next, hnext, _⟩ := hlists.reorderPriorities h shiftOrder assignOrder
    exact ⟨next, hnext⟩

end

end Succeeds

/-! ## What a call leaves -/

def maxPriority : ℕ := 1000

def AcceptsPriority (priority : ℤ) : Prop :=
  1 ≤ priority ∧ priority ≤ maxPriority

instance (value : ℤ) : Decidable (AcceptsPriority value) :=
  inferInstanceAs (Decidable (1 ≤ value ∧ value ≤ maxPriority))

def SameRules (before after : RuleTable) : Prop :=
  after.rows.map (fun row => (row.id, row.contextID)) =
    before.rows.map fun row => (row.id, row.contextID)

/-- The listed rules of the context come first, in the order of the list, the
other ones stay in their order behind them, and all have a valid priority. -/
structure Reordered (contextID : UUID) (ruleIDs : List UUID) (before after : RuleTable) : Prop where
  rules : SameRules before after
  listed : ∀ row ∈ after.rows, row.contextID = contextID →
    ∀ index : ℕ, ruleIDs[index]? = some row.id → row.priority = index + 1
  behind : ∀ row ∈ after.rows, row.contextID = contextID → row.id ∈ ruleIDs →
    ∀ other ∈ after.rows, other.contextID = contextID → other.id ∉ ruleIDs →
      row.priority < other.priority
  relative : ∀ first ∈ before.rows, first.contextID = contextID →
    first.id ∉ ruleIDs →
    ∀ second ∈ before.rows, second.contextID = contextID →
      second.id ∉ ruleIDs → first.priority < second.priority →
    ∀ first' ∈ after.rows, first'.id = first.id →
    ∀ second' ∈ after.rows, second'.id = second.id → first'.priority < second'.priority
  accepted : ∀ row ∈ after.rows, row.contextID = contextID → AcceptsPriority row.priority

def ListsAll (contextID : UUID) (table : RuleTable) (ruleIDs : List UUID) : Prop :=
  ∀ row ∈ table.rows, row.contextID = contextID → row.id ∈ ruleIDs

section Leaves

variable {contextID : UUID} {ruleIDs : List UUID} {table next : RuleTable}

section

variable (h : SameRules table next)

include h

theorem SameRules.before_of_after (hrow : row ∈ next.rows) :
    ∃ old ∈ table.rows, old.id = row.id ∧ old.contextID = row.contextID := by
  have hpair : (row.id, row.contextID) ∈ next.rows.map fun row => (row.id, row.contextID) :=
    List.mem_map_of_mem hrow
  rw [h] at hpair
  obtain ⟨old, hold, heq⟩ := List.mem_map.mp hpair
  exact ⟨old, hold, Prod.mk.inj heq⟩

theorem SameRules.symm : SameRules next table :=
  Eq.symm h

theorem SameRules.lists (hlists : Lists contextID table ruleIDs) :
    Lists contextID next ruleIDs := by
  refine ⟨hlists.nonempty, hlists.nodup, ?_⟩
  intro id hid
  obtain ⟨row, hrow, hcontext, rfl⟩ := hlists.known id hid
  obtain ⟨new, hnew, hsame, hcontext'⟩ := h.symm.before_of_after hrow
  exact ⟨new, hnew, hcontext'.trans hcontext, hsame⟩

theorem SameRules.listsAll (hall : ListsAll contextID table ruleIDs) :
    ListsAll contextID next ruleIDs := by
  intro row hrow hcontext
  obtain ⟨old, hold, hsame, hcontext'⟩ := h.before_of_after hrow
  rw [← hsame]
  exact hall old hold (hcontext'.trans hcontext)

end

theorem sameRules_of_rows (hrows : next.rows = table.rows.map (reorderedRow contextID ruleIDs)) :
    SameRules table next := by
  unfold SameRules
  rw [hrows, List.map_map]
  exact List.map_congr_left fun row _ => by simp

theorem reordered_listed_priority (hlists : Lists contextID table ruleIDs)
    (h : Shiftable contextID (reorderOffset ruleIDs) table)
    (hcontext : row.contextID = contextID) (hlisted : row.id ∈ ruleIDs) :
    (reorderedRow contextID ruleIDs row).priority = ruleIDs.idxOf row.id + 1 := by
  have hselected : reorderSelects contextID ruleIDs
      (shiftedRow contextID (reorderOffset ruleIDs) row) := by
    simp [reorderSelects, hcontext, hlisted]
  rw [reorderedRow, assigned_priority (hlists.length_le h) hselected, shiftedRow_id]

theorem reordered_unlisted_priority (h : Shiftable contextID (reorderOffset ruleIDs) table)
    (hrow : row ∈ table.rows) (hcontext : row.contextID = contextID) (hlisted : row.id ∉ ruleIDs) :
    (reorderedRow contextID ruleIDs row).priority = row.priority + reorderOffset ruleIDs := by
  have hselected : ¬ reorderSelects contextID ruleIDs
      (shiftedRow contextID (reorderOffset ruleIDs) row) := by
    simp [reorderSelects, hlisted]
  rw [reorderedRow, assignedRow, if_neg hselected, h.shifted_priority hrow hcontext]

theorem Reordered.listsAll (hreordered : Reordered contextID ruleIDs table next)
    (h : Shiftable contextID (reorderOffset ruleIDs) table)
    (hrows : next.rows = table.rows.map (reorderedRow contextID ruleIDs)) :
    ListsAll contextID table ruleIDs := by
  intro row hrow hcontext
  by_contra hlisted
  have hstored : reorderedRow contextID ruleIDs row ∈ next.rows := hrows ▸ List.mem_map_of_mem hrow
  have haccepted := hreordered.accepted _ hstored (by simpa using hcontext)
  rw [reordered_unlisted_priority h hrow hcontext hlisted] at haccepted
  have hpositive := row.positive
  have hbound := haccepted.2
  simp only [reorderOffset, reorderPriorityOffset, maxPriority] at hbound
  omega

theorem Reordered.length_le (hreordered : Reordered contextID ruleIDs table next)
    (hlists : Lists contextID table ruleIDs)
    (hrows : next.rows = table.rows.map (reorderedRow contextID ruleIDs)) :
    ruleIDs.length ≤ maxPriority := by
  -- the rule that is listed last has the greatest priority
  have hlength := List.length_pos_of_ne_nil hlists.nonempty
  obtain ⟨row, hrow, hcontext, hid⟩ := hlists.known
    (ruleIDs.getLast hlists.nonempty) (List.getLast_mem _)
  have hstored : reorderedRow contextID ruleIDs row ∈ next.rows := hrows ▸ List.mem_map_of_mem hrow
  have hlast := hreordered.listed _ hstored (by simpa using hcontext)
    (ruleIDs.length - 1) (by
      rw [reorderedRow_id, hid, List.getLast_eq_getElem]
      simp)
  have haccepted := hreordered.accepted _ hstored (by simpa using hcontext)
  rw [hlast] at haccepted
  have hbound := haccepted.2
  omega

/-- The rules that are not listed stay above the valid priorities for good, so a
call keeps its promise only if it lists them all. -/
theorem Lists.reordered_iff (hlists : Lists contextID table ruleIDs)
    (h : Shiftable contextID (reorderOffset ruleIDs) table)
    (hrows : next.rows = table.rows.map (reorderedRow contextID ruleIDs)) :
    Reordered contextID ruleIDs table next ↔
      ListsAll contextID table ruleIDs ∧ ruleIDs.length ≤ maxPriority := by
  have hmem : ∀ {row : RuleRow}, row ∈ next.rows ↔
      ∃ old ∈ table.rows, reorderedRow contextID ruleIDs old = row := by
    intro row
    rw [hrows, List.mem_map]
  constructor
  · intro hreordered
    exact ⟨hreordered.listsAll h hrows, hreordered.length_le hlists hrows⟩
  · rintro ⟨hall, hlength⟩
    refine ⟨sameRules_of_rows hrows, ?_, ?_, ?_, ?_⟩
    · intro row hrow hcontext index hindex
      obtain ⟨old, hold, rfl⟩ := hmem.mp hrow
      rw [reorderedRow_contextID] at hcontext
      rw [reorderedRow_id] at hindex
      rw [reordered_listed_priority hlists h hcontext (List.mem_of_getElem? hindex)]
      obtain ⟨hlt, hget⟩ := List.getElem?_eq_some_iff.mp hindex
      rw [← hget, hlists.nodup.idxOf_getElem]
    · intro row _ _ _ other hother hcontext hlisted
      obtain ⟨old, hold, rfl⟩ := hmem.mp hother
      simp only [reorderedRow_contextID, reorderedRow_id] at hcontext hlisted
      exact absurd (hall old hold hcontext) hlisted
    · intro first hfirst hcontext hlisted
      exact absurd (hall first hfirst hcontext) hlisted
    · intro row hrow hcontext
      obtain ⟨old, hold, rfl⟩ := hmem.mp hrow
      rw [reorderedRow_contextID] at hcontext
      have hlisted := hall old hold hcontext
      have hindex := List.idxOf_lt_length_of_mem hlisted
      rw [reordered_listed_priority hlists h hcontext hlisted]
      constructor <;> omega

theorem Reordered.shiftable (h : Reordered contextID ruleIDs table next)
    (hlength : later.length ≤ maxPriority) : Shiftable contextID (reorderOffset later) next := by
  constructor
  · intro row hrow hcontext
    have hbound := (h.accepted row hrow hcontext).2
    simp only [maxPriority, reorderOffset, reorderPriorityOffset, maxInteger] at hbound hlength ⊢
    omega
  · intro row hrow hcontext other hother hcontext' heq
    have hpositive := row.positive
    have hbound := (h.accepted other hother hcontext').2
    simp only [maxPriority, reorderOffset, reorderPriorityOffset] at hbound heq
    omega

theorem Lists.length_eq (hlists : Lists contextID table ruleIDs)
    (hall : ListsAll contextID table ruleIDs) (hlater : Lists contextID table later)
    (hlaterAll : ListsAll contextID table later) : later.length = ruleIDs.length := by
  refine List.Perm.length_eq ((List.perm_ext_iff_of_nodup hlater.nodup hlists.nodup).mpr ?_)
  intro id
  constructor
  · intro hid
    obtain ⟨row, hrow, hcontext, rfl⟩ := hlater.known id hid
    exact hall row hrow hcontext
  · intro hid
    obtain ⟨row, hrow, hcontext, rfl⟩ := hlists.known id hid
    exact hlaterAll row hrow hcontext

end Leaves

/-! ## Sequences of calls -/

/-- Every call succeeds and keeps its promise, in whichever orders the rows are
visited. -/
def ReordersAll (contextID : UUID) : RuleTable → List (List UUID) → Prop
  | _, [] => True
  | table, ruleIDs :: calls =>
    ∀ shiftOrder assignOrder, ∃ next,
      reorderPriorities shiftOrder assignOrder contextID ruleIDs table = .ok next ∧
        Reordered contextID ruleIDs table next ∧
        ReordersAll contextID next calls

/-- Every call lists all rules of the context, which are not too many, and the
first one can shift the priorities that it finds. -/
def ListsAlways (contextID : UUID) (table : RuleTable) : List (List UUID) → Prop
  | [] => True
  | ruleIDs :: calls =>
    Shiftable contextID (reorderOffset ruleIDs) table ∧
      ruleIDs.length ≤ maxPriority ∧
      ∀ listed ∈ ruleIDs :: calls, ListsAll contextID table listed

theorem Reordered.listsAlways_iff {contextID : UUID} {ruleIDs : List UUID} {table next : RuleTable}
    (h : Reordered contextID ruleIDs table next) (hlists : Lists contextID table ruleIDs)
    (hall : ListsAll contextID table ruleIDs) (hlength : ruleIDs.length ≤ maxPriority)
    {calls : List (List UUID)} (hcalls : ∀ listed ∈ calls, Lists contextID table listed) :
    ListsAlways contextID next calls ↔ ∀ listed ∈ calls, ListsAll contextID table listed := by
  cases calls with
  | nil => simp [ListsAlways]
  | cons later =>
    constructor
    · rintro ⟨_, _, hlater⟩ listed hlisted
      exact h.rules.symm.listsAll (hlater listed hlisted)
    · intro hlater
      have hcount : later.length ≤ maxPriority := by
        rw [hlists.length_eq hall (hcalls later List.mem_cons_self)
          (hlater later List.mem_cons_self)]
        exact hlength
      exact ⟨h.shiftable hcount, hcount,
        fun listed hlisted => h.rules.listsAll (hlater listed hlisted)⟩

/--
A sequence of calls keeps its promises, in every order of the rows, exactly when
all of them list every rule and the first one finds priorities that it can shift.
-/
theorem reordersAll_iff {contextID : UUID} {table : RuleTable} {calls : List (List UUID)}
    (hcalls : ∀ ruleIDs ∈ calls, Lists contextID table ruleIDs) :
    ReordersAll contextID table calls ↔ ListsAlways contextID table calls := by
  induction calls generalizing table with
  | nil => exact Iff.rfl
  | cons ruleIDs calls ih =>
    have hlists := hcalls ruleIDs List.mem_cons_self
    have hrest : ∀ listed ∈ calls, Lists contextID table listed :=
      fun listed hlisted => hcalls listed (List.mem_cons_of_mem _ hlisted)
    constructor
    · intro h
      have hshift := hlists.forall_ok_iff.mp fun shiftOrder assignOrder =>
        let ⟨next, hnext, _⟩ := h shiftOrder assignOrder
        ⟨next, hnext⟩
      obtain ⟨next, hnext, hreordered, hlater⟩ := h (.stored RuleRow) (.stored RuleRow)
      obtain ⟨next', hnext', hrows⟩ := hlists.reorderPriorities hshift
        (.stored RuleRow) (.stored RuleRow)
      rw [hnext] at hnext'
      cases hnext'
      obtain ⟨hall, hlength⟩ := (hlists.reordered_iff hshift hrows).mp hreordered
      rw [ih fun listed hlisted => hreordered.rules.lists (hrest listed hlisted),
        hreordered.listsAlways_iff hlists hall hlength hrest] at hlater
      refine ⟨hshift, hlength, ?_⟩
      intro listed hlisted
      rcases List.mem_cons.mp hlisted with rfl | hlisted
      · exact hall
      · exact hlater listed hlisted
    · rintro ⟨hshift, hlength, hall⟩ shiftOrder assignOrder
      have hfirst := hall ruleIDs List.mem_cons_self
      obtain ⟨next, hnext, hrows⟩ := hlists.reorderPriorities hshift shiftOrder assignOrder
      have hreordered := (hlists.reordered_iff hshift hrows).mpr ⟨hfirst, hlength⟩
      refine ⟨next, hnext, hreordered, ?_⟩
      rw [ih fun listed hlisted => hreordered.rules.lists (hrest listed hlisted),
        hreordered.listsAlways_iff hlists hfirst hlength hrest]
      exact fun listed hlisted =>
        hall listed (List.mem_cons_of_mem _ hlisted)

def twoRules (first second : ℤ) (hfirst : 0 < first ∧ first ≤ maxInteger)
    (hsecond : 0 < second ∧ second ≤ maxInteger) (hne : first ≠ second) :
    RuleTable where
  rows := [⟨⟨1⟩, ⟨10⟩, first, hfirst.1, hfirst.2⟩, ⟨⟨2⟩, ⟨10⟩, second, hsecond.1, hsecond.2⟩]
  nodup := by simp
  unique := by simpa [RuleRow.entry] using hne

theorem reordersAll_iff_both :
    ReordersAll ⟨10⟩ (twoRules 2 1 (by decide) (by decide) (by decide))
      [[⟨1⟩, ⟨2⟩], [⟨2⟩, ⟨1⟩]] := by
  refine (reordersAll_iff ?_).mpr ⟨⟨?_, ?_⟩, ?_, ?_⟩
  · intro ruleIDs hruleIDs
    exact ⟨by rintro rfl; simp at hruleIDs, by revert ruleIDs; decide, by revert ruleIDs; decide⟩
  · decide
  · decide
  · decide
  · unfold ListsAll
    decide

/--
A call that lists the first rule only leaves the second one at priority 1002, and
the next such call moves the first rule onto it.
-/
theorem partial_reorder_fails :
    Lists ⟨10⟩ (twoRules 2 1 (by decide) (by decide) (by decide)) [⟨1⟩] ∧
    ∃ next,
      reorderPriorities (.stored RuleRow) (.stored RuleRow) ⟨10⟩ [⟨1⟩]
          (twoRules 2 1 (by decide) (by decide) (by decide)) = .ok next ∧
        next.rows.map RuleRow.priority = [1, 1002] ∧
        ¬ AcceptsPriority 1002 ∧
        reorderPriorities (.stored RuleRow) (.stored RuleRow) ⟨10⟩ [⟨1⟩] next =
          .error (.wrap "failed to reorder match rule priorities: %w" []
            (.wrap "with tenant tx provider: %w" [] errDuplicateKey)) := by
  exact ⟨⟨by decide, by decide, by decide⟩,
    twoRules 1 1002 (by decide) (by decide) (by decide), rfl, rfl, by decide,
    rfl⟩

end Matcher.Configuration
