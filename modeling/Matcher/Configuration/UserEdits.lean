import Matcher.Configuration.SchedulerWorkers

/-!
# Settings of a schedule

The expression and the flag of a schedule belong to its users, but a replica writes
them back from the copy that it read at the start of its cycle.  They are those of
the last committed user update exactly in the runs in which every replica writes
the settings that it finds.
-/

namespace Matcher.Configuration

open Foundation
open Command (Fault)
open Matching (Instant)

variable {κ : Type}

def ReconciliationSchedule.settings (schedule : ReconciliationSchedule) : String × Bool :=
  (schedule.cronExpression, schedule.enabled)

def Edit.settings (edit : Edit) : String × Bool :=
  (edit.cronExpression, edit.enabled)

/-- The settings of the last committed update of a schedule, or the first ones. -/
def lastSettings (created : ReconciliationSchedule) (edits : List Edit) : String × Bool :=
  edits.foldl
    (fun settings edit =>
      if edit.scheduleID = created.id then edit.settings else settings)
    created.settings

theorem lastSettings_concat (created : ReconciliationSchedule) (edits : List Edit) (edit : Edit) :
    lastSettings created (edits ++ [edit]) =
      if edit.scheduleID = created.id then edit.settings
      else lastSettings created edits := by
  simp [lastSettings, List.foldl_append]

def Store.FollowsUsers (schedules : Table ReconciliationSchedule.id) (store : Store κ) : Prop :=
  ∀ row ∈ store.schedules.rows, ∃ created ∈ schedules.rows,
    created.id = row.id ∧ row.settings = lastSettings created store.edits

instance (schedules : Table ReconciliationSchedule.id) (store : Store κ) :
    Decidable (store.FollowsUsers schedules) :=
  inferInstanceAs (Decidable (∀ row ∈ store.schedules.rows, ∃ created ∈ schedules.rows, _))

def Store.HasSettings (store : Store κ) (copy : ReconciliationSchedule) : Prop :=
  ∀ row ∈ store.schedules.rows, row.id = copy.id → row.settings = copy.settings

/-! ## Writes -/

namespace Store

theorem overwrite_settings {entity stored : ReconciliationSchedule} (h : stored.id = entity.id) :
    (overwrite entity stored).settings = entity.settings := by
  simp [overwrite, h, ReconciliationSchedule.settings]

variable {schedules : Table ReconciliationSchedule.id} {store : Store κ}

theorem FollowsUsers.executeUpdate_iff (h : store.FollowsUsers schedules)
    (entity : ReconciliationSchedule) :
    (store.executeUpdate entity).FollowsUsers schedules ↔ store.HasSettings entity := by
  constructor
  · intro hnext row hrow hid
    have hwritten := (Table.mem_modify (overwrite_id entity)).mpr ⟨row, hrow, rfl⟩
    obtain ⟨written, hcreated, hkey, hsettings⟩ := hnext _ hwritten
    obtain ⟨created, hother, hid', hrow'⟩ := h row hrow
    rw [overwrite_id] at hkey
    rw [schedules.eq_of_key hcreated hother (hkey.trans hid'.symm),
      overwrite_settings hid] at hsettings
    exact hrow'.trans hsettings.symm
  · intro hsame row hrow
    obtain ⟨old, hold, rfl⟩ := (Table.mem_modify (overwrite_id entity)).mp hrow
    obtain ⟨created, hcreated, hkey, hsettings⟩ := h old hold
    refine ⟨created, hcreated, by rw [overwrite_id, hkey], ?_⟩
    by_cases hid : old.id = entity.id
    · rw [overwrite_settings hid, ← hsame old hold hid]
      exact hsettings
    · rw [overwrite_of_ne hid]
      exact hsettings

theorem FollowsUsers.recordEdit (h : store.FollowsUsers schedules)
    (changed : ReconciliationSchedule) :
    ((store.executeUpdate changed).recordEdit changed).FollowsUsers
      schedules := by
  intro row hrow
  obtain ⟨old, hold, rfl⟩ := (Table.mem_modify (overwrite_id changed)).mp hrow
  obtain ⟨created, hcreated, hkey, hsettings⟩ := h old hold
  refine ⟨created, hcreated, by rw [overwrite_id, hkey], ?_⟩
  simp only [Store.recordEdit, lastSettings_concat, hkey]
  by_cases hid : old.id = changed.id
  · rw [overwrite_settings hid, if_pos hid.symm]
    rfl
  · rw [overwrite_of_ne hid, if_neg (Ne.symm hid)]
    exact hsettings

end Store

/-! ## Runs -/

namespace Scheduler

/-- A replica that writes a schedule back finds the settings of its copy. -/
def WritesCurrent (scheduler : Scheduler κ) : Label κ → Prop
  | .update replica none =>
    match scheduler.phase replica with
    | .triggered _ schedule _ => scheduler.store.HasSettings schedule
    | _ => True
  | _ => True

variable [DecidableEq κ] (cron : String → Except GoError CronSchedule)

theorem followsUsers_step_iff {schedules : Table ReconciliationSchedule.id}
    {scheduler : Scheduler κ} (h : scheduler.store.FollowsUsers schedules) (label : Label κ) :
    (scheduler.step cron label).store.FollowsUsers schedules ↔ scheduler.WritesCurrent label := by
  -- Only an update and a commit write a schedule.
  cases label with
  | findDueSchedules =>
    refine iff_of_true ?_ trivial
    simp only [step]
    split <;> exact h
  | acquire =>
    refine iff_of_true ?_ trivial
    simp only [step]
    split
    · exact h
    · unfold acquire
      split <;> exact h
    · exact h
  | trigger =>
    refine iff_of_true ?_ trivial
    simp only [step]
    split <;> exact h
  | update replica fault =>
    cases hphase : scheduler.phase replica with
    | triggered now schedule =>
      cases fault with
      | none =>
        simp only [step, WritesCurrent, hphase, update]
        exact h.executeUpdate_iff (schedule.markRun cron now)
      | some =>
        simp only [step, WritesCurrent, hphase, update, iff_true]
        exact h
    | _ =>
      cases fault with
      | none | some => simpa only [step, WritesCurrent, hphase, iff_true] using h
  | release | edit =>
    refine iff_of_true ?_ trivial
    simp only [step]
    split <;> exact h
  | commit =>
    refine iff_of_true ?_ trivial
    simp only [step]
    split
    · unfold commit
      split
      · exact h.recordEdit _
      · exact h
    · exact h

/-- The stored settings are always those of the last committed user update exactly
when every replica writes the settings that it finds. -/
theorem settings_follow_users_iff (schedules : Table ReconciliationSchedule.id)
    (labels : List (Label κ)) :
    (∀ reached, reached <+: labels → (run cron schedules reached).store.FollowsUsers schedules) ↔
      Meets (step cron) WritesCurrent (initial schedules) labels :=
  Meets.iff_invariant
    (fun scheduler : Scheduler κ => scheduler.store.FollowsUsers schedules)
    (fun row hrow => ⟨row, hrow, rfl, rfl⟩)
    (fun _ label h => followsUsers_step_iff cron h label) labels

/-- A user disables the schedule between the poll and the update of a replica, and
the update enables it again. -/
theorem stale_copy_enables_disabled_schedule :
    let now := reference + 16 * nanosecondsPerMinute
    let labels : List (Label Bool) :=
      [.findDueSchedules false now, .edit true ⟨1⟩,
        .commit true ⟨none, some false⟩ now none] ++ processSchedule false none
    let final := run hourlyCron quarterPast labels
    final.store.edits.map Edit.settings = [("15,45 * * * *", false)] ∧
      final.store.schedules.rows.map ReconciliationSchedule.settings = [("15,45 * * * *", true)] ∧
      ¬ final.store.FollowsUsers quarterPast := by
  decide +kernel

end Scheduler

end Matcher.Configuration
