import Matcher.Configuration.SchedulerWorkers

/-!
# Match runs of one occurrence

The lock of a schedule keeps two replicas from processing it at the same time, but
not one after the other with the same copy.  An occurrence triggers one match run
if the stored run time is still the one of the copy when the run is triggered, and
every update after a run succeeds.
-/

namespace Matcher.Configuration

open Foundation
open Command (Fault)
open Matching (Instant)

variable {κ : Type} {rest : List ReconciliationSchedule} {schedule : ReconciliationSchedule}
  {replica : κ} {phase : Phase} {now : Instant} {store : Store κ}

def Store.RunsAt (store : Store κ) (scheduleID : UUID) (nextRunAt : Option Instant) : Prop :=
  ∀ row ∈ store.schedules.rows, row.id = scheduleID → row.nextRunAt = nextRunAt

/-- What a replica holds and what it knows of the schedules it has read. -/
def Phase.Sound (replica : κ) (store : Store κ) : Phase → Prop
  | .polled now due => ∀ schedule ∈ due, schedule.IsDue now
  | .locked now schedule rest =>
    store.lock schedule.id = some replica ∧ schedule.IsDue now ∧ ∀ other ∈ rest, other.IsDue now
  | .triggered now schedule rest =>
    store.lock schedule.id = some replica ∧ schedule.IsDue now ∧
      store.RunsAt schedule.id schedule.nextRunAt ∧
      ∀ other ∈ rest, other.IsDue now
  | .updated now schedule rest =>
    store.lock schedule.id = some replica ∧ ∀ other ∈ rest, other.IsDue now
  | _ => True

def Phase.Triggers (trigger : Trigger) : Phase → Prop
  | .triggered _ schedule _ =>
    schedule.id = trigger.scheduleID ∧ schedule.nextRunAt = trigger.nextRunAt
  | _ => False

def Store.Past (store : Store κ) (trigger : Trigger) : Prop :=
  ∀ row ∈ store.schedules.rows, row.id = trigger.scheduleID →
    ∀ next ∈ row.nextRunAt, ∀ triggered ∈ trigger.nextRunAt, triggered < next

def Trigger.occurrence (trigger : Trigger) : UUID × Option Instant :=
  (trigger.scheduleID, trigger.nextRunAt)

def Label.IsPoll : Label κ → Prop
  | .edit _ _ | .commit _ _ _ _ => False
  | _ => True

instance (label : Label κ) : Decidable label.IsPoll := by
  unfold Label.IsPoll
  split <;> infer_instance

namespace Scheduler

/-- The stored run time is the one of the copy when a run is triggered, and the
update after it succeeds. -/
def TriggersCurrent (scheduler : Scheduler κ) : Label κ → Prop
  | .trigger replica =>
    match scheduler.phase replica with
    | .locked _ schedule _ =>
      ∃ row ∈ scheduler.store.schedules.rows,
        row.id = schedule.id ∧ row.nextRunAt = schedule.nextRunAt
    | _ => True
  | .update _ fault => fault = none
  | _ => True

instance (scheduler : Scheduler κ) (label : Label κ) :
    Decidable (scheduler.TriggersCurrent label) := by
  unfold TriggersCurrent
  split
  · split <;> infer_instance
  · infer_instance
  · infer_instance

structure Sound (scheduler : Scheduler κ) : Prop where
  phases : scheduler.Every Phase.Sound
  past : ∀ trigger ∈ scheduler.store.triggers,
    (∃ replica, (scheduler.phase replica).Triggers trigger) ∨ scheduler.store.Past trigger
  nodup : (scheduler.store.triggers.map Trigger.occurrence).Nodup

end Scheduler

/-! ## Locks -/

namespace Store

theorem setLock_self (store : Store κ) (scheduleID : UUID) (holder : Option κ) :
    (store.setLock scheduleID holder).lock scheduleID =
      holder := by
  simp [setLock]

theorem setLock_of_ne (store : Store κ) {scheduleID other : UUID} (h : other ≠ scheduleID)
    (holder : Option κ) : (store.setLock scheduleID holder).lock other = store.lock other := by
  simp [setLock, h]

end Store

/-- A replica keeps what it knows when its own lock and the run time of a schedule
that it has triggered stay the same. -/
theorem Phase.Sound.of_store {next : Store κ}
    (h : phase.Sound replica store) (hlock : ∀ scheduleID, store.lock scheduleID = some replica →
      next.lock scheduleID = some replica)
    (hruns : ∀ scheduleID nextRunAt, store.lock scheduleID = some replica →
      store.RunsAt scheduleID nextRunAt → next.RunsAt scheduleID nextRunAt) :
    phase.Sound replica next := by
  cases phase with
  | idle => trivial
  | polled => exact h
  | locked =>
    obtain ⟨hheld, hdue, hrest⟩ := h
    exact ⟨hlock _ hheld, hdue, hrest⟩
  | triggered =>
    obtain ⟨hheld, hdue, hrunsAt, hrest⟩ := h
    exact ⟨hlock _ hheld, hdue, hruns _ _ hheld hrunsAt, hrest⟩
  | updated =>
    obtain ⟨hheld, hrest⟩ := h
    exact ⟨hlock _ hheld, hrest⟩
  | editing => trivial

theorem Phase.Sound.lock_of_triggers (h : phase.Sound replica store) {trigger : Trigger}
    (htriggers : phase.Triggers trigger) : store.lock trigger.scheduleID = some replica := by
  cases phase with
  | triggered =>
    rw [← htriggers.1]
    exact h.1
  | _ => exact htriggers.elim

/-! ## Steps of replicas -/

variable [DecidableEq κ]

namespace Scheduler

variable {scheduler : Scheduler κ}

section

variable (h : scheduler.Sound)

include h

/-- A step that triggers nothing: the other replicas keep what they know, and a
run that the replica itself has triggered is over if it goes on. -/
theorem Sound.put
    (htriggers : store.triggers = scheduler.store.triggers) (hactor : phase.Sound replica store)
    (hlock : ∀ other, other ≠ replica → ∀ scheduleID, scheduler.store.lock scheduleID = some other →
      store.lock scheduleID = some other)
    (hruns : ∀ other, other ≠ replica → ∀ scheduleID nextRunAt,
      scheduler.store.lock scheduleID = some other →
      scheduler.store.RunsAt scheduleID nextRunAt →
      store.RunsAt scheduleID nextRunAt)
    (hdone : ∀ trigger, (scheduler.phase replica).Triggers trigger → store.Past trigger)
    (hpast : ∀ trigger, scheduler.store.Past trigger → store.Past trigger) :
    Sound (scheduler.put replica store phase) := by
  refine ⟨h.phases.put hactor fun other hother hsound =>
    hsound.of_store (hlock other hother) (hruns other hother), ?_, ?_⟩
  · intro trigger htrigger
    rw [Actors.put_store] at htrigger ⊢
    rw [htriggers] at htrigger
    rcases h.past trigger htrigger with ⟨holder, hholder⟩ | hover
    · by_cases hsame : holder = replica
      · subst hsame
        exact .inr (hdone trigger hholder)
      · refine .inl ⟨holder, ?_⟩
        rw [Actors.put_phase, Actors.goto_phase_of_ne _ hsame]
        exact hholder
    · exact .inr (hpast trigger hover)
  · rw [Actors.put_store, htriggers]
    exact h.nodup

theorem Sound.goto (hactor : phase.Sound replica scheduler.store)
    (hdone : ∀ trigger, ¬ (scheduler.phase replica).Triggers trigger) :
    Sound (scheduler.goto replica phase) :=
  h.put rfl hactor (fun _ _ _ hheld => hheld) (fun _ _ _ _ _ hruns => hruns)
    (fun trigger htrigger => (hdone trigger htrigger).elim) fun _ hover => hover

theorem Sound.acquire (hphase : scheduler.phase replica = .polled now (schedule :: rest))
    (fault : Fault) : Sound (scheduler.acquire replica fault now schedule rest) := by
  have hdue : ∀ other ∈ schedule :: rest, other.IsDue now := h.phases.of_phase hphase
  have hnone : ∀ trigger, ¬ (scheduler.phase replica).Triggers trigger := by
    rw [hphase]
    exact fun trigger htrigger => htrigger
  have hrest : ∀ other ∈ rest, other.IsDue now :=
    fun other hother => hdue other (List.mem_cons_of_mem schedule hother)
  unfold Scheduler.acquire
  split
  next hfree =>
    refine h.put rfl ?_ ?_ (fun _ _ _ _ _ hruns => hruns)
      (fun trigger htrigger => (hnone trigger htrigger).elim)
      (fun _ hover => hover)
    · exact ⟨Store.setLock_self .., hdue schedule List.mem_cons_self, hrest⟩
    · intro other _ scheduleID hheld
      have hne : scheduleID ≠ schedule.id := by
        rintro rfl
        rw [hfree] at hheld
        cases hheld
      rw [Store.setLock_of_ne _ hne]
      exact hheld
  next => exact h.goto hrest hnone

theorem Sound.trigger (hphase : scheduler.phase replica = .locked now schedule rest)
    (hcurrent : ∃ row ∈ scheduler.store.schedules.rows,
      row.id = schedule.id ∧ row.nextRunAt = schedule.nextRunAt) :
    Sound (scheduler.put replica (scheduler.store.record schedule)
      (.triggered now schedule rest)) := by
  obtain ⟨row, hrow, hid, hnext⟩ := hcurrent
  obtain ⟨hheld, hdue, hrest⟩ := h.phases.of_phase hphase
  have hruns : scheduler.store.RunsAt schedule.id schedule.nextRunAt := by
    intro other hother hotherID
    rw [scheduler.store.schedules.eq_of_key hother hrow (hotherID.trans hid.symm)]
    exact hnext
  refine ⟨h.phases.put ⟨hheld, hdue, hruns, hrest⟩
    fun _ _ hsound => hsound.of_store (fun _ hlock => hlock) (fun _ _ _ hrunsAt => hrunsAt), ?_, ?_⟩
  · intro trigger htrigger
    rcases List.mem_append.mp htrigger with htrigger | htrigger
    · rcases h.past trigger htrigger with ⟨holder, hholder⟩ | hover
      · have hsame : holder ≠ replica := by
          rintro rfl
          rw [hphase] at hholder
          exact hholder
        refine .inl ⟨holder, ?_⟩
        rw [Actors.put_phase, Actors.goto_phase_of_ne _ hsame]
        exact hholder
      · exact .inr hover
    · rw [List.mem_singleton.mp htrigger]
      refine .inl ⟨replica, ?_⟩
      rw [Actors.put_phase, Actors.goto_phase_self]
      exact ⟨rfl, rfl⟩
  · have hnew : (schedule.id, schedule.nextRunAt) ∉
        scheduler.store.triggers.map Trigger.occurrence := by
      intro hmem
      obtain ⟨trigger, htrigger, hoccurrence⟩ := List.mem_map.mp hmem
      obtain ⟨htriggerID, htriggerNext⟩ := Prod.mk.inj hoccurrence
      rcases h.past trigger htrigger with ⟨holder, hholder⟩ | hover
      · have hlock := (h.phases holder).lock_of_triggers hholder
        rw [htriggerID, hheld] at hlock
        cases hlock
        rw [hphase] at hholder
        exact hholder
      · obtain ⟨-, nextRunAt, hmem, -⟩ := hdue
        have hlt := hover row hrow (hid.trans htriggerID.symm) nextRunAt
          (hnext ▸ hmem) nextRunAt (htriggerNext ▸ hmem)
        exact lt_irrefl _ hlt
    have hmap : (scheduler.store.record schedule).triggers.map
        Trigger.occurrence =
          scheduler.store.triggers.map Trigger.occurrence ++
            [(schedule.id, schedule.nextRunAt)] := by
      simp [Store.record, Trigger.occurrence]
    rw [Actors.put_store, hmap]
    exact List.nodup_append.mpr ⟨h.nodup, List.nodup_singleton _, by
      rintro occurrence hoccurrence _ hother rfl
      rw [List.mem_singleton] at hother
      exact hnew (hother ▸ hoccurrence)⟩

theorem Sound.update (cron : String → Except GoError CronSchedule)
    (hphase : scheduler.phase replica = .triggered now schedule rest) :
    Sound (scheduler.update cron replica none now schedule rest) := by
  obtain ⟨hheld, ⟨-, nextRunAt, hnextRunAt, hdue⟩, hruns, hrest⟩ := h.phases.of_phase hphase
  -- The written run time is later than the cycle, and the cycle is not before the
  -- run time that was read.
  have hlater : ∀ next ∈ (schedule.markRun cron now).nextRunAt, nextRunAt < next := by
    intro next hnext
    exact hdue.trans_lt (ReconciliationSchedule.lt_of_calculateNextRun cron hnext)
  refine h.put rfl ⟨hheld, hrest⟩ (fun _ _ _ hlock => hlock) ?_ ?_ ?_
  · intro other hother scheduleID runsAt hlock hrunsAt row hrow hid
    obtain ⟨old, hold, rfl⟩ := (Table.mem_modify (Store.overwrite_id _)).mp hrow
    rw [Store.overwrite_id] at hid
    have hne : old.id ≠ (schedule.markRun cron now).id := by
      intro hsame
      have hsame : scheduleID = schedule.id := hid.symm.trans hsame
      rw [hsame, hheld] at hlock
      cases hlock
      exact hother rfl
    rw [Store.overwrite_of_ne hne]
    exact hrunsAt old hold hid
  · intro trigger htrigger row hrow hid next hnext triggered htriggered
    rw [hphase] at htrigger
    obtain ⟨old, hold, rfl⟩ := (Table.mem_modify (Store.overwrite_id _)).mp hrow
    rw [Store.overwrite_id] at hid
    have hsame : old.id = (schedule.markRun cron now).id := hid.trans htrigger.1.symm
    rw [Store.overwrite_nextRunAt hsame] at hnext
    rw [← htrigger.2] at htriggered
    rw [Option.mem_unique htriggered hnextRunAt]
    exact hlater next hnext
  · intro trigger hover row hrow hid next hnext triggered htriggered
    obtain ⟨old, hold, rfl⟩ := (Table.mem_modify (Store.overwrite_id _)).mp hrow
    rw [Store.overwrite_id] at hid
    by_cases hsame : old.id = (schedule.markRun cron now).id
    · rw [Store.overwrite_nextRunAt hsame] at hnext
      have hstored : old.nextRunAt = schedule.nextRunAt := hruns old hold hsame
      have hbefore := hover old hold hid nextRunAt (hstored ▸ hnextRunAt) triggered htriggered
      exact hbefore.trans (hlater next hnext)
    · rw [Store.overwrite_of_ne hsame] at hnext
      exact hover old hold hid next hnext triggered htriggered

theorem Sound.release (hphase : scheduler.phase replica = .updated now schedule rest) :
    Sound (scheduler.put replica (scheduler.store.setLock schedule.id none)
      (.polled now rest)) := by
  obtain ⟨hheld, hrest⟩ := h.phases.of_phase hphase
  refine h.put rfl hrest ?_ (fun _ _ _ _ _ hruns => hruns) ?_ (fun _ hover => hover)
  · intro other hother scheduleID hlock
    have hne : scheduleID ≠ schedule.id := by
      rintro rfl
      rw [hheld] at hlock
      cases hlock
      exact hother rfl
    rw [Store.setLock_of_ne _ hne]
    exact hlock
  · intro trigger htrigger
    rw [hphase] at htrigger
    exact htrigger.elim

theorem Sound.step (cron : String → Except GoError CronSchedule)
    {label : Label κ} (hpoll : label.IsPoll) (hcurrent : scheduler.TriggersCurrent label) :
    Sound (scheduler.step cron label) := by
  cases label with
  | findDueSchedules =>
    simp only [Scheduler.step]
    split
    next hphase =>
      refine h.goto ?_ fun trigger htrigger => ?_
      · intro schedule hschedule
        have hmem := (List.mem_insertionSort _).mp hschedule
        simpa using (List.mem_filter.mp hmem).2
      · rw [hphase] at htrigger
        exact htrigger
    next => exact h
  | acquire _ fault =>
    simp only [Scheduler.step]
    split
    next hphase =>
      refine h.goto trivial fun trigger htrigger => ?_
      rw [hphase] at htrigger
      exact htrigger
    next hphase => exact h.acquire hphase fault
    next => exact h
  | trigger =>
    simp only [Scheduler.step]
    split
    next hphase =>
      simp only [TriggersCurrent, hphase] at hcurrent
      exact h.trigger hphase hcurrent
    next => exact h
  | update _ fault =>
    simp only [Scheduler.step]
    split
    next hphase =>
      have hfault : fault = none := hcurrent
      rw [hfault]
      exact h.update cron hphase
    next => exact h
  | release =>
    simp only [Scheduler.step]
    split
    next hphase => exact h.release hphase
    next => exact h
  | edit | commit => exact hpoll.elim

end

/-- Every stored occurrence of a schedule triggers at most one match run. -/
theorem occurrence_triggers_once (cron : String → Except GoError CronSchedule)
    (schedules : Table ReconciliationSchedule.id) (labels : List (Label κ))
    (hpoll : ∀ label ∈ labels, label.IsPoll)
    (hcurrent : Meets (step cron) TriggersCurrent (initial schedules) labels) :
    ((run cron schedules labels).store.triggers.map Trigger.occurrence).Nodup := by
  have hsound := (hcurrent.and_forall hpoll).invariant Sound
    ⟨fun _ => trivial, by simp [initial, Actors.initial], by simp [initial, Actors.initial]⟩
    fun scheduler label h hlabel => h.step cron hlabel.2 hlabel.1
  exact hsound.nodup

/-- The second replica polls after the first has written the next run. -/
theorem occurrence_triggers_once_for_two_replicas :
    let now := reference + 16 * nanosecondsPerMinute
    let labels : List (Label Bool) :=
      .findDueSchedules false now :: processSchedule false none ++
        .findDueSchedules true now :: processSchedule true none
    (run hourlyCron quarterPast labels).store.triggers.length = 1 ∧
      ((run hourlyCron quarterPast labels).store.triggers.map Trigger.occurrence).Nodup :=
  ⟨by decide +kernel, occurrence_triggers_once hourlyCron quarterPast _
    (by decide +kernel) (by decide +kernel)⟩

/-- Two replicas read the same schedule and process it one after the other; or the
update of a replica fails, and the next poll finds the schedule due again. -/
theorem stale_copy_triggers_again :
    let now := reference + 16 * nanosecondsPerMinute
    let stale : List (Label Bool) :=
      [.findDueSchedules false now, .findDueSchedules true now] ++
        processSchedule false none ++ processSchedule true none
    let failed : List (Label Bool) :=
      .findDueSchedules false now ::
        processSchedule false (some (.sentinel ⟨"ErrTimeout", "context deadline exceeded"⟩)) ++
        .findDueSchedules true now :: processSchedule true none
    (∀ label ∈ stale, label.IsPoll) ∧ (∀ label ∈ failed, label.IsPoll) ∧
      (run hourlyCron quarterPast stale).store.triggers.map
        Trigger.occurrence =
          [(⟨1⟩, some (reference + 15 * nanosecondsPerMinute)),
            (⟨1⟩, some (reference + 15 * nanosecondsPerMinute))] ∧
      (run hourlyCron quarterPast failed).store.triggers.map
        Trigger.occurrence =
          [(⟨1⟩, some (reference + 15 * nanosecondsPerMinute)),
            (⟨1⟩, some (reference + 15 * nanosecondsPerMinute))] := by
  refine ⟨by decide +kernel, by decide +kernel, by decide +kernel, by decide +kernel⟩

end Scheduler

end Matcher.Configuration
