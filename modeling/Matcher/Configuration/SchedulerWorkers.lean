import Matcher.Command.Store
import Matcher.Configuration.Schedule
import Matcher.Foundation.Actors
import Matcher.Foundation.Transition
import Mathlib.Data.List.Sort

/-!
# Scheduler replicas and users

A replica reads the schedules that are due and processes them one by one: it takes
the lock of a schedule, triggers a match run, writes the schedule back with its next
run, and releases the lock.  The copy that it writes was read before the lock was
taken.  A user reads a schedule and writes it back with the changes.
-/

namespace Matcher.Configuration

open Foundation
open Command (Fault)
open Matching (Instant)

structure Trigger where
  scheduleID : UUID
  contextID : UUID
  nextRunAt : Option Instant
deriving DecidableEq, Repr

structure Edit where
  scheduleID : UUID
  cronExpression : String
  enabled : Bool
deriving DecidableEq, Repr

/-- The schedules, who holds their locks, and what replicas and users have done. -/
structure Store (κ : Type) where
  schedules : Table ReconciliationSchedule.id
  lock : UUID → Option κ
  triggers : List Trigger
  edits : List Edit

/-- What a replica or a user does next.  A replica keeps the schedules that it has
still to process, and the time at which its cycle began. -/
inductive Phase
  | idle
  | polled (now : Instant) (due : List ReconciliationSchedule)
  | locked (now : Instant) (schedule : ReconciliationSchedule) (rest : List ReconciliationSchedule)
  | triggered (now : Instant) (schedule : ReconciliationSchedule)
      (rest : List ReconciliationSchedule)
  | updated (now : Instant) (schedule : ReconciliationSchedule) (rest : List ReconciliationSchedule)
  | editing (schedule : ReconciliationSchedule)
deriving DecidableEq, Repr

abbrev Scheduler (κ : Type) := Actors κ (Store κ) Phase

inductive Label (κ : Type)
  | findDueSchedules (replica : κ) (now : Instant)
  | acquire (replica : κ) (fault : Fault)
  | trigger (replica : κ)
  | update (replica : κ) (fault : Fault)
  | release (replica : κ)
  | edit (user : κ) (scheduleID : UUID)
  | commit (user : κ) (input : UpdateScheduleInput) (now : Instant) (fault : Fault)

/-! ## The repository -/

def ReconciliationSchedule.IsDue (now : Instant) (schedule : ReconciliationSchedule) : Prop :=
  schedule.enabled = true ∧ ∃ nextRunAt ∈ schedule.nextRunAt, nextRunAt ≤ now

instance (now : Instant) (schedule : ReconciliationSchedule) : Decidable (schedule.IsDue now) :=
  inferInstanceAs (Decidable (_ ∧ ∃ nextRunAt ∈ schedule.nextRunAt, _))

namespace Store

variable {κ : Type} [DecidableEq κ] {entity stored : ReconciliationSchedule}

def findDueSchedules (store : Store κ) (now : Instant) : List ReconciliationSchedule :=
  (store.schedules.rows.filter fun schedule => schedule.IsDue now).insertionSort
    fun schedule other => schedule.nextRunAt.getD 0 ≤ other.nextRunAt.getD 0

def overwrite (entity stored : ReconciliationSchedule) : ReconciliationSchedule :=
  if stored.id = entity.id then
    { stored with
      cronExpression := entity.cronExpression
      enabled := entity.enabled
      lastRunAt := entity.lastRunAt
      nextRunAt := entity.nextRunAt
      updatedAt := entity.updatedAt }
  else stored

theorem overwrite_id (entity stored : ReconciliationSchedule) :
    (overwrite entity stored).id = stored.id := by
  unfold overwrite
  split <;> rfl

def executeUpdate (store : Store κ) (entity : ReconciliationSchedule) : Store κ :=
  { store with schedules := store.schedules.modify (overwrite entity) (overwrite_id entity) }

theorem overwrite_of_ne (h : stored.id ≠ entity.id) : overwrite entity stored = stored :=
  if_neg h

theorem overwrite_nextRunAt (h : stored.id = entity.id) :
    (overwrite entity stored).nextRunAt = entity.nextRunAt := by
  simp [overwrite, h]

def setLock (store : Store κ) (scheduleID : UUID) (holder : Option κ) : Store κ :=
  { store with lock := Function.update store.lock scheduleID holder }

def record (store : Store κ) (schedule : ReconciliationSchedule) : Store κ :=
  { store with
    triggers := store.triggers ++ [⟨schedule.id, schedule.contextID, schedule.nextRunAt⟩] }

def recordEdit (store : Store κ) (schedule : ReconciliationSchedule) : Store κ :=
  { store with edits := store.edits ++ [⟨schedule.id, schedule.cronExpression, schedule.enabled⟩] }

end Store

/-! ## Steps -/

namespace Scheduler

variable {κ : Type} [DecidableEq κ] (cron : String → Except GoError CronSchedule)
  (scheduler : Scheduler κ)

/-- The lock is tried once; a schedule whose lock is held is skipped. -/
def acquire (replica : κ) (fault : Fault) (now : Instant) (schedule : ReconciliationSchedule)
    (rest : List ReconciliationSchedule) : Scheduler κ :=
  match fault, scheduler.store.lock schedule.id with
  | none, none =>
    scheduler.put replica
      (scheduler.store.setLock schedule.id (some replica))
      (.locked now schedule rest)
  | _, _ => scheduler.goto replica (.polled now rest)

/-- A failed update is only logged. -/
def update (replica : κ) (fault : Fault) (now : Instant) (schedule : ReconciliationSchedule)
    (rest : List ReconciliationSchedule) : Scheduler κ :=
  match fault with
  | some _ => scheduler.goto replica (.updated now schedule rest)
  | none =>
    scheduler.put replica
      (scheduler.store.executeUpdate (schedule.markRun cron now))
      (.updated now schedule rest)

def commit (user : κ) (schedule : ReconciliationSchedule) (input : UpdateScheduleInput)
    (now : Instant) (fault : Fault) : Scheduler κ :=
  match schedule.update cron input now, fault with
  | .ok changed, none =>
    scheduler.put user ((scheduler.store.executeUpdate changed).recordEdit changed) .idle
  | _, _ => scheduler.goto user .idle

def step : Label κ → Scheduler κ
  | .findDueSchedules replica now =>
    match scheduler.phase replica with
    | .idle => scheduler.goto replica (.polled now (scheduler.store.findDueSchedules now))
    | _ => scheduler
  | .acquire replica fault =>
    match scheduler.phase replica with
    | .polled _ [] => scheduler.goto replica .idle
    | .polled now (schedule :: rest) => scheduler.acquire replica fault now schedule rest
    | _ => scheduler
  | .trigger replica =>
    match scheduler.phase replica with
    | .locked now schedule rest =>
      scheduler.put replica (scheduler.store.record schedule) (.triggered now schedule rest)
    | _ => scheduler
  | .update replica fault =>
    match scheduler.phase replica with
    | .triggered now schedule rest => scheduler.update cron replica fault now schedule rest
    | _ => scheduler
  | .release replica =>
    match scheduler.phase replica with
    | .updated now schedule rest =>
      scheduler.put replica (scheduler.store.setLock schedule.id none) (.polled now rest)
    | _ => scheduler
  | .edit user scheduleID =>
    match scheduler.phase user, scheduler.store.schedules.find? scheduleID with
    | .idle, some schedule => scheduler.goto user (.editing schedule)
    | _, _ => scheduler
  | .commit user input now fault =>
    match scheduler.phase user with
    | .editing schedule => scheduler.commit cron user schedule input now fault
    | _ => scheduler

def initial (schedules : Table ReconciliationSchedule.id) : Scheduler κ :=
  Actors.initial
    { schedules := schedules
      lock := fun _ => none
      triggers := []
      edits := [] }
    .idle

def run (schedules : Table ReconciliationSchedule.id) (labels : List (Label κ)) : Scheduler κ :=
  labels.foldl (step cron) (initial schedules)

end Scheduler

def quarterPast : Table ReconciliationSchedule.id where
  rows := [{
    id := ⟨1⟩
    contextID := ⟨2⟩
    cronExpression := "15,45 * * * *"
    enabled := true
    lastRunAt := none
    nextRunAt := some (reference + 15 * nanosecondsPerMinute)
    createdAt := reference
    updatedAt := reference }]
  nodup := by simp

def processSchedule {κ : Type} (replica : κ) (fault : Fault) : List (Label κ) :=
  [.acquire replica none, .trigger replica, .update replica fault, .release replica]

end Matcher.Configuration
