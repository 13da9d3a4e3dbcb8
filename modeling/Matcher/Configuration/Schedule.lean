import Matcher.Foundation.Cron
import Matcher.Matching.Types

/-!
# Reconciliation schedules

A schedule carries a cron expression, which the library parses.  A new expression
is accepted when its first two firings after a fixed reference time are at least
five minutes apart.  All firings are that far apart exactly when the minutes of the
expression are, which two firings do not show.
-/

namespace Matcher.Configuration

open Foundation
open Matching (Instant)

def errScheduleContextIDRequired : GoError :=
  .sentinel ⟨"ErrScheduleContextIDRequired", "context id is required for schedule"⟩

def errScheduleCronExpressionRequired : GoError :=
  .sentinel ⟨"ErrScheduleCronExpressionRequired", "cron expression is required"⟩

def errScheduleCronExpressionInvalid : GoError :=
  .sentinel ⟨"ErrScheduleCronExpressionInvalid", "invalid cron expression"⟩

def errScheduleCronExpressionTooFrequent : GoError :=
  .sentinel ⟨"ErrScheduleCronExpressionTooFrequent",
    "cron expression fires more frequently than the minimum allowed interval"⟩

structure ReconciliationSchedule where
  id : UUID
  contextID : UUID
  cronExpression : String
  enabled : Bool
  lastRunAt : Option Instant
  nextRunAt : Option Instant
  createdAt : Instant
  updatedAt : Instant
deriving DecidableEq, Repr

structure CreateScheduleInput where
  cronExpression : String
  enabled : Option Bool
deriving DecidableEq, Repr

structure UpdateScheduleInput where
  cronExpression : Option String
  enabled : Option Bool
deriving DecidableEq, Repr

/-! ## The minimum interval -/

def minScheduleInterval : Instant := 5 * nanosecondsPerMinute

/-- The first of January 2000, at midnight UTC. -/
def reference : Instant := 946684800 * 10 ^ 9

def enforceMinimumScheduleInterval (schedule : CronSchedule) : Except GoError Unit :=
  match schedule.next reference with
  | .error cause =>
    .error (.wrapTwo "%w: cannot compute first firing: %w" []
      errScheduleCronExpressionInvalid cause)
  | .ok first =>
    match schedule.next first with
    | .error cause =>
      .error (.wrapTwo "%w: cannot compute second firing: %w" []
        errScheduleCronExpressionInvalid cause)
    | .ok second =>
      if second - first < minScheduleInterval then
        .error (.wrap "%w: minimum %s between firings" ["5m0s"]
          errScheduleCronExpressionTooFrequent)
      else .ok ()

/-! ## Schedules -/

section Library

variable (cron : String → Except GoError CronSchedule) {expression : String}

def parseExpression (expression : String) : Except GoError Unit :=
  match cron expression with
  | .error cause => .error (.wrapTwo "%w: %w" [] errScheduleCronExpressionInvalid cause)
  | .ok parsed => enforceMinimumScheduleInterval parsed

namespace ReconciliationSchedule

variable (schedule : ReconciliationSchedule)

def calculateNextRun (start : Instant) : Option Instant :=
  if schedule.cronExpression = "" then none
  else
    match cron schedule.cronExpression with
    | .error _ => none
    | .ok parsed =>
      match parsed.next start with
      | .error _ => none
      | .ok next => some next

def scheduled (now : Instant) : ReconciliationSchedule :=
  { schedule with
    nextRunAt :=
      if schedule.enabled then schedule.calculateNextRun cron now else none }

def update (input : UpdateScheduleInput) (now : Instant) :
    Except GoError ReconciliationSchedule := do
  let cronExpression ← match input.cronExpression with
    | none => .ok schedule.cronExpression
    | some expression =>
      if expression = "" then .ok schedule.cronExpression
      else
        match parseExpression cron expression with
        | .error cause => .error cause
        | .ok () => .ok expression
  return { schedule with
    cronExpression := cronExpression
    enabled := input.enabled.getD schedule.enabled
    updatedAt := now }.scheduled cron now

def markRun (now : Instant) : ReconciliationSchedule :=
  { schedule with
    lastRunAt := some now
    nextRunAt := schedule.calculateNextRun cron now
    updatedAt := now }

end ReconciliationSchedule

def newReconciliationSchedule (id contextID : UUID) (input : CreateScheduleInput) (now : Instant) :
    Except GoError ReconciliationSchedule :=
  if contextID = UUID.zero then .error errScheduleContextIDRequired
  else if input.cronExpression = "" then
    .error errScheduleCronExpressionRequired
  else
    match parseExpression cron input.cronExpression with
    | .error cause => .error cause
    | .ok () =>
      .ok ({
        id := id
        contextID := contextID
        cronExpression := input.cronExpression
        enabled := input.enabled.getD true
        lastRunAt := none
        nextRunAt := none
        createdAt := now
        updatedAt := now : ReconciliationSchedule }.scheduled cron now)

theorem ReconciliationSchedule.lt_of_calculateNextRun {schedule : ReconciliationSchedule}
    {start next : Instant} (h : next ∈ schedule.calculateNextRun cron start) : start < next := by
  unfold calculateNextRun at h
  split at h
  · cases h
  · split at h
    · cases h
    · split at h
      next => cases h
      next hnext =>
        cases h
        exact CronSchedule.lt_of_next hnext

/-! ## Accepted expressions -/

def Accepts (expression : String) : Prop :=
  (∃ id contextID enabled now schedule,
    newReconciliationSchedule cron id contextID ⟨expression, enabled⟩ now = .ok schedule) ∨
  (expression ≠ "" ∧ ∃ (existing : ReconciliationSchedule), ∃ enabled now schedule,
    existing.update cron ⟨some expression, enabled⟩ now = .ok schedule)

variable {cron}

theorem Accepts.parse_ok (h : Accepts cron expression) :
    parseExpression cron expression = .ok () := by
  rcases h with ⟨id, contextID, enabled, now, schedule, hnew⟩ |
    ⟨hne, existing, enabled, now, schedule, hupdate⟩
  · simp only [newReconciliationSchedule, guard_eq_ok] at hnew
    obtain ⟨-, -, hnew⟩ := hnew
    split at hnew
    · cases hnew
    · assumption
  · cases hparse : parseExpression cron expression with
    | ok => rfl
    | error => simp [ReconciliationSchedule.update, hne, hparse, bind, Except.bind] at hupdate

theorem Accepts.fires {parsed : CronSchedule} (h : Accepts cron expression)
    (hparsed : cron expression = .ok parsed) : ∃ instant, parsed.Fires instant := by
  have hparse := h.parse_ok
  simp only [parseExpression, hparsed, enforceMinimumScheduleInterval] at hparse
  split at hparse
  next => cases hparse
  next first hfirst => exact ⟨first, CronSchedule.fires_of_next hfirst⟩

/-- The consecutive firings of an accepted expression are at least five minutes
apart exactly when its minutes are. -/
theorem accepted_firings_spaced_iff {expression : String} {parsed : CronSchedule}
    (h : Accepts cron expression) (hparsed : cron expression = .ok parsed) :
    (∀ first second, parsed.Fires first → parsed.next first = .ok second →
      minScheduleInterval ≤ second - first) ↔ parsed.recurrence.Spaced 5 :=
  CronSchedule.consecutive_gap_iff (by decide) (h.fires hparsed)

end Library

def hourlyCron : String → Except GoError CronSchedule
  | "10,20,21 * * * *" =>
    .ok (hourlySchedule [10, 20, 21] (by decide) (by decide) errScheduleCronExpressionInvalid)
  | "15,45 * * * *" =>
    .ok (hourlySchedule [15, 45] (by decide) (by decide) errScheduleCronExpressionInvalid)
  | _ => .error errScheduleCronExpressionInvalid

theorem accepted_firings_spaced_iff_half_hourly :
    ∃ parsed, hourlyCron "15,45 * * * *" = .ok parsed ∧
      Accepts hourlyCron "15,45 * * * *" ∧
      ∀ first second, parsed.Fires first → parsed.next first = .ok second →
        minScheduleInterval ≤ second - first := by
  have haccepts : Accepts hourlyCron "15,45 * * * *" := .inl ⟨⟨1⟩, ⟨2⟩, none, reference, _, rfl⟩
  refine ⟨_, rfl, haccepts, ?_⟩
  exact (accepted_firings_spaced_iff haccepts rfl).mpr ⟨by decide, .inl (by decide)⟩

/-- The first two firings are ten minutes apart, and the third comes one minute
after the second. -/
theorem accepted_expression_fires_after_a_minute :
    let second := reference + 20 * nanosecondsPerMinute
    let third := reference + 21 * nanosecondsPerMinute
    ∃ parsed, hourlyCron "10,20,21 * * * *" = .ok parsed ∧
      Accepts hourlyCron "10,20,21 * * * *" ∧ parsed.Fires second ∧
      parsed.next second = .ok third ∧
      third - second = nanosecondsPerMinute := by
  refine ⟨_, rfl, .inl ⟨⟨1⟩, ⟨2⟩, none, reference, _, rfl⟩,
    ⟨15778100, by decide, by decide⟩, rfl, by decide⟩

end Matcher.Configuration
