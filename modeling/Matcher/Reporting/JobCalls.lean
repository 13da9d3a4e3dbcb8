import Matcher.Foundation.Transition
import Matcher.Reporting.ExportJob

/-!
# Calls on a new export job

What the fields of a job say agrees with its status after any calls, but for two
that carry a field over from an earlier attempt: a retry of a failed job keeps its
finish time, and a success after a retry keeps its error.
-/

namespace Matcher.Reporting

open Foundation
open Matching (Instant)

def defaultExportExpiry : ℤ := 7 * 24 * 3600 * 1000000000

def newExportJob (now : Instant) : ExportJob where
  status := .queued
  recordsWritten := 0
  bytesWritten := 0
  fileKey := ""
  fileName := ""
  sha256 := ""
  error := ""
  attempts := 0
  nextRetryAt := none
  startedAt := none
  finishedAt := none
  expiresAt := now + defaultExportExpiry
  updatedAt := now

def ExportJob.markRunning (job : ExportJob) (now : Instant) : Except GoError ExportJob :=
  job.transition .running fun job =>
    { job with startedAt := some now, attempts := job.attempts + 1, updatedAt := now }

inductive ExportCall
  | markRunning
  | markSucceeded (file : ExportFile)
  | markFailed (message : String)
  | markForRetry (message : String) (nextRetryAt : Instant)
  | markExpired
  | markCanceled
deriving DecidableEq, Repr

def ExportJob.call (job : ExportJob) (now : Instant) : ExportCall → Except GoError ExportJob
  | .markRunning => job.markRunning now
  | .markSucceeded file => job.markSucceeded file now
  | .markFailed message => job.markFailed message now
  | .markForRetry message nextRetryAt => job.markForRetry message nextRetryAt now
  | .markExpired => job.markExpired now
  | .markCanceled => job.markCanceled now

/-- A job, the number of successful calls of `MarkRunning`, and the first status
without a way out that it has reached. -/
structure JobHistory where
  job : ExportJob
  runs : ℕ
  ended : Option ExportJobStatus

namespace JobHistory

def initial (now : Instant) : JobHistory := ⟨newExportJob now, 0, none⟩

/-- A call that fails leaves the job as it is. -/
def apply (history : JobHistory) (request : ExportCall × Instant) : JobHistory :=
  match history.job.call request.2 request.1 with
  | .error _ => history
  | .ok job => {
      job := job
      runs := if request.1 = .markRunning then history.runs + 1 else history.runs
      ended := history.ended.or
        (if job.status = .expired ∨ job.status = .canceled then some job.status
          else none) }

@[mk_iff] structure Agrees (history : JobHistory) : Prop where
  unfinished : history.job.status = .queued ∨ history.job.status = .running →
    history.job.finishedAt = none
  succeeded : history.job.status = .succeeded →
    history.job.finishedAt ≠ none ∧ history.job.error = ""
  unstarted : history.job.status = .queued → history.job.startedAt = none
  attempts : history.job.attempts = history.runs
  kept : ∀ status ∈ history.ended, history.job.status = status

/-- The call carries nothing over from an earlier attempt. -/
def CarriesNothing (history : JobHistory) (request : ExportCall × Instant) : Prop :=
  match request.1 with
  | .markForRetry _ _ => history.job.status ≠ .failed
  | .markSucceeded _ => history.job.status = .running → history.job.error = ""
  | _ => True

@[mk_iff] structure Sound (history : JobHistory) : Prop extends history.Agrees where
  failed : history.job.status = .failed → history.job.finishedAt ≠ none
  ended : history.ended = if history.job.status = .expired ∨
    history.job.status = .canceled then some history.job.status else none

variable {history : JobHistory} {request : ExportCall × Instant}

attribute [local simp] apply CarriesNothing ExportJob.call ExportJob.markRunning
  ExportJob.markSucceeded ExportJob.markFailed ExportJob.markForRetry ExportJob.markExpired
  ExportJob.markCanceled ExportJob.transition ExportJob.validateTransition
  ExportJobStatus.validExportJobTransitions

theorem Sound.apply (h : history.Sound) (hcarries : history.CarriesNothing request) :
    (history.apply request).Sound := by
  obtain ⟨⟨status⟩, runs, ended⟩ := history
  obtain ⟨call, now⟩ := request
  rw [sound_iff, agrees_iff] at h ⊢
  cases call <;> cases status <;> simp_all

theorem Sound.carriesNothing (h : history.Sound) (hagrees : (history.apply request).Agrees) :
    history.CarriesNothing request := by
  obtain ⟨⟨status⟩, runs, ended⟩ := history
  obtain ⟨call, now⟩ := request
  rw [sound_iff] at h
  rw [agrees_iff] at hagrees
  cases call <;> cases status <;> simp_all

theorem initial_sound (now : Instant) : (initial now).Sound := by
  simp [sound_iff, agrees_iff, initial, newExportJob]

/-- The fields agree with the status after every call exactly if no failed job is
retried and no job succeeds that has an error of an earlier attempt. -/
theorem fields_agree_iff (now : Instant) (requests : List (ExportCall × Instant)) :
    (∀ reached, reached <+: requests → (reached.foldl apply (initial now)).Agrees) ↔
      Meets apply CarriesNothing (initial now) requests :=
  Meets.iff_always Sound Agrees (initial_sound now) (fun _ h => h.toAgrees)
    (fun _ _ => Sound.apply) (fun _ _ => Sound.carriesNothing) requests

/-- A failed job is queued again with its finish time, and a job that was retried
succeeds with its error. -/
theorem fields_carried_over :
    let run := fun requests => (requests.foldl apply (initial 0)).job
    let retried := run [(.markRunning, 1), (.markFailed "timeout", 2),
      (.markForRetry "timeout" 9, 3)]
    let succeeded := run [(.markRunning, 1), (.markForRetry "timeout" 9, 2),
      (.markRunning, 9), (.markSucceeded ⟨"exports/1", "report.csv", "00", 2, 64⟩, 10)]
    (retried.status = .queued ∧ retried.finishedAt = some 2) ∧
      succeeded.status = .succeeded ∧ succeeded.error = "timeout" := by
  decide +kernel

end JobHistory

end Matcher.Reporting
