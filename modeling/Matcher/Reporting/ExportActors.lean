import Matcher.Foundation.Actors
import Matcher.Foundation.Transition
import Matcher.Reporting.ExportJob

/-!
# Users and workers on one export job

Cancellations, export workers and cleanup workers each read the job in one step and
write it in a later one.  A status that no transition leaves is kept as long as
every write finds the status that its actor has read; a write that comes too late
puts another status in its place.
-/

namespace Matcher.Reporting

open Foundation
open Command (Fault)
open Matching (Instant)

/-! ## The decisions of the actors -/

def cancelExportJob (job : ExportJob) (now : Instant) : Except GoError ExportJob :=
  if job.isTerminal then
    .error (.wrap "%w: %s" [job.status.text] errJobInTerminalState)
  else wrapError "mark export job canceled: %w" (job.markCanceled now)

/-- What a worker does with a job that has failed: try again later, or give up. -/
inductive FailJob
  | requeue (job : ExportJob)
  | update (job : ExportJob)

def failJob (maxRetries : ℤ) (job : ExportJob) (cause : GoError) (nextRetry now : Instant) :
    Except GoError FailJob :=
  if job.attempts ≤ maxRetries then
    match wrapError "mark export job for retry: %w"
      (job.markForRetry cause.text nextRetry now) with
    | .error failure => .error failure
    | .ok marked => .ok (.requeue marked)
  else
    match job.markFailed cause.text now with
    | .error failure => .error failure
    | .ok marked => .ok (.update marked)

def requeueError (cause : GoError) : GoError :=
  .wrap "requeue export job for retry: %w" [] (.wrap "exec update: %w" [] cause)

def requeueFailureMessage (original requeue : GoError) : String :=
  "failed to requeue export job after error: " ++ original.text ++
    " (requeue error: " ++ requeue.text ++ ")"

/-! ## Interleavings -/

/-- The copy that an actor has read.  A worker whose requeue has failed goes on
with the copy that it has marked for the retry. -/
inductive Phase
  | idle
  | canceling (job : ExportJob)
  | exporting (job : ExportJob)
  | requeueFailed (claimed marked : ExportJob) (message : String)
  | expiring (job : ExportJob)
deriving DecidableEq, Repr

abbrev Exports (κ : Type) := Actors κ ExportJob Phase

inductive Label (κ : Type)
  | readCanceled (actor : κ)
  | writeCanceled (actor : κ) (now : Instant) (fault : Fault)
  | claim (actor : κ) (now : Instant)
  | progress (actor : κ) (recordsWritten bytesWritten : ℤ) (now : Instant)
  | succeed (actor : κ) (file : ExportFile) (now : Instant) (fault : Fault)
  | fail (actor : κ) (cause : GoError) (nextRetry now : Instant) (fault : Fault)
  | failRequeued (actor : κ) (now : Instant) (fault : Fault)
  | readExpired (actor : κ) (now : Instant)
  | writeExpired (actor : κ) (now : Instant) (fault : Fault)

variable {κ : Type} [DecidableEq κ] {job : ExportJob} {next : Exports κ} {now : Instant} {actor : κ}

namespace Exports

/-- The update of a job that was marked, when it could be marked at all. -/
def update (exports : Exports κ) (actor : κ) (marked : Except GoError ExportJob) (fault : Fault) :
    Exports κ :=
  match marked, fault with
  | .ok job, none => exports.put actor (exports.store.executeUpdate job) .idle
  | _, _ => exports.goto actor .idle

def fail (maxRetries : ℤ) (exports : Exports κ) (actor : κ) (job : ExportJob)
    (cause : GoError) (nextRetry now : Instant) (fault : Fault) : Exports κ :=
  match failJob maxRetries job cause nextRetry now with
  | .error _ => exports.goto actor .idle
  | .ok (.update marked) => exports.update actor (.ok marked) fault
  | .ok (.requeue marked) =>
    match fault with
    | none => exports.put actor (exports.store.requeueForRetry marked) .idle
    | some failure =>
      exports.goto actor (.requeueFailed job marked
        (requeueFailureMessage cause (requeueError failure)))

def step (maxRetries : ℤ) (exports : Exports κ) : Label κ → Exports κ
  | .readCanceled actor =>
    match exports.phase actor with
    | .idle => exports.goto actor (.canceling exports.store)
    | _ => exports
  | .writeCanceled actor now fault =>
    match exports.phase actor with
    | .canceling job => exports.update actor (cancelExportJob job now) fault
    | _ => exports
  | .claim actor now =>
    match exports.phase actor, exports.store.claimNextQueued now with
    | .idle, some job => exports.put actor job (.exporting job)
    | _, _ => exports
  | .progress actor recordsWritten bytesWritten now =>
    match exports.phase actor with
    | .exporting job =>
      exports.put actor
        (exports.store.executeUpdateProgress recordsWritten bytesWritten now)
        (.exporting job)
    | _ => exports
  | .succeed actor file now fault =>
    match exports.phase actor with
    | .exporting job => exports.update actor (job.markSucceeded file now) fault
    | _ => exports
  | .fail actor cause nextRetry now fault =>
    match exports.phase actor with
    | .exporting job => exports.fail maxRetries actor job cause nextRetry now fault
    | _ => exports
  | .failRequeued actor now fault =>
    match exports.phase actor with
    | .requeueFailed _ marked message => exports.update actor (marked.markFailed message now) fault
    | _ => exports
  | .readExpired actor now =>
    match exports.phase actor, exports.store.listExpired now with
    | .idle, some job => exports.goto actor (.expiring job)
    | _, _ => exports
  | .writeExpired actor now fault =>
    match exports.phase actor with
    | .expiring job => exports.update actor (job.markExpired now) fault
    | _ => exports

def run (maxRetries : ℤ) (row : ExportJob) (labels : List (Label κ)) : Exports κ :=
  labels.foldl (step maxRetries) (.initial row .idle)

end Exports

def Phase.read : Phase → Option ExportJob
  | .idle => none
  | .canceling job | .exporting job | .expiring job => some job
  | .requeueFailed claimed _ _ => some claimed

def Label.writer : Label κ → Option κ
  | .writeCanceled actor _ _ | .succeed actor _ _ _ | .fail actor _ _ _ _
  | .failRequeued actor _ _ | .writeExpired actor _ _ => some actor
  | _ => none

/-! ## Absorbing statuses -/

theorem cancelExportJob_eq_ok {marked : ExportJob}
    (h : cancelExportJob job now = .ok marked) : ¬ job.status.Absorbing := by
  unfold cancelExportJob at h
  obtain ⟨-, h⟩ := guard_eq_ok.mp h
  exact ExportJob.not_absorbing_of_transition (wrapError_eq_ok.mp h)

theorem failJob_eq_ok {maxRetries : ℤ} {cause : GoError} {nextRetry : Instant} {outcome : FailJob}
    (h : failJob maxRetries job cause nextRetry now = .ok outcome) : ¬ job.status.Absorbing := by
  unfold failJob at h
  split at h
  · split at h
    next => cases h
    next marked hmarked =>
      exact ExportJob.not_absorbing_of_transition (wrapError_eq_ok.mp hmarked)
  · split at h
    next => cases h
    next marked hmarked => exact ExportJob.not_absorbing_of_transition hmarked

/-- A job that was marked for a retry was not in an absorbing status. -/
def Phase.Retryable : Phase → Prop
  | .requeueFailed claimed _ _ => ¬ claimed.status.Absorbing
  | _ => True

namespace Exports

/-- Whoever writes the status finds the status that they have read. -/
def WritesFresh (exports : Exports κ) (label : Label κ) : Prop :=
  ∀ actor ∈ label.writer, ∀ job ∈ (exports.phase actor).read, exports.store.status = job.status

instance (exports : Exports κ) (label : Label κ) : Decidable (exports.WritesFresh label) :=
  inferInstanceAs (Decidable (∀ actor ∈ label.writer, _))

/-- What a step does: a status is written by a claim, or by an actor whose copy
could be marked. -/
inductive Effect (exports : Exports κ) (label : Label κ) : Exports κ → Prop
  | same : Effect exports label exports
  | goto (actor : κ) {phase : Phase} (hphase : phase.Retryable) :
      Effect exports label (exports.goto actor phase)
  | kept (actor : κ) {row : ExportJob} {phase : Phase} (hphase : phase.Retryable)
      (hstatus : ¬ exports.store.status.Absorbing ∨ row.status = exports.store.status) :
      Effect exports label (exports.put actor row phase)
  | written (actor : κ) {row job : ExportJob} (hactor : label.writer = some actor)
      (hjob : (exports.phase actor).read = some job)
      (hmarked : ¬ job.status.Absorbing) :
      Effect exports label (exports.put actor row .idle)

variable {exports : Exports κ} {label : Label κ}

theorem update_effect {phase : Phase} {marked : Except GoError ExportJob} (fault : Fault)
    (hactor : label.writer = some actor) (hphase : exports.phase actor = phase)
    (hjob : phase.read = some job) (hmarked : ∀ copy, marked = .ok copy → ¬ job.status.Absorbing) :
    Effect exports label (exports.update actor marked fault) := by
  rw [← hphase] at hjob
  unfold update
  split
  next copy => exact .written actor hactor hjob (hmarked copy rfl)
  next => exact .goto actor trivial

theorem fail_effect (maxRetries : ℤ) (cause : GoError) (nextRetry now : Instant) (fault : Fault)
    (hactor : label.writer = some actor) (hphase : exports.phase actor = .exporting job) :
    Effect exports label (exports.fail maxRetries actor job cause nextRetry now fault) := by
  unfold fail
  split
  next => exact .goto actor trivial
  next marked hfail => exact update_effect fault hactor hphase rfl fun _ _ => failJob_eq_ok hfail
  next marked hfail =>
    split
    · exact .written actor hactor (by rw [hphase]; rfl) (failJob_eq_ok hfail)
    · exact .goto actor (failJob_eq_ok hfail)

theorem step_effect (h : exports.Every fun _ _ phase => phase.Retryable) (maxRetries : ℤ)
    (label : Label κ) : Effect exports label (exports.step maxRetries label) := by
  cases label with
  | readCanceled actor =>
    simp only [step]
    split
    · exact .goto actor trivial
    · exact .same
  | writeCanceled _ _ fault =>
    simp only [step]
    split
    next job hphase => exact update_effect fault rfl hphase rfl fun _ => cancelExportJob_eq_ok
    next => exact .same
  | claim actor =>
    simp only [step]
    split
    next job _ hclaim =>
      refine .kept actor trivial (.inl fun habsorbing => ?_)
      unfold ExportJob.claimNextQueued at hclaim
      split at hclaim
      next hqueued =>
        rw [hqueued.1] at habsorbing
        contradiction
      next => cases hclaim
    next => exact .same
  | progress actor =>
    simp only [step]
    split
    · exact .kept actor trivial (.inr rfl)
    · exact .same
  | succeed _ _ _ fault =>
    simp only [step]
    split
    next job hphase =>
      exact update_effect fault rfl hphase rfl fun _ =>
        ExportJob.not_absorbing_of_transition
    next => exact .same
  | fail _ cause nextRetry now fault =>
    simp only [step]
    split
    next job hphase => exact fail_effect maxRetries cause nextRetry now fault rfl hphase
    next => exact .same
  | failRequeued _ _ fault =>
    simp only [step]
    split
    next claimed marked message hphase =>
      exact update_effect fault rfl hphase rfl fun _ _ => h.of_phase hphase
    next => exact .same
  | readExpired actor =>
    simp only [step]
    split
    · exact .goto actor trivial
    · exact .same
  | writeExpired _ _ fault =>
    simp only [step]
    split
    next job hphase =>
      exact update_effect fault rfl hphase rfl fun _ =>
        ExportJob.not_absorbing_of_transition
    next => exact .same

theorem Effect.retryable (heffect : Effect exports label next)
    (h : exports.Every fun _ _ phase => phase.Retryable) :
    next.Every fun _ _ phase => phase.Retryable := by
  cases heffect with
  | same => exact h
  | goto _ hphase => exact h.goto hphase
  | kept _ hphase => exact h.put hphase fun _ _ hother => hother
  | written => exact h.put trivial fun _ _ hother => hother

theorem Effect.status (heffect : Effect exports label next) (hfresh : exports.WritesFresh label)
    (habsorbing : exports.store.status.Absorbing) : next.store.status = exports.store.status := by
  cases heffect with
  | same | goto => rfl
  | kept _ _ hstatus =>
    rcases hstatus with hopen | hsame
    · exact (hopen habsorbing).elim
    · exact hsame
  | written actor hactor hjob hmarked =>
    rw [hfresh actor hactor _ hjob] at habsorbing
    exact (hmarked habsorbing).elim

theorem run_retryable (maxRetries : ℤ) (row : ExportJob) (labels : List (Label κ)) :
    (run maxRetries row labels).Every fun _ _ phase => phase.Retryable := by
  have hmeets : Meets (step maxRetries) (fun _ _ => True)
      (.initial row .idle) labels := .of_forall (fun _ _ => trivial) _ labels
  exact hmeets.invariant _ (fun _ => trivial)
    fun exports label h _ => (step_effect h maxRetries label).retryable h

/-- A status that no transition leaves is kept, if every write finds the status
that its actor has read. -/
theorem absorbing_status_kept (maxRetries : ℤ) (row : ExportJob) (before after : List (Label κ))
    (hfresh : Meets (step maxRetries) WritesFresh (.initial row .idle) (before ++ after))
    (hstatus : (run maxRetries row before).store.status = .canceled ∨
      (run maxRetries row before).store.status = .expired) :
    (run maxRetries row (before ++ after)).store.status =
      (run maxRetries row before).store.status := by
  have habsorbing : (run maxRetries row before).store.status.Absorbing := by
    rcases hstatus with hstatus | hstatus
    · rw [hstatus]
      rfl
    · rw [hstatus]
      rfl
  have hkept := hfresh.of_append.invariant
    (fun exports => exports.Every (fun _ _ phase => phase.Retryable) ∧
      exports.store.status = (run maxRetries row before).store.status)
    ⟨run_retryable maxRetries row before, rfl⟩
    (fun exports label ⟨hretryable, hsame⟩ hlabel =>
      have heffect := step_effect hretryable maxRetries label
      ⟨heffect.retryable hretryable, (heffect.status hlabel (hsame ▸ habsorbing)).trans hsame⟩)
  rw [run, List.foldl_append]
  exact hkept.2

def queuedJob : ExportJob where
  status := .queued
  recordsWritten := 0
  bytesWritten := 0
  fileKey := ""
  fileName := ""
  sha256 := ""
  error := ""
  attempts := 0
  nextRetryAt := none
  startedAt := none
  finishedAt := none
  expiresAt := 100
  updatedAt := 0

def exportedFile : ExportFile where
  fileKey := "key"
  fileName := "name"
  sha256 := "hash"
  recordsWritten := 3
  bytesWritten := 40

/-- A user cancels the job after its worker has put it back into the queue, and a
second cancellation is refused. -/
theorem absorbing_status_kept_after_requeue :
    let before : List (Label Bool) := [.claim true 1,
      .fail true errJobInTerminalState 5 2 none, .readCanceled false,
      .writeCanceled false 3 none]
    let after : List (Label Bool) := [.claim true 6, .readCanceled false,
      .writeCanceled false 7 none, .readExpired true 200]
    (run 3 queuedJob (before ++ after)).store.status = (run 3 queuedJob before).store.status ∧
      (run 3 queuedJob before).store.status = .canceled :=
  ⟨absorbing_status_kept 3 queuedJob _ _ (by decide) (by decide), by decide⟩

/-- A worker that has claimed the job writes its success over the cancellation,
and a cancellation that has read the job before writes over its expiry. -/
theorem late_write_replaces_absorbing_status :
    let canceled : List (Label Bool) := [.claim true 1, .readCanceled false,
      .writeCanceled false 2 none]
    let expired : List (Label Bool) := [.claim true 1, .readCanceled false,
      .succeed true exportedFile 2 none, .readExpired true 200,
      .writeExpired true 200 none]
    ((run 3 queuedJob canceled).store.status = .canceled ∧
      (run 3 queuedJob
        (canceled ++ [.succeed true exportedFile 3 none])).store.status = .succeeded) ∧
      (run 3 queuedJob expired).store.status = .expired ∧
      (run 3 queuedJob (expired ++ [.writeCanceled false 201 none])).store.status = .canceled := by
  decide

end Exports

end Matcher.Reporting
