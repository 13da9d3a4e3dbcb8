import Matcher.Exceptions.Exception
import Matcher.Foundation.Padding
import Matcher.Foundation.Transition

/-!
# The life of an exception

The methods of an exception keep its assignee, its due date and its notes in step
with its status.  A callback that reports the status which the exception has
already sets the assignee and the due date past these methods, whatever the status
is.  The exception stays in step exactly if no such callback changes them while it
is open or resolved, and none has while a resolution was pending that is aborted
to open.
-/

namespace Matcher.Exceptions

open Foundation
open Matching (Instant)

def errTransactionIDRequired : GoError :=
  .sentinel ⟨"ErrTransactionIDRequired", "transaction id is required"⟩

def Exception.newException (transactionID : UUID) (severity : ExceptionSeverity)
    (reason : Option String) (exceptionID : UUID) (now : Instant) : Except GoError Exception :=
  if transactionID = UUID.zero then .error errTransactionIDRequired
  else
    .ok {
      id := exceptionID
      transactionID := transactionID
      severity := severity
      status := .open
      externalSystem := none
      externalIssueID := none
      assignedTo := none
      dueAt := none
      resolutionNotes := none
      resolutionType := none
      resolutionReason := none
      reason := normalizeOptionalText reason
      version := 0
      createdAt := now
      updatedAt := now }

/-! ## Calls -/

inductive LifecycleCall
  | assign (assignee : String) (dueAt : Option Instant)
  | unassign
  | startResolution
  | abortResolution
  | resolve (notes : String) (options : ResolveOptions)
  | callback (params : CallbackParams)
deriving DecidableEq, Repr

structure LifecycleRequest where
  call : LifecycleCall
  now : Instant

variable {params : CallbackParams} {request : LifecycleRequest}

/-- An exception, and the status that it had before its resolution was started. -/
structure Lifecycle where
  exception : Exception
  previousStatus : ExceptionStatus
deriving DecidableEq, Repr

namespace Lifecycle

def change (state : Lifecycle) (request : LifecycleRequest) : Except GoError Exception :=
  match request.call with
  | .assign assignee dueAt => state.exception.assign assignee dueAt request.now
  | .unassign => state.exception.unassign request.now
  | .startResolution => state.exception.startResolution request.now
  | .abortResolution => state.exception.abortResolution state.previousStatus request.now
  | .resolve notes options => state.exception.resolve notes options request.now
  | .callback params => applyCallback state.exception params request.now

/-- What a failed call has done to its copy is dropped. -/
def step (state : Lifecycle) (request : LifecycleRequest) : Lifecycle :=
  match state.change request with
  | .error _ => state
  | .ok changed =>
    { exception := changed
      previousStatus :=
        if request.call = .startResolution then state.exception.status
        else state.previousStatus }

end Lifecycle

/-! ## Being in step -/

def Exception.HasAssignee (exception : Exception) : Prop :=
  ∃ assignee ∈ exception.assignedTo, trimSpace assignee ≠ ""

structure Exception.Fits (exception : Exception) : Prop where
  unassigned : exception.status = .open → exception.assignedTo = none ∧ exception.dueAt = none
  assigned : exception.status = .assigned → exception.HasAssignee
  resolved : exception.status = .resolved →
    ∃ notes ∈ exception.resolutionNotes, trimSpace notes ≠ ""

structure RequestSafe (before after : Exception) : Prop where
  fits : after.Fits
  resolved : before.status = .resolved →
    after.status = .resolved ∧ after.assignedTo = before.assignedTo ∧
      after.dueAt = before.dueAt ∧
      after.resolutionNotes = before.resolutionNotes

/-- The callback has no other assignee and no other due date than the exception. -/
def CallbackParams.Agrees (params : CallbackParams) (exception : Exception) : Prop :=
  (trimSpace params.assignee = "" ∨ exception.assignedTo = some (trimSpace params.assignee)) ∧
    (params.dueAt = none ∨ exception.dueAt = params.dueAt)

instance (params : CallbackParams) (exception : Exception) : Decidable (params.Agrees exception) :=
  inferInstanceAs (Decidable (_ ∧ _))

/-- A callback that finds its status in an open or a resolved exception agrees with
it, and a resolution that is aborted to open has left no assignment. -/
def Lifecycle.Harmless (state : Lifecycle) (request : LifecycleRequest) : Prop :=
  match request.call with
  | .abortResolution =>
    state.exception.status = .pendingResolution →
      state.previousStatus = .open →
        state.exception.assignedTo = none ∧ state.exception.dueAt = none
  | .callback params =>
    state.exception.status = params.status →
      params.status = .open ∨ params.status = .resolved → params.Agrees state.exception
  | _ => True

instance (state : Lifecycle) (request : LifecycleRequest) : Decidable (state.Harmless request) := by
  cases request with
  | mk call =>
    cases call
    all_goals
      unfold Lifecycle.Harmless
      infer_instance

/-! ## Metadata of a callback -/

section Metadata

variable (exception : Exception) (params : CallbackParams) (now : Instant)

theorem metadata_kept_iff :
    ((applyCallbackMetadataUpdate exception params now).assignedTo = exception.assignedTo ∧
        (applyCallbackMetadataUpdate exception params now).dueAt =
          exception.dueAt) ↔ params.Agrees exception := by
  rw [applyCallbackMetadataUpdate_assignedTo, applyCallbackMetadataUpdate_dueAt]
  unfold CallbackParams.Agrees
  refine and_congr ?_ ?_
  · by_cases hassignee : trimSpace params.assignee = ""
    · simp [hassignee]
    · simp [hassignee, eq_comm]
  · cases hdue : params.dueAt with
    | none => simp
    | some => simp [eq_comm]

variable {exception}

theorem metadata_hasAssignee (h : exception.HasAssignee) :
    (applyCallbackMetadataUpdate exception params now).HasAssignee := by
  unfold Exception.HasAssignee
  rw [applyCallbackMetadataUpdate_assignedTo]
  split
  next hassignee =>
    refine ⟨_, rfl, ?_⟩
    rw [trimSpace_trimSpace]
    exact hassignee
  next => exact h

end Metadata

/-! ## Steps -/

/-- An exception in step, and an assignee while a resolution is pending that is
aborted to assigned. -/
structure Lifecycle.Inv (state : Lifecycle) : Prop where
  fits : state.exception.Fits
  previous : state.previousStatus = .open ∨ state.previousStatus = .assigned
  pending : state.exception.status = .pendingResolution →
    state.previousStatus = .assigned → state.exception.HasAssignee

section Fits

variable {exception changed : Exception}

theorem Exception.Fits.of_open (h : exception.status = .open)
    (hassignedTo : exception.assignedTo = none) (hdueAt : exception.dueAt = none) :
    exception.Fits := by
  refine ⟨fun _ => ⟨hassignedTo, hdueAt⟩, fun hstatus => ?_, fun hstatus => ?_⟩
  all_goals
    rw [h] at hstatus
    cases hstatus

theorem Exception.Fits.of_assigned (h : exception.status = .assigned)
    (hassignee : exception.HasAssignee) : exception.Fits := by
  refine ⟨fun hstatus => ?_, fun _ => hassignee, fun hstatus => ?_⟩
  all_goals
    rw [h] at hstatus
    cases hstatus

theorem Exception.Fits.of_pending (h : exception.status = .pendingResolution) : exception.Fits := by
  refine ⟨fun hstatus => ?_, fun hstatus => ?_, fun hstatus => ?_⟩
  all_goals
    rw [h] at hstatus
    cases hstatus

theorem Exception.Fits.of_resolved (h : exception.status = .resolved)
    (hnotes : ∃ notes ∈ exception.resolutionNotes, trimSpace notes ≠ "") : exception.Fits := by
  refine ⟨fun hstatus => ?_, fun hstatus => ?_, fun _ => hnotes⟩
  all_goals
    rw [h] at hstatus
    cases hstatus

theorem RequestSafe.of_unresolved (h : exception.status ≠ .resolved) (hfits : changed.Fits) :
    RequestSafe exception changed :=
  ⟨hfits, fun hresolved => absurd hresolved h⟩

theorem RequestSafe.refl (h : exception.Fits) : RequestSafe exception exception :=
  ⟨h, fun hresolved => ⟨hresolved, rfl, rfl, rfl⟩⟩

end Fits

section Changes

variable {exception changed : Exception} {now : Instant}

theorem assign_safe {assignee : String} {dueAt : Option Instant}
    (h : exception.assign assignee dueAt now = .ok changed) : RequestSafe exception changed := by
  obtain ⟨hstatus, hassignee, rfl⟩ := Exception.assign_eq_ok h
  refine .of_unresolved (by simp [hstatus]) (.of_assigned rfl ⟨_, rfl, ?_⟩)
  rw [trimSpace_trimSpace]
  exact hassignee

theorem unassign_safe (h : exception.unassign now = .ok changed) :
    RequestSafe exception changed := by
  obtain ⟨hstatus, rfl⟩ := Exception.unassign_eq_ok h
  exact .of_unresolved (by simp [hstatus]) (.of_open rfl rfl rfl)

theorem startResolution_safe (h : exception.startResolution now = .ok changed) :
    RequestSafe exception changed := by
  obtain ⟨hstatus, rfl⟩ := Exception.startResolution_eq_ok h
  refine .of_unresolved ?_ (.of_pending rfl)
  rcases hstatus with hstatus | hstatus <;> simp [hstatus]

theorem resolve_safe {notes : String} {options : ResolveOptions}
    (h : exception.resolve notes options now = .ok changed) : RequestSafe exception changed := by
  obtain ⟨hstatus, hnotes, _, _, rfl⟩ := Exception.resolve_eq_ok h
  refine .of_unresolved hstatus (.of_resolved rfl ⟨_, rfl, ?_⟩)
  rw [trimSpace_trimSpace]
  exact hnotes

end Changes

section Steps

variable {state : Lifecycle} {changed : Exception} {now : Instant}

section

variable (h : state.Inv)

include h

/-- Back to assigned, there is still the assignee; back to open, there is none
exactly if none has come in the meantime. -/
theorem abortResolution_safe_iff
    (hchange : state.exception.abortResolution state.previousStatus now = .ok changed) :
    RequestSafe state.exception changed ↔ state.Harmless ⟨.abortResolution, now⟩ := by
  obtain ⟨hpending, rfl⟩ := Exception.abortResolution_eq_ok hchange
  have hunresolved : state.exception.status ≠ .resolved := by simp [hpending]
  constructor
  · intro hsafe _ hopen
    exact hsafe.fits.unassigned hopen
  · intro hharmless
    refine .of_unresolved hunresolved ?_
    rcases h.previous with hopen | hassigned
    · obtain ⟨hassignedTo, hdueAt⟩ := hharmless hpending hopen
      exact .of_open hopen hassignedTo hdueAt
    · exact .of_assigned hassigned (h.pending hpending hassigned)

theorem metadata_safe_of_open_iff (hopen : state.exception.status = .open) :
    RequestSafe state.exception
        (applyCallbackMetadataUpdate (state.exception.tracked params) params
          now) ↔ params.Agrees state.exception := by
  have hkept := metadata_kept_iff (state.exception.tracked params) params now
  obtain ⟨hassignedTo, hdueAt⟩ := h.fits.unassigned hopen
  constructor
  · intro hsafe
    obtain ⟨hnone, hnoDate⟩ := hsafe.fits.unassigned (by simpa using hopen)
    exact hkept.mp ⟨hnone.trans hassignedTo.symm, hnoDate.trans hdueAt.symm⟩
  · intro hagrees
    obtain ⟨hsameAssignee, hsameDate⟩ := hkept.mpr hagrees
    exact .of_unresolved (by simp [hopen]) (.of_open (by simpa using hopen)
      (hsameAssignee.trans hassignedTo) (hsameDate.trans hdueAt))

theorem metadata_safe_of_resolved_iff (hresolved : state.exception.status = .resolved) :
    RequestSafe state.exception
        (applyCallbackMetadataUpdate (state.exception.tracked params) params
          now) ↔ params.Agrees state.exception := by
  have hkept := metadata_kept_iff (state.exception.tracked params) params now
  constructor
  · intro hsafe
    obtain ⟨-, hsameAssignee, hsameDate, -⟩ := hsafe.resolved hresolved
    exact hkept.mp ⟨hsameAssignee, hsameDate⟩
  · intro hagrees
    obtain ⟨hsameAssignee, hsameDate⟩ := hkept.mpr hagrees
    refine ⟨.of_resolved (by simpa using hresolved) ?_, fun _ =>
      ⟨by simpa using hresolved, hsameAssignee, hsameDate, by simp⟩⟩
    rw [applyCallbackMetadataUpdate_resolutionNotes]
    exact h.fits.resolved hresolved

theorem metadata_safe_iff (hsame : state.exception.status = params.status) :
    RequestSafe state.exception
        (applyCallbackMetadataUpdate (state.exception.tracked params) params now) ↔
      state.Harmless ⟨.callback params, now⟩ := by
  unfold Lifecycle.Harmless
  cases hstatus : state.exception.status with
  | «open» =>
    rw [metadata_safe_of_open_iff h hstatus]
    simp [← hsame, hstatus]
  | resolved =>
    rw [metadata_safe_of_resolved_iff h hstatus]
    simp [← hsame, hstatus]
  | assigned =>
    refine iff_of_true ?_ (by simp [← hsame, hstatus])
    exact .of_unresolved (by simp [hstatus])
      (.of_assigned (by simpa using hstatus)
        (metadata_hasAssignee params now (h.fits.assigned hstatus)))
  | pendingResolution =>
    refine iff_of_true ?_ (by simp [← hsame, hstatus])
    exact .of_unresolved (by simp [hstatus]) (.of_pending (by simpa using hstatus))

theorem applyCallback_safe_iff (hchange : applyCallback state.exception params now = .ok changed) :
    RequestSafe state.exception changed ↔ state.Harmless ⟨.callback params, now⟩ := by
  cases applyCallback_applied hchange with
  | updated same => exact metadata_safe_iff h same
  | assigned status assigns =>
    have hopen := (Exception.assign_eq_ok assigns).1
    refine iff_of_true ?_ ?_
    · obtain ⟨hfits, hresolved⟩ := assign_safe assigns
      exact ⟨hfits, hresolved⟩
    · intro hsame
      rw [show state.exception.status = .open from hopen, status] at hsame
      cases hsame
  | resolved status _ resolves =>
    have hunresolved := (Exception.resolve_eq_ok resolves).1
    refine iff_of_true ?_ ?_
    · obtain ⟨hfits, hresolved⟩ := resolve_safe resolves
      exact ⟨hfits, hresolved⟩
    · intro hsame
      exact absurd (hsame.trans status) hunresolved

theorem change_safe_iff (hchange : state.change request = .ok changed) :
    RequestSafe state.exception changed ↔ state.Harmless request := by
  cases request with
  | mk call =>
    cases call with
    | assign => exact iff_of_true (assign_safe hchange) trivial
    | unassign => exact iff_of_true (unassign_safe hchange) trivial
    | startResolution => exact iff_of_true (startResolution_safe hchange) trivial
    | abortResolution => exact abortResolution_safe_iff h hchange
    | resolve => exact iff_of_true (resolve_safe hchange) trivial
    | callback => exact applyCallback_safe_iff h hchange

theorem change_pending (hcall : request.call ≠ .startResolution)
    (hchange : state.change request = .ok changed)
    (hpending : changed.status = .pendingResolution) :
    state.exception.status = .pendingResolution ∧
      (state.exception.HasAssignee → changed.HasAssignee) := by
  cases request with
  | mk call now =>
    cases call with
    | assign =>
      obtain ⟨-, -, rfl⟩ := Exception.assign_eq_ok hchange
      cases hpending
    | unassign =>
      obtain ⟨-, rfl⟩ := Exception.unassign_eq_ok hchange
      cases hpending
    | startResolution => exact absurd rfl hcall
    | abortResolution =>
      obtain ⟨-, rfl⟩ := Exception.abortResolution_eq_ok hchange
      rcases h.previous with hprevious | hprevious <;> cases hprevious.symm.trans hpending
    | resolve =>
      obtain ⟨-, -, _, _, rfl⟩ := Exception.resolve_eq_ok hchange
      cases hpending
    | callback params =>
      cases applyCallback_applied hchange with
      | updated =>
        exact ⟨by simpa using hpending, fun hassignee => metadata_hasAssignee params now hassignee⟩
      | assigned _ assigns =>
        obtain ⟨-, -, rfl⟩ := Exception.assign_eq_ok assigns
        cases hpending
      | resolved _ _ resolves =>
        obtain ⟨-, -, _, _, rfl⟩ := Exception.resolve_eq_ok resolves
        cases hpending

theorem Lifecycle.Inv.step_of_fits (hfits : (state.step request).exception.Fits) :
    (state.step request).Inv := by
  unfold Lifecycle.step at hfits ⊢
  cases hchange : state.change request with
  | error => exact h
  | ok changed =>
    rw [hchange] at hfits
    by_cases hcall : request.call = .startResolution
    · have hstart : state.exception.startResolution request.now = .ok changed := by
        simpa [Lifecycle.change, hcall] using hchange
      obtain ⟨hstatus, rfl⟩ := Exception.startResolution_eq_ok hstart
      simp only [if_pos hcall]
      exact ⟨hfits, hstatus, fun _ hassigned => h.fits.assigned hassigned⟩
    · simp only [if_neg hcall]
      refine ⟨hfits, h.previous, ?_⟩
      intro hpending hassigned
      obtain ⟨hbefore, hkept⟩ := change_pending h hcall hchange hpending
      exact hkept (h.pending hbefore hassigned)

end

theorem harmless_of_error {cause : GoError} (hchange : state.change request = .error cause) :
    state.Harmless request := by
  cases request with
  | mk call =>
    cases call with
    | assign | unassign | startResolution => trivial
    | abortResolution =>
      intro hpending hopen
      simp [Lifecycle.change, Exception.abortResolution, hpending, hopen] at hchange
    | resolve => trivial
    | callback =>
      intro hsame
      simp [Lifecycle.change, applyCallback, hsame] at hchange

theorem step_safe_iff (h : state.Inv) (request : LifecycleRequest) :
    RequestSafe state.exception (state.step request).exception ↔ state.Harmless request := by
  unfold Lifecycle.step
  cases hchange : state.change request with
  | error => exact iff_of_true (.refl h.fits) (harmless_of_error hchange)
  | ok => exact change_safe_iff h hchange

end Steps

theorem newException_inv {transactionID exceptionID : UUID} {severity : ExceptionSeverity}
    {reason : Option String} {now : Instant} {exception : Exception}
    (h : Exception.newException transactionID severity reason exceptionID now = .ok exception) :
    (Lifecycle.mk exception .open).Inv := by
  obtain ⟨-, h⟩ := guard_eq_ok.mp h
  cases h
  refine ⟨.of_open rfl rfl rfl, Or.inl rfl, ?_⟩
  intro hpending
  cases hpending

/--
A new exception stays in step over a sequence of calls, and does not change any
more once it is resolved, exactly if every call of the sequence is harmless.
-/
theorem exception_calls_safe_iff {transactionID exceptionID : UUID} {severity : ExceptionSeverity}
    {reason : Option String} {now : Instant} {exception : Exception}
    (h : Exception.newException transactionID severity reason exceptionID now = .ok exception)
    (requests : List LifecycleRequest) :
    (∀ reached request, reached ++ [request] <+: requests →
        RequestSafe (reached.foldl Lifecycle.step ⟨exception, .open⟩).exception
          ((reached.foldl Lifecycle.step ⟨exception, .open⟩).step request).exception) ↔
      Meets Lifecycle.step Lifecycle.Harmless ⟨exception, .open⟩ requests := by
  have hfirst := newException_inv h
  have hcalls : Meets Lifecycle.step (fun state request =>
      RequestSafe state.exception (state.step request).exception)
      ⟨exception, .open⟩ requests ↔ _ := Meets.iff_forall
  rw [← hcalls]
  constructor
  · intro hsafe
    refine hsafe.imp Lifecycle.Inv hfirst ?_
    intro state request hinv hrequest
    exact ⟨(step_safe_iff hinv request).mp hrequest, hinv.step_of_fits hrequest.fits⟩
  · intro hmeets
    refine hmeets.imp Lifecycle.Inv hfirst ?_
    intro state request hinv hharmless
    have hrequest := (step_safe_iff hinv request).mpr hharmless
    exact ⟨hrequest, hinv.step_of_fits hrequest.fits⟩

/-- Assigned, taken into a resolution that is aborted, and resolved by a callback
that comes twice. -/
def assignedAndResolved : List LifecycleRequest := [⟨.assign " analyst" (some 9), 1⟩,
  ⟨.startResolution, 2⟩,
  ⟨.abortResolution, 3⟩,
  ⟨.callback ⟨"JIRA", "M-1", .resolved, none, "", none⟩, 4⟩,
  ⟨.callback ⟨"JIRA", "M-1", .resolved, none, "analyst", none⟩, 5⟩]

theorem exception_calls_safe_iff_resolved :
    Exception.newException ⟨1⟩ .high none ⟨50⟩ 0 = .ok freshException ∧
      ∀ reached request, reached ++ [request] <+: assignedAndResolved →
        RequestSafe
          (reached.foldl Lifecycle.step ⟨freshException, .open⟩).exception
          ((reached.foldl Lifecycle.step ⟨freshException, .open⟩).step request).exception := by
  have hnew : Exception.newException ⟨1⟩ .high none ⟨50⟩ 0 = .ok freshException := by decide +kernel
  exact ⟨hnew, (exception_calls_safe_iff hnew _).mpr (by decide +kernel)⟩

/-- A callback that reports `OPEN` assigns the open exception. -/
theorem open_exception_assigned :
    Exception.newException ⟨1⟩ .high none ⟨50⟩ 0 = .ok freshException ∧
      (Lifecycle.step ⟨freshException, .open⟩
        ⟨.callback ⟨"JIRA", "M-1", .open, none, "analyst", some 9⟩, 1⟩).exception.status = .open ∧
      (Lifecycle.step ⟨freshException, .open⟩
        ⟨.callback ⟨"JIRA", "M-1", .open, none, "analyst", some 9⟩,
          1⟩).exception.assignedTo = some "analyst" ∧
      (Lifecycle.step ⟨freshException, .open⟩
        ⟨.callback ⟨"JIRA", "M-1", .open, none, "analyst", some 9⟩,
          1⟩).exception.dueAt = some 9 := by
  decide +kernel

end Matcher.Exceptions
