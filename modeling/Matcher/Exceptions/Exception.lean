import Matcher.Command.Store
import Matcher.Exceptions.Severity

/-!
# Exceptions

A command changes its own copy of an exception.  Whatever the change is, it leaves
the id, the severity and the version alone; the version is what the repository
compares before it writes the copy over the stored row.
-/

namespace Matcher.Exceptions

open Foundation
open Command (Fault)
open Matching (Instant)

inductive ExceptionStatus
  | «open»
  | assigned
  | pendingResolution
  | resolved
deriving DecidableEq, Repr

structure Exception where
  id : UUID
  transactionID : UUID
  severity : ExceptionSeverity
  status : ExceptionStatus
  externalSystem : Option String
  externalIssueID : Option String
  assignedTo : Option String
  dueAt : Option Instant
  resolutionNotes : Option String
  resolutionType : Option String
  resolutionReason : Option String
  reason : Option String
  version : ℤ
  createdAt : Instant
  updatedAt : Instant
deriving DecidableEq, Repr

variable {previousStatus : ExceptionStatus} {exception changed : Exception} {now : Instant}
  {dueAt : Option Instant} {assignee notes : String}

def errExceptionNotFound : GoError :=
  .sentinel ⟨"ErrExceptionNotFound", "exception not found"⟩

def errExceptionMustBeOpenToAssign : GoError :=
  .sentinel ⟨"ErrExceptionMustBeOpenToAssign", "exception must be open to assign"⟩

def errExceptionMustBeAssignedToUnassign : GoError :=
  .sentinel ⟨"ErrExceptionMustBeAssignedToUnassign", "exception must be assigned to unassign"⟩

def errExceptionMustBeOpenOrAssignedToResolve : GoError :=
  .sentinel ⟨"ErrExceptionMustBeOpenOrAssignedToResolve",
    "exception must be open or assigned to resolve"⟩

def errResolutionNotesRequired : GoError :=
  .sentinel ⟨"ErrResolutionNotesRequired", "resolution notes are required"⟩

def errAssigneeRequired : GoError :=
  .sentinel ⟨"ErrAssigneeRequired", "assignee is required"⟩

def errAssignedExceptionRequiresAssignee : GoError :=
  .sentinel ⟨"ErrAssignedExceptionRequiresAssignee", "assigned exception must have an assignee"⟩

def errExceptionPendingResolution : GoError :=
  .sentinel ⟨"ErrExceptionPendingResolution", "exception is already pending resolution"⟩

def errExceptionMustBePendingToAbort : GoError :=
  .sentinel ⟨"ErrExceptionMustBePendingToAbort", "exception must be pending resolution to abort"⟩

def errInvalidAbortTargetStatus : GoError :=
  .sentinel ⟨"ErrInvalidAbortTargetStatus", "abort resolution target must be OPEN or ASSIGNED"⟩

def errInvalidResolutionTransition : GoError :=
  .sentinel ⟨"ErrInvalidResolutionTransition", "invalid resolution transition"⟩

def errCallbackAssigneeRequired : GoError :=
  .sentinel ⟨"ErrCallbackAssigneeRequired", "callback assignee is required"⟩

def errCallbackStatusUnsupported : GoError :=
  .sentinel ⟨"ErrCallbackStatusUnsupported", "callback status is unsupported"⟩

def errCallbackOpenNotValidTarget : GoError :=
  .sentinel ⟨"ErrCallbackOpenNotValidTarget",
    "OPEN is not a valid callback resolution target: use ASSIGNED or RESOLVED"⟩

def errConcurrentModification : GoError :=
  .sentinel ⟨"ErrConcurrentModification", "exception was modified by another process"⟩

def normalizeOptionalText : Option String → Option String
  | none => none
  | some value =>
    let trimmed := trimSpace value
    if trimmed = "" then none else some trimmed

/-! ## Changes in memory -/

def allowedResolutionTransitions : ExceptionStatus → List ExceptionStatus
  | .open => [.assigned, .resolved, .pendingResolution]
  | .assigned => [.resolved, .pendingResolution]
  | .pendingResolution => [.resolved, .open, .assigned]
  | .resolved => []

def validateResolutionTransition (source target : ExceptionStatus) : Except GoError Unit :=
  if target ∈ allowedResolutionTransitions source then .ok ()
  else .error errInvalidResolutionTransition

/-- An empty text is an option that was not given. -/
structure ResolveOptions where
  resolutionType : String
  resolutionReason : String
deriving DecidableEq, Repr

namespace Exception

def assign (exception : Exception) (assignee : String) (dueAt : Option Instant) (now : Instant) :
    Except GoError Exception :=
  let trimmedAssignee := trimSpace assignee
  if exception.status ≠ .open then .error errExceptionMustBeOpenToAssign
  else if trimmedAssignee = "" then .error errAssigneeRequired
  else
    .ok { exception with
      status := .assigned
      assignedTo := some trimmedAssignee
      dueAt := dueAt
      updatedAt := now }

def unassign (exception : Exception) (now : Instant) : Except GoError Exception :=
  if exception.status ≠ .assigned then
    .error errExceptionMustBeAssignedToUnassign
  else
    .ok { exception with status := .open, assignedTo := none, dueAt := none, updatedAt := now }

def startResolution (exception : Exception) (now : Instant) : Except GoError Exception :=
  match exception.status with
  | .pendingResolution => .error errExceptionPendingResolution
  | .resolved => .error errExceptionMustBeOpenOrAssignedToResolve
  | .open | .assigned => .ok { exception with status := .pendingResolution, updatedAt := now }

def abortResolution (exception : Exception) (previousStatus : ExceptionStatus) (now : Instant) :
    Except GoError Exception :=
  if exception.status ≠ .pendingResolution then
    .error errExceptionMustBePendingToAbort
  else if previousStatus ≠ .open ∧ previousStatus ≠ .assigned then
    .error errInvalidAbortTargetStatus
  else .ok { exception with status := previousStatus, updatedAt := now }

def resolve (exception : Exception) (notes : String) (options : ResolveOptions) (now : Instant) :
    Except GoError Exception :=
  let trimmedNotes := trimSpace notes
  if exception.status = .resolved then
    .error errExceptionMustBeOpenOrAssignedToResolve
  else if trimmedNotes = "" then .error errResolutionNotesRequired
  else if exception.status = .assigned ∧
      ∀ assignee ∈ exception.assignedTo, trimSpace assignee = "" then
    .error errAssignedExceptionRequiresAssignee
  else
    .ok { exception with
      status := .resolved
      resolutionNotes := some trimmedNotes
      resolutionType :=
        if options.resolutionType ≠ "" then some options.resolutionType
        else exception.resolutionType
      resolutionReason :=
        if options.resolutionReason ≠ "" then some options.resolutionReason
        else exception.resolutionReason
      updatedAt := now }

end Exception

/-! ## Callbacks -/

structure CallbackParams where
  externalSystem : String
  externalIssueID : String
  status : ExceptionStatus
  resolutionNotes : Option String
  assignee : String
  dueAt : Option Instant
deriving DecidableEq, Repr

def applyCallbackMetadataUpdate (exception : Exception) (params : CallbackParams) (now : Instant) :
    Exception :=
  let trimmed := trimSpace params.assignee
  if trimmed = "" ∧ params.dueAt = none then exception
  else
    { exception with
      assignedTo := if trimmed ≠ "" then some trimmed else exception.assignedTo
      dueAt := params.dueAt.or exception.dueAt
      updatedAt := now }

def applyCallbackStatusTransition (exception : Exception) (params : CallbackParams)
    (now : Instant) : Except GoError Exception :=
  match params.status with
  | .assigned =>
    if trimSpace params.assignee = "" then .error errCallbackAssigneeRequired
    else
      wrapError "assign exception: %w" (exception.assign params.assignee params.dueAt now)
  | .resolved =>
    let resolved := "Resolved via " ++ params.externalSystem ++ " callback"
    let notes := match params.resolutionNotes with
      | some notes => if trimSpace notes = "" then resolved else notes
      | none => resolved
    wrapError "resolve exception: %w" (exception.resolve notes ⟨"", ""⟩ now)
  | .open => .error (.wrap "%w: %s" ["OPEN"] errCallbackStatusUnsupported)
  | .pendingResolution =>
    .error (.wrap "%w: %s" ["PENDING_RESOLUTION"] errCallbackStatusUnsupported)

/-- The external references are set whatever becomes of the status. -/
def applyCallback (exception : Exception) (params : CallbackParams) (now : Instant) :
    Except GoError Exception :=
  let tracked := { exception with
    externalSystem := some params.externalSystem
    externalIssueID := some params.externalIssueID }
  if tracked.status = params.status then
    .ok (applyCallbackMetadataUpdate tracked params now)
  else
    match validateResolutionTransition tracked.status params.status with
    | .error cause => .error (.wrap "validate resolution transition: %w" [] cause)
    | .ok () =>
      if params.status = .open then .error errCallbackOpenNotValidTarget
      else applyCallbackStatusTransition tracked params now

inductive Change
  | assign (assignee : String) (dueAt : Option Instant)
  | startResolution
  | abortResolution (previousStatus : ExceptionStatus)
  | resolve (notes : String) (options : ResolveOptions)
  | callback (params : CallbackParams)

def Change.apply (exception : Exception) (now : Instant) : Change → Except GoError Exception
  | .assign assignee dueAt => exception.assign assignee dueAt now
  | .startResolution => exception.startResolution now
  | .abortResolution previousStatus => exception.abortResolution previousStatus now
  | .resolve notes options => exception.resolve notes options now
  | .callback params => applyCallback exception params now

def freshException : Exception where
  id := ⟨50⟩
  transactionID := ⟨1⟩
  severity := .high
  status := .open
  externalSystem := none
  externalIssueID := none
  assignedTo := none
  dueAt := none
  resolutionNotes := none
  resolutionType := none
  resolutionReason := none
  reason := none
  version := 0
  createdAt := 0
  updatedAt := 0

/-! ## What a successful change does -/

namespace Exception

variable {exception changed : Exception} {now : Instant}

theorem assign_eq_ok (h : exception.assign assignee dueAt now = .ok changed) :
    exception.status = .open ∧ trimSpace assignee ≠ "" ∧
      changed = { exception with
        status := .assigned
        assignedTo := some (trimSpace assignee)
        dueAt := dueAt
        updatedAt := now } := by
  simp only [assign, guard_eq_ok] at h
  obtain ⟨hstatus, hassignee, h⟩ := h
  cases h
  exact ⟨not_not.mp hstatus, hassignee, rfl⟩

theorem unassign_eq_ok (h : exception.unassign now = .ok changed) :
    exception.status = .assigned ∧
      changed = { exception with
        status := .open
        assignedTo := none
        dueAt := none
        updatedAt := now } := by
  simp only [unassign, guard_eq_ok] at h
  obtain ⟨hstatus, h⟩ := h
  cases h
  exact ⟨not_not.mp hstatus, rfl⟩

theorem startResolution_eq_ok (h : exception.startResolution now = .ok changed) :
    (exception.status = .open ∨ exception.status = .assigned) ∧
      changed = { exception with status := .pendingResolution, updatedAt := now } := by
  unfold startResolution at h
  split at h
  next => cases h
  next => cases h
  next hopen =>
    cases h
    exact ⟨Or.inl hopen, rfl⟩
  next hassigned =>
    cases h
    exact ⟨Or.inr hassigned, rfl⟩

theorem abortResolution_eq_ok (h : exception.abortResolution previousStatus now = .ok changed) :
    exception.status = .pendingResolution ∧
      changed = { exception with status := previousStatus, updatedAt := now } := by
  simp only [abortResolution, guard_eq_ok] at h
  obtain ⟨hstatus, -, h⟩ := h
  cases h
  exact ⟨not_not.mp hstatus, rfl⟩

theorem resolve_eq_ok {options : ResolveOptions}
    (h : exception.resolve notes options now = .ok changed) :
    exception.status ≠ .resolved ∧ trimSpace notes ≠ "" ∧
      ∃ resolutionType resolutionReason, changed = { exception with
        status := .resolved
        resolutionNotes := some (trimSpace notes)
        resolutionType := resolutionType
        resolutionReason := resolutionReason
        updatedAt := now } := by
  simp only [resolve, guard_eq_ok] at h
  obtain ⟨hstatus, hnotes, -, h⟩ := h
  cases h
  exact ⟨hstatus, hnotes, _, _, rfl⟩

end Exception

section Metadata

variable (exception : Exception) (params : CallbackParams) (now : Instant)

@[simp] theorem applyCallbackMetadataUpdate_status :
    (applyCallbackMetadataUpdate exception params now).status = exception.status := by
  simp only [applyCallbackMetadataUpdate]
  split <;> rfl

@[simp] theorem applyCallbackMetadataUpdate_resolutionNotes :
    (applyCallbackMetadataUpdate exception params now).resolutionNotes =
      exception.resolutionNotes := by
  simp only [applyCallbackMetadataUpdate]
  split <;> rfl

theorem applyCallbackMetadataUpdate_assignedTo :
    (applyCallbackMetadataUpdate exception params now).assignedTo =
      if trimSpace params.assignee ≠ "" then some (trimSpace params.assignee)
      else exception.assignedTo := by
  simp only [applyCallbackMetadataUpdate]
  split
  next hempty => simp [hempty.1]
  next => rfl

theorem applyCallbackMetadataUpdate_dueAt :
    (applyCallbackMetadataUpdate exception params now).dueAt = params.dueAt.or exception.dueAt := by
  simp only [applyCallbackMetadataUpdate]
  split
  next hempty => simp [hempty.2]
  next => rfl

end Metadata

def Exception.tracked (exception : Exception) (params : CallbackParams) : Exception :=
  { exception with
    externalSystem := some params.externalSystem
    externalIssueID := some params.externalIssueID }

@[simp] theorem Exception.tracked_status (exception : Exception) (params : CallbackParams) :
    (exception.tracked params).status = exception.status := rfl

@[simp] theorem Exception.tracked_resolutionNotes (exception : Exception)
    (params : CallbackParams) :
    (exception.tracked params).resolutionNotes = exception.resolutionNotes := rfl

/-- What a callback does: it updates an exception that has its status already,
assigns an open one, or resolves one. -/
inductive CallbackApplied (exception : Exception) (params : CallbackParams) (now : Instant) :
    Exception → Prop
  | updated (same : exception.status = params.status) :
      CallbackApplied exception params now
        (applyCallbackMetadataUpdate (exception.tracked params) params now)
  | assigned {changed : Exception} (status : params.status = .assigned)
      (assigns : (exception.tracked params).assign params.assignee params.dueAt now = .ok changed) :
      CallbackApplied exception params now changed
  | resolved {changed : Exception} (status : params.status = .resolved) (notes : String)
      (resolves : (exception.tracked params).resolve notes ⟨"", ""⟩ now = .ok changed) :
      CallbackApplied exception params now changed

theorem applyCallback_applied {params : CallbackParams}
    (h : applyCallback exception params now = .ok changed) :
    CallbackApplied exception params now changed := by
  simp only [applyCallback] at h
  split at h
  next hsame =>
    cases h
    exact .updated hsame
  next =>
    split at h
    · cases h
    obtain ⟨-, h⟩ := guard_eq_ok.mp h
    unfold applyCallbackStatusTransition at h
    split at h
    next hassigned =>
      obtain ⟨-, h⟩ := guard_eq_ok.mp h
      exact .assigned hassigned (wrapError_eq_ok.mp h)
    next hresolved => exact .resolved hresolved _ (wrapError_eq_ok.mp h)
    next => cases h
    next => cases h

/-! ## What a change leaves alone -/

structure Exception.Follows (changed exception : Exception) : Prop where
  id : changed.id = exception.id
  version : changed.version = exception.version
  severity : changed.severity = exception.severity

namespace Exception

variable {exception changed : Exception} {now : Instant}

theorem assign_follows (h : exception.assign assignee dueAt now = .ok changed) :
    changed.Follows exception := by
  obtain ⟨-, -, rfl⟩ := assign_eq_ok h
  exact ⟨rfl, rfl, rfl⟩

theorem startResolution_follows (h : exception.startResolution now = .ok changed) :
    changed.Follows exception := by
  obtain ⟨-, rfl⟩ := startResolution_eq_ok h
  exact ⟨rfl, rfl, rfl⟩

theorem abortResolution_follows (h : exception.abortResolution previousStatus now = .ok changed) :
    changed.Follows exception := by
  obtain ⟨-, rfl⟩ := abortResolution_eq_ok h
  exact ⟨rfl, rfl, rfl⟩

theorem resolve_follows {options : ResolveOptions}
    (h : exception.resolve notes options now = .ok changed) : changed.Follows exception := by
  obtain ⟨-, -, resolutionType, resolutionReason, rfl⟩ := resolve_eq_ok h
  exact ⟨rfl, rfl, rfl⟩

end Exception

theorem applyCallbackMetadataUpdate_follows (exception : Exception) (params : CallbackParams)
    (now : Instant) : (applyCallbackMetadataUpdate exception params now).Follows exception := by
  simp only [applyCallbackMetadataUpdate]
  split <;> exact ⟨rfl, rfl, rfl⟩

theorem applyCallback_follows {params : CallbackParams}
    (h : applyCallback exception params now = .ok changed) : changed.Follows exception := by
  cases applyCallback_applied h with
  | updated =>
    obtain ⟨hid, hversion, hseverity⟩ := applyCallbackMetadataUpdate_follows
      (exception.tracked params) params now
    exact ⟨hid, hversion, hseverity⟩
  | assigned _ assigns =>
    obtain ⟨hid, hversion, hseverity⟩ := Exception.assign_follows assigns
    exact ⟨hid, hversion, hseverity⟩
  | resolved _ _ resolves =>
    obtain ⟨hid, hversion, hseverity⟩ := Exception.resolve_follows resolves
    exact ⟨hid, hversion, hseverity⟩

theorem Change.apply_follows {change : Change} (h : change.apply exception now = .ok changed) :
    changed.Follows exception := by
  cases change with
  | assign => exact Exception.assign_follows h
  | startResolution => exact Exception.startResolution_follows h
  | abortResolution => exact Exception.abortResolution_follows h
  | resolve => exact Exception.resolve_follows h
  | callback => exact applyCallback_follows h

/-! ## The repository -/

/-- The row of the upsert when there is none yet. -/
def upsertedException (id : UUID) (input : ExceptionTransactionInput)
    (severity : ExceptionSeverity) (now : Instant) : Exception where
  id := id
  transactionID := input.transactionID
  severity := severity
  status := .open
  externalSystem := none
  externalIssueID := none
  assignedTo := none
  dueAt := none
  resolutionNotes := none
  resolutionType := none
  resolutionReason := none
  reason := some (sanitizeInputReason input.reason)
  version := 1
  createdAt := now
  updatedAt := now

/-- The version of a row that is there stays as it is. -/
def upsert (row : Option Exception) (id : UUID) (input : ExceptionTransactionInput)
    (severity : ExceptionSeverity) (now : Instant) : Exception :=
  match row with
  | none => upsertedException id input severity now
  | some stored =>
    { stored with
      severity := upsertSeverity stored.severity severity
      reason := some (upsertReason stored.reason (sanitizeInputReason input.reason))
      updatedAt := now }

/-- Every column but the ids and the time of creation is written, if the version
is the one that was read. -/
def executeUpdate (row : Option Exception) (exception : Exception) (now : Instant) (fault : Fault) :
    Except GoError Exception :=
  match fault, row with
  | some cause, _ => .error (.wrap "update exception: %w" [] cause)
  | none, none => .error errExceptionNotFound
  | none, some stored =>
    if stored.id ≠ exception.id then .error errExceptionNotFound
    else if stored.version ≠ exception.version then
      .error errConcurrentModification
    else
      .ok { exception with
        id := stored.id
        transactionID := stored.transactionID
        version := stored.version + 1
        createdAt := stored.createdAt
        updatedAt := now }

theorem executeUpdate_eq_ok {row : Option Exception} {updated : Exception}
    {fault : Fault} (h : executeUpdate row exception now fault = .ok updated) :
    ∃ stored ∈ row, stored.id = exception.id ∧
      stored.version = exception.version ∧
      updated = { exception with
        id := stored.id
        transactionID := stored.transactionID
        version := stored.version + 1
        createdAt := stored.createdAt
        updatedAt := now } := by
  unfold executeUpdate at h
  split at h
  next => cases h
  next => cases h
  next stored =>
    simp only [guard_eq_ok] at h
    obtain ⟨hid, hversion, h⟩ := h
    cases h
    exact ⟨stored, rfl, not_not.mp hid, not_not.mp hversion, rfl⟩

end Matcher.Exceptions
