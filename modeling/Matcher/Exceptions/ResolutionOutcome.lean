import Matcher.Exceptions.Resolution

/-!
# Where a resolution leaves its exception

A command that fails leaves the exception as it was, or pending, or back in its
previous status.  It leaves it pending exactly when the first transaction went
through without its caller knowing, or the gateway succeeded and the second
transaction did not.
-/

namespace Matcher.Exceptions

open Foundation
open Command (Fault attempt)
open Matching (Instant)

variable {exception : Exception} {previousStatus : ExceptionStatus}
  {store before : ResolutionStore} {faults : ResolutionFaults}
  {ended : Except GoError Exception × ResolutionStore} {stored : Exception}

/-! ## Writes of a current copy -/

structure Exception.Current (exception stored : Exception) : Prop where
  id : exception.id = stored.id
  version : exception.version = stored.version

theorem Exception.Follows.current {changed : Exception} (h : changed.Follows exception) :
    changed.Current exception :=
  ⟨h.id, h.version⟩

def Exception.writtenOver (exception stored : Exception) (now : Instant) : Exception :=
  { exception with
    id := stored.id
    transactionID := stored.transactionID
    version := stored.version + 1
    createdAt := stored.createdAt
    updatedAt := now }

theorem executeUpdate_of_current (h : exception.Current stored) (now : Instant) :
    executeUpdate (some stored) exception now none = .ok (exception.writtenOver stored now) := by
  unfold executeUpdate
  dsimp only
  rw [if_neg (not_not.mpr h.id.symm), if_neg (not_not.mpr h.version.symm)]
  rfl

section Steps

variable {store : ResolutionStore} {stored exception : Exception}

theorem update_of_current (hrow : store.row = some stored)
    (h : exception.Current stored) (now : Instant) (outcome : CommitOutcome GoError) :
    update exception now outcome store =
      match outcome with
      | .committed =>
        (.ok (exception.writtenOver stored now),
          { store with row := some (exception.writtenOver stored now) })
      | .refused cause => (.error (.wrap "failed to update exception: %w" [] cause), store)
      | .unacknowledged cause =>
        (.error (.wrap "failed to update exception: %w" [] cause),
          { store with row := some (exception.writtenOver stored now) }) := by
  unfold update Stateful.mapError
  simp only [Stateful.get_bind, hrow, executeUpdate_of_current h, Stateful.ofExcept_ok_bind]
  cases outcome with
  | committed | refused | unacknowledged => rfl

theorem revertExceptionStatus_committed (hrow : store.row = some exception)
    (hpending : exception.status = .pendingResolution)
    (hprevious : previousStatus = .open ∨ previousStatus = .assigned) (clock : ℕ → Instant) :
    ∃ reverted, reverted.status = previousStatus ∧
      revertExceptionStatus exception previousStatus .committed clock store =
        (.ok (), { store with row := some reverted }) := by
  obtain ⟨aborted, habort, hstatus⟩ : ∃ aborted,
      exception.abortResolution previousStatus (clock 2) = .ok aborted ∧
        aborted.status = previousStatus := by
    rcases hprevious with rfl | rfl <;> simp [Exception.abortResolution, hpending]
  have hcurrent := (Exception.abortResolution_follows habort).current
  refine ⟨aborted.writtenOver exception (clock 3), hstatus, ?_⟩
  unfold revertExceptionStatus
  rw [habort]
  dsimp only
  rw [update_of_current hrow hcurrent]

theorem resolve_of_pending (hpending : exception.status = .pendingResolution) {notes : String}
    (hnotes : trimSpace notes ≠ "") (options : ResolveOptions) (now : Instant) :
    ∃ resolved, exception.resolve notes options now = .ok resolved ∧
      resolved.status = .resolved := by
  simp [Exception.resolve, hpending, hnotes]

end Steps

/-! ## The second transaction -/

def ResolutionFaults.Uncommitted (faults : ResolutionFaults) : Prop :=
  faults.beginTx ≠ none ∨ faults.nilLease = true ∨ faults.update ≠ none ∨
    faults.audit ≠ none ∨ faults.emit ≠ none ∨
    ∃ cause, faults.commit = .refused cause

theorem persistResolved_cases {resolved : Exception} (hrow : store.row = some stored)
    (h : resolved.Current stored) (operation : ResolutionOperation)
    (previousStatus : ExceptionStatus) (faults : ResolutionFaults) (clock : ℕ → Instant) :
    (faults.Uncommitted ∧ ∃ failure,
      persistResolved operation previousStatus resolved faults clock store =
        (.error failure, store)) ∨
    (¬ faults.Uncommitted ∧
      (persistResolved operation previousStatus resolved faults clock store).2 =
        ⟨some (resolved.writtenOver stored (clock 5)), store.audits ++
          [operation.auditEvent previousStatus
            (resolved.writtenOver stored (clock 5)) (clock 6)]⟩) := by
  unfold persistResolved ResolutionFaults.Uncommitted
  cases hbegin : faults.beginTx
  case some cause => exact .inl ⟨by simp, _, rfl⟩
  cases hlease : faults.nilLease
  case true => exact .inl ⟨by simp, _, rfl⟩
  cases hupdate : faults.update
  case some cause => exact .inl ⟨by simp, _, rfl⟩
  simp only [attempt, wrapError, Except.mapError, Bool.false_eq_true, ↓reduceIte,
    Stateful.ofExcept_ok_bind, Stateful.get_bind, hrow, executeUpdate_of_current h]
  cases haudit : faults.audit
  case some cause => exact .inl ⟨by simp, _, rfl⟩
  cases hemit : faults.emit
  case some cause => exact .inl ⟨by simp, _, rfl⟩
  cases hcommit : faults.commit
  case refused cause => exact .inl ⟨by simp, _, rfl⟩
  case committed => exact .inr ⟨by simp, rfl⟩
  case unacknowledged cause => exact .inr ⟨by simp, rfl⟩

/-! ## The call of the gateway -/

theorem resolvePending_cases (hrow : store.row = some exception)
    (hpending : exception.status = .pendingResolution)
    (hprevious : previousStatus = .open ∨ previousStatus = .assigned)
    (operation : ResolutionOperation) (hrevert : faults.revert = .committed) (clock : ℕ → Instant) :
    (faults.gateway = none ∧ faults.Uncommitted ∧ ∃ failure,
      resolvePending operation previousStatus exception faults clock store =
        (.error failure, store)) ∨
    (faults.gateway = none ∧ ¬ faults.Uncommitted ∧
      ∃ resolved, resolved.status = .resolved ∧
        (resolvePending operation previousStatus exception faults clock
          store).2.row = some resolved) ∨
    (faults.gateway ≠ none ∧ ∃ failure reverted,
      reverted.status = previousStatus ∧
        resolvePending operation previousStatus exception faults clock store =
          (.error failure, { store with row := some reverted })) := by
  cases hgateway : faults.gateway with
  | some cause =>
    obtain ⟨reverted, hstatus, hreverted⟩ :=
      revertExceptionStatus_committed hrow hpending hprevious clock
    refine .inr (.inr ⟨by simp, .wrap operation.executorError [] cause, reverted, hstatus, ?_⟩)
    unfold resolvePending executeWithRevert
    rw [hgateway, hrevert]
    exact Stateful.bind_of_error (Stateful.mapError_of_error (Stateful.bind_of_ok hreverted))
  | none =>
    obtain ⟨resolved, hresolve, hstatus⟩ := resolve_of_pending hpending
      operation.visible
      ⟨operation.resolutionType, operation.resolutionReason⟩ (clock 4)
    have hrun : resolvePending operation previousStatus exception faults
        clock store =
        persistResolved operation previousStatus resolved faults clock
          store := by
      unfold resolvePending executeWithRevert
      rw [hgateway, hresolve]
      rfl
    rw [hrun]
    have hcurrent := (Exception.resolve_follows hresolve).current
    rcases persistResolved_cases hrow hcurrent operation previousStatus
      faults clock with ⟨huncommitted, hfailed⟩ | ⟨hcommitted, hstored⟩
    · exact .inl ⟨rfl, huncommitted, hfailed⟩
    · exact .inr (.inl ⟨rfl, hcommitted,
        resolved.writtenOver exception (clock 5), hstatus, by rw [hstored]⟩)

/-! ## The commands -/

theorem findByID_cases (exceptionID : UUID) (fault : Fault) (store : ResolutionStore) :
    (fault = none ∧ ∃ exception ∈ store.row, exception.id = exceptionID ∧
      findByID exceptionID fault store = (.ok exception, store)) ∨
    ((∀ exception ∈ store.row, fault = none → exception.id ≠ exceptionID) ∧
      ∃ failure, findByID exceptionID fault store = (.error failure, store)) := by
  unfold findByID
  simp only [Stateful.get_bind]
  cases fault with
  | some =>
    refine .inr ⟨?_, _, rfl⟩
    intro exception _ hnone
    cases hnone
  | none =>
    cases hrow : store.row with
    | none =>
      refine .inr ⟨?_, _, rfl⟩
      intro exception hother
      cases hother
    | some exception =>
      by_cases hid : exception.id = exceptionID
      · refine .inl ⟨rfl, exception, rfl, hid, ?_⟩
        simp only [if_pos hid]
        rfl
      · refine .inr ⟨?_, errExceptionNotFound, ?_⟩
        · rintro other hother -
          cases hother
          exact hid
        · simp only [if_neg hid]
          rfl

def Resolvable (exceptionID : UUID) (faults : ResolutionFaults) (store : ResolutionStore) : Prop :=
  faults.findByID = none ∧ ∃ exception ∈ store.row,
    exception.id = exceptionID ∧ (exception.status = .open ∨ exception.status = .assigned)

theorem processResolution_of_not_resolvable {exceptionID : UUID}
    (h : ¬ Resolvable exceptionID faults store)
    (operation : ResolutionOperation) (clock : ℕ → Instant) :
    ∃ failure, processResolution operation exceptionID faults clock store =
      (.error failure, store) := by
  unfold processResolution
  rcases findByID_cases exceptionID faults.findByID store with
    ⟨hnone, exception, hrow, hid, hfound⟩ | ⟨_, failure, hfailed⟩
  · rw [Stateful.bind_of_ok (Stateful.mapError_of_ok hfound)]
    cases hstatus : exception.status with
    | «open» => exact absurd ⟨hnone, exception, hrow, hid, .inl hstatus⟩ h
    | assigned => exact absurd ⟨hnone, exception, hrow, hid, .inr hstatus⟩ h
    | pendingResolution =>
      unfold Exception.startResolution
      rw [hstatus]
      exact ⟨_, rfl⟩
    | resolved => exact ⟨_, rfl⟩
  · exact ⟨_, Stateful.bind_of_error (Stateful.mapError_of_error hfailed)⟩

theorem processResolution_of_resolvable {exceptionID : UUID}
    (h : Resolvable exceptionID faults store) (clock : ℕ → Instant) :
    ∃ exception ∈ store.row, (exception.status = .open ∨ exception.status = .assigned) ∧
      ∃ started, started.Current exception ∧
        started.status = .pendingResolution ∧
        ∀ operation, processResolution operation exceptionID faults clock
          store =
            (Stateful.mapError (.wrap "persist pending resolution: %w" [])
              (update started (clock 1) faults.persist) >>= fun pending =>
                resolvePending operation exception.status pending faults clock) store := by
  obtain ⟨hnone, exception, hrow, hid, hstatus⟩ := h
  rcases findByID_cases exceptionID faults.findByID store with
    ⟨_, found, hfoundRow, _, hfound⟩ | ⟨habsent, _⟩
  · have hsame : found = exception := Option.mem_unique hfoundRow hrow
    subst hsame
    obtain ⟨started, hstarted, hpending⟩ : ∃ started,
        found.startResolution (clock 0) = .ok started ∧ started.status = .pendingResolution := by
      rcases hstatus with hstatus | hstatus <;> simp [Exception.startResolution, hstatus]
    have hvalid : validateResolutionTransition found.status .resolved = .ok () := by
      rcases hstatus with hstatus | hstatus
      · rw [hstatus]
        rfl
      · rw [hstatus]
        rfl
    refine ⟨found, hrow, hstatus, started,
      (Exception.startResolution_follows hstarted).current, hpending, ?_⟩
    intro operation
    unfold processResolution
    rw [Stateful.bind_of_ok (Stateful.mapError_of_ok hfound), hvalid, hstarted]
    rfl
  · exact absurd hid (habsent exception hrow hnone)

/-- The stored exception is not left pending by the command, and it is resolved if
the command succeeds. -/
def Settles (before : ResolutionStore) (ended : Except GoError Exception × ResolutionStore) :
    Prop :=
  (∀ exception ∈ ended.2.row, exception.status = .pendingResolution →
    ∃ stored ∈ before.row, stored.status = .pendingResolution) ∧
  ∀ updated, ended.1 = .ok updated → ∃ exception ∈ ended.2.row, exception.status = .resolved

theorem settles_unchanged (store : ResolutionStore) (failure : GoError) :
    Settles store (.error failure, store) := by
  constructor
  · intro exception hrow hpending
    exact ⟨exception, hrow, hpending⟩
  · intro updated hok
    cases hok

theorem settles_of_resolved (hrow : ended.2.row = some exception)
    (hresolved : exception.status = .resolved) : Settles before ended := by
  constructor
  · intro stored hstored hpending
    rw [Option.mem_unique hstored hrow, hresolved] at hpending
    cases hpending
  · intro updated _
    exact ⟨exception, hrow, hresolved⟩

theorem not_settles_of_pending
    (hbefore : ¬ ∃ stored ∈ before.row, stored.status = .pendingResolution)
    (hrow : ended.2.row = some exception) (hpending : exception.status = .pendingResolution) :
    ¬ Settles before ended :=
  fun h => hbefore (h.1 exception hrow hpending)

theorem not_pending_of_resolvable (hrow : exception ∈ store.row)
    (hstatus : exception.status = .open ∨ exception.status = .assigned) :
    ¬ ∃ stored ∈ store.row, stored.status = .pendingResolution := by
  rintro ⟨stored, hstored, hpending⟩
  rw [Option.mem_unique hstored hrow] at hpending
  rcases hstatus with hstatus | hstatus <;> simp [hstatus] at hpending

/-- What follows the first transaction settles the exception unless the gateway has
done its part and the second transaction is not stored. -/
theorem resolvePending_settles_iff {after : ResolutionStore} {pending : Exception}
    (hrow : exception ∈ before.row)
    (hstatus : exception.status = .open ∨ exception.status = .assigned)
    (hstored : after.row = some pending) (hpending : pending.status = .pendingResolution)
    (operation : ResolutionOperation) (hrevert : faults.revert = .committed) (clock : ℕ → Instant) :
    Settles before (resolvePending operation exception.status pending faults clock after) ↔
      ¬ (faults.gateway = none ∧ faults.Uncommitted) := by
  have hbefore := not_pending_of_resolvable hrow hstatus
  rcases resolvePending_cases hstored hpending hstatus operation hrevert
    clock with ⟨hgateway, huncommitted, failure, hended⟩ |
      ⟨hgateway, hcommitted, resolved, hresolved, hended⟩ |
      ⟨hgateway, failure, reverted, hreverted, hended⟩
  · rw [hended]
    exact iff_of_false (not_settles_of_pending hbefore hstored hpending)
      (not_not.mpr ⟨hgateway, huncommitted⟩)
  · exact iff_of_true (settles_of_resolved hended hresolved) fun h => hcommitted h.2
  · rw [hended]
    refine iff_of_true ⟨?_, ?_⟩ fun h => hgateway h.1
    · intro other hother hotherPending
      cases hother
      rw [hreverted] at hotherPending
      exact absurd ⟨exception, hrow, hotherPending⟩ hbefore
    · intro updated hok
      cases hok

/-- The first transaction is stored behind the back of the command, or the gateway
has done its part and the second transaction is not stored. -/
def LeavesPending (exceptionID : UUID) (faults : ResolutionFaults) (store : ResolutionStore) :
    Prop :=
  Resolvable exceptionID faults store ∧
    ((∃ cause, faults.persist = .unacknowledged cause) ∨
      faults.persist = .committed ∧ faults.gateway = none ∧ faults.Uncommitted)

/--
The sequence settles its exception unless it abandons it between the two
transactions, if the status is reverted whenever that is tried.
-/
theorem processResolution_settles_iff {exceptionID : UUID} (hrevert : faults.revert = .committed)
    (operation : ResolutionOperation) (clock : ℕ → Instant) :
    Settles store (processResolution operation exceptionID faults clock store) ↔
      ¬ LeavesPending exceptionID faults store := by
  by_cases hresolvable : Resolvable exceptionID faults store
  · obtain ⟨exception, hrow, hstatus, started, hcurrent, hpending, hrun⟩ :=
      processResolution_of_resolvable hresolvable clock
    rw [hrun operation]
    have hupdate := update_of_current hrow hcurrent (clock 1) faults.persist
    cases hpersist : faults.persist with
    | refused =>
      rw [hpersist] at hupdate
      rw [Stateful.bind_of_error (Stateful.mapError_of_error hupdate)]
      refine iff_of_true (settles_unchanged store _) ?_
      rintro ⟨_, ⟨_, hother⟩ | ⟨hother, _⟩⟩
      · simp [hpersist] at hother
      · simp [hpersist] at hother
    | unacknowledged cause =>
      rw [hpersist] at hupdate
      rw [Stateful.bind_of_error (Stateful.mapError_of_error hupdate)]
      refine iff_of_false (not_settles_of_pending
        (not_pending_of_resolvable hrow hstatus) rfl hpending) ?_
      exact not_not.mpr ⟨hresolvable, .inl ⟨cause, hpersist⟩⟩
    | committed =>
      rw [hpersist] at hupdate
      rw [Stateful.bind_of_ok (Stateful.mapError_of_ok hupdate)]
      -- from here on the row is stored as pending
      have hleaves : LeavesPending exceptionID faults store ↔
          faults.gateway = none ∧ faults.Uncommitted := by
        simp [LeavesPending, hresolvable, hpersist]
      rw [hleaves]
      have hwritten : (started.writtenOver exception (clock 1)).status =
          .pendingResolution := hpending
      exact resolvePending_settles_iff hrow hstatus rfl hwritten operation hrevert clock
  · obtain ⟨failure, hrun⟩ := processResolution_of_not_resolvable hresolvable operation clock
    rw [hrun]
    exact iff_of_true (settles_unchanged store failure) fun hleaves => hresolvable hleaves.1

inductive ResolutionCommand
  | forceMatch (cmd : ForceMatchCommand)
  | adjustEntry (cmd : AdjustEntryCommand)

namespace ResolutionCommand

def exceptionID : ResolutionCommand → UUID
  | .forceMatch cmd => cmd.exceptionID
  | .adjustEntry cmd => cmd.exceptionID

def run (useCase : ExceptionUseCase) (faults : ResolutionFaults) (clock : ℕ → Instant) :
    ResolutionCommand → Saga Exception
  | .forceMatch cmd => Exceptions.forceMatch useCase cmd faults clock
  | .adjustEntry cmd => Exceptions.adjustEntry useCase cmd faults clock

def Valid (useCase : ExceptionUseCase) : ResolutionCommand → Prop
  | .forceMatch cmd => ∃ params, validateForceMatch useCase cmd = .ok params
  | .adjustEntry cmd => ∃ params, validateAdjustEntry useCase cmd = .ok params

end ResolutionCommand

theorem settles_after_validation {α : Type} {validated : Except GoError α}
    {next : α → Saga Exception} {leaves : Prop}
    (h : ∀ params, Settles store (next params store) ↔ ¬ leaves) :
    Settles store ((Stateful.ofExcept validated >>= next) store) ↔
      ¬ ((∃ params, validated = .ok params) ∧ leaves) := by
  cases validated with
  | error failure =>
    refine iff_of_true (settles_unchanged store failure) ?_
    rintro ⟨⟨params, hparams⟩, _⟩
    cases hparams
  | ok params =>
    rw [Stateful.ofExcept_ok_bind, h params]
    simp

/--
For both commands and whatever fails: the exception is not left pending, and it is
resolved after a success, exactly unless a valid command abandons it between its
two transactions.
-/
theorem resolution_settles_iff (useCase : ExceptionUseCase) (command : ResolutionCommand)
    (store : ResolutionStore) {faults : ResolutionFaults} (hrevert : faults.revert = .committed)
    (clock : ℕ → Instant) :
    Settles store (command.run useCase faults clock store) ↔
      ¬ (command.Valid useCase ∧ LeavesPending command.exceptionID faults store) := by
  cases command with
  | forceMatch =>
    exact settles_after_validation fun params =>
      processResolution_settles_iff hrevert (forceMatchOperation params) clock
  | adjustEntry =>
    exact settles_after_validation fun params =>
      processResolution_settles_iff hrevert (adjustEntryOperation params) clock

/-! ## A failed call and a failed audit -/

def reviewedException : Exception :=
  { freshException with id := ⟨1⟩, transactionID := ⟨2⟩, severity := .low, version := 1 }

def approvedMatch : ForceMatchCommand :=
  ⟨⟨1⟩, "ops_approval", "approved by operations"⟩

def approvedAdjustment : AdjustEntryCommand :=
  ⟨⟨1⟩, "other", "approved by operations", 10, "usd"⟩

def errUnavailable : GoError :=
  .sentinel ⟨"unavailable", "connection refused"⟩

def faultsOf (gateway audit : Fault) : ResolutionFaults :=
  ⟨none, .committed, gateway, .committed, none, false, none, audit, none, .committed⟩

theorem resolution_settles_iff_gateway :
    Settles ⟨some reviewedException, []⟩
      ((ResolutionCommand.forceMatch approvedMatch).run ⟨true, "analyst"⟩
        (faultsOf (some errUnavailable) none) (fun _ => 0)
        ⟨some reviewedException, []⟩) := by
  refine (resolution_settles_iff _ _ _ rfl _).mpr ?_
  rintro ⟨_, _, ⟨_, hpersist⟩ | ⟨_, hgateway, _⟩⟩
  · cases hpersist
  · cases hgateway

/-- The gateway succeeds and the audit event cannot be written: both commands
leave the exception pending, and nothing tries to revert it. -/
theorem failed_audit_leaves_pending :
    reviewedException.status = .open ∧
    (∃ after,
      forceMatch ⟨true, "analyst"⟩ approvedMatch (faultsOf none (some errUnavailable)) (fun _ => 0)
          ⟨some reviewedException, []⟩ =
        (.error (.wrap "publish audit: %w" [] errUnavailable), after) ∧
      after.row.map Exception.status = some .pendingResolution) ∧
    ∃ after,
      adjustEntry ⟨true, "analyst"⟩ approvedAdjustment
          (faultsOf none (some errUnavailable)) (fun _ => 0)
          ⟨some reviewedException, []⟩ =
        (.error (.wrap "publish audit: %w" [] errUnavailable), after) ∧
      after.row.map Exception.status = some .pendingResolution := by
  exact ⟨rfl, ⟨_, rfl, rfl⟩, ⟨_, rfl, rfl⟩⟩

end Matcher.Exceptions
