import Matcher.Exceptions.Resolution
import Matcher.Foundation.Actors

/-!
# Gateway calls for one exception

ForceMatch and AdjustEntry store the exception as pending before they call the
gateway, and resolve or revert it afterwards; ProcessCallback changes it as the
external system says.  All of them work on copies, possibly read from a replica
that lags behind, and every write asks for the version that was read.  A copy with
the version of the row is a copy of the row, so a pending exception is left only
by the call that made it pending, or for good.
-/

namespace Matcher.Exceptions.Gateway

open Foundation
open Command (Fault)
open Matching (Instant)

variable {now : Instant} {exception : Exception} {copy : Exception}
  {operation : ResolutionOperation} {fault : Fault}

inductive Command
  | forceMatch (params : ForceMatchParams)
  | adjustEntry (params : AdjustEntryParams)
  | processCallback (params : CallbackParams)

/-- The stored row, every row that was stored before, and what the successful calls
of ForceMatch and AdjustEntry have returned. -/
structure Store where
  row : Exception
  history : List Exception
  returned : List Exception

inductive Phase
  | idle
  | loaded (command : Command) (exception : Exception)
  | starting (operation : ResolutionOperation) (previousStatus : ExceptionStatus) (copy : Exception)
  | calling (operation : ResolutionOperation)
      (previousStatus : ExceptionStatus) (exception : Exception)
  | abandoned
  | resolving (copy : Exception)
  | reverting (copy : Exception)
  | applying (copy : Exception)

/-- A gateway call that is abandoned stays in flight until it is answered. -/
def Phase.InFlight : Phase → Prop
  | .calling _ _ _ => True
  | .abandoned => True
  | _ => False

inductive Label (κ : Type)
  | findByID (actor : κ) (command : Command) (index : ℕ)
  | change (actor : κ) (now : Instant)
  | update (actor : κ) (now : Instant) (outcome : CommitOutcome GoError)
  | gateway (actor : κ) (now : Instant) (fault : Fault)
  | abandon (actor : κ)

abbrev Calls (κ : Type) := Actors κ Store Phase

/-! ## Steps -/

def Store.write (store : Store) (updated : Exception) (returned : List Exception) : Store where
  row := updated
  history := store.history ++ [updated]
  returned := store.returned ++ returned

def startOperation (operation : ResolutionOperation) (exception : Exception) (now : Instant) :
    Phase :=
  match (do
    validateResolutionTransition exception.status .resolved
    exception.startResolution now : Except GoError Exception) with
  | .error _ => .idle
  | .ok copy => .starting operation exception.status copy

def Command.change (exception : Exception) (now : Instant) : Command → Phase
  | .forceMatch params => startOperation (forceMatchOperation params) exception now
  | .adjustEntry params => startOperation (adjustEntryOperation params) exception now
  | .processCallback params =>
    match applyCallback exception params now with
    | .error _ => .idle
    | .ok copy => .applying copy

def answered (operation : ResolutionOperation) (previousStatus : ExceptionStatus)
    (exception : Exception) (now : Instant) (fault : Fault) : Phase :=
  match fault with
  | none =>
    match exception.resolve operation.notes
        ⟨operation.resolutionType, operation.resolutionReason⟩ now with
    | .error _ => .idle
    | .ok copy => .resolving copy
  | some _ =>
    match exception.abortResolution previousStatus now with
    | .error _ => .idle
    | .ok copy => .reverting copy

namespace Calls

variable {κ : Type} [DecidableEq κ]

/-- One transaction with a version-checked update.  What else fails in it undoes the
update too. -/
def write (calls : Calls κ) (actor : κ) (copy : Exception) (now : Instant)
    (outcome : CommitOutcome GoError) (next : Exception → Phase)
    (returned : Exception → List Exception) : Calls κ :=
  match executeUpdate (some calls.store.row) copy now none with
  | .error _ => calls.goto actor .idle
  | .ok updated =>
    match outcome with
    | .committed => calls.put actor (calls.store.write updated (returned updated)) (next updated)
    | .refused _ => calls.goto actor .idle
    | .unacknowledged _ => calls.put actor (calls.store.write updated []) .idle

def step (calls : Calls κ) : Label κ → Calls κ
  | .findByID actor command index =>
    match calls.phase actor, calls.store.history[index]? with
    | .idle, some exception => calls.goto actor (.loaded command exception)
    | _, _ => calls
  | .change actor now =>
    match calls.phase actor with
    | .loaded command exception => calls.goto actor (command.change exception now)
    | _ => calls
  | .update actor now outcome =>
    match calls.phase actor with
    | .starting operation previousStatus copy =>
      calls.write actor copy now outcome (.calling operation previousStatus) (fun _ => [])
    | .resolving copy =>
      calls.write actor copy now outcome (fun _ => .idle) (fun updated =>
        [updated])
    | .reverting copy => calls.write actor copy now outcome (fun _ => .idle) (fun _ => [])
    | .applying copy => calls.write actor copy now outcome (fun _ => .idle) (fun _ => [])
    | _ => calls
  | .gateway actor now fault =>
    match calls.phase actor with
    | .calling operation previousStatus exception =>
      calls.goto actor (answered operation previousStatus exception now fault)
    | .abandoned => calls.goto actor .idle
    | _ => calls
  | .abandon actor =>
    match calls.phase actor with
    | .calling _ _ _ => calls.goto actor .abandoned
    | .abandoned => calls
    | _ => calls.goto actor .idle

def run (row : Exception) (labels : List (Label κ)) : Calls κ :=
  labels.foldl step (.initial ⟨row, [row], []⟩ .idle)

end Calls

/-! ## Copies and the row -/

/-- The copy is not newer than the row, and if it has the version of the row then
the status of the row is as expected. -/
structure Current (store : Store) (copy : Exception) (expected : ExceptionStatus → Prop) :
    Prop where
  version_le : copy.version ≤ store.row.version
  status : copy.version = store.row.version → expected store.row.status

def Forward (source target : ExceptionStatus) : Prop :=
  source = target ∨ source = .open ∧ target = .assigned ∨ target = .resolved

/-- What a call has in hand fits the row, if the row is still the one that was
read. -/
def Related (store : Store) : Phase → Prop
  | .idle => True
  | .loaded _ exception => Current store exception (· = exception.status)
  | .starting _ _ copy =>
    copy.status = .pendingResolution ∧
      Current store copy (fun status => status = .open ∨ status = .assigned)
  | .calling _ _ exception =>
    exception.status = .pendingResolution ∧ Current store exception (· = .pendingResolution)
  | .abandoned => True
  | .resolving copy => copy.status = .resolved ∧ Current store copy (· = .pendingResolution)
  | .reverting copy => Current store copy (· = .pendingResolution)
  | .applying copy => Current store copy (Forward · copy.status)

/-- The call has made the row pending, and a gateway call or a current copy to end
this with. -/
def Engaged (store : Store) : Phase → Prop
  | .calling _ _ _ => True
  | .abandoned => True
  | .resolving copy => copy.version = store.row.version
  | .reverting copy => copy.version = store.row.version
  | _ => False

section Copies

variable {store store' : Store} {copy : Exception}
  {expected : ExceptionStatus → Prop} {phase : Phase}

theorem Current.outdated (h : Current store copy expected)
    (hversion : store'.row.version = store.row.version + 1) (other : ExceptionStatus → Prop) :
    Current store' copy other := by
  have hle := h.version_le
  refine ⟨by omega, fun hsame => ?_⟩
  omega

theorem Related.outdated (h : Related store phase)
    (hversion : store'.row.version = store.row.version + 1) : Related store' phase := by
  cases phase with
  | idle => trivial
  | loaded => exact Current.outdated h hversion _
  | starting | calling => exact ⟨h.1, h.2.outdated hversion _⟩
  | abandoned => trivial
  | resolving => exact ⟨h.1, h.2.outdated hversion _⟩
  | reverting | applying => exact Current.outdated h hversion _

theorem Engaged.of_outdated (hrelated : Related store phase)
    (hversion : store'.row.version = store.row.version + 1) (h : Engaged store' phase) :
    phase.InFlight := by
  cases phase with
  | calling | abandoned => trivial
  | resolving copy =>
    have hle := hrelated.2.version_le
    change copy.version = store'.row.version at h
    omega
  | reverting copy =>
    have hle := Current.version_le hrelated
    change copy.version = store'.row.version at h
    omega
  | idle | loaded | starting | applying => cases h

theorem Engaged.of_inFlight (h : phase.InFlight) : Engaged store phase := by
  cases phase with
  | calling | abandoned => trivial
  | _ => cases h

end Copies

/-! ## The invariant -/

variable {κ : Type}

/-- Nothing has been returned, or one call has and the exception is resolved. -/
def ReturnedOnce (store : Store) : Prop :=
  store.returned = [] ∨ store.returned.length = 1 ∧ store.row.status = .resolved

/-- At most one call is engaged, and while one is the exception can only be pending
or resolved. -/
structure Inv (calls : Calls κ) : Prop where
  related : calls.Every fun _ => Related
  history : ∀ old ∈ calls.store.history, Current calls.store old (· = old.status)
  unique : ∀ first second, Engaged calls.store (calls.phase first) →
    Engaged calls.store (calls.phase second) → first = second
  guarded : ∀ actor, Engaged calls.store (calls.phase actor) →
    calls.store.row.status = .pendingResolution ∨ calls.store.row.status = .resolved
  returned : ReturnedOnce calls.store

theorem initial_inv (row : Exception) : Inv (.initial ⟨row, [row], []⟩ .idle : Calls κ) := by
  refine ⟨fun _ => trivial, ?_, fun _ _ h => h.elim, fun _ h => h.elim, Or.inl rfl⟩
  intro old hold
  rw [List.mem_singleton.mp hold]
  exact ⟨le_rfl, fun _ => rfl⟩

section Invariant

variable {calls : Calls κ} {updated : Exception} {returned : List Exception}

theorem Inv.history_write (h : Inv calls)
    (hversion : updated.version = calls.store.row.version + 1) :
    ∀ old ∈ (calls.store.write updated returned).history,
      Current (calls.store.write updated returned) old (· = old.status) := by
  intro old hold
  rcases List.mem_append.mp hold with hold | hold
  · exact (h.history old hold).outdated hversion _
  · rw [List.mem_singleton.mp hold]
    exact ⟨le_rfl, fun _ => rfl⟩

theorem Inv.not_engaged (h : Inv calls)
    (hstatus : calls.store.row.status = .open ∨ calls.store.row.status = .assigned) (other : κ) :
    ¬ Engaged calls.store (calls.phase other) := by
  intro hengaged
  have hguarded := h.guarded other hengaged
  rcases hstatus with hstatus | hstatus <;> simp [hstatus] at hguarded

theorem Inv.nothing_returned (h : Inv calls) (hstatus : calls.store.row.status ≠ .resolved) :
    calls.store.returned = [] := by
  rcases h.returned with hnone | ⟨-, hresolved⟩
  · exact hnone
  · exact absurd hresolved hstatus

end Invariant

/-! ## What a step does -/

/-- A version-checked write of a call in this phase. -/
inductive Written (store : Store) (phase : Phase) (updated : Exception) :
    List Exception → Phase → Prop
  /-- The exception is made pending, and the gateway called unless the commit was
  not acknowledged. -/
  | started {next : Phase} (status : store.row.status = .open ∨ store.row.status = .assigned)
      (pending : updated.status = .pendingResolution)
      (goesOn : next = .idle ∨ ∃ operation previousStatus,
        next = .calling operation previousStatus updated) :
      Written store phase updated [] next
  /-- The call that has made the exception pending resolves or reverts it. -/
  | ended {returned : List Exception} (engaged : Engaged store phase)
      (pending : store.row.status = .pendingResolution)
      (answers : returned = [] ∨ returned.length = 1 ∧ updated.status = .resolved) :
      Written store phase updated returned .idle
  | applied (forward : Forward store.row.status updated.status) :
      Written store phase updated [] .idle

variable [DecidableEq κ]

inductive Effect (calls : Calls κ) : Calls κ → Prop
  | same : Effect calls calls
  | goto (actor : κ) {phase : Phase} (related : Related calls.store phase)
      (engaged : Engaged calls.store phase → Engaged calls.store (calls.phase actor)) :
      Effect calls (calls.goto actor phase)
  | written (actor : κ) {updated : Exception} {returned : List Exception} {phase : Phase}
      (version : updated.version = calls.store.row.version + 1)
      (written : Written calls.store (calls.phase actor) updated returned phase) :
      Effect calls (calls.put actor (calls.store.write updated returned) phase)

theorem Effect.idle (calls : Calls κ) (actor : κ) : Effect calls (calls.goto actor .idle) :=
  .goto actor trivial fun h => h.elim

theorem executeUpdate_current {store : Store} {updated : Exception}
    (h : executeUpdate (some store.row) copy now fault = .ok updated) :
    copy.version = store.row.version ∧
      updated.version = store.row.version + 1 ∧
      updated.status = copy.status := by
  obtain ⟨stored, hstored, -, hversion, rfl⟩ := executeUpdate_eq_ok h
  cases hstored
  exact ⟨hversion.symm, rfl, rfl⟩

section Steps

variable {calls : Calls κ} {actor : κ}

theorem write_effect {outcome : CommitOutcome GoError} {next : Exception → Phase}
    {returned : Exception → List Exception}
    (hcommitted : ∀ updated, copy.version = calls.store.row.version → updated.status = copy.status →
      Written calls.store (calls.phase actor) updated (returned updated)
        (next updated)) (hunacknowledged : ∀ updated, copy.version = calls.store.row.version →
      updated.status = copy.status →
      Written calls.store (calls.phase actor) updated [] .idle) :
    Effect calls (calls.write actor copy now outcome next returned) := by
  unfold Calls.write
  split
  next => exact .idle calls actor
  next updated hupdate =>
    obtain ⟨hcopy, hversion, hstatus⟩ := executeUpdate_current hupdate
    cases outcome with
    | committed => exact .written actor hversion (hcommitted updated hcopy hstatus)
    | refused => exact .idle calls actor
    | unacknowledged => exact .written actor hversion (hunacknowledged updated hcopy hstatus)

theorem startOperation_effect (h : Current calls.store exception (· = exception.status)) :
    Effect calls (calls.goto actor (startOperation operation exception now)) := by
  unfold startOperation
  split
  next => exact .idle calls actor
  next copy hstart =>
    obtain ⟨-, hstart⟩ := check_eq_ok.mp hstart
    obtain ⟨hstatus, rfl⟩ := Exception.startResolution_eq_ok hstart
    refine .goto actor ⟨rfl, h.version_le, fun hcurrent => ?_⟩ fun hengaged => hengaged.elim
    rw [h.status hcurrent]
    exact hstatus

theorem applyCallback_forward {params : CallbackParams}
    (h : applyCallback exception params now = .ok copy) : Forward exception.status copy.status := by
  cases applyCallback_applied h with
  | updated =>
    refine Or.inl ?_
    rw [applyCallbackMetadataUpdate_status, Exception.tracked_status]
  | assigned _ assigns =>
    obtain ⟨hopen, -, rfl⟩ := Exception.assign_eq_ok assigns
    exact Or.inr (Or.inl ⟨hopen, rfl⟩)
  | resolved _ _ resolves =>
    obtain ⟨-, -, _, _, rfl⟩ := Exception.resolve_eq_ok resolves
    exact Or.inr (Or.inr rfl)

theorem change_effect {command : Command}
    (h : Current calls.store exception (· = exception.status)) :
    Effect calls (calls.goto actor (command.change exception now)) := by
  cases command with
  | forceMatch | adjustEntry => exact startOperation_effect h
  | processCallback =>
    simp only [Command.change]
    split
    next => exact .idle calls actor
    next copy hcallback =>
      have hversion := (applyCallback_follows hcallback).version
      refine .goto actor ⟨?_, fun hcurrent => ?_⟩ fun hengaged =>
        hengaged.elim
      · rw [hversion]
        exact h.version_le
      · rw [h.status (hversion.symm.trans hcurrent)]
        exact applyCallback_forward hcallback

theorem answered_effect {previousStatus : ExceptionStatus}
    (hphase : calls.phase actor = .calling operation previousStatus exception)
    (h : Current calls.store exception (· = .pendingResolution)) :
    Effect calls (calls.goto actor (answered operation previousStatus exception now fault)) := by
  have hengaged : Engaged calls.store (calls.phase actor) := by
    rw [hphase]
    trivial
  cases fault with
  | none =>
    simp only [answered]
    split
    next => exact .idle calls actor
    next copy hresolve =>
      obtain ⟨-, -, _, _, rfl⟩ := Exception.resolve_eq_ok hresolve
      exact .goto actor ⟨rfl, h.version_le, h.status⟩ fun _ => hengaged
  | some =>
    simp only [answered]
    split
    next => exact .idle calls actor
    next copy habort =>
      obtain ⟨-, rfl⟩ := Exception.abortResolution_eq_ok habort
      exact .goto actor ⟨h.version_le, h.status⟩ fun _ => hengaged

theorem update_effect (h : Related calls.store (calls.phase actor)) (now : Instant)
    (outcome : CommitOutcome GoError) : Effect calls (calls.step (.update actor now outcome)) := by
  simp only [Calls.step]
  split
  next operation previousStatus copy hphase =>
    rw [hphase] at h
    refine write_effect ?_ ?_ <;> intro updated hcurrent hstatus
    · exact .started (h.2.status hcurrent) (hstatus.trans h.1)
        (Or.inr ⟨operation, previousStatus, rfl⟩)
    · exact .started (h.2.status hcurrent) (hstatus.trans h.1) (Or.inl rfl)
  next copy hphase =>
    rw [hphase] at h
    refine write_effect ?_ ?_ <;> intro updated hcurrent hstatus
    · exact .ended (hphase ▸ hcurrent) (h.2.status hcurrent) (Or.inr ⟨rfl, hstatus.trans h.1⟩)
    · exact .ended (hphase ▸ hcurrent) (h.2.status hcurrent) (Or.inl rfl)
  next copy hphase =>
    rw [hphase] at h
    refine write_effect ?_ ?_ <;>
      intro updated hcurrent hstatus <;>
      exact .ended (hphase ▸ hcurrent) (Current.status h hcurrent) (Or.inl rfl)
  next copy hphase =>
    rw [hphase] at h
    refine write_effect ?_ ?_ <;>
      intro updated hcurrent hstatus <;>
      exact .applied (hstatus ▸ Current.status h hcurrent)
  next => exact .same

end Steps

/-! ## Steps keep it -/

theorem step_effect {calls : Calls κ} (h : Inv calls) (label : Label κ) :
    Effect calls (calls.step label) := by
  cases label with
  | findByID actor =>
    simp only [Calls.step]
    split
    next exception _ hfound =>
      exact .goto actor (h.history exception (List.mem_of_getElem? hfound))
        fun hengaged => hengaged.elim
    next => exact .same
  | change =>
    simp only [Calls.step]
    split
    next command exception hphase => exact change_effect (h.related.of_phase hphase)
    next => exact .same
  | update actor now outcome => exact update_effect (h.related actor) now outcome
  | gateway actor =>
    simp only [Calls.step]
    split
    next operation previousStatus exception hphase =>
      exact answered_effect hphase (h.related.of_phase hphase).2
    next => exact .idle calls actor
    next => exact .same
  | abandon actor =>
    simp only [Calls.step]
    split
    next operation previousStatus exception hphase =>
      exact .goto actor trivial fun _ => hphase ▸ trivial
    next => exact .same
    next => exact .idle calls actor

section Kept

variable {calls : Calls κ} {actor : κ} {phase : Phase} {updated : Exception}
  {returned : List Exception}

section

variable (h : Inv calls)

include h

theorem Inv.goto (hrelated : Related calls.store phase)
    (hengaged : Engaged calls.store phase → Engaged calls.store (calls.phase actor)) :
    Inv (calls.goto actor phase) := by
  have hbefore : ∀ other, Engaged calls.store
      ((calls.goto actor phase).phase other) → Engaged calls.store (calls.phase other) := by
    intro other hother
    by_cases hsame : other = actor
    · subst hsame
      rw [Actors.goto_phase_self] at hother
      exact hengaged hother
    · rw [Actors.goto_phase_of_ne _ hsame] at hother
      exact hother
  exact ⟨h.related.goto hrelated, h.history,
    fun first second hfirst hsecond =>
      h.unique first second (hbefore first hfirst) (hbefore second hsecond),
    fun other hother => h.guarded other (hbefore other hother), h.returned⟩

theorem Inv.engaged_before (hversion : updated.version = calls.store.row.version + 1) {other : κ}
    (hother : other ≠ actor) (hengaged : Engaged (calls.store.write updated returned)
      ((calls.put actor (calls.store.write updated returned) phase).phase other)) :
    Engaged calls.store (calls.phase other) := by
  rw [Actors.put_phase, Actors.goto_phase_of_ne _ hother] at hengaged
  exact .of_inFlight (Engaged.of_outdated (h.related other) hversion hengaged)

theorem Inv.related_write (hversion : updated.version = calls.store.row.version + 1)
    (hrelated : Related (calls.store.write updated returned) phase) :
    (calls.put actor (calls.store.write updated returned) phase).Every fun _ => Related :=
  h.related.put hrelated fun _ _ hother => hother.outdated hversion

theorem Inv.write_idle (hversion : updated.version = calls.store.row.version + 1)
    (hguarded : ∀ other, other ≠ actor → Engaged calls.store (calls.phase other) →
      updated.status = .pendingResolution ∨ updated.status = .resolved)
    (hreturned : ReturnedOnce (calls.store.write updated returned)) :
    Inv (calls.put actor (calls.store.write updated returned) .idle) := by
  have hother : ∀ other, Engaged (calls.store.write updated returned)
      ((calls.put actor (calls.store.write updated returned) .idle).phase
        other) → other ≠ actor := by
    rintro other hengaged rfl
    rw [Actors.put_phase, Actors.goto_phase_self] at hengaged
    exact hengaged.elim
  refine ⟨h.related_write hversion trivial, h.history_write hversion, ?_, ?_, hreturned⟩
  · intro first second hfirst hsecond
    exact h.unique first second
      (h.engaged_before hversion (hother first hfirst) hfirst)
      (h.engaged_before hversion (hother second hsecond) hsecond)
  · intro other hengaged
    exact hguarded other (hother other hengaged)
      (h.engaged_before hversion (hother other hengaged) hengaged)

theorem Inv.started (hversion : updated.version = calls.store.row.version + 1)
    (hstatus : calls.store.row.status = .open ∨ calls.store.row.status = .assigned)
    (hpending : updated.status = .pendingResolution)
    (hnext : phase = .idle ∨ ∃ operation previousStatus,
      phase = .calling operation previousStatus updated) :
    Inv (calls.put actor (calls.store.write updated []) phase) := by
  have hunresolved : calls.store.row.status ≠ .resolved := by
    rcases hstatus with hstatus | hstatus <;> simp [hstatus]
  have hreturned : ReturnedOnce (calls.store.write updated []) :=
    Or.inl (by simp [Store.write, h.nothing_returned hunresolved])
  rcases hnext with rfl | ⟨operation, previousStatus, rfl⟩
  · exact h.write_idle hversion
      (fun other _ hengaged => absurd hengaged (h.not_engaged hstatus other))
      hreturned
  · have honly : ∀ other, Engaged (calls.store.write updated [])
        ((calls.put actor (calls.store.write updated [])
          (.calling operation previousStatus updated)).phase other) →
          other = actor := by
      intro other hengaged
      by_contra hother
      exact h.not_engaged hstatus other (h.engaged_before hversion hother hengaged)
    refine ⟨h.related_write hversion ⟨hpending, le_rfl, fun _ => hpending⟩,
      h.history_write hversion, ?_, fun _ _ => Or.inl hpending, hreturned⟩
    intro first second hfirst hsecond
    rw [honly first hfirst, honly second hsecond]

theorem Inv.ended (hversion : updated.version = calls.store.row.version + 1)
    (hengaged : Engaged calls.store (calls.phase actor))
    (hpending : calls.store.row.status = .pendingResolution)
    (hanswers : returned = [] ∨ returned.length = 1 ∧ updated.status = .resolved) :
    Inv (calls.put actor (calls.store.write updated returned) .idle) := by
  refine h.write_idle hversion ?_ ?_
  · intro other hother hotherEngaged
    exact absurd (h.unique other actor hotherEngaged hengaged) hother
  · have hnone := h.nothing_returned (by simp [hpending])
    unfold ReturnedOnce Store.write
    rw [hnone]
    exact hanswers

theorem Inv.applied (hversion : updated.version = calls.store.row.version + 1)
    (hforward : Forward calls.store.row.status updated.status) :
    Inv (calls.put actor (calls.store.write updated []) .idle) := by
  have hkept : calls.store.row.status = .pendingResolution ∨
      calls.store.row.status = .resolved →
        updated.status = calls.store.row.status ∨ updated.status = .resolved := by
    intro hstatus
    rcases hforward with hsame | ⟨hopen, -⟩ | hresolved
    · exact Or.inl hsame.symm
    · simp [hopen] at hstatus
    · exact Or.inr hresolved
  refine h.write_idle hversion ?_ ?_
  · intro other _ hengaged
    rcases hkept (h.guarded other hengaged) with hsame | hresolved
    · rw [hsame]
      exact h.guarded other hengaged
    · exact Or.inr hresolved
  · unfold ReturnedOnce Store.write
    rw [List.append_nil]
    refine h.returned.imp id fun ⟨hlength, hresolved⟩ => ⟨hlength, ?_⟩
    rcases hkept (Or.inr hresolved) with hsame | hupdated
    · exact hsame.trans hresolved
    · exact hupdated

end

theorem Effect.inv {next : Calls κ} (heffect : Effect calls next) (h : Inv calls) : Inv next := by
  cases heffect with
  | same => exact h
  | goto _ related engaged => exact h.goto related engaged
  | written _ version written =>
    cases written with
    | started status pending goesOn => exact h.started version status pending goesOn
    | ended engaged pending answers => exact h.ended version engaged pending answers
    | applied forward => exact h.applied version forward

end Kept

theorem run_inv (row : Exception) (labels : List (Label κ)) : Inv (Calls.run row labels) :=
  List.foldlRecOn labels Calls.step (initial_inv row) fun _ h label _ => (step_effect h label).inv h

/--
Over any interleaving of the calls on one exception, whatever fails in them, at
most one gateway call is in flight, and at most one call of ForceMatch or
AdjustEntry returns success.
-/
theorem gateway_calls_exclusive (row : Exception) (labels : List (Label κ)) :
    (∀ first second, ((Calls.run row labels).phase first).InFlight →
        ((Calls.run row labels).phase second).InFlight → first = second) ∧
      (Calls.run row labels).store.returned.length ≤ 1 := by
  have hinv := run_inv row labels
  constructor
  · intro first second hfirst hsecond
    exact hinv.unique first second (.of_inFlight hfirst) (.of_inFlight hsecond)
  · rcases hinv.returned with hnone | ⟨hone, -⟩
    · simp [hnone]
    · exact hone.le

/-- A call whose gateway fails reverts the exception, and another one that has
read it before in vain reads it again and resolves it. -/
def revertedAndResolved : List (Label ℕ) := [
  .findByID 0 (.forceMatch ⟨⟨"analyst", "checked", by decide⟩, .opsApproval⟩) 0,
  .findByID 1 (.forceMatch ⟨⟨"manager", "agreed", by decide⟩, .opsApproval⟩) 0,
  .change 0 1, .change 1 1,
  .update 0 2 .committed,
  .update 1 2 .committed,
  .gateway 0 3 (some errExceptionNotFound),
  .update 0 4 .committed,
  .findByID 1 (.forceMatch ⟨⟨"manager", "agreed", by decide⟩, .opsApproval⟩) 2,
  .change 1 5,
  .update 1 6 .committed,
  .gateway 1 7 none,
  .update 1 8 .committed]

theorem gateway_calls_exclusive_reverted :
    (Calls.run freshException revertedAndResolved).store.history.map
        (·.status) =
        [.open, .pendingResolution, .open, .pendingResolution, .resolved] ∧
      (Calls.run freshException revertedAndResolved).store.returned.length ≤ 1 :=
  ⟨by decide +kernel, (gateway_calls_exclusive _ revertedAndResolved).2⟩

end Matcher.Exceptions.Gateway
