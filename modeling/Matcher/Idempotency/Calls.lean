import Matcher.Command.Store
import Matcher.Foundation.Transition
import Matcher.Idempotency.Repository

/-!
# Calls that carry one idempotency key

A callback and an HTTP request guard their work in the same way: acquire the key,
or look at its marker, and mark the key when the work is over.  Any number of such
calls run at the same time, one repository operation or the work at a time, and
markers expire while calls are running.  A completed marker keeps later calls from
the work as long as nobody writes a failed marker over it.
-/

namespace Matcher.Idempotency

open Foundation
open Command (Fault)

def errCallbackInProgress : GoError :=
  .sentinel ⟨"ErrCallbackInProgress", "callback is already being processed"⟩

def errCallbackRetryable : GoError :=
  .sentinel ⟨"ErrCallbackRetryable", "callback can be retried"⟩

/-! ## Calls -/

inductive Kind
  | callback
  | request
deriving DecidableEq, Repr

/-- What a callback returns, and how a request is answered. -/
inductive Answer
  | callback (error : Option GoError)
  | handled (error : Option GoError) (statusCode : ℤ) (responseBody : Bytes)
  | replayed (statusCode : ℤ) (response : Bytes)
  | respondError (status : ℤ) (slug message : String)
deriving DecidableEq, Repr

/-- What the guarded work ends with; a callback only has the error. -/
structure Work where
  error : Option GoError
  statusCode : ℤ
  responseBody : Bytes
deriving DecidableEq, Repr

inductive Phase
  | ready
  | inspecting
  | duplicate
  | reacquiring
  | working
  | completing (response : Bytes) (httpStatus : ℤ) (answer : Answer)
  | failing (answer : Answer)
  | returned (answer : Answer)
deriving DecidableEq, Repr

structure Call where
  kind : Kind
  phase : Phase
  worked : Bool
deriving DecidableEq, Repr

/-- An operation is answered, it fails, or it takes place and its answer is lost. -/
inductive Reply
  | answered
  | refused (cause : GoError)
  | lost (cause : GoError)
deriving DecidableEq, Repr

def Reply.Applied : Reply → Prop
  | .refused _ => False
  | _ => True

instance : DecidablePred Reply.Applied
  | .answered => inferInstanceAs (Decidable True)
  | .refused _ => inferInstanceAs (Decidable False)
  | .lost _ => inferInstanceAs (Decidable True)

def Reply.result {α : Type} (reply : Reply) (value : α) : Except GoError α :=
  match reply with
  | .answered => .ok value
  | .refused cause => .error cause
  | .lost cause => .error cause

def Reply.write (reply : Reply) (slot next : Slot Marker) : Slot Marker :=
  if reply.Applied then next else slot

/-! ## The answers to what the repository says -/

def httpErrorStatusThreshold : ℤ := 400

def internalError : Answer :=
  .respondError 500 "idempotency_error" "an unexpected error occurred"

def requestInProgress : Answer :=
  .respondError 409 "request_in_progress"
    "A request with this idempotency key is currently being processed"

def Kind.acquireFailed (cause : GoError) : Kind → Answer
  | .callback => .callback (some (.wrap "try acquire idempotency: %w" [] cause))
  | .request => internalError

def Kind.inspectFailed (cause : GoError) : Kind → Answer
  | .callback => .callback (some (.wrap "get cached idempotency result: %w" [] cause))
  | .request => internalError

def Kind.reacquireFailed (cause : GoError) : Kind → Answer
  | .callback => .callback (some (.wrap "reacquire failed callback: %w" [] cause))
  | .request => internalError

def Kind.inProgress : Kind → Answer
  | .callback => .callback (some errCallbackInProgress)
  | .request => requestInProgress

/-- `handleExistingCallback` and `handleDuplicateRequest`. -/
def Kind.handleExisting (result : Result) : Kind → Phase
  | .callback =>
    match result.status with
    | .complete => .duplicate
    | .pending => .returned (.callback (some errCallbackInProgress))
    | .failed => .reacquiring
    | .unknown => .returned (.callback (some errCallbackRetryable))
  | .request =>
    match result.status with
    | .pending => .returned requestInProgress
    | .complete =>
      .returned (.replayed (if result.httpStatus = 0 then 200 else result.httpStatus)
        result.response)
    | .failed => .reacquiring
    | .unknown =>
      .returned (.respondError 500 "idempotency_error" "Unexpected idempotency state encountered")

/-- `processCallback` and `processNewRequest`, after the work. -/
def Kind.afterWork (work : Work) : Kind → Phase
  | .callback =>
    match work.error with
    | some cause => .failing (.callback (some cause))
    | none => .completing [] 0 (.callback none)
  | .request =>
    let answer := Answer.handled work.error work.statusCode work.responseBody
    if work.error.isSome ∨ httpErrorStatusThreshold ≤ work.statusCode then
      .failing answer
    else .completing work.responseBody work.statusCode answer

/-! ## Steps -/

def Call.operate (repo : Repository) (settings : Settings) (reply : Reply)
    (now : ℤ) (slot : Slot Marker) (call : Call) : Phase × Slot Marker :=
  match call.phase with
  | .ready =>
    let (acquired, next) := repo.tryAcquire settings now slot
    (match reply.result acquired with
      | .error cause => .returned (call.kind.acquireFailed cause)
      | .ok true => .working
      | .ok false => .inspecting,
      reply.write slot next)
  | .inspecting =>
    (match reply.result (getCachedResult now slot) with
      | .error cause => .returned (call.kind.inspectFailed cause)
      | .ok result => call.kind.handleExisting result,
      slot)
  | .reacquiring =>
    let (reacquired, next) := repo.tryReacquireFromFailed settings now slot
    (match reply.result reacquired with
      | .error cause => .returned (call.kind.reacquireFailed cause)
      | .ok true => .working
      | .ok false => .returned call.kind.inProgress,
      reply.write slot next)
  | .completing response httpStatus answer =>
    -- An error is logged, and the answer stays what it is.
    (.returned answer, reply.write slot (repo.markComplete settings now response httpStatus))
  | .failing answer => (.returned answer, reply.write slot (repo.markFailed settings now))
  | phase => (phase, slot)

def Call.work (work : Work) (call : Call) : Call :=
  match call.phase with
  | .working => { call with phase := call.kind.afterWork work, worked := true }
  | _ => call

/-- `handleDuplicateCallback`: only the audit event is published. -/
def Call.auditDuplicate (fault : Fault) (call : Call) : Call :=
  match call.phase with
  | .duplicate =>
    { call with phase := .returned (.callback (fault.map
        (.wrap "publish duplicate audit: %w" []))) }
  | _ => call

structure State (κ : Type) where
  clock : ℤ
  slot : Slot Marker
  calls : κ → Call

inductive Label (κ : Type)
  | tick (elapsed : ℕ)
  | operation (call : κ) (settings : Settings) (reply : Reply)
  | work (call : κ) (work : Work)
  | audit (call : κ) (fault : Fault)

variable {κ : Type} [DecidableEq κ]

namespace State

def initial (kinds : κ → Kind) (clock : ℤ) : State κ where
  clock := clock
  slot := none
  calls i := ⟨kinds i, .ready, false⟩

def put (state : State κ) (i : κ) (call : Call) : State κ :=
  { state with calls := Function.update state.calls i call }

def step (repo : Repository) (state : State κ) : Label κ → State κ
  | .tick elapsed => { state with clock := state.clock + elapsed }
  | .operation i settings reply =>
    let (phase, slot) := (state.calls i).operate repo settings reply state.clock state.slot
    { state with slot := slot }.put i { state.calls i with phase := phase }
  | .work i work => state.put i ((state.calls i).work work)
  | .audit i fault => state.put i ((state.calls i).auditDuplicate fault)

def run (repo : Repository) (kinds : κ → Kind) (start : ℤ) (labels : List (Label κ)) : State κ :=
  labels.foldl (step repo) (initial kinds start)

/-- No mark is written over a live completed marker that would end it early. -/
def KeepsComplete (repo : Repository) (state : State κ) : Label κ → Prop
  | .operation i settings reply =>
    match (state.calls i).phase with
    | .failing _ => reply.Applied → ∀ marker ∈ state.slot.get state.clock, ¬ marker.IsComplete
    | .completing _ _ _ =>
      reply.Applied → ∀ cell ∈ state.slot,
        cell.value.IsComplete → state.clock < cell.expiresAt →
        cell.expiresAt ≤ state.clock + repo.clientTTL (repo.currentSuccessTTL settings)
    | _ => True
  | _ => True

instance (repo : Repository) (state : State κ) (label : Label κ) :
    Decidable (state.KeepsComplete repo label) := by
  unfold KeepsComplete
  split
  · split <;> infer_instance
  · infer_instance

end State

/-! ## One step under a completed marker -/

/-- The call has not got to the work, and may never get there. -/
def Phase.Idle : Phase → Prop
  | .working => False
  | .completing _ _ _ => False
  | .failing _ => False
  | _ => True

theorem Kind.handleExisting_idle (kind : Kind) (result : Result) :
    (kind.handleExisting result).Idle := by
  cases kind with
  | callback | request =>
    unfold Kind.handleExisting
    dsimp only
    split <;> trivial

section

variable {repo : Repository} {settings : Settings} {reply : Reply}
  {now deadline : ℤ} {slot : Slot Marker} {call : Call}

theorem Reply.write_self (reply : Reply) (slot : Slot Marker) : reply.write slot slot = slot :=
  ite_self slot

theorem Call.operate_idle (h : slot.HoldsUntil Marker.IsComplete deadline) (hnow : now < deadline)
    (hidle : call.phase.Idle) : (call.operate repo settings reply now slot).1.Idle := by
  unfold Call.operate
  split
  case h_1 =>
    rw [tryAcquire_of_complete h hnow]
    cases reply <;> trivial
  case h_2 =>
    cases reply with
    | answered => exact call.kind.handleExisting_idle _
    | refused | lost => trivial
  case h_3 =>
    rw [tryReacquireFromFailed_of_complete h hnow]
    cases reply <;> trivial
  case h_4 => trivial
  case h_5 => trivial
  case h_6 => exact hidle

omit [DecidableEq κ] in
theorem Call.operate_holds {state : State κ} {i : κ}
    (h : state.slot.HoldsUntil Marker.IsComplete deadline) (hnow : state.clock < deadline)
    (hkeeps : state.KeepsComplete repo (.operation i settings reply)) :
    ((state.calls i).operate repo settings reply state.clock
      state.slot).2.HoldsUntil Marker.IsComplete deadline := by
  unfold State.KeepsComplete at hkeeps
  unfold Call.operate
  split
  case h_1 =>
    rw [tryAcquire_of_complete h hnow]
    dsimp only
    rw [Reply.write_self]
    exact h
  case h_2 => exact h
  case h_3 =>
    rw [tryReacquireFromFailed_of_complete h hnow]
    dsimp only
    rw [Reply.write_self]
    exact h
  case h_4 response httpStatus answer hphase =>
    simp only [hphase] at hkeeps
    unfold Reply.write
    split
    case isTrue happlied =>
      obtain ⟨cell, hcell, hcomplete, hexpires⟩ := h
      have hlonger := hkeeps happlied cell hcell hcomplete (hnow.trans_le hexpires)
      exact Slot.holdsUntil_set trivial (hexpires.trans hlonger)
    case isFalse => exact h
  case h_5 answer hphase =>
    simp only [hphase] at hkeeps
    unfold Reply.write
    split
    case isTrue happlied =>
      obtain ⟨marker, hmarker, hcomplete⟩ := h.get hnow
      exact absurd hcomplete (hkeeps happlied marker hmarker)
    case isFalse => exact h
  case h_6 => exact h

end

namespace State

structure Shielded (state : State κ) (deadline : ℤ) (j : κ) : Prop where
  holds : state.slot.HoldsUntil Marker.IsComplete deadline
  idle : (state.calls j).phase.Idle
  worked : (state.calls j).worked = false

variable {repo : Repository} {state : State κ} {deadline : ℤ} {i j : κ}

theorem Shielded.put {slot : Slot Marker} {call : Call} (h : state.Shielded deadline j)
    (hslot : slot.HoldsUntil Marker.IsComplete deadline)
    (hcall : i = j → call.phase.Idle ∧ call.worked = false) :
    ({ state with slot := slot }.put i call).Shielded deadline j := by
  by_cases hij : i = j
  · subst hij
    obtain ⟨hidle, hworked⟩ := hcall rfl
    refine ⟨hslot, ?_, ?_⟩
    · simpa [State.put] using hidle
    · simpa [State.put] using hworked
  · refine ⟨hslot, ?_, ?_⟩
    · simpa [State.put, Function.update_of_ne (Ne.symm hij)] using h.idle
    · simpa [State.put, Function.update_of_ne (Ne.symm hij)] using h.worked

theorem Shielded.step (h : state.Shielded deadline j) (hnow : state.clock < deadline)
    {label : Label κ} (hkeeps : state.KeepsComplete repo label) :
    (state.step repo label).Shielded deadline j := by
  cases label with
  | tick => exact ⟨h.holds, h.idle, h.worked⟩
  | operation =>
    apply h.put (Call.operate_holds h.holds hnow hkeeps)
    rintro rfl
    exact ⟨Call.operate_idle h.holds hnow h.idle, h.worked⟩
  | work =>
    apply h.put h.holds
    rintro rfl
    have hidle := h.idle
    unfold Call.work
    split
    case h_1 hphase =>
      rw [hphase] at hidle
      exact absurd hidle id
    case h_2 => exact ⟨h.idle, h.worked⟩
  | audit =>
    apply h.put h.holds
    rintro rfl
    unfold Call.auditDuplicate
    split
    case h_1 => exact ⟨trivial, h.worked⟩
    case h_2 => exact ⟨h.idle, h.worked⟩

theorem clock_le_step (repo : Repository) (state : State κ) (label : Label κ) :
    state.clock ≤ (state.step repo label).clock := by
  cases label with
  | tick elapsed =>
    show state.clock ≤ state.clock + elapsed
    omega
  | operation | work | audit => exact le_rfl

/-! ## Every run -/

theorem Shielded.foldl (h : state.Shielded deadline j) {labels : List (Label κ)}
    (hkeeps : Meets (State.step repo) (KeepsComplete repo) state labels)
    (hnow : (labels.foldl (State.step repo) state).clock < deadline) :
    (labels.foldl (State.step repo) state).Shielded deadline j := by
  refine hkeeps.invariant
    (fun state => state.clock < deadline → state.Shielded deadline j)
    (fun _ => h) ?_ hnow
  intro state label hshielded hkeeps hnow
  have hbefore := (clock_le_step repo state label).trans_lt hnow
  exact (hshielded hbefore).step hbefore hkeeps

theorem completing_shields {settings : Settings} {response : Bytes} {httpStatus : ℤ}
    {answer : Answer} (hphase : (state.calls i).phase = .completing response httpStatus answer)
    (hidle : ((state.step repo (.operation i settings .answered)).calls j).phase.Idle)
    (hworked : ((state.step repo (.operation i settings .answered)).calls j).worked = false) :
    (state.step repo (.operation i settings .answered)).Shielded
      (state.clock + repo.clientTTL (repo.currentSuccessTTL settings)) j := by
  refine ⟨?_, hidle, hworked⟩
  have hslot : (state.step repo (.operation i settings .answered)).slot =
      repo.markComplete settings state.clock response httpStatus := by
    simp only [step, Call.operate, hphase]
    rfl
  rw [hslot]
  exact Slot.holdsUntil_set trivial le_rfl

/-- Once a call has worked and marked the key, a call that has not started yet
does not work before the marker expires. -/
theorem completed_work_not_repeated {kinds : κ → Kind} {start : ℤ} {before after : List (Label κ)}
    {mark : Label κ} {settings : Settings} {response : Bytes} {httpStatus : ℤ} {answer : Answer}
    (hmark : mark = .operation i settings .answered)
    (hdone : ((run repo kinds start before).calls i).phase = .completing response httpStatus answer)
    (hstarts : (run repo kinds start (before ++ [mark])).calls j = (initial kinds start).calls j)
    (hkeeps : Meets (step repo) (KeepsComplete repo)
      (run repo kinds start (before ++ [mark])) after)
    (hnow : (run repo kinds start (before ++ mark :: after)).clock <
      (run repo kinds start before).clock + repo.clientTTL (repo.currentSuccessTTL settings)) :
    ((run repo kinds start (before ++ mark :: after)).calls j).worked =
      false := by
  subst hmark
  unfold run at *
  rw [List.foldl_append, List.foldl_cons] at hnow ⊢
  rw [List.foldl_append, List.foldl_cons, List.foldl_nil] at hstarts hkeeps
  have hshielded := completing_shields hdone (hstarts ▸ trivial) (congrArg Call.worked hstarts)
  exact (hshielded.foldl hkeeps hnow).worked

def sampleSettings : Settings := ⟨none, none⟩

def answered (i : κ) : Label κ := .operation i sampleSettings .answered

def succeeds : Work := ⟨none, 200, [111, 107]⟩

def fails : Work :=
  ⟨some (.sentinel ⟨"sql.ErrConnDone", "sql: connection is already closed"⟩), 500, []⟩

/-- A client that sends every expiry as it is. -/
def sampleRepository : Repository := newIdempotencyRepository id

def callbacks : Fin 3 → Kind := fun _ => .callback

/-- A first call works while its pending marker expires, and a second one takes
the key over. -/
def overtaken : List (Label (Fin 3)) :=
  [answered 0, .tick 300000000000, answered 1, .work 0 succeeds]

theorem completed_work_not_repeated_replay :
    ((run sampleRepository callbacks 0 (overtaken ++ answered 0 ::
      [.work 1 succeeds, answered 1, .tick 1000000000, answered 2,
        answered 2])).calls 2).worked = false := by
  have hdone : ((run sampleRepository callbacks 0 overtaken).calls
      0).phase = .completing [] 0 (.callback none) := by decide +kernel
  exact completed_work_not_repeated rfl hdone (by decide +kernel)
    (by decide +kernel) (by decide +kernel)

/-- The second call fails after the first one has marked the key.  The failed
marker takes the place of the completed one, and a third call works again. -/
theorem failed_mark_repeats_work :
    let after : List (Label (Fin 3)) :=
      [.work 1 fails, answered 1, answered 2, answered 2, answered 2, .work 2 succeeds]
    ((run sampleRepository callbacks 0 overtaken).calls 0).phase =
        .completing [] 0 (.callback none) ∧
      (run sampleRepository callbacks 0 (overtaken ++ [answered 0])).calls 2 =
        (initial callbacks 0).calls 2 ∧
      (run sampleRepository callbacks 0 (overtaken ++ answered 0 :: after)).clock <
        (run sampleRepository callbacks 0 overtaken).clock +
          sampleRepository.clientTTL (sampleRepository.currentSuccessTTL sampleSettings) ∧
      ((run sampleRepository callbacks 0
        (overtaken ++ answered 0 :: after)).calls 2).worked = true := by
  decide +kernel

end State

end Matcher.Idempotency
