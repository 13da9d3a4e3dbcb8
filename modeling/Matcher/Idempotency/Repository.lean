import Matcher.Foundation.Expiring
import Matcher.Foundation.GoError
import Matcher.Foundation.Text

/-!
# The idempotency repository

The operations on the stored marker of one idempotency key.  A pending marker and
a failed one live for the retry window, and a completed one for the success time
to live.  Times are in nanoseconds.
-/

namespace Matcher.Idempotency

open Foundation

/-! ## Markers -/

inductive Status
  | unknown
  | pending
  | complete
  | failed
deriving DecidableEq, Repr

structure Result where
  status : Status
  response : Bytes
  httpStatus : ℤ
deriving DecidableEq, Repr

inductive Marker
  | pending
  | failed
  | complete (response : Bytes) (httpStatus : ℤ)
deriving DecidableEq, Repr

def Marker.IsComplete : Marker → Prop
  | .complete _ _ => True
  | _ => False

instance : DecidablePred Marker.IsComplete
  | .pending => inferInstanceAs (Decidable False)
  | .failed => inferInstanceAs (Decidable False)
  | .complete _ _ => inferInstanceAs (Decidable True)

/-! ## Durations -/

def second : ℤ := 1000000000

def defaultSuccessTTL : ℤ := 7 * 24 * 60 * 60 * second

def defaultFailedRetryWindow : ℤ := 5 * 60 * second

/-- The client of the provider rounds an expiry before it sends it. -/
structure Repository where
  clientTTL : ℤ → ℤ
  failedRetryWindow : ℤ
  successTTL : ℤ

def newIdempotencyRepository (clientTTL : ℤ → ℤ) : Repository where
  clientTTL := clientTTL
  failedRetryWindow := defaultFailedRetryWindow
  successTTL := defaultSuccessTTL

structure Settings where
  failedRetryWindow : Option ℤ
  successTTL : Option ℤ
deriving DecidableEq, Repr

/-- A positive answer comes first, then a positive configured value. -/
def currentDuration (resolved : Option ℤ) (configured fallback : ℤ) : ℤ :=
  match resolved.filter (0 < ·) with
  | some duration => duration
  | none => if 0 < configured then configured else fallback

namespace Repository

variable (repo : Repository) (settings : Settings) (now : ℤ) (slot : Slot Marker)

def currentFailedRetryWindow : ℤ :=
  currentDuration settings.failedRetryWindow repo.failedRetryWindow defaultFailedRetryWindow

def currentSuccessTTL : ℤ :=
  currentDuration settings.successTTL repo.successTTL defaultSuccessTTL

/-! ## Operations -/

def tryAcquire : Bool × Slot Marker :=
  slot.setNX now (repo.clientTTL (repo.currentFailedRetryWindow settings)) .pending

/-- The script counts the retry window in whole seconds. -/
def retryTTLSeconds : ℤ :=
  let seconds := repo.currentFailedRetryWindow settings / second
  if seconds ≤ 0 then defaultFailedRetryWindow / second else seconds

def tryReacquireFromFailed : Bool × Slot Marker :=
  match slot.get now with
  | some .failed => (true, .set now (repo.retryTTLSeconds settings * second) .pending)
  | _ => (false, slot)

def markComplete (response : Bytes) (httpStatus : ℤ) : Slot Marker :=
  .set now (repo.clientTTL (repo.currentSuccessTTL settings)) (.complete response httpStatus)

def markFailed : Slot Marker :=
  .set now (repo.clientTTL (repo.currentFailedRetryWindow settings)) .failed

end Repository

def getCachedResult (now : ℤ) (slot : Slot Marker) : Result :=
  match slot.get now with
  | none => ⟨.unknown, [], 0⟩
  | some .pending => ⟨.pending, [], 0⟩
  | some .failed => ⟨.failed, [], 0⟩
  | some (.complete response httpStatus) => ⟨.complete, response, httpStatus⟩

/-! ## Operations on a completed marker -/

section

variable {repo : Repository} {settings : Settings} {now deadline : ℤ}
  {slot : Slot Marker}

theorem tryAcquire_of_complete (h : slot.HoldsUntil Marker.IsComplete deadline)
    (hnow : now < deadline) : repo.tryAcquire settings now slot = (false, slot) :=
  h.setNX hnow ..

theorem tryReacquireFromFailed_of_complete (h : slot.HoldsUntil Marker.IsComplete deadline)
    (hnow : now < deadline) : repo.tryReacquireFromFailed settings now slot = (false, slot) := by
  obtain ⟨marker, hmarker, hcomplete⟩ := h.get hnow
  rw [Repository.tryReacquireFromFailed, hmarker]
  cases marker with
  | failed => exact absurd hcomplete id
  | pending | complete => rfl

end

end Matcher.Idempotency
