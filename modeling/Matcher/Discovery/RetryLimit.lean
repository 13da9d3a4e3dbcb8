import Matcher.Discovery.Exclusivity

/-!
# Failures of one worker

An extraction that cannot be bridged is attempted again by the same worker until an
error is terminal or the attempts are used up.  The counter is in the row, so the
attempts of earlier runs of the worker count.
-/

namespace Matcher.Discovery

open Foundation
open Matching (Instant)

structure BridgeRetryBackoff where
  maxAttempts : ℤ
deriving DecidableEq, Repr

def defaultMaxAttempts : ℤ := 5

def BridgeRetryBackoff.normalize (b : BridgeRetryBackoff) : BridgeRetryBackoff :=
  if b.maxAttempts < 1 then { b with maxAttempts := defaultMaxAttempts } else b

/-- The worker polls the extraction, `BridgeExtraction` returns the error, and the
failure is persisted. -/
def failingCall (cause : GoError) (now : Instant) : List (Label Unit) :=
  [.poll (), .load () none, .ingest () (.error cause), .persist () now none]

def failingCalls (failures : ℕ → GoError) (times : ℕ → Instant) (polls : ℕ) : List (Label Unit) :=
  (List.range polls).flatMap fun k => failingCall (failures k) (times k)

def persistPolled (limit : ℤ) (row : Option ExtractionRequest) (cause : GoError) (now : Instant) :
    Option ExtractionRequest :=
  match findEligibleForBridge row with
  | none => row
  | some extraction => persistFailure limit row extraction cause now none

def rowAfter (limit : ℤ) (er : ExtractionRequest) (failures : ℕ → GoError)
    (times : ℕ → Instant) : ℕ → Option ExtractionRequest
  | 0 => some er
  | polls + 1 =>
    persistPolled limit (rowAfter limit er failures times polls) (failures polls) (times polls)

/-! ## One call -/

structure Eligible (er : ExtractionRequest) : Prop where
  status : er.status = .complete
  unlinked : er.ingestionJobID = none
  unfailed : er.bridgeLastError = none

section

variable {er : ExtractionRequest} {limit : ℤ} {cause : GoError} {now : Instant}

theorem findEligibleForBridge_iff : findEligibleForBridge (some er) = some er ↔ Eligible er := by
  simp [findEligibleForBridge, Option.filter_eq_some_iff]
  exact ⟨fun h => ⟨h.1, h.2.1, h.2.2⟩, fun h => ⟨h.status, h.unlinked, h.unfailed⟩⟩

theorem sanitizeBridgeMessage_terminal (rest : String) :
    sanitizeBridgeMessage (trimSpace ("terminal: " ++ rest)) ≠ "" := by
  intro hempty
  have hmem : 't' ∈ (sanitizeBridgeMessage (trimSpace ("terminal: " ++ rest))).toList := by
    rw [sanitizeBridgeMessage, String.toList_ofList]
    exact List.mem_filter.mpr ⟨mem_trimSpace (by simp) (by decide), by decide⟩
  rw [hempty] at hmem
  exact List.not_mem_nil hmem

theorem markFailed_terminal (h : Eligible er) (errorClass : BridgeErrorClass) (rest : String) :
    ∃ failed ∈ markFailed (some er) (er.recordBridgeAttempt now) errorClass
      ("terminal: " ++ rest) now none, failed.bridgeLastError ≠ none := by
  simp [markFailed, ExtractionRequest.markBridgeFailed, ExtractionRequest.recordBridgeAttempt,
    sanitizeBridgeMessage_terminal, h.status, h.unlinked, h.unfailed, stored,
    executeMarkBridgeFailed, updateUnlinked]

theorem persistFailure_eligible (h : Eligible er) (limit : ℤ) (now : Instant)
    (hcause : classifyBridgeError (some cause) ≠ .retryIdempotent) :
    if classifyBridgeError (some cause) = .retryTransient ∧ er.bridgeAttempts + 1 < limit then
      persistFailure limit (some er) er cause now none = some (er.recordBridgeAttempt now)
    else ∃ failed ∈ persistFailure limit (some er) er cause now none,
      failed.bridgeLastError ≠ none := by
  unfold persistFailure
  cases hclass : classifyBridgeError (some cause) with
  | retryIdempotent => contradiction
  | retryTerminal errorClass =>
    rw [if_neg (by simp)]
    exact markFailed_terminal h errorClass _
  | retryTransient =>
    by_cases hlimit : er.bridgeAttempts + 1 < limit
    · rw [if_pos ⟨rfl, hlimit⟩]
      simp [handleTransientFailure, ExtractionRequest.recordBridgeAttempt, not_le.mpr hlimit,
        executeIncrementBridgeAttempts, updateUnlinked, h.unlinked, stored]
    · rw [if_neg fun hboth => hlimit hboth.2]
      have hescalated : limit ≤ (er.recordBridgeAttempt now).bridgeAttempts := not_lt.mp hlimit
      simp only [handleTransientFailure]
      rw [if_pos hescalated, show "terminal: escalated after " =
        "terminal: " ++ "escalated after " from rfl]
      simp only [String.append_assoc]
      exact markFailed_terminal h _ _

theorem foldl_failingCall (row : Option ExtractionRequest) (cause : GoError) (now : Instant) :
    (failingCall cause now).foldl (Bridge.step limit) (.initial row .idle) =
      .initial (persistPolled limit row cause now) .idle := by
  unfold persistPolled
  cases hrow : findEligibleForBridge row with
  | none => simp [failingCall, Bridge.step, hrow, Actors.initial]
  | some =>
    obtain ⟨rfl, heligible⟩ := Option.filter_eq_some_iff.mp hrow
    simp only [decide_eq_true_eq] at heligible
    simp [failingCall, Bridge.step, hrow, Actors.initial, Actors.goto, Actors.put,
      loadEligibleExtraction, heligible, checkIngestionJobID]

end

/-! ## Calls that all fail -/

/-- The attempt leaves another one: its error is not terminal, and attempts are left. -/
def LeavesAnother (limit : ℤ) (er : ExtractionRequest) (failures : ℕ → GoError)
    (attempt : ℕ) : Prop :=
  classifyBridgeError (some (failures attempt)) = .retryTransient ∧
    er.bridgeAttempts + attempt + 1 < limit

section

variable {limit : ℤ} {er : ExtractionRequest} {failures : ℕ → GoError} {times : ℕ → Instant}

theorem run_failingCalls (polls : ℕ) :
    Bridge.run limit (some er) (failingCalls failures times polls) =
      .initial (rowAfter limit er failures times polls) .idle := by
  induction polls with
  | zero => rfl
  | succ _ ih =>
    unfold Bridge.run failingCalls at ih ⊢
    rw [List.range_succ, List.flatMap_append, List.flatMap_singleton, List.foldl_append, ih,
      foldl_failingCall]
    rfl

theorem rowAfter_cases (h : Eligible er)
    (hfailures : ∀ k, classifyBridgeError (some (failures k)) ≠ .retryIdempotent) (polls : ℕ) :
    (∀ k < polls, LeavesAnother limit er failures k) ∧
        (∃ current ∈ rowAfter limit er failures times polls, Eligible current ∧
          current.bridgeAttempts = er.bridgeAttempts + polls) ∨
      (¬ ∀ k < polls, LeavesAnother limit er failures k) ∧
        ∃ failed ∈ rowAfter limit er failures times polls, failed.bridgeLastError ≠ none := by
  induction polls with
  | zero => exact .inl ⟨by simp, er, rfl, h, by simp⟩
  | succ polls ih =>
    rw [rowAfter, persistPolled]
    rcases ih with ⟨hbefore, current, hrow, hcurrent, hattempts⟩ | ⟨hended, failed, hrow, hfailed⟩
    · rw [hrow, findEligibleForBridge_iff.mpr hcurrent]
      have hpersist := persistFailure_eligible hcurrent limit (times polls) (hfailures polls)
      rw [hattempts] at hpersist
      split at hpersist
      next hleaves =>
        refine .inl ⟨?_, current.recordBridgeAttempt (times polls), hpersist,
          ⟨hcurrent.status, hcurrent.unlinked, hcurrent.unfailed⟩, ?_⟩
        · intro k hk
          rcases Nat.lt_succ_iff_lt_or_eq.mp hk with hlt | rfl
          · exact hbefore k hlt
          · exact hleaves
        · rw [ExtractionRequest.recordBridgeAttempt, hattempts]
          push_cast
          ring
      next hlast => exact .inr ⟨fun hall => hlast (hall polls (Nat.lt_succ_self polls)), hpersist⟩
    · have hgone : findEligibleForBridge (some failed) = none := by
        simp [findEligibleForBridge, hfailed]
      rw [hrow, hgone]
      exact .inr ⟨fun hall => hended fun k hk => hall k (Nat.lt_succ_of_lt hk), failed, rfl,
        hfailed⟩

theorem isSome_findEligibleForBridge (h : Eligible er)
    (hfailures : ∀ k, classifyBridgeError (some (failures k)) ≠ .retryIdempotent) (polls : ℕ) :
    (findEligibleForBridge (rowAfter limit er failures times polls)).isSome ↔
      ∀ k < polls, LeavesAnother limit er failures k := by
  rcases rowAfter_cases h hfailures polls with
    ⟨hleaves, current, hrow, hcurrent, -⟩ | ⟨hended, failed, hrow, hfailed⟩
  · rw [hrow, findEligibleForBridge_iff.mpr hcurrent]
    exact iff_of_true rfl hleaves
  · rw [hrow]
    exact iff_of_false (by simp [findEligibleForBridge, hfailed]) hended

end

/-- The extraction is attempted as long as no attempt was the last one, that with the
first terminal error or the one that uses up the attempts of the configuration.  From
then on it has failed and is not attempted. -/
theorem attempted_iff (retry : BridgeRetryBackoff) (er : ExtractionRequest)
    (h : Eligible er) (hattempts : 0 ≤ er.bridgeAttempts) (failures : ℕ → GoError)
    (hfailures : ∀ k, classifyBridgeError (some (failures k)) ≠ .retryIdempotent)
    (times : ℕ → Instant) :
    let limit := retry.normalize.maxAttempts
    let row := fun polls => (Bridge.run limit (some er) (failingCalls failures times polls)).store
    let attempted := fun polls => (findEligibleForBridge (row polls)).isSome
    (∀ polls, attempted polls ↔ ∀ k < polls, LeavesAnother limit er failures k) ∧
      (∀ polls, ¬ attempted polls → (∃ failed ∈ row polls, failed.bridgeLastError ≠ none) ∧
        ∀ later ≥ polls, ¬ attempted later) ∧
      ¬ attempted limit.toNat := by
  intro limit row attempted
  have hrow : ∀ polls, row polls = rowAfter limit er failures times polls :=
    fun polls => congrArg Actors.store (run_failingCalls polls)
  have hattempted : ∀ polls, attempted polls ↔ ∀ k < polls, LeavesAnother limit er failures k := by
    intro polls
    change (findEligibleForBridge (row polls)).isSome ↔ _
    rw [hrow]
    exact isSome_findEligibleForBridge h hfailures polls
  refine ⟨hattempted, ?_, ?_⟩
  · intro polls hended
    rw [hattempted] at hended
    constructor
    · rw [hrow]
      exact ((rowAfter_cases h hfailures polls).resolve_left fun hleaves => hended hleaves.1).2
    · intro later hlater hagain
      exact hended fun k hk => (hattempted later).mp hagain k (hk.trans_le hlater)
  · rw [hattempted]
    have hpositive : 1 ≤ limit := by
      simp only [limit, BridgeRetryBackoff.normalize]
      split
      next => decide
      next h => exact not_lt.mp h
    intro hall
    have hlast := (hall (limit.toNat - 1) (by omega)).2
    omega

def timedOut : GoError := .sentinel ⟨"ErrTimeout", "timeout"⟩

/-- The third timeout is the last one of three attempts. -/
theorem three_timeouts_end :
    let row := fun polls => (Bridge.run 3 (some Bridge.completedExtraction)
      (failingCalls (fun _ => timedOut) (fun k => k) polls)).store
    (row 3).map (fun er => (er.bridgeAttempts, er.bridgeLastError)) =
        some (3, some .maxAttemptsExceeded) ∧
      ∀ later ≥ 3, ¬ (findEligibleForBridge (row later)).isSome :=
  ⟨by decide +kernel, ((attempted_iff ⟨3⟩ Bridge.completedExtraction ⟨rfl, rfl, rfl⟩
    (by decide) (fun _ => timedOut) (fun _ => by decide) _).2.1 3 (by decide +kernel)).2⟩

end Matcher.Discovery
