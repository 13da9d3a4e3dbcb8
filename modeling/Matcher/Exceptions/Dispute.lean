import Matcher.Exceptions.Exception
import Matcher.Foundation.Transition

/-!
# Disputes

A dispute is a state machine with a table of allowed transitions.  Its methods
check the table, and each sets the fields that go with its own transition.  Two
methods lead from `LOST` back to `OPEN`, and only one of them clears the
resolution and records why.
-/

namespace Matcher.Exceptions

open Foundation
open Matching (Instant)

inductive DisputeState
  | draft
  | «open»
  | pendingEvidence
  | won
  | lost
deriving DecidableEq, Repr

variable {source target : DisputeState} {now : Instant} {fileURL : Option String}
  {submittedBy resolution comment reason : String} {evidenceID : UUID}

inductive DisputeCategory
  | bankFeeError
  | unrecognizedCharge
  | duplicateTransaction
  | amountMismatch
  | other
  | unknown (value : String)
deriving DecidableEq, Repr

def DisputeCategory.isValid : DisputeCategory → Bool
  | .unknown _ => false
  | _ => true

structure Evidence where
  id : UUID
  disputeID : UUID
  fileURL : Option String
  comment : String
  submittedBy : String
  submittedAt : Instant
deriving DecidableEq, Repr

structure Dispute where
  id : UUID
  exceptionID : UUID
  category : DisputeCategory
  state : DisputeState
  description : String
  openedBy : String
  resolution : Option String
  reopenReason : Option String
  evidence : List Evidence
  createdAt : Instant
  updatedAt : Instant
deriving DecidableEq, Repr

def errDisputeExceptionIDRequired : GoError :=
  .sentinel ⟨"ErrDisputeExceptionIDRequired", "dispute exception id is required"⟩

def errInvalidDisputeCategory : GoError :=
  .sentinel ⟨"ErrInvalidDisputeCategory", "invalid dispute category"⟩

def errDisputeDescriptionRequired : GoError :=
  .sentinel ⟨"ErrDisputeDescriptionRequired", "dispute description is required"⟩

def errDisputeOpenedByRequired : GoError :=
  .sentinel ⟨"ErrDisputeOpenedByRequired", "dispute opened by is required"⟩

def errDisputeResolutionRequired : GoError :=
  .sentinel ⟨"ErrDisputeResolutionRequired", "dispute resolution is required"⟩

def errDisputeReopenReasonRequired : GoError :=
  .sentinel ⟨"ErrDisputeReopenReasonRequired", "dispute reopen reason is required"⟩

def errCannotAddEvidenceInCurrentState : GoError :=
  .sentinel ⟨"ErrCannotAddEvidenceInCurrentState", "cannot add evidence in current state"⟩

def errInvalidDisputeTransition : GoError :=
  .sentinel ⟨"ErrInvalidDisputeTransition", "invalid dispute transition"⟩

def errEvidenceDisputeIDRequired : GoError :=
  .sentinel ⟨"ErrEvidenceDisputeIDRequired", "evidence dispute id is required"⟩

def errEvidenceCommentRequired : GoError :=
  .sentinel ⟨"ErrEvidenceCommentRequired", "evidence comment is required"⟩

def errEvidenceSubmitterRequired : GoError :=
  .sentinel ⟨"ErrEvidenceSubmitterRequired", "evidence submitter is required"⟩

def errEvidenceInvalidFileURL : GoError :=
  .sentinel ⟨"ErrEvidenceInvalidFileURL", "evidence file URL is invalid"⟩

/-! ## Evidence -/

structure ParsedURL where
  scheme : String
  host : String
deriving DecidableEq, Repr

section Evidence

variable (parseURL : String → Option ParsedURL)

def validateFileURL (fileURL : Option String) : Except GoError (Option String) :=
  match normalizeOptionalText fileURL with
  | none => .ok none
  | some normalized =>
    match parseURL normalized with
    | none => .error errEvidenceInvalidFileURL
    | some parsed =>
      if parsed.scheme ≠ "https" then .error errEvidenceInvalidFileURL
      else if parsed.host = "" then .error errEvidenceInvalidFileURL
      else .ok (some normalized)

def newEvidence (disputeID : UUID) (comment submittedBy : String) (fileURL : Option String)
    (evidenceID : UUID) (now : Instant) : Except GoError Evidence :=
  if disputeID = UUID.zero then .error errEvidenceDisputeIDRequired
  else if trimSpace comment = "" then .error errEvidenceCommentRequired
  else if trimSpace submittedBy = "" then .error errEvidenceSubmitterRequired
  else do
    let validatedURL ← validateFileURL parseURL fileURL
    return ⟨evidenceID, disputeID, validatedURL, trimSpace comment, trimSpace submittedBy, now⟩

end Evidence

/-! ## The aggregate -/

def allowedDisputeTransitions : DisputeState → List DisputeState
  | .draft => [.open]
  | .open => [.pendingEvidence, .won, .lost]
  | .pendingEvidence => [.open, .won, .lost]
  | .won => []
  | .lost => [.open]

def validateDisputeTransition (source target : DisputeState) : Except GoError Unit :=
  if target ∈ allowedDisputeTransitions source then .ok ()
  else .error errInvalidDisputeTransition

def newDispute (exceptionID : UUID) (category : DisputeCategory) (description openedBy : String)
    (disputeID : UUID) (now : Instant) : Except GoError Dispute :=
  if exceptionID = UUID.zero then .error errDisputeExceptionIDRequired
  else if category.isValid = false then .error errInvalidDisputeCategory
  else if trimSpace description = "" then .error errDisputeDescriptionRequired
  else if trimSpace openedBy = "" then .error errDisputeOpenedByRequired
  else
    .ok {
      id := disputeID
      exceptionID := exceptionID
      category := category
      state := .draft
      description := trimSpace description
      openedBy := trimSpace openedBy
      resolution := none
      reopenReason := none
      evidence := []
      createdAt := now
      updatedAt := now }

namespace Dispute

variable (dispute : Dispute)

def enter (target : DisputeState) (now : Instant) : Except GoError Dispute := do
  validateDisputeTransition dispute.state target
  return { dispute with state := target, updatedAt := now }

def «open» (now : Instant) : Except GoError Dispute :=
  dispute.enter .open now

def requestEvidence (now : Instant) : Except GoError Dispute :=
  dispute.enter .pendingEvidence now

def addEvidence (parseURL : String → Option ParsedURL) (dispute : Dispute)
    (comment submittedBy : String) (fileURL : Option String) (evidenceID : UUID) (now : Instant) :
    Except GoError Dispute :=
  if dispute.state ≠ .open ∧ dispute.state ≠ .pendingEvidence then
    .error errCannotAddEvidenceInCurrentState
  else do
    let evidence ← newEvidence parseURL dispute.id comment submittedBy fileURL evidenceID now
    return { dispute with
      evidence := dispute.evidence ++ [evidence]
      state :=
        if dispute.state = .pendingEvidence then .open else dispute.state
      updatedAt := now }

def conclude (target : DisputeState) (resolution : String) (now : Instant) :
    Except GoError Dispute :=
  if trimSpace resolution = "" then .error errDisputeResolutionRequired
  else do
    validateDisputeTransition dispute.state target
    return { dispute with
      state := target
      resolution := some (trimSpace resolution)
      updatedAt := now }

def win (resolution : String) (now : Instant) : Except GoError Dispute :=
  dispute.conclude .won resolution now

def lose (resolution : String) (now : Instant) : Except GoError Dispute :=
  dispute.conclude .lost resolution now

def reopen (reason : String) (now : Instant) : Except GoError Dispute :=
  if trimSpace reason = "" then .error errDisputeReopenReasonRequired
  else do
    validateDisputeTransition dispute.state .open
    return { dispute with
      state := .open
      resolution := none
      reopenReason := some (trimSpace reason)
      updatedAt := now }

end Dispute

inductive DisputeCall
  | «open»
  | requestEvidence
  | addEvidence (comment submittedBy : String) (fileURL : Option String) (evidenceID : UUID)
  | win (resolution : String)
  | lose (resolution : String)
  | reopen (reason : String)
deriving DecidableEq, Repr

structure DisputeRequest where
  call : DisputeCall
  now : Instant

section Calls

variable (parseURL : String → Option ParsedURL)

def Dispute.call (dispute : Dispute) (request : DisputeRequest) : Except GoError Dispute :=
  match request.call with
  | .open => dispute.open request.now
  | .requestEvidence => dispute.requestEvidence request.now
  | .addEvidence comment submittedBy fileURL evidenceID =>
    dispute.addEvidence parseURL comment submittedBy fileURL evidenceID request.now
  | .win resolution => dispute.win resolution request.now
  | .lose resolution => dispute.lose resolution request.now
  | .reopen reason => dispute.reopen reason request.now

def Dispute.apply (dispute : Dispute) (request : DisputeRequest) : Dispute :=
  match dispute.call parseURL request with
  | .ok changed => changed
  | .error _ => dispute

end Calls

/-! ## What a successful call does -/

theorem validateDisputeTransition_eq_ok :
    validateDisputeTransition source target = .ok () ↔
      target ∈ allowedDisputeTransitions source := by
  unfold validateDisputeTransition
  split
  next hallowed => simp [hallowed]
  next hrefused => simp [hrefused]

theorem ne_won_of_allowed (h : target ∈ allowedDisputeTransitions source) : source ≠ .won := by
  rintro rfl
  cases h

theorem ne_lost_of_allowed (h : target ∈ allowedDisputeTransitions source)
    (htarget : target ≠ .open) : source ≠ .lost := by
  rintro rfl
  exact htarget (List.mem_singleton.mp h)

namespace Dispute

variable {dispute changed : Dispute} {target : DisputeState} {now : Instant}

theorem enter_eq_ok (h : dispute.enter target now = .ok changed) :
    target ∈ allowedDisputeTransitions dispute.state ∧
      changed = { dispute with state := target, updatedAt := now } := by
  obtain ⟨hvalid, h⟩ := check_eq_ok.mp h
  cases h
  exact ⟨validateDisputeTransition_eq_ok.mp hvalid, rfl⟩

theorem conclude_eq_ok (h : dispute.conclude target resolution now = .ok changed) :
    target ∈ allowedDisputeTransitions dispute.state ∧
      changed = { dispute with
        state := target
        resolution := some (trimSpace resolution)
        updatedAt := now } := by
  obtain ⟨-, h⟩ := guard_eq_ok.mp h
  obtain ⟨hvalid, h⟩ := check_eq_ok.mp h
  cases h
  exact ⟨validateDisputeTransition_eq_ok.mp hvalid, rfl⟩

theorem reopen_eq_ok (h : dispute.reopen reason now = .ok changed) :
    trimSpace reason ≠ "" ∧
      .open ∈ allowedDisputeTransitions dispute.state ∧
      changed = { dispute with
        state := .open
        resolution := none
        reopenReason := some (trimSpace reason)
        updatedAt := now } := by
  obtain ⟨hreason, h⟩ := guard_eq_ok.mp h
  obtain ⟨hvalid, h⟩ := check_eq_ok.mp h
  cases h
  exact ⟨hreason, validateDisputeTransition_eq_ok.mp hvalid, rfl⟩

theorem addEvidence_eq_ok {parseURL : String → Option ParsedURL}
    (h : dispute.addEvidence parseURL comment submittedBy fileURL evidenceID now = .ok changed) :
    (dispute.state = .open ∨ dispute.state = .pendingEvidence) ∧
      ∃ evidence, newEvidence parseURL dispute.id comment submittedBy fileURL
          evidenceID now = .ok evidence ∧
        changed = { dispute with
          evidence := dispute.evidence ++ [evidence]
          state := .open
          updatedAt := now } := by
  obtain ⟨hstate, h⟩ := guard_eq_ok.mp h
  obtain ⟨evidence, hevidence, h⟩ := bind_eq_ok.mp h
  cases h
  have hstates : dispute.state = .open ∨ dispute.state = .pendingEvidence := by
    by_contra hnone
    exact hstate (not_or.mp hnone)
  refine ⟨hstates, evidence, hevidence, ?_⟩
  rcases hstates with hopen | hpending
  · simp [hopen]
  · simp [hpending]

end Dispute

/-! ## Sequences of calls -/

def Dispute.ResolutionFits (dispute : Dispute) : Prop :=
  dispute.resolution.isSome = true ↔ dispute.state = .won ∨ dispute.state = .lost

structure CallSafe (before : Dispute) (call : DisputeCall) (after : Dispute) : Prop where
  resolution : after.ResolutionFits
  lost : before.state = .lost → after.state ≠ .lost →
    ∃ reason, call = .reopen reason ∧ trimSpace reason ≠ "" ∧
      after.reopenReason = some (trimSpace reason)
  won : before.state = .won → after.state = .won
  evidence : before.evidence <+: after.evidence

def NotOpenedFromLost (dispute : Dispute) (request : DisputeRequest) : Prop :=
  request.call = .open → dispute.state ≠ .lost

instance (dispute : Dispute) (request : DisputeRequest) :
    Decidable (NotOpenedFromLost dispute request) :=
  inferInstanceAs (Decidable (_ → _))

section Safety

variable {dispute changed : Dispute} {request : DisputeRequest}
  {parseURL : String → Option ParsedURL}

theorem CallSafe.refl (h : dispute.ResolutionFits) (call : DisputeCall) :
    CallSafe dispute call dispute :=
  ⟨h, fun hlost hleft => absurd hlost hleft, fun hwon => hwon, List.prefix_refl _⟩

theorem Dispute.ResolutionFits.eq_none (h : dispute.ResolutionFits) (hwon : dispute.state ≠ .won)
    (hlost : dispute.state ≠ .lost) : dispute.resolution = none := by
  cases hresolution : dispute.resolution with
  | none => rfl
  | some =>
    have hterminal := h.mp (by rw [hresolution]; rfl)
    exact absurd hterminal (not_or.mpr ⟨hwon, hlost⟩)

theorem Dispute.ResolutionFits.of_none (hnone : dispute.resolution = none)
    (hwon : dispute.state ≠ .won) (hlost : dispute.state ≠ .lost) : dispute.ResolutionFits := by
  unfold Dispute.ResolutionFits
  rw [hnone]
  exact iff_of_false (by decide) (not_or.mpr ⟨hwon, hlost⟩)

theorem enter_callSafe (h : dispute.ResolutionFits)
    (htarget : target = .open ∨ target = .pendingEvidence) (hlost : dispute.state ≠ .lost)
    (call : DisputeCall) (hcall : dispute.enter target now = .ok changed) :
    CallSafe dispute call changed := by
  obtain ⟨hallowed, rfl⟩ := Dispute.enter_eq_ok hcall
  have hwon := ne_won_of_allowed hallowed
  refine ⟨?_, fun hstate => absurd hstate hlost,
    fun hstate => absurd hstate hwon, List.prefix_refl _⟩
  rcases htarget with rfl | rfl <;> exact .of_none (h.eq_none hwon hlost) (by simp) (by simp)

theorem addEvidence_callSafe (h : dispute.ResolutionFits) (call : DisputeCall)
    (hcall : dispute.addEvidence parseURL comment submittedBy fileURL evidenceID now =
      .ok changed) :
    CallSafe dispute call changed := by
  obtain ⟨hstate, evidence, -, rfl⟩ := Dispute.addEvidence_eq_ok hcall
  have hwon : dispute.state ≠ .won := by
    rcases hstate with hstate | hstate <;> simp [hstate]
  have hlost : dispute.state ≠ .lost := by
    rcases hstate with hstate | hstate <;> simp [hstate]
  refine ⟨?_, fun hstate => absurd hstate hlost,
    fun hstate => absurd hstate hwon, List.prefix_append _ _⟩
  exact .of_none (h.eq_none hwon hlost) (by simp) (by simp)

theorem conclude_callSafe (htarget : target = .won ∨ target = .lost)
    (call : DisputeCall) (hcall : dispute.conclude target resolution now = .ok changed) :
    CallSafe dispute call changed := by
  obtain ⟨hallowed, rfl⟩ := Dispute.conclude_eq_ok hcall
  have hwon := ne_won_of_allowed hallowed
  have hlost : dispute.state ≠ .lost := by
    apply ne_lost_of_allowed hallowed
    rintro rfl
    rcases htarget with hterminal | hterminal <;> cases hterminal
  exact ⟨iff_of_true rfl htarget, fun hstate => absurd hstate hlost,
    fun hstate => absurd hstate hwon, List.prefix_refl _⟩

theorem reopen_callSafe (hcall : dispute.reopen reason now = .ok changed) :
    CallSafe dispute (.reopen reason) changed := by
  obtain ⟨hreason, hallowed, rfl⟩ := Dispute.reopen_eq_ok hcall
  exact ⟨.of_none rfl (by simp) (by simp), fun _ _ => ⟨reason, rfl, hreason, rfl⟩,
    fun hstate => absurd hstate (ne_won_of_allowed hallowed),
    List.prefix_refl _⟩

theorem call_callSafe (h : dispute.ResolutionFits) (hcondition : NotOpenedFromLost dispute request)
    (hcall : dispute.call parseURL request = .ok changed) :
    CallSafe dispute request.call changed := by
  cases request with
  | mk call now =>
    cases call with
    | «open» =>
      change dispute.enter .open now = .ok changed at hcall
      exact enter_callSafe h (Or.inl rfl) (hcondition rfl) _ hcall
    | requestEvidence =>
      change dispute.enter .pendingEvidence now = .ok changed at hcall
      refine enter_callSafe h (Or.inr rfl) ?_ _ hcall
      exact ne_lost_of_allowed (Dispute.enter_eq_ok hcall).1 (by decide)
    | addEvidence => exact addEvidence_callSafe h _ hcall
    | win resolution =>
      change dispute.conclude .won resolution now = .ok changed at hcall
      exact conclude_callSafe (Or.inl rfl) _ hcall
    | lose resolution =>
      change dispute.conclude .lost resolution now = .ok changed at hcall
      exact conclude_callSafe (Or.inr rfl) _ hcall
    | reopen => exact reopen_callSafe hcall

theorem apply_callSafe (h : dispute.ResolutionFits)
    (hcondition : NotOpenedFromLost dispute request) :
    CallSafe dispute request.call (dispute.apply parseURL request) := by
  unfold Dispute.apply
  split
  next changed hcall => exact call_callSafe h hcondition hcall
  next => exact CallSafe.refl h request.call

theorem not_callSafe_of_opened (h : dispute.ResolutionFits)
    (hcall : request.call = .open) (hlost : dispute.state = .lost) :
    ¬ CallSafe dispute request.call (dispute.apply parseURL request) := by
  intro hsafe
  have hopened : dispute.apply parseURL request =
      { dispute with state := .open, updatedAt := request.now } := by
    simp only [Dispute.apply, Dispute.call, hcall, Dispute.open, Dispute.enter,
      validateDisputeTransition, hlost, allowedDisputeTransitions]
    rfl
  have hfits := hsafe.resolution
  rw [hopened] at hfits
  have hopen := hfits.mp (h.mpr (Or.inr hlost))
  rcases hopen with hterminal | hterminal <;> cases hterminal

end Safety

theorem newDispute_resolutionFits {exceptionID disputeID : UUID} {category : DisputeCategory}
    {description openedBy : String} {dispute : Dispute}
    (h : newDispute exceptionID category description openedBy disputeID now = .ok dispute) :
    dispute.ResolutionFits := by
  simp only [newDispute, guard_eq_ok] at h
  obtain ⟨-, -, -, -, h⟩ := h
  cases h
  exact .of_none rfl (by simp) (by simp)

/--
On a new dispute every call is safe exactly if no call opens the dispute while it
is lost.
-/
theorem dispute_calls_safe_iff (parseURL : String → Option ParsedURL) {exceptionID disputeID : UUID}
    {category : DisputeCategory} {description openedBy : String} {now : Instant} {dispute : Dispute}
    (h : newDispute exceptionID category description openedBy disputeID now = .ok dispute)
    (requests : List DisputeRequest) :
    (∀ reached request, reached ++ [request] <+: requests →
        CallSafe (reached.foldl (Dispute.apply parseURL) dispute) request.call
          ((reached.foldl (Dispute.apply parseURL) dispute).apply parseURL request)) ↔
      Meets (Dispute.apply parseURL) NotOpenedFromLost dispute requests := by
  have hfirst := newDispute_resolutionFits h
  have hcalls : Meets (Dispute.apply parseURL) (fun dispute request =>
      CallSafe dispute request.call (dispute.apply parseURL request))
      dispute requests ↔ _ := Meets.iff_forall
  rw [← hcalls]
  constructor
  · intro hsafe
    refine hsafe.imp Dispute.ResolutionFits hfirst ?_
    intro dispute request hfits hcall
    refine ⟨?_, hcall.resolution⟩
    intro hopen hlost
    exact not_callSafe_of_opened hfits hopen hlost hcall
  · intro hmeets
    refine hmeets.imp Dispute.ResolutionFits hfirst ?_
    intro dispute request hfits hcondition
    have hcall : CallSafe dispute request.call
        (dispute.apply parseURL request) := apply_callSafe hfits hcondition
    exact ⟨hcall, hcall.resolution⟩

def feeDispute : Dispute where
  id := ⟨30⟩
  exceptionID := ⟨7⟩
  category := .bankFeeError
  state := .draft
  description := "wrong fee"
  openedBy := "analyst"
  resolution := none
  reopenReason := none
  evidence := []
  createdAt := 0
  updatedAt := 0

def lostAnd (last : DisputeCall) : List DisputeRequest := [⟨.open, 1⟩,
  ⟨.addEvidence "statement" "analyst" none ⟨31⟩, 2⟩,
  ⟨.lose "no proof", 3⟩,
  ⟨last, 4⟩]

theorem dispute_calls_safe_iff_reopened :
    newDispute ⟨7⟩ .bankFeeError " wrong fee" "analyst" ⟨30⟩ 0 = .ok feeDispute ∧
      ∀ reached request,
        reached ++ [request] <+: lostAnd (.reopen "new proof") →
          CallSafe
            (reached.foldl (Dispute.apply fun _ => none) feeDispute)
            request.call
            ((reached.foldl (Dispute.apply fun _ => none) feeDispute).apply
              (fun _ => none) request) := by
  have hnew : newDispute ⟨7⟩ .bankFeeError " wrong fee" "analyst" ⟨30⟩ 0 =
      .ok feeDispute := by decide +kernel
  refine ⟨hnew, (dispute_calls_safe_iff (fun _ => none) hnew _).mpr ?_⟩
  decide +kernel

/-- The dispute is open again, with its resolution and without a reason. -/
theorem opened_from_lost :
    newDispute ⟨7⟩ .bankFeeError " wrong fee" "analyst" ⟨30⟩ 0 = .ok feeDispute ∧
      ((lostAnd .open).foldl (Dispute.apply fun _ => none) feeDispute).state = .open ∧
      ((lostAnd .open).foldl (Dispute.apply fun _ => none)
        feeDispute).resolution = some "no proof" ∧
      ((lostAnd .open).foldl (Dispute.apply fun _ => none) feeDispute).reopenReason = none := by
  decide +kernel

end Matcher.Exceptions
