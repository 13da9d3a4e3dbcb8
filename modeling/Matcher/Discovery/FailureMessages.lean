import Matcher.Discovery.Exclusivity

/-!
# Messages of repeated failures

The first failure of an extraction is kept: a later one of its class only adds its
message, as far as there is room.  Both cuts count bytes, so they can fall inside a
character.
-/

namespace Matcher.Discovery

open Foundation
open Matching (Instant)

structure FailureCall where
  errorClass : String
  message : String
  now : Instant
deriving DecidableEq, Repr

def BridgeErrorClass.valid? (errorClass : String) : Option BridgeErrorClass :=
  [.integrityFailed, .artifactNotFound, .sourceUnresolved, .maxAttemptsExceeded].find?
    fun known => known.text = errorClass

def FailureCall.apply (call : FailureCall) (er : ExtractionRequest) :
    Except GoError ExtractionRequest :=
  match BridgeErrorClass.valid? call.errorClass with
  | none => .error (.wrap "%w: %q" [call.errorClass] errBridgeFailureClassRequired)
  | some errorClass => er.markBridgeFailed errorClass call.message call.now

/-- The extraction, and how its first recorded failure has left it. -/
structure Recording where
  er : ExtractionRequest
  first : Option ExtractionRequest

def Recording.step (state : Recording) (call : FailureCall) : Recording :=
  match call.apply state.er with
  | .error _ => state
  | .ok er => ⟨er, some (state.first.getD er)⟩

/-! ## What is recorded -/

def Printable (bytes : Bytes) : Prop :=
  ∀ byte ∈ bytes, byte = 0x09 ∨ (0x20 ≤ byte ∧ byte ≠ 0x7F)

/-- Printable entries behind separators, of which the last may be clipped. -/
inductive Joined : Bytes → Prop
  | entry {entry : Bytes} : Printable entry → Joined entry
  | append {message entry : Bytes} : Joined message → Printable entry →
      Joined (message ++ bridgeMessageSeparator ++ entry)
  | clip {message : Bytes} (count : ℕ) : Joined message →
      Joined (message.take count ++ bridgeMessageTruncationSuffix)

structure Agrees (first er : ExtractionRequest) : Prop where
  errorClass : er.bridgeLastError = first.bridgeLastError
  failedAt : er.bridgeFailedAt = first.bridgeFailedAt
  isPrefix : first.bridgeLastErrorMessage <+: er.bridgeLastErrorMessage
  joined : Joined er.bridgeLastErrorMessage
  length : er.bridgeLastErrorMessage.length ≤ maxBridgeFailureMessageLength
  valid : ValidUtf8 er.bridgeLastErrorMessage

/-- A character starts where the bytes are cut. -/
def WholeAt (count : ℕ) (bytes : Bytes) : Prop :=
  ∀ byte ∈ bytes[count]?, byte.IsUTF8FirstByte

/-- What a clipped message can keep in front of the suffix. -/
def budget : ℕ := maxBridgeFailureMessageLength - bridgeMessageTruncationSuffix.length

/-- Nothing is clipped of what fits, nor is anything added when no room is left. -/
def ClipsWhole (existing entry : Bytes) : Prop :=
  let candidate := existing ++ bridgeMessageSeparator ++ entry
  existing.length < budget → maxBridgeFailureMessageLength < candidate.length →
    WholeAt budget candidate

def FailureCall.entry (call : FailureCall) : Bytes :=
  utf8 (sanitizeBridgeMessage (trimSpace call.message))

/-- Neither the message of the call nor the messages it is added to are cut inside a
character. -/
def CutsWhole (state : Recording) (call : FailureCall) : Prop :=
  ∀ errorClass ∈ BridgeErrorClass.valid? call.errorClass,
    (state.er.bridgeLastError = none → WholeAt maxBridgeFailureMessageLength call.entry) ∧
      (state.er.bridgeLastError = some errorClass →
        ¬ call.entry.take maxBridgeFailureMessageLength <:+: state.er.bridgeLastErrorMessage →
        ClipsWhole state.er.bridgeLastErrorMessage call.entry)

instance (count : ℕ) (bytes : Bytes) : Decidable (WholeAt count bytes) :=
  inferInstanceAs (Decidable (∀ _ ∈ _, _))

instance (existing entry : Bytes) : Decidable (ClipsWhole existing entry) :=
  inferInstanceAs (Decidable (_ → _ → WholeAt _ _))

instance (state : Recording) (call : FailureCall) : Decidable (CutsWhole state call) :=
  inferInstanceAs (Decidable (∀ _ ∈ _, (_ → WholeAt _ _) ∧ (_ → _ → ClipsWhole _ _)))

/-! ## One call -/

variable {state : Recording} {call : FailureCall} {er next : ExtractionRequest}

theorem printable_sanitizeBridgeMessage (message : String) :
    Printable (utf8 (sanitizeBridgeMessage message)) := by
  intro byte hbyte
  simp only [utf8, sanitizeBridgeMessage, String.toList_ofList, List.mem_flatMap,
    List.mem_filter] at hbyte
  obtain ⟨character, ⟨-, hcharacter⟩, hmem⟩ := hbyte
  have hvalue := (toNat_of_mem_utf8EncodeChar hmem).2
  simp only [isBridgeControlByte, Bool.not_eq_true', Bool.and_eq_false_iff, Bool.or_eq_false_iff,
    decide_eq_false_iff_not, ne_eq, not_not] at hcharacter
  rw [UInt8.le_iff_toNat_le, ← UInt8.toNat_inj, ne_eq, ← UInt8.toNat_inj]
  rcases hcharacter with rfl | hcharacter
  · simp at hvalue ⊢
    omega
  · simp
    omega

theorem validUtf8_clip_iff (text : String) (count : ℕ) (h : count ≤ (utf8 text).length) :
    ValidUtf8 ((utf8 text).take count ++ bridgeMessageTruncationSuffix) ↔
      WholeAt count (utf8 text) := by
  rw [WholeAt, ← validUtf8_take_iff]
  constructor
  · rintro ⟨clipped, hclipped⟩
    have hlength : ((utf8 text).take count).length = count := List.length_take_of_le h
    have htake := (validUtf8_take_iff clipped count).mpr ?_
    · rwa [hclipped, List.take_left' hlength] at htake
    · rw [hclipped, List.getElem?_append_right hlength.le, hlength, Nat.sub_self]
      decide +kernel
  · exact fun hvalid => hvalid.append ⟨"...", rfl⟩

/-- Whether the message is cut before it is added makes no difference. -/
theorem appendBridgeFailureMessage_take (existing entry : Bytes) :
    appendBridgeFailureMessage existing (entry.take maxBridgeFailureMessageLength) =
      appendBridgeFailureMessage existing entry := by
  by_cases hentry : entry.length ≤ maxBridgeFailureMessageLength
  · rw [List.take_of_length_le hentry]
  · rw [not_le] at hentry
    have htake : (entry.take maxBridgeFailureMessageLength).length =
        maxBridgeFailureMessageLength := List.length_take_of_le hentry.le
    have hseparator : 0 < bridgeMessageSeparator.length := by decide
    have hclipped (budget : ℕ) (hbudget : budget ≤ maxBridgeFailureMessageLength) :
        (existing ++ bridgeMessageSeparator ++
            entry.take maxBridgeFailureMessageLength).take budget =
          (existing ++ bridgeMessageSeparator ++ entry).take budget := by
      simp only [List.take_append, List.take_take]
      rw [min_eq_left (by omega)]
    simp only [appendBridgeFailureMessage, List.length_append, htake]
    rw [hclipped _ (Nat.sub_le _ _), if_neg (by omega)]
    exact (if_neg (by omega)).symm

theorem appendBridgeFailureMessage_spec {existing : Bytes} {text : String}
    (hvalid : ValidUtf8 existing) (hlength : existing.length ≤ maxBridgeFailureMessageLength)
    (hjoined : Joined existing) (htext : Printable (utf8 text)) {next : Bytes}
    (hnext : appendBridgeFailureMessage existing (utf8 text) = next) :
    existing <+: next ∧ Joined next ∧ next.length ≤ maxBridgeFailureMessageLength ∧
      (ValidUtf8 next ↔ ClipsWhole existing (utf8 text)) := by
  set candidate := existing ++ bridgeMessageSeparator ++ utf8 text
  obtain ⟨whole, hwhole⟩ : ValidUtf8 candidate := (hvalid.append ⟨_, rfl⟩).append ⟨_, rfl⟩
  have hjoin : Joined candidate := .append hjoined htext
  have hextends : existing <+: candidate := ⟨_, (List.append_assoc _ _ _).symm⟩
  change (if candidate.length ≤ maxBridgeFailureMessageLength then candidate
    else if budget ≤ existing.length then existing
    else candidate.take budget ++ bridgeMessageTruncationSuffix) = next at hnext
  subst hnext
  split
  next hfits =>
    exact ⟨hextends, hjoin, hfits,
      iff_of_true ⟨whole, hwhole⟩ fun _ hlong => absurd hfits hlong.not_ge⟩
  next hlong =>
    split
    next hfull =>
      exact ⟨List.prefix_rfl, hjoined, hlength,
        iff_of_true hvalid fun hroom => absurd hfull hroom.not_ge⟩
    next hroom =>
      rw [not_le] at hlong hroom
      refine ⟨?_, hjoin.clip budget, ?_, ?_⟩
      · exact (List.prefix_take_iff.mpr ⟨hextends, hroom.le⟩).trans (List.prefix_append _ _)
      · rw [List.length_append, List.length_take]
        exact Nat.add_le_add_right (min_le_left _ _) _
      · change _ ↔ (_ → _ < candidate.length → WholeAt budget candidate)
        have hbudget : budget ≤ candidate.length := (Nat.sub_le _ _).trans hlong.le
        rw [← hwhole, validUtf8_clip_iff whole budget (hwhole ▸ hbudget)]
        exact ⟨fun h _ _ => h, fun h => h hroom (hwhole ▸ hlong)⟩

/-! ## Runs -/

structure Recording.Sound (state : Recording) : Prop where
  status : state.er.status = .complete
  unrecorded : state.first = none → state.er.bridgeLastError = none
  recorded : ∀ first ∈ state.first, Agrees first state.er ∧ state.er.bridgeLastError ≠ none

theorem FailureCall.apply_eq_error {err : GoError} (h : call.apply er = .error err)
    (hstatus : er.status = .complete) {errorClass : BridgeErrorClass}
    (hclass : BridgeErrorClass.valid? call.errorClass = some errorClass) :
    call.entry = [] ∨ er.bridgeLastError ≠ none ∧ er.bridgeLastError ≠ some errorClass := by
  simp only [FailureCall.apply, hclass, ExtractionRequest.markBridgeFailed] at h
  split at h
  next hempty =>
    left
    rw [FailureCall.entry, hempty]
    rfl
  next =>
    rw [if_neg (not_not.mpr hstatus)] at h
    split at h
    next failed hfailed =>
      split at h
      next => cases h
      next hother => exact .inr (by simp [hfailed, hother])
    next => cases h

theorem FailureCall.apply_eq_ok (h : call.apply er = .ok next) :
    ∃ errorClass, BridgeErrorClass.valid? call.errorClass = some errorClass ∧
      next.status = .complete ∧ next.bridgeLastError = some errorClass ∧
      (er.bridgeLastError = none ∧
          next.bridgeLastErrorMessage = call.entry.take maxBridgeFailureMessageLength ∨
        er.bridgeLastError = some errorClass ∧ next.bridgeFailedAt = er.bridgeFailedAt ∧
          next.bridgeLastErrorMessage =
            if call.entry.take maxBridgeFailureMessageLength <:+: er.bridgeLastErrorMessage then
              er.bridgeLastErrorMessage
            else appendBridgeFailureMessage er.bridgeLastErrorMessage call.entry) := by
  unfold FailureCall.apply at h
  unfold FailureCall.entry
  split at h
  next => cases h
  next errorClass hclass =>
    refine ⟨errorClass, hclass, ?_⟩
    simp only [ExtractionRequest.markBridgeFailed, guard_eq_ok, not_not] at h
    obtain ⟨-, hstatus, h⟩ := h
    split at h
    next failed hfailed =>
      split at h
      next hsame =>
        cases h
        subst hsame
        simp [appendBridgeFailureMessage_take, hstatus, hfailed]
      next => cases h
    next hnone =>
      cases h
      simp [hstatus, hnone]

/-- A recorded failure agrees with the first one exactly if nothing was cut inside a
character. -/
theorem Recording.Sound.agrees_iff (h : state.Sound) (happly : call.apply state.er = .ok next) :
    Agrees (state.first.getD next) next ↔ CutsWhole state call := by
  have hprintable : Printable call.entry := printable_sanitizeBridgeMessage _
  obtain ⟨errorClass, hclass, -, hnext, ⟨hlast, hmessage⟩ | ⟨hlast, hfailedAt, hmessage⟩⟩ :=
    FailureCall.apply_eq_ok happly
  · have hfirst : state.first = none := by
      cases hfirst : state.first with
      | none => rfl
      | some first => exact absurd hlast (h.recorded first hfirst).2
    have hcut := validUtf8_take_iff (sanitizeBridgeMessage (trimSpace call.message))
      maxBridgeFailureMessageLength
    rw [hfirst]
    constructor
    · intro hagrees
      have hvalid := hmessage ▸ hagrees.valid
      simpa [CutsWhole, hclass, hlast, WholeAt, FailureCall.entry] using hcut.mp hvalid
    · intro hwhole
      have hvalid := hcut.mpr ((hwhole errorClass hclass).1 hlast)
      refine ⟨rfl, rfl, List.prefix_rfl, ?_, ?_, hmessage ▸ hvalid⟩
      · rw [hmessage]
        exact .entry fun byte hbyte => hprintable byte (List.mem_of_mem_take hbyte)
      · rw [hmessage]
        exact List.length_take_le _ _
  · cases hfirst : state.first with
    | none => exact absurd (h.unrecorded hfirst) (by simp [hlast])
    | some first =>
      obtain ⟨hagrees, -⟩ := h.recorded first hfirst
      split at hmessage
      next hinfix =>
        refine iff_of_true ?_ (by simp [CutsWhole, hclass, hlast, hinfix])
        exact ⟨hnext ▸ hlast ▸ hagrees.errorClass, hfailedAt ▸ hagrees.failedAt,
          hmessage ▸ hagrees.isPrefix, hmessage ▸ hagrees.joined, hmessage ▸ hagrees.length,
          hmessage ▸ hagrees.valid⟩
      next hinfix =>
        obtain ⟨hextends, hjoined, hlength, hvalid⟩ := appendBridgeFailureMessage_spec
          hagrees.valid hagrees.length hagrees.joined hprintable hmessage.symm
        rw [Option.getD_some]
        constructor
        · intro hadded known hknown
          cases hclass.symm.trans hknown
          exact ⟨by simp [hlast], fun _ _ => hvalid.mp hadded.valid⟩
        · intro hwhole
          exact ⟨hnext ▸ hlast ▸ hagrees.errorClass, hfailedAt ▸ hagrees.failedAt,
            hagrees.isPrefix.trans hextends, hjoined, hlength,
            hvalid.mpr ((hwhole errorClass hclass).2 hlast hinfix)⟩

theorem Recording.Sound.kept (h : state.Sound) (hwhole : CutsWhole state call) :
    (state.step call).Sound := by
  unfold Recording.step
  split
  next => exact h
  next next happly =>
    obtain ⟨errorClass, -, hstatus, hnext, -⟩ := FailureCall.apply_eq_ok happly
    refine ⟨hstatus, by simp, ?_⟩
    intro first hfirst
    cases hfirst
    exact ⟨(h.agrees_iff happly).mpr hwhole, by simp [hnext]⟩

theorem Recording.Sound.cutsWhole (h : state.Sound)
    (hagrees : ∀ first ∈ (state.step call).first, Agrees first (state.step call).er) :
    CutsWhole state call := by
  unfold Recording.step at hagrees
  split at hagrees
  next err happly =>
    intro errorClass hclass
    rcases FailureCall.apply_eq_error happly h.status hclass with hentry | ⟨hlast, hother⟩
    · simp [hentry, WholeAt]
    · exact ⟨fun hnone => absurd hnone hlast, fun hsame => absurd hsame hother⟩
  next next happly => exact (h.agrees_iff happly).mp (hagrees _ rfl)

/-- The first failure is kept and the messages are added to its own, in valid UTF-8,
exactly if no call cuts a character. -/
theorem failures_agree_iff (er : ExtractionRequest) (hstatus : er.status = .complete)
    (hlast : er.bridgeLastError = none) (calls : List FailureCall) :
    (∀ reached, reached <+: calls →
        let state := reached.foldl Recording.step ⟨er, none⟩
        ∀ first ∈ state.first, Agrees first state.er) ↔
      Meets Recording.step CutsWhole ⟨er, none⟩ calls :=
  Meets.iff_always Recording.Sound (fun state => ∀ first ∈ state.first, Agrees first state.er)
    ⟨hstatus, fun _ => hlast, by simp⟩ (fun _ h first hfirst => (h.recorded first hfirst).1)
    (fun _ _ h hwhole => h.kept hwhole) (fun _ _ h hagrees => h.cutsWhole hagrees) calls

def failureCall (message : String) : FailureCall := ⟨"integrity_failed", message, 7⟩

theorem failures_agree_iff_two :
    let calls := [failureCall "digest", failureCall " size\n"]
    let state := calls.foldl Recording.step ⟨Bridge.completedExtraction, none⟩
    state.er.bridgeLastErrorMessage = utf8 "digest\n→ size" ∧
      ∀ first ∈ state.first, Agrees first state.er := by
  intro calls state
  have hwhole : Meets Recording.step CutsWhole ⟨Bridge.completedExtraction, none⟩ calls := by
    decide +kernel
  exact ⟨by decide +kernel, (failures_agree_iff Bridge.completedExtraction rfl rfl calls).mpr
    hwhole calls List.prefix_rfl⟩

def oversized : FailureCall := failureCall (String.ofList (List.replicate 1023 'a' ++ ['é']))

/-- The last byte that is kept is the first one of two. -/
theorem oversized_message_disagrees :
    ¬ ∀ first ∈ (Recording.step ⟨Bridge.completedExtraction, none⟩ oversized).first,
      Agrees first (Recording.step ⟨Bridge.completedExtraction, none⟩ oversized).er := by
  intro hagrees
  have hsound : Recording.Sound ⟨Bridge.completedExtraction, none⟩ :=
    ⟨rfl, fun _ => rfl, fun _ h => by cases h⟩
  have hwhole := (hsound.cutsWhole hagrees .integrityFailed (by decide)).1 rfl 0xA9
  simp only [FailureCall.entry, oversized, failureCall, sanitizeBridgeMessage, trimSpace, utf8,
    String.toList_ofList, -List.reduceReplicate] at hwhole
  exact absurd (hwhole (by decide +kernel)) (by decide)

end Matcher.Discovery
