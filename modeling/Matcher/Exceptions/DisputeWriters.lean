import Matcher.Exceptions.Dispute
import Matcher.Exceptions.Resolution
import Matcher.Foundation.RowLock

/-!
# Evidence and closing of one dispute

SubmitEvidence and CloseDispute each work in one transaction: they read the
dispute with `FOR UPDATE`, change it in memory and write the whole row back, the
evidence as one JSON column.  The lock makes each change start from what the last
commit has stored.
-/

namespace Matcher.Exceptions

open Foundation
open Command (Fault attempt)
open Matching (Instant)

variable {dispute changed : Dispute} {disputeID : UUID} {fault : Fault}

/-! ## The stored row -/

def DisputeState.text : DisputeState → String
  | .draft => "DRAFT"
  | .open => "OPEN"
  | .pendingEvidence => "PENDING_EVIDENCE"
  | .won => "WON"
  | .lost => "LOST"

def errInvalidDisputeState : GoError :=
  .sentinel ⟨"ErrInvalidDisputeState", "invalid dispute state"⟩

def parseDisputeState (value : String) : Except GoError DisputeState :=
  match [DisputeState.draft, .open, .pendingEvidence, .won, .lost].find?
      fun state => state.text = toUpper (trimSpace value) with
  | some state => .ok state
  | none => .error errInvalidDisputeState

def DisputeCategory.text : DisputeCategory → String
  | .bankFeeError => "BANK_FEE_ERROR"
  | .unrecognizedCharge => "UNRECOGNIZED_CHARGE"
  | .duplicateTransaction => "DUPLICATE_TRANSACTION"
  | .amountMismatch => "AMOUNT_MISMATCH"
  | .other => "OTHER"
  | .unknown value => value

def parseDisputeCategory (value : String) : Except GoError DisputeCategory :=
  match [DisputeCategory.bankFeeError, .unrecognizedCharge,
      .duplicateTransaction, .amountMismatch, .other].find?
      fun category => category.text = toUpper value with
  | some category => .ok category
  | none => .error errInvalidDisputeCategory

/-- The columns, with the JSON of the evidence as the database holds it. -/
structure DisputeRow (τ : Type) where
  id : UUID
  exceptionID : UUID
  category : String
  state : String
  description : String
  openedBy : String
  resolution : Option String
  reopenReason : Option String
  evidence : τ
  createdAt : Instant
  updatedAt : Instant
deriving DecidableEq, Repr

def scanEvidence {τ : Type} (isNull : τ → Bool) (unmarshal : τ → Except GoError (List Evidence))
    (evidenceJSON : τ) : Except GoError (List Evidence) :=
  if isNull evidenceJSON = false then
    wrapError "unmarshal evidence: %w" (unmarshal evidenceJSON)
  else .ok []

/-- The JSON column gives back the evidence that was written. -/
structure EvidenceColumn (τ : Type) where
  marshal : List Evidence → Except GoError τ
  isNull : τ → Bool
  unmarshal : τ → Except GoError (List Evidence)
  roundTrip : ∀ evidence evidenceJSON, marshal evidence = .ok evidenceJSON →
    scanEvidence isNull unmarshal evidenceJSON = .ok evidence

section Repository

variable {τ : Type} (column : EvidenceColumn τ)

def scanDispute (row : DisputeRow τ) : Except GoError Dispute := do
  let category ← wrapError "parse category: %w" (parseDisputeCategory row.category)
  let state ← wrapError "parse state: %w" (parseDisputeState row.state)
  let evidence ← scanEvidence column.isNull column.unmarshal row.evidence
  return {
    id := row.id
    exceptionID := row.exceptionID
    category := category
    state := state
    description := row.description
    openedBy := row.openedBy
    resolution := row.resolution
    reopenReason := row.reopenReason
    evidence := evidence
    createdAt := row.createdAt
    updatedAt := row.updatedAt }

def errDisputeNotFound : GoError :=
  .sentinel ⟨"ErrNotFound", "dispute not found"⟩

def findByIDWithTx (row : Option (DisputeRow τ)) (disputeID : UUID) (fault : Fault) :
    Except GoError (DisputeRow τ × Dispute) :=
  match fault, row with
  | some cause, _ => .error (.wrap "find dispute by id with tx: %w" [] cause)
  | none, none => .error errDisputeNotFound
  | none, some row =>
    if row.id ≠ disputeID then .error errDisputeNotFound
    else
      wrapError "find dispute by id with tx: %w" (Prod.mk row <$> scanDispute column row)

/-- Every column but the ids and the time of creation is written, and the row is
read again. -/
def executeUpdateDispute (row : DisputeRow τ) (dispute : Dispute) (fault : Fault) :
    Except GoError (Dispute × DisputeRow τ) := do
  let evidenceJSON ← wrapError "marshal evidence: %w" (column.marshal dispute.evidence)
  wrapError "update dispute: %w" (attempt fault (.ok ()))
  if row.id ≠ dispute.id then .error errDisputeNotFound
  else
    let written := { row with
      category := dispute.category.text
      state := dispute.state.text
      description := dispute.description
      openedBy := dispute.openedBy
      resolution := dispute.resolution
      reopenReason := dispute.reopenReason
      evidence := evidenceJSON
      updatedAt := dispute.updatedAt }
    let updated ← scanDispute column written
    return (updated, written)

end Repository

/-! ## The commands -/

def errDisputeIDRequired : GoError :=
  .sentinel ⟨"ErrDisputeIDRequired", "dispute id is required"⟩

def errDisputeCommentRequired : GoError :=
  .sentinel ⟨"ErrDisputeCommentRequired", "evidence comment is required"⟩

structure SubmitEvidenceCommand where
  disputeID : UUID
  comment : String
  fileURL : Option String
deriving DecidableEq, Repr

structure SubmitEvidenceParams where
  actor : String
  comment : String
  fileURL : Option String
deriving DecidableEq, Repr

def validateSubmitEvidence (actor : String) (cmd : SubmitEvidenceCommand) :
    Except GoError SubmitEvidenceParams :=
  if cmd.disputeID = UUID.zero then .error errDisputeIDRequired
  else if trimSpace actor = "" then .error errActorRequired
  else if trimSpace cmd.comment = "" then .error errDisputeCommentRequired
  else
    .ok ⟨trimSpace actor, trimSpace cmd.comment, normalizeOptionalText cmd.fileURL⟩

structure CloseDisputeCommand where
  disputeID : UUID
  resolution : String
  won : Bool
deriving DecidableEq, Repr

structure CloseDisputeParams where
  actor : String
  resolution : String
deriving DecidableEq, Repr

def validateCloseDispute (actor : String) (cmd : CloseDisputeCommand) :
    Except GoError CloseDisputeParams :=
  if cmd.disputeID = UUID.zero then .error errDisputeIDRequired
  else if trimSpace actor = "" then .error errActorRequired
  else if trimSpace cmd.resolution = "" then .error errDisputeResolutionRequired
  else .ok ⟨trimSpace actor, trimSpace cmd.resolution⟩

inductive DisputeCommand
  | submitEvidence (cmd : SubmitEvidenceCommand)
  | closeDispute (cmd : CloseDisputeCommand)
deriving DecidableEq, Repr

structure DisputeFaults where
  beginTx : Fault
  nilLease : Bool
  find : Fault
  update : Fault
  audit : Fault
  emit : Fault

structure DisputeCommandCall where
  command : DisputeCommand
  actor : String
  evidenceID : UUID
  faults : DisputeFaults
  clock : ℕ → Instant

/-- What a call does to the dispute that it has loaded, and what it says of it. -/
structure DisputeOperation where
  disputeID : UUID
  leaseOperation : String
  change : Dispute → Except GoError Dispute
  action : String
  actor : String
  notes : String
  metadata : List (String × String)
  emitError : String
  definitionKey : String

section Commands

variable {τ : Type} (parseURL : String → Option ParsedURL) (column : EvidenceColumn τ)
  (call : DisputeCommandCall)

def submitEvidenceOperation (cmd : SubmitEvidenceCommand) (params : SubmitEvidenceParams) :
    DisputeOperation where
  disputeID := cmd.disputeID
  leaseOperation := "begin submit evidence transaction"
  change dispute := wrapError "add evidence: %w"
    (dispute.addEvidence parseURL params.comment params.actor params.fileURL
      call.evidenceID (call.clock 0))
  action := "EVIDENCE_SUBMITTED"
  actor := params.actor
  notes := params.comment
  metadata := params.fileURL.toList.map fun fileURL => ("file_url", fileURL)
  emitError := "emit evidence submitted: %w"
  definitionKey := "evidence.submitted"

def closeDisputeOperation (cmd : CloseDisputeCommand) (params : CloseDisputeParams) :
    DisputeOperation where
  disputeID := cmd.disputeID
  leaseOperation := "begin close dispute transaction"
  change dispute :=
    if cmd.won then
      wrapError "win dispute: %w" (dispute.win params.resolution (call.clock 0))
    else
      wrapError "lose dispute: %w" (dispute.lose params.resolution (call.clock 0))
  action := if cmd.won then "DISPUTE_WON" else "DISPUTE_LOST"
  actor := params.actor
  notes := params.resolution
  metadata := []
  emitError := "emit dispute closed: %w"
  definitionKey := if cmd.won then "dispute.won" else "dispute.lost"

def DisputeCommandCall.operation : Except GoError DisputeOperation :=
  match call.command with
  | .submitEvidence cmd =>
    submitEvidenceOperation parseURL call cmd <$> validateSubmitEvidence call.actor cmd
  | .closeDispute cmd => closeDisputeOperation call cmd <$> validateCloseDispute call.actor cmd

structure DisputeStore (τ : Type) where
  row : Option (DisputeRow τ)
  audits : List AuditEvent

structure LoadedDispute (τ : Type) where
  operation : DisputeOperation
  store : DisputeStore τ
  row : DisputeRow τ
  dispute : Dispute

def loadDispute (store : DisputeStore τ) : Except GoError (LoadedDispute τ) := do
  let operation ← call.operation parseURL
  wrapError "begin transaction: %w" (attempt call.faults.beginTx (.ok ()))
  if call.faults.nilLease then
    .error (.wrap "%s: %w" [operation.leaseOperation] errCriticalOutboxTxRequired)
  else
    let (row, dispute) ← wrapError "find dispute: %w"
      (findByIDWithTx column store.row operation.disputeID call.faults.find)
    return ⟨operation, store, row, dispute⟩

def changeDispute (loaded : LoadedDispute τ) : Except GoError (DisputeStore τ) := do
  let changed ← loaded.operation.change loaded.dispute
  let (updated, row) ← wrapError "update dispute: %w"
    (wrapError "update dispute: %w"
      (executeUpdateDispute column loaded.row changed call.faults.update))
  let event : AuditEvent := {
    exceptionID := updated.exceptionID
    action := loaded.operation.action
    actor := loaded.operation.actor
    notes := loaded.operation.notes
    reasonCode := none
    occurredAt := call.clock 1
    metadata := ("dispute_id", updated.id.toText) :: loaded.operation.metadata }
  wrapError "publish audit: %w" (attempt call.faults.audit (.ok ()))
  wrapError loaded.operation.emitError
    ((attempt call.faults.emit (.ok ())).mapError
      (.wrap "emit exception streaming event %s: %w" [loaded.operation.definitionKey]))
  return ⟨some row, loaded.store.audits ++ [event]⟩

end Commands

/-! ## What the functions do -/

theorem parseDisputeState_text (state : DisputeState) :
    parseDisputeState state.text = .ok state := by
  cases state with
  | draft => decide +kernel
  | «open» => decide +kernel
  | pendingEvidence | won | lost => decide +kernel

variable {operation : DisputeOperation} {call : DisputeCommandCall} {cmd : SubmitEvidenceCommand}

section Effects

variable {τ : Type} {parseURL : String → Option ParsedURL}
  {column : EvidenceColumn τ} {row : DisputeRow τ} {loaded : LoadedDispute τ}

theorem scanDispute_eq_ok (h : scanDispute column row = .ok dispute) :
    dispute.id = row.id ∧ parseDisputeState row.state = .ok dispute.state ∧
      scanEvidence column.isNull column.unmarshal row.evidence = .ok dispute.evidence := by
  obtain ⟨category, -, h⟩ := bind_eq_ok.mp h
  obtain ⟨state, hstate, h⟩ := bind_eq_ok.mp h
  obtain ⟨evidence, hevidence, h⟩ := bind_eq_ok.mp h
  cases h
  exact ⟨rfl, wrapError_eq_ok.mp hstate, hevidence⟩

theorem findByIDWithTx_eq_ok {stored : Option (DisputeRow τ)}
    (h : findByIDWithTx column stored disputeID fault = .ok (row, dispute)) :
    stored = some row ∧ row.id = disputeID ∧ scanDispute column row = .ok dispute := by
  unfold findByIDWithTx at h
  split at h
  · cases h
  · cases h
  · obtain ⟨hid, h⟩ := guard_eq_ok.mp h
    obtain ⟨scanned, hscan, hpair⟩ := map_eq_ok.mp (wrapError_eq_ok.mp h)
    cases hpair
    exact ⟨rfl, not_not.mp hid, hscan⟩

theorem executeUpdateDispute_eq_ok {written : DisputeRow τ} {updated : Dispute}
    (h : executeUpdateDispute column row dispute fault = .ok (updated, written)) :
    scanDispute column written = .ok updated ∧ updated.id = row.id ∧
      updated.state = dispute.state ∧ updated.evidence = dispute.evidence := by
  obtain ⟨evidenceJSON, hmarshal, h⟩ := bind_eq_ok.mp h
  obtain ⟨-, h⟩ := check_eq_ok.mp h
  obtain ⟨-, h⟩ := guard_eq_ok.mp h
  obtain ⟨scanned, hscan, h⟩ := bind_eq_ok.mp h
  cases h
  obtain ⟨hid, hstate, hevidence⟩ := scanDispute_eq_ok hscan
  refine ⟨hscan, hid, ?_, ?_⟩
  · exact Except.ok.inj (hstate.symm.trans (parseDisputeState_text _))
  · exact Except.ok.inj (hevidence.symm.trans
      (column.roundTrip _ _ (wrapError_eq_ok.mp hmarshal)))

theorem loadDispute_eq_ok {store : DisputeStore τ}
    (h : loadDispute parseURL column call store = .ok loaded) :
    call.operation parseURL = .ok loaded.operation ∧
      store.row = some loaded.row ∧
      loaded.row.id = loaded.operation.disputeID ∧
      scanDispute column loaded.row = .ok loaded.dispute := by
  obtain ⟨operation, hoperation, h⟩ := bind_eq_ok.mp h
  obtain ⟨-, h⟩ := check_eq_ok.mp h
  obtain ⟨-, h⟩ := guard_eq_ok.mp h
  obtain ⟨⟨row, dispute⟩, hfind, h⟩ := bind_eq_ok.mp h
  cases h
  exact ⟨hoperation, findByIDWithTx_eq_ok (wrapError_eq_ok.mp hfind)⟩

theorem changeDispute_eq_ok
    {copy : DisputeStore τ} (h : changeDispute column call loaded = .ok copy) :
    ∃ changed updated written,
      loaded.operation.change loaded.dispute = .ok changed ∧
        copy.row = some written ∧ scanDispute column written = .ok updated ∧
        updated.id = loaded.row.id ∧ updated.state = changed.state ∧
        updated.evidence = changed.evidence := by
  obtain ⟨changed, hchange, h⟩ := bind_eq_ok.mp h
  obtain ⟨⟨updated, written⟩, hupdate, h⟩ := bind_eq_ok.mp h
  obtain ⟨-, h⟩ := check_eq_ok.mp h
  obtain ⟨-, h⟩ := check_eq_ok.mp h
  cases h
  exact ⟨changed, updated, written, hchange, rfl, executeUpdateDispute_eq_ok
    (wrapError_eq_ok.mp (wrapError_eq_ok.mp hupdate))⟩

theorem newEvidence_eq_ok {evidenceID : UUID} {comment submittedBy : String}
    {fileURL : Option String} {now : Instant} {evidence : Evidence}
    (h : newEvidence parseURL disputeID comment submittedBy fileURL evidenceID now = .ok evidence) :
    evidence.id = evidenceID ∧ evidence.disputeID = disputeID ∧
      evidence.comment = trimSpace comment ∧
      evidence.submittedBy = trimSpace submittedBy ∧
      evidence.fileURL = normalizeOptionalText fileURL := by
  simp only [newEvidence, guard_eq_ok] at h
  obtain ⟨-, -, -, h⟩ := h
  obtain ⟨validatedURL, hurl, h⟩ := bind_eq_ok.mp h
  cases h
  refine ⟨rfl, rfl, rfl, rfl, ?_⟩
  unfold validateFileURL at hurl
  split at hurl
  next hnone =>
    cases hurl
    exact hnone.symm
  next normalized hnormalized =>
    split at hurl
    · cases hurl
    · obtain ⟨-, hurl⟩ := guard_eq_ok.mp hurl
      obtain ⟨-, hurl⟩ := guard_eq_ok.mp hurl
      cases hurl
      exact hnormalized.symm

theorem normalizeOptionalText_idem (text : Option String) :
    normalizeOptionalText (normalizeOptionalText text) = normalizeOptionalText text := by
  cases text with
  | none => rfl
  | some value =>
    by_cases hblank : trimSpace value = "" <;> simp [normalizeOptionalText, hblank]

structure Evidence.SubmittedBy (evidence : Evidence)
    (call : DisputeCommandCall) (cmd : SubmitEvidenceCommand) : Prop where
  id : evidence.id = call.evidenceID
  disputeID : evidence.disputeID = cmd.disputeID
  comment : evidence.comment = trimSpace cmd.comment
  submittedBy : evidence.submittedBy = trimSpace call.actor
  fileURL : evidence.fileURL = normalizeOptionalText cmd.fileURL

theorem submitEvidence_change (hcommand : call.command = .submitEvidence cmd)
    (hoperation : call.operation parseURL = .ok operation) (hid : dispute.id = operation.disputeID)
    (h : operation.change dispute = .ok changed) :
    dispute.state ≠ .won ∧ ∃ evidence, evidence.SubmittedBy call cmd ∧
      changed.evidence = dispute.evidence ++ [evidence] := by
  unfold DisputeCommandCall.operation at hoperation
  rw [hcommand] at hoperation
  obtain ⟨params, hparams, rfl⟩ := map_eq_ok.mp hoperation
  simp only [validateSubmitEvidence, guard_eq_ok] at hparams
  obtain ⟨-, -, -, hparams⟩ := hparams
  cases hparams
  obtain ⟨hstate, evidence, hevidence, rfl⟩ := Dispute.addEvidence_eq_ok (wrapError_eq_ok.mp h)
  obtain ⟨hevidenceID, hdisputeID, hcomment, hsubmittedBy, hfileURL⟩ := newEvidence_eq_ok hevidence
  refine ⟨?_, evidence, ⟨hevidenceID, hdisputeID.trans hid, ?_, ?_, ?_⟩, rfl⟩
  · rcases hstate with hstate | hstate <;> simp [hstate]
  · rw [hcomment, trimSpace_trimSpace]
  · rw [hsubmittedBy, trimSpace_trimSpace]
  · rw [hfileURL, normalizeOptionalText_idem]

theorem closeDispute_change
    {cmd : CloseDisputeCommand} (hcommand : call.command = .closeDispute cmd)
    (hoperation : call.operation parseURL = .ok operation)
    (h : operation.change dispute = .ok changed) :
    dispute.state ≠ .won ∧ changed.evidence = dispute.evidence := by
  unfold DisputeCommandCall.operation at hoperation
  rw [hcommand] at hoperation
  obtain ⟨params, -, rfl⟩ := map_eq_ok.mp hoperation
  simp only [closeDisputeOperation] at h
  split at h
  all_goals
    obtain ⟨hallowed, rfl⟩ := Dispute.conclude_eq_ok (wrapError_eq_ok.mp h)
    exact ⟨ne_won_of_allowed hallowed, rfl⟩

/-- Neither command finds anything to do in a won dispute, and both leave the
evidence that is there. -/
theorem operation_change (hoperation : call.operation parseURL = .ok operation)
    (hid : dispute.id = operation.disputeID) (h : operation.change dispute = .ok changed) :
    dispute.state ≠ .won ∧ dispute.evidence <+: changed.evidence := by
  cases hcommand : call.command with
  | submitEvidence =>
    obtain ⟨hstate, evidence, -, hevidence⟩ := submitEvidence_change hcommand hoperation hid h
    rw [hevidence]
    exact ⟨hstate, List.prefix_append _ _⟩
  | closeDispute =>
    obtain ⟨hstate, hevidence⟩ := closeDispute_change hcommand hoperation h
    rw [hevidence]
    exact ⟨hstate, List.prefix_refl _⟩

end Effects

/-! ## Any number of calls -/

def DisputeStore.Stores {τ : Type} (column : EvidenceColumn τ)
    (store : DisputeStore τ) (dispute : Dispute) : Prop :=
  ∃ row ∈ store.row, scanDispute column row = .ok dispute

structure DisputeKept (before after : Dispute) : Prop where
  evidence : before.evidence <+: after.evidence
  won : before.state = .won → after.state = .won

section Interleaving

variable {τ κ : Type} [DecidableEq κ] {parseURL : String → Option ParsedURL}
  {column : EvidenceColumn τ}

/-- The calls of SubmitEvidence and CloseDispute, each in a transaction of its own
that locks the row. -/
def runDisputeCalls (parseURL : String → Option ParsedURL) (column : EvidenceColumn τ)
    (store : DisputeStore τ) (labels : List (RowLock.Label κ DisputeCommandCall GoError)) :
    RowLock.Calls κ DisputeCommandCall (DisputeStore τ) (LoadedDispute τ) :=
  RowLock.run (loadDispute parseURL column) (changeDispute column) store labels

def StoreKept (column : EvidenceColumn τ) (before after : DisputeStore τ) : Prop :=
  ∀ dispute, before.Stores column dispute →
    ∃ later, after.Stores column later ∧ DisputeKept dispute later

theorem storeKept_keeps :
    RowLock.Keeps (loadDispute parseURL column) (changeDispute column) (StoreKept column) := by
  refine ⟨?_, ?_, ?_⟩
  · intro store dispute hstores
    exact ⟨dispute, hstores, List.prefix_refl _, fun hwon => hwon⟩
  · intro first second third hfirst hsecond dispute hstores
    obtain ⟨next, hnext, hkept⟩ := hfirst dispute hstores
    obtain ⟨last, hlast, hkeptNext⟩ := hsecond next hnext
    exact ⟨last, hlast, hkept.evidence.trans hkeptNext.evidence,
      fun hwon => hkeptNext.won (hkept.won hwon)⟩
  · rintro call store loaded copy hload hchange dispute ⟨row, hrow, hscan⟩
    obtain ⟨hoperation, hloaded, hid, hloadedScan⟩ := loadDispute_eq_ok hload
    obtain rfl : row = loaded.row := Option.some.inj (hrow.symm.trans hloaded)
    obtain rfl : dispute = loaded.dispute := Except.ok.inj (hscan.symm.trans hloadedScan)
    obtain ⟨changed, updated, written, hchanged, hwritten, hupdated, -, -,
      hevidence⟩ := changeDispute_eq_ok hchange
    have hdisputeID := (scanDispute_eq_ok hscan).1
    obtain ⟨hstate, hgrown⟩ := operation_change hoperation (hdisputeID.trans hid) hchanged
    refine ⟨updated, ⟨written, hwritten, hupdated⟩, ?_, ?_⟩
    · rw [hevidence]
      exact hgrown
    · exact fun hwon => absurd hwon hstate

theorem submitted_stored {store copy : DisputeStore τ} {loaded : LoadedDispute τ}
    (hcommand : call.command = .submitEvidence cmd)
    (hload : loadDispute parseURL column call store = .ok loaded)
    (hchange : changeDispute column call loaded = .ok copy) :
    ∃ dispute, copy.Stores column dispute ∧
      ∃ evidence ∈ dispute.evidence, evidence.SubmittedBy call cmd := by
  obtain ⟨hoperation, -, hid, hscan⟩ := loadDispute_eq_ok hload
  obtain ⟨changed, updated, written, hchanged, hwritten, hupdated, -, -,
    hevidence⟩ := changeDispute_eq_ok hchange
  obtain ⟨-, evidence, hsubmitted, hadded⟩ := submitEvidence_change hcommand
    hoperation ((scanDispute_eq_ok hscan).1.trans hid) hchanged
  refine ⟨updated, ⟨written, hwritten, hupdated⟩, evidence, ?_, hsubmitted⟩
  rw [hevidence, hadded]
  exact List.mem_append_right _ (List.mem_singleton_self evidence)

/--
Over any interleaving of the calls, the evidence of every call of SubmitEvidence
that has returned success is stored, no stored evidence disappears, and a won
dispute stays won.
-/
theorem dispute_evidence_kept (parseURL : String → Option ParsedURL) (column : EvidenceColumn τ)
    (store : DisputeStore τ) (labels : List (RowLock.Label κ DisputeCommandCall GoError)) :
    (∀ entry ∈ (runDisputeCalls parseURL column store labels).store.returned,
        ∀ cmd, entry.1.command = .submitEvidence cmd →
          ∃ dispute, (runDisputeCalls parseURL column store
              labels).store.row.Stores column dispute ∧
            ∃ evidence ∈ dispute.evidence, evidence.SubmittedBy entry.1 cmd) ∧
      ∀ reached, reached <+: labels →
        ∀ before, (runDisputeCalls parseURL column store reached).store.row.Stores column before →
          ∃ after, (runDisputeCalls parseURL column store labels).store.row.Stores column after ∧
            before.evidence <+: after.evidence ∧
            (before.state = .won → after.state = .won) := by
  constructor
  · intro entry hentry cmd hcommand
    obtain ⟨⟨start, loaded, hload, hchange⟩, hkept⟩ :=
      RowLock.run_returnedKept storeKept_keeps store labels entry hentry
    obtain ⟨dispute, hstores, evidence, hevidence, hsubmitted⟩ :=
      submitted_stored hcommand hload hchange
    obtain ⟨later, hlater, hdisputeKept⟩ := hkept dispute hstores
    exact ⟨later, hlater, evidence, hdisputeKept.evidence.subset hevidence, hsubmitted⟩
  · rintro reached ⟨more, rfl⟩ before hbefore
    obtain ⟨after, hafter, hkept⟩ :=
      RowLock.run_kept storeKept_keeps store reached more before hbefore
    exact ⟨after, hafter, hkept.evidence, hkept.won⟩

end Interleaving

theorem scanEvidence_plain (evidence evidenceJSON : List Evidence)
    (h : (.ok evidence : Except GoError (List Evidence)) = .ok evidenceJSON) :
    scanEvidence (fun _ => false) .ok evidenceJSON = .ok evidence := by
  cases h
  rfl

def plainColumn : EvidenceColumn (List Evidence) where
  marshal := .ok
  isNull _ := false
  unmarshal := .ok
  roundTrip := scanEvidence_plain

def openDisputeStore : DisputeStore (List Evidence) where
  row := some ⟨⟨30⟩, ⟨7⟩, "BANK_FEE_ERROR", "OPEN", "wrong fee", "analyst", none, none, [], 0, 1⟩
  audits := []

def disputeCommandCall (command : DisputeCommand) (evidenceID : UUID) : DisputeCommandCall where
  command := command
  actor := "analyst"
  evidenceID := evidenceID
  faults := ⟨none, false, none, none, none, none⟩
  clock := fun tick => 10 + tick

/-- A second submitter waits for the first, and then the dispute is closed. -/
def twoSubmittersAndCloser : List (RowLock.Label ℕ DisputeCommandCall GoError) := [
  .begin 0 (disputeCommandCall (.submitEvidence ⟨⟨30⟩, "invoice", none⟩) ⟨41⟩),
  .begin 1 (disputeCommandCall (.submitEvidence ⟨⟨30⟩, "receipt", none⟩) ⟨42⟩),
  .load 0, .load 1, .change 0, .load 1, .commit 0 .committed,
  .load 1, .change 1, .commit 1 .committed,
  .begin 2 (disputeCommandCall (.closeDispute ⟨⟨30⟩, "refunded", true⟩) ⟨43⟩),
  .load 2, .change 2, .commit 2 .committed]

theorem dispute_evidence_kept_two_submitters :
    (runDisputeCalls (fun _ => none) plainColumn openDisputeStore
        twoSubmittersAndCloser).store.returned.map (·.1.evidenceID) =
        [⟨41⟩, ⟨42⟩, ⟨43⟩] ∧
      ∀ entry ∈ (runDisputeCalls (fun _ => none) plainColumn openDisputeStore
          twoSubmittersAndCloser).store.returned,
        ∀ cmd, entry.1.command = .submitEvidence cmd →
          ∃ dispute, (runDisputeCalls (fun _ => none) plainColumn
              openDisputeStore twoSubmittersAndCloser).store.row.Stores plainColumn dispute ∧
            ∃ evidence ∈ dispute.evidence, evidence.SubmittedBy entry.1 cmd :=
  ⟨by decide +kernel, (dispute_evidence_kept (fun _ => none) plainColumn
    openDisputeStore twoSubmittersAndCloser).1⟩

end Matcher.Exceptions
