import Matcher.Command.RunPreparation

/-!
# ManualMatch, Unmatch and IgnoreTransaction

The commands on transactions and groups that a user chose.  Each reads and checks
its rows first and writes later, in a transaction of its own; none of them takes
the lock of the context.  The two halves of a command are kept apart, so that
other commands can run in between.
-/

namespace Matcher.Command

open Foundation

def inTransaction {α : Type} (beginFault commitFault : Fault) (body : Except GoError α) :
    Except GoError α :=
  wrapError "run transaction wrapper: %w" do
    attempt beginFault (.ok ())
    let value ← body
    attempt commitFault (.ok value)

theorem inTransaction_eq_ok {α : Type} {beginFault commitFault : Fault} {body : Except GoError α}
    {value : α} (h : inTransaction beginFault commitFault body = .ok value) : body = .ok value := by
  obtain ⟨_, -, h⟩ := bind_eq_ok.mp (wrapError_eq_ok.mp h)
  obtain ⟨found, hbody, h⟩ := bind_eq_ok.mp h
  rw [hbody, (attempt_eq_ok.mp h).2]

/-! ## ManualMatch -/

structure ManualMatchInput where
  contextID : UUID
  transactionIDs : List UUID

inductive ManualCall
  | findTransactions
  | beginTx
  | createRun
  | createGroups
  | createItems
  | markMatched
  | updateRun
  | enqueueEvents
  | commitTx
deriving DecidableEq, Repr

structure ManualEnvironment where
  input : ManualMatchInput
  context : Except GoError (Option ReconciliationContextInfo)
  runID : UUID
  groupID : UUID
  faults : ManualCall → Fault

def minManualMatchTransactions : ℕ := 2

def manualMatchConfidence : ℤ := 100

def errMinimumTransactionsRequired : GoError :=
  .sentinel ⟨"ErrMinimumTransactionsRequired", "at least two transactions are required"⟩

def errDuplicateTransactionIDs : GoError :=
  .sentinel ⟨"ErrDuplicateTransactionIDs", "duplicate transaction IDs provided"⟩

def errTransactionsNotFound : GoError :=
  .sentinel ⟨"ErrTransactionNotFound", "one or more transactions not found"⟩

def errTransactionNotUnmatched : GoError :=
  .sentinel ⟨"ErrTransactionNotUnmatched", "one or more transactions are not unmatched"⟩

def errManualMatchCreatingRun : GoError :=
  .sentinel ⟨"ErrManualMatchCreatingRun", "failed to create manual match run"⟩

def errManualMatchSourcesNotDiverse : GoError :=
  .sentinel ⟨"ErrManualMatchSourcesNotDiverse",
    "transactions must come from at least two different sources for reconciliation"⟩

def validateManualMatchInput (input : ManualMatchInput) : Except GoError Unit :=
  if input.contextID = UUID.zero then .error errRunMatchContextIDRequired
  else if input.transactionIDs.length < minManualMatchTransactions then
    .error errMinimumTransactionsRequired
  else if ¬ input.transactionIDs.Nodup then .error errDuplicateTransactionIDs
  else .ok ()

def requireActiveContext (context : Except GoError (Option ReconciliationContextInfo)) :
    Except GoError Unit :=
  match context with
  | .error _ => .error (.wrap "find context: %w" [] errContextNotFound)
  | .ok none => .error errContextNotFound
  | .ok (some ctxInfo) => if ctxInfo.active then .ok () else .error errContextNotActive

/-- The first transaction that is not unmatched is named in the error. -/
def requireUnmatched (transactions : List Transaction) : Except GoError Unit :=
  match transactions.find? fun tx => tx.status ≠ .unmatched with
  | some tx =>
    .error (.wrap "%w: transaction %s has status %s"
      [tx.id.toText, tx.status.text] errTransactionNotUnmatched)
  | none => .ok ()

def checkManualTransactions (input : ManualMatchInput) (transactions : List Transaction) :
    Except GoError Unit :=
  if transactions.length ≠ input.transactionIDs.length then
    .error errTransactionsNotFound
  else do
    requireUnmatched transactions
    if (transactions.map (·.sourceID)).dedup.length < minManualMatchTransactions then
      .error errManualMatchSourcesNotDiverse
    else .ok ()

structure ManualPreparation where
  transactions : List Transaction
  run : MatchRun

variable (environment : ManualEnvironment) {db : Db} {input : ManualMatchInput}

def prepareManualMatch (db : Db) : Except GoError ManualPreparation := do
  validateManualMatchInput environment.input
  requireActiveContext environment.context
  let transactions ← wrapError "find transactions: %w"
    (attempt (environment.faults .findTransactions)
      (.ok (db.findByContextAndIDs environment.input.transactionIDs)))
  checkManualTransactions environment.input transactions
  let run ← (newMatchRun environment.runID environment.input.contextID
    .commit).mapError (GoError.wrapTwo "%w: %w" [] errManualMatchCreatingRun)
  return ⟨transactions, run⟩

/-- The base amount and currency are preferred where they are set. -/
def manualItem (tx : Transaction) : Except GoError MatchItem :=
  let amount := (tx.amountBase.filter (· ≠ 0)).getD tx.amount
  let currency := (tx.baseCurrency.filter (· ≠ "")).getD tx.currency
  (newMatchItem tx.id amount currency amount false).mapError
    (GoError.wrap "create match item for transaction %s: %w" [tx.id.toText])

def manualGroup (run : MatchRun) (transactions : List Transaction) : Except GoError MatchGroup := do
  let items ← transactions.mapM manualItem
  let confidence ← wrapError "parse confidence score: %w"
    (parseConfidenceScore manualMatchConfidence)
  let group ← wrapError "create match group: %w"
    (newMatchGroup environment.groupID environment.input.contextID run.id
      UUID.zero confidence items)
  wrapError "confirm match group: %w" group.confirm

def ManualEnvironment.call {α : Type} (environment : ManualEnvironment) (call : ManualCall)
    (format : String) (result : Except GoError α) : Except GoError α :=
  wrapError format (attempt (environment.faults call) result)

def manualStats (input : ManualMatchInput) : List (String × ℤ) := [
  ("matched_transactions", input.transactionIDs.length),
  ("match_groups", 1)]

def persistManualItems (items : List MatchItem) (db : Db) : Except GoError Db :=
  if 0 < items.length then
    environment.call .createItems "persist match items: %w" (.ok (db.createItems items))
  else .ok db

def writeManualMatch (prepared : ManualPreparation) (db : Db) :
    Except GoError (MatchGroup × Db) := do
  let db ← environment.call .createRun "create match run: %w" (db.createRun prepared.run)
  let group ← manualGroup environment prepared.run prepared.transactions
  let db ← environment.call .createGroups "persist match group: %w" (db.createGroups [group])
  let db ← persistManualItems environment group.items db
  let db ← environment.call .markMatched "mark transactions matched: %w"
    (.ok (db.markStatus environment.input.transactionIDs .matched))
  let completed ← wrapError "complete match run: %w"
    (prepared.run.complete (manualStats environment.input))
  let db ← environment.call .updateRun "update match run: %w" (db.updateRun completed)
  let db ← environment.call .enqueueEvents "enqueue match confirmed event: %w"
    (.ok (db.enqueue (confirmedEvents [group])))
  return (group, db)

def commitManualMatch (prepared : ManualPreparation) (db : Db) : Except GoError (MatchGroup × Db) :=
  wrapError "create manual match: %w"
    (inTransaction (environment.faults .beginTx) (environment.faults .commitTx)
      (writeManualMatch environment prepared db))

def finishManualMatch (prepared : ManualPreparation) (db : Db) : Except GoError MatchGroup × Db :=
  match commitManualMatch environment prepared db with
  | .error cause => (.error cause, db)
  | .ok (group, db') => (.ok group, db')

def manualMatch (db : Db) : Except GoError MatchGroup × Db :=
  match prepareManualMatch environment db with
  | .error cause => (.error cause, db)
  | .ok prepared => finishManualMatch environment prepared db

/-! ## Unmatch -/

structure UnmatchInput where
  contextID : UUID
  matchGroupID : UUID
  reason : String

inductive UnmatchCall
  | findGroup
  | beginTx
  | updateGroup
  | listItems
  | markUnmatched
  | loadEventItems
  | createEvent
  | commitTx
deriving DecidableEq, Repr

structure UnmatchEnvironment where
  input : UnmatchInput
  faults : UnmatchCall → Fault

def errUnmatchContextIDRequired : GoError :=
  .sentinel ⟨"ErrUnmatchContextIDRequired", "context id is required"⟩

def errUnmatchMatchGroupIDRequired : GoError :=
  .sentinel ⟨"ErrUnmatchMatchGroupIDRequired", "match group id is required"⟩

def errUnmatchReasonRequired : GoError :=
  .sentinel ⟨"ErrUnmatchReasonRequired", "reason is required"⟩

def errMatchGroupNotFound : GoError :=
  .sentinel ⟨"ErrMatchGroupNotFound", "match group not found"⟩

def validateUnmatchInput (input : UnmatchInput) : Except GoError Unit :=
  if input.contextID = UUID.zero then .error errUnmatchContextIDRequired
  else if input.matchGroupID = UUID.zero then
    .error errUnmatchMatchGroupIDRequired
  else if input.reason = "" then .error errUnmatchReasonRequired
  else .ok ()

def Db.findGroup (db : Db) (contextID groupID : UUID) : Except GoError MatchGroup :=
  match (db.groups.find? groupID).filter (·.contextID = contextID) with
  | none => .error errNoRows
  | some group => .ok group

variable (environment : UnmatchEnvironment)

def loadMatchGroup (db : Db) : Except GoError MatchGroup :=
  (attempt (environment.faults .findGroup) (db.findGroup
    environment.input.contextID environment.input.matchGroupID)).mapError
      fun cause =>
        if cause.Is errNoRows then errMatchGroupNotFound
        else .wrap "find match group: %w" [] cause

def prepareUnmatch (db : Db) : Except GoError MatchGroup := do
  validateUnmatchInput environment.input
  loadMatchGroup environment db

def MatchGroup.wasConfirmed (group : MatchGroup) : Bool :=
  group.status = .confirmed

/-- Decided by the group that was loaded, not by the stored one. -/
def MatchGroup.rejectOrRevoke (group : MatchGroup) (reason : String) : Except GoError MatchGroup :=
  if group.wasConfirmed then
    (group.revoke reason).mapError (.wrap "%s match group: %w" ["revoke"])
  else (group.reject reason).mapError (.wrap "%s match group: %w" ["reject"])

def UnmatchEnvironment.call {α : Type} (environment : UnmatchEnvironment) (call : UnmatchCall)
    (format : String) (result : Except GoError α) : Except GoError α :=
  wrapError format (attempt (environment.faults call) result)

def markItemsUnmatched (items : List MatchItem) (db : Db) : Except GoError Db :=
  if items.length = 0 then .ok db
  else environment.call .markUnmatched "mark transactions unmatched: %w"
    (.ok (db.markStatus (items.map (·.transactionID)) .unmatched))

def revertTransactionStatuses (db : Db) : Except GoError Db := do
  let items ← environment.call .listItems "list match items: %w"
    (.ok (db.listItems environment.input.matchGroupID))
  markItemsUnmatched environment items db

def maxReasonLength : ℕ := 1024

def errMatchUnmatchedContextIDRequired : GoError :=
  .sentinel ⟨"ErrMatchUnmatchedContextIDRequired", "context_id is required for unmatched event"⟩

def errMatchUnmatchedRunIDRequired : GoError :=
  .sentinel ⟨"ErrMatchUnmatchedRunIDRequired", "run_id is required for unmatched event"⟩

def errMatchUnmatchedMatchIDRequired : GoError :=
  .sentinel ⟨"ErrMatchUnmatchedMatchIDRequired", "match_id is required for unmatched event"⟩

def errMatchUnmatchedTransactionIDsRequired : GoError :=
  .sentinel ⟨"ErrMatchUnmatchedTransactionIDsRequired",
    "transaction_ids is required for unmatched event"⟩

def errMatchUnmatchedReasonRequired : GoError :=
  .sentinel ⟨"ErrMatchUnmatchedReasonRequired", "reason is required for unmatched event"⟩

def errMatchUnmatchedReasonTooLong : GoError :=
  .sentinel ⟨"ErrMatchUnmatchedReasonTooLong", "reason exceeds maximum length for unmatched event"⟩

/-- The event names the group; the length of the reason is in bytes. -/
def newMatchUnmatchedEvent (group : MatchGroup) (items : List MatchItem) (reason : String) :
    Except GoError OutboxEvent :=
  if group.contextID = UUID.zero then .error errMatchUnmatchedContextIDRequired
  else if group.runID = UUID.zero then .error errMatchUnmatchedRunIDRequired
  else if group.id = UUID.zero then .error errMatchUnmatchedMatchIDRequired
  else if (items.filter (·.transactionID ≠ UUID.zero)).length = 0 then
    .error errMatchUnmatchedTransactionIDsRequired
  else if trimSpace reason = "" then .error errMatchUnmatchedReasonRequired
  else if maxReasonLength < (trimSpace reason).utf8ByteSize then
    .error errMatchUnmatchedReasonTooLong
  else .ok (.matchUnmatched group.id)

def enqueueUnmatchEvent (group : MatchGroup) (db : Db) : Except GoError Db := do
  let items ← environment.call .loadEventItems
    "load match items for unmatch event: %w" (.ok (db.listItems group.id))
  let event ← wrapError "build match unmatched event: %w"
    (newMatchUnmatchedEvent group items environment.input.reason)
  environment.call .createEvent "create outbox entry: %w" (.ok (db.enqueue [event]))

/-- Only a group that was loaded as confirmed is announced. -/
def announceUnmatch (loaded updated : MatchGroup) (db : Db) : Except GoError Db :=
  if loaded.wasConfirmed then enqueueUnmatchEvent environment updated db
  else .ok db

def writeUnmatch (group : MatchGroup) (db : Db) : Except GoError Db := do
  let updated ← group.rejectOrRevoke environment.input.reason
  let db ← environment.call .updateGroup "update match group: %w" (db.updateGroup updated)
  let db ← revertTransactionStatuses environment db
  announceUnmatch environment group updated db

def commitUnmatch (group : MatchGroup) (db : Db) : Except GoError Db :=
  inTransaction (environment.faults .beginTx) (environment.faults .commitTx)
    (writeUnmatch environment group db)

def finishUnmatch (group : MatchGroup) (db : Db) : Except GoError Unit × Db :=
  match commitUnmatch environment group db with
  | .error cause => (.error cause, db)
  | .ok db' => (.ok (), db')

def unmatch (db : Db) : Except GoError Unit × Db :=
  match prepareUnmatch environment db with
  | .error cause => (.error cause, db)
  | .ok group => finishUnmatch environment group db

/-! ## IgnoreTransaction -/

structure IgnoreTransactionInput where
  transactionID : UUID
  reason : String

inductive IgnoreCall
  | findTransaction
  | updateStatus
deriving DecidableEq, Repr

structure IgnoreEnvironment where
  input : IgnoreTransactionInput
  faults : IgnoreCall → Fault

def errReasonRequired : GoError :=
  .sentinel ⟨"ErrReasonRequired", "reason is required"⟩

def errTransactionNotFound : GoError :=
  .sentinel ⟨"ErrTransactionNotFound", "transaction not found"⟩

def errTransactionNotIgnorable : GoError :=
  .sentinel ⟨"ErrTransactionNotIgnorable",
    "transaction cannot be ignored: only UNMATCHED transactions can be ignored"⟩

def Db.findTransaction (db : Db) (id : UUID) : Except GoError Transaction :=
  match db.transactions.find? id with
  | none => .error errNoRows
  | some tx => .ok tx

/-- A missing row is reported as such, any other error under the format. -/
def notFoundOr (format : String) (cause : GoError) : GoError :=
  if cause.Is errNoRows then errTransactionNotFound else .wrap format [] cause

def prepareIgnore (environment : IgnoreEnvironment) (db : Db) : Except GoError Transaction :=
  if trimSpace environment.input.reason = "" then .error errReasonRequired
  else do
    let existing ← (attempt (environment.faults .findTransaction)
      (db.findTransaction environment.input.transactionID)).mapError
        (notFoundOr "failed to find transaction: %w")
    if existing.status ≠ .unmatched then .error errTransactionNotIgnorable
    else return existing

/-- The update asks for the row again, but not for its status. -/
def Db.updateStatus (db : Db) (id : UUID) (status : TransactionStatus) :
    Except GoError (Transaction × Db) := do
  let tx ← db.findTransaction id
  return (setStatus [id] status tx, db.markStatus [id] status)

def finishIgnore (environment : IgnoreEnvironment) (db : Db) : Except GoError Transaction × Db :=
  match (attempt (environment.faults .updateStatus)
    (db.updateStatus environment.input.transactionID .ignored)).mapError
      (notFoundOr "failed to update transaction status: %w") with
  | .error cause => (.error cause, db)
  | .ok (updated, db') => (.ok updated, db')

def ignoreTransaction (environment : IgnoreEnvironment) (db : Db) :
    Except GoError Transaction × Db :=
  match prepareIgnore environment db with
  | .error cause => (.error cause, db)
  | .ok _ => finishIgnore environment db

/-! ## What was read -/

structure ManualPreparation.Selects (prepared : ManualPreparation) (input : ManualMatchInput) :
    Prop where
  nodup : input.transactionIDs.Nodup
  ids : (prepared.transactions.map (·.id)).Perm input.transactionIDs

theorem validateManualMatchInput_eq_ok (h : validateManualMatchInput input = .ok ()) :
    input.transactionIDs.Nodup := by
  unfold validateManualMatchInput at h
  split_ifs at h with _ _ hnodup
  exact hnodup

theorem checkManualTransactions_eq_ok {transactions : List Transaction}
    (h : checkManualTransactions input transactions = .ok ()) :
    transactions.length = input.transactionIDs.length ∧
      ∀ tx ∈ transactions, tx.status = .unmatched := by
  unfold checkManualTransactions at h
  split at h
  · cases h
  next hlength =>
  obtain ⟨_, hunmatched, -⟩ := bind_eq_ok.mp h
  unfold requireUnmatched at hunmatched
  split at hunmatched
  · cases hunmatched
  next hnone =>
  refine ⟨not_not.mp hlength, ?_⟩
  intro tx htx
  simpa using List.find?_eq_none.mp hnone tx htx

theorem Db.findByContextAndIDs_perm {transactionIDs : List UUID}
    (hlength : (db.findByContextAndIDs transactionIDs).length = transactionIDs.length) :
    ((db.findByContextAndIDs transactionIDs).map (·.id)).Perm
      transactionIDs := by
  have hnodup : ((db.findByContextAndIDs transactionIDs).map (·.id)).Nodup :=
    db.transactions.nodup.sublist (List.filter_sublist.map _)
  have hsubset : (db.findByContextAndIDs transactionIDs).map (·.id) ⊆
      transactionIDs := by
    intro id hid
    obtain ⟨tx, htx, rfl⟩ := List.mem_map.mp hid
    simpa using (List.mem_filter.mp htx).2
  apply (hnodup.subperm hsubset).perm_of_length_le
  rw [List.length_map, hlength]

theorem prepareManualMatch_eq_ok {environment : ManualEnvironment}
    {prepared : ManualPreparation} (h : prepareManualMatch environment db = .ok prepared) :
    prepared.Selects environment.input ∧ db.AllUnmatched environment.input.transactionIDs := by
  obtain ⟨⟨⟩, hvalid, h⟩ := bind_eq_ok.mp h
  obtain ⟨⟨⟩, -, h⟩ := bind_eq_ok.mp h
  obtain ⟨transactions, hfound, h⟩ := bind_eq_ok.mp h
  obtain ⟨⟨⟩, hcheck, h⟩ := bind_eq_ok.mp h
  obtain ⟨run, -, h⟩ := bind_eq_ok.mp h
  cases h
  obtain ⟨-, hrows⟩ := attempt_eq_ok.mp (wrapError_eq_ok.mp hfound)
  cases hrows
  obtain ⟨hlength, hunmatched⟩ := checkManualTransactions_eq_ok hcheck
  have hids := Db.findByContextAndIDs_perm hlength
  refine ⟨⟨validateManualMatchInput_eq_ok hvalid, hids⟩, ?_⟩
  intro id hid
  obtain ⟨tx, htx, rfl⟩ := List.mem_map.mp (hids.mem_iff.mpr hid)
  exact ⟨tx, (List.mem_filter.mp htx).1, rfl, hunmatched tx htx⟩

theorem prepareUnmatch_eq_ok {environment : UnmatchEnvironment}
    {group : MatchGroup} (h : prepareUnmatch environment db = .ok group) :
    group ∈ db.groups.rows ∧ group.id = environment.input.matchGroupID := by
  obtain ⟨⟨⟩, -, h⟩ := bind_eq_ok.mp h
  have hfind := (attempt_eq_ok.mp (mapError_eq_ok.mp h)).2
  unfold Db.findGroup at hfind
  split at hfind
  · cases hfind
  next found hfound =>
  cases hfind
  exact Table.find?_eq_some.mp (Option.filter_eq_some_iff.mp hfound).1

theorem prepareIgnore_eq_ok {environment : IgnoreEnvironment}
    {tx : Transaction} (h : prepareIgnore environment db = .ok tx) :
    db.AllUnmatched [environment.input.transactionID] := by
  unfold prepareIgnore at h
  split at h
  · cases h
  obtain ⟨existing, hfind, h⟩ := bind_eq_ok.mp h
  split at h
  · cases h
  next hstatus =>
  cases h
  have hfind := (attempt_eq_ok.mp (mapError_eq_ok.mp hfind)).2
  unfold Db.findTransaction at hfind
  split at hfind
  · cases hfind
  next found hfound =>
  cases hfind
  obtain ⟨hrow, hid⟩ := Table.find?_eq_some.mp hfound
  intro id hmem
  rw [List.mem_singleton.mp hmem]
  exact ⟨_, hrow, hid, not_not.mp hstatus⟩

end Matcher.Command
