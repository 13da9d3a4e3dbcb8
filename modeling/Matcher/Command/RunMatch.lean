import Matcher.Command.RunPreparation

/-!
# The RunMatch command

A call prepares the run, persists its row and then executes the rules.  A dry run
only completes the row; a committing run writes groups, items and statuses in one
transaction, whose last write completes the row.  Every failure after the row was
persisted names the step at which it occurred, its cause, the error the command
goes on with, and the run as it is in memory at that point.
-/

namespace Matcher.Command

open Foundation

/-! ## Surroundings of a call -/

inductive RunCall
  | acquireLock
  | createRun
  | beginTx
  | createGroups
  | createItems
  | markMatched
  | markPendingReview
  | createExceptions
  | feeVerification
  | enqueueEvents
  | updateRun
  | commitTx
  | updateDryRun
  | updateFailedRun
deriving DecidableEq, Repr

inductive Checkpoint
  | afterPrepare
  | beforeRules
  | proposal (index : ℕ)
  | afterRules
deriving DecidableEq, Repr

inductive LockCheck
  | beforeRun
  | beforeCommit
  | atCommit
  | inTx
  | atDryRun
deriving DecidableEq, Repr

structure RunMatchEnvironment extends PrepareEnvironment where
  runID : UUID
  newGroupID : ℕ → UUID
  faults : RunCall → Fault
  cancelled : Checkpoint → Fault
  lockLost : LockCheck → Bool

variable (environment : RunMatchEnvironment)

def RunMatchEnvironment.execution : RunEnvironment where
  ruleProvider := some environment.configuration.matchRules
  runID := environment.runID
  ctxErr := fun index => environment.cancelled (.proposal index)
  newGroupID := environment.newGroupID

def errLockAlreadyHeld : GoError :=
  .sentinel ⟨"ErrLockAlreadyHeld", "lock already held"⟩

def errMatchRunLocked : GoError :=
  .sentinel ⟨"ErrMatchRunLocked", "match run already in progress"⟩

def errLockRefreshFailed : GoError :=
  .sentinel ⟨"ErrLockRefreshFailed", "lock refresh failed"⟩

def errContextCancelled : GoError :=
  .sentinel ⟨"ErrContextCancelled", "operation cancelled"⟩

def MatchStats.entries (stats : MatchStats) : List (String × ℤ) := [
  ("candidates_left", stats.candidatesLeft),
  ("candidates_right", stats.candidatesRight),
  ("matches", stats.matches_),
  ("unmatched_left", stats.unmatchedLeft),
  ("unmatched_right", stats.unmatchedRight),
  ("unmatched_external", stats.unmatchedExternal),
  ("auto_matched_left", stats.autoMatchedLeft),
  ("auto_matched_right", stats.autoMatchedRight),
  ("pending_review_left", stats.pendingReviewLeft),
  ("pending_review_right", stats.pendingReviewRight),
  ("proposed_left", stats.proposedLeft),
  ("proposed_right", stats.proposedRight)]

/-! ## Failures -/

inductive FailedStep
  | cancelled (checkpoint : Checkpoint)
  | ruleExecution
  | lockCheck (check : LockCheck)
  | call (call : RunCall)
  | completion
deriving DecidableEq, Repr

structure RunFailure where
  step : FailedStep
  cause : GoError
  reported : GoError
  run : MatchRun
  finalized : Bool
deriving DecidableEq, Repr

def RunFailure.plain (step : FailedStep) (cause : GoError) (run : MatchRun) : RunFailure :=
  ⟨step, cause, cause, run, true⟩

/-- The transaction wraps the error of its body. -/
def RunFailure.inTx (failure : RunFailure) : RunFailure :=
  { failure with reported := .wrap "match run transaction: %w" [] failure.reported }

def RunMatchEnvironment.call {α : Type} (environment : RunMatchEnvironment) (call : RunCall)
    (run : MatchRun) (result : Except GoError α) : Except RunFailure α :=
  (attempt (environment.faults call) result).mapError fun cause =>
    .plain (.call call) cause run

def finalizeRunFailure {α : Type} (environment : RunMatchEnvironment)
    (run : MatchRun) (cause : GoError) (db : Db) : Except GoError α × Db :=
  match run.fail cause.text with
  | .error err => (.error (.wrap "failed to mark run as failed: %w" [] err), db)
  | .ok failed =>
    match attempt (environment.faults .updateFailedRun) (db.updateRun failed) with
    | .error updateErr =>
      (.error (.wrapTwo "updating match run failed: %w; original cause: %w" [] updateErr cause), db)
    | .ok db' => (.error cause, db')

/-! ## Commit -/

def createGroupsAndItems (run : MatchRun) (result : MatchExecutionResult) (db : Db) :
    Except RunFailure Db :=
  if 0 < result.groups.length then do
    let db ← environment.call .createGroups run (db.createGroups result.groups)
    environment.call .createItems run (.ok (db.createItems result.items))
  else .ok db

def markTransactions (call : RunCall) (status : TransactionStatus) (transactionIDs : List UUID)
    (run : MatchRun) (db : Db) : Except RunFailure Db :=
  if 0 < transactionIDs.length then
    environment.call call run (.ok (db.markStatus transactionIDs status))
  else .ok db

def persistMatchArtifacts (run : MatchRun) (result : MatchExecutionResult) (db : Db) :
    Except RunFailure Db := do
  let db ← createGroupsAndItems environment run result db
  let db ← markTransactions environment .markMatched .matched result.autoMatchedIDs run db
  let db ← markTransactions environment .markPendingReview .pendingReview
    result.pendingReviewIDs run db
  environment.call .createExceptions run (.ok ())
  environment.call .feeVerification run (.ok ())
  environment.call .enqueueEvents run (.ok (db.enqueue (confirmedEvents result.groups)))

def commitBody (run : MatchRun) (result : MatchExecutionResult) (db : Db) :
    Except RunFailure (MatchRun × Db) := do
  environment.call .beginTx run (.ok ())
  if environment.lockLost .inTx then
    .error (.plain (.lockCheck .inTx) errLockRefreshFailed run)
  else do
    let db ← persistMatchArtifacts environment run result db
    match run.complete result.stats.entries with
    | .error cause =>
      .error ⟨.completion, cause, .wrap "failed to complete match run: %w" [] cause, run, true⟩
    | .ok completed => do
        -- from here on the run in memory is completed
        let db ← environment.call .updateRun completed (db.updateRun completed)
        environment.call .commitTx completed (.ok ())
        return (completed, db)

def commitMatchResults (run : MatchRun) (result : MatchExecutionResult) (db : Db) :
    Except RunFailure (MatchRun × Db) :=
  if environment.lockLost .atCommit then
    .error (.plain (.lockCheck .atCommit) errLockRefreshFailed run)
  else (commitBody environment run result db).mapError RunFailure.inTx

def completeDryRun (run : MatchRun) (result : MatchExecutionResult) (db : Db) :
    Except RunFailure (MatchRun × Db) :=
  if environment.lockLost .atDryRun then
    .error (.plain (.lockCheck .atDryRun) errLockRefreshFailed run)
  else
    match run.complete result.stats.entries with
    | .error cause =>
      .error ⟨.completion, cause, .wrap "failed to complete match run: %w" [] cause, run, false⟩
    | .ok completed =>
      match attempt (environment.faults .updateDryRun) (db.updateRun completed) with
      | .error cause =>
        .error ⟨.call .updateDryRun, cause,
          .wrap "failed to update match run: %w" [] cause, completed,
          false⟩
      | .ok db' => .ok (completed, db')

/-! ## The command -/

abbrev RunOutcome := Except GoError (MatchRun × List MatchGroup)

def concludeRun (run : MatchRun) (result : MatchExecutionResult) (db : Db) :
    Except RunFailure (MatchRun × Db) :=
  if environment.input.mode = .dryRun then
    completeDryRun environment run result db
  else if environment.lockLost .beforeCommit then
    .error (.plain (.lockCheck .beforeCommit) errLockRefreshFailed run)
  else commitMatchResults environment run result db

def executeRun (mrc : MatchRunContext) (run : MatchRun) (db : Db) :
    Except RunFailure ((MatchRun × List MatchGroup) × Db) :=
  match environment.cancelled .beforeRules with
  | some cause =>
    .error ⟨.cancelled .beforeRules, cause,
      .wrapTwo "%w: before rule execution: %w" [] errContextCancelled cause,
      run, true⟩
  | none =>
    match executeMatchRules environment.execution mrc with
    | .error cause => .error (.plain .ruleExecution cause run)
    | .ok result =>
      match environment.cancelled .afterRules with
      | some cause =>
        .error ⟨.cancelled .afterRules, cause,
          .wrapTwo "%w: after rule execution: %w" [] errContextCancelled cause, run, true⟩
      | none => do
          let (completed, db) ← concludeRun environment run result db
          return ((completed, result.groups), db)

/-- The transaction of a failed run is rolled back before it is reported. -/
def finishRun (mrc : MatchRunContext) (run : MatchRun) (db : Db) : RunOutcome × Db :=
  match executeRun environment mrc run db with
  | .ok (outcome, db') => (.ok outcome, db')
  | .error failure =>
    if failure.finalized then
      finalizeRunFailure environment failure.run failure.reported db
    else (.error failure.reported, db)

def emptyRunStats (mrc : MatchRunContext) : MatchStats where
  toCandidateStats := mrc.stats
  matches_ := 0
  unmatchedLeft := mrc.leftCandidates.length
  unmatchedRight := mrc.rightCandidates.length
  unmatchedExternal := mrc.unmatchedIDs.length
  autoMatchedLeft := 0
  autoMatchedRight := 0
  pendingReviewLeft := 0
  pendingReviewRight := 0
  proposedLeft := 0
  proposedRight := 0

def createEmptyRunExceptions : Except GoError Unit :=
  if environment.input.mode = .commit then
    attempt (environment.faults .createExceptions) (.ok ())
  else .ok ()

/-- A run with an empty side creates and completes its row in one transaction. -/
def completeEmptyRun (mrc : MatchRunContext) (db : Db) : Except GoError (MatchRun × Db) := do
  let run ← wrapError "failed to create match run entity: %w"
    (newMatchRun environment.runID environment.input.contextID environment.input.mode)
  wrapError "match run transaction: %w" do
    attempt (environment.faults .beginTx) (.ok ())
    let db ← attempt (environment.faults .createRun) (db.createRun run)
    let completed ← wrapError "failed to complete match run: %w"
      (run.complete (emptyRunStats mrc).entries)
    let db ← attempt (environment.faults .updateRun) (db.updateRun completed)
    createEmptyRunExceptions environment
    attempt (environment.faults .commitTx) (.ok ())
    return (completed, db)

inductive RunBeginning
  | ended (outcome : RunOutcome)
  | created (mrc : MatchRunContext) (run : MatchRun)

def lockError (cause : GoError) : GoError :=
  if cause.Is errLockAlreadyHeld then errMatchRunLocked
  else .wrap "failed to acquire context lock: %w" [] cause

def openRun (db : Db) : Except GoError MatchRunContext := do
  validateRunMatchInput environment.input
  (attempt (environment.faults .acquireLock) (.ok ())).mapError lockError
  prepareMatchRun environment.toPrepareEnvironment db

def beginRun (db : Db) : RunBeginning × Db :=
  match openRun environment db with
  | .error cause => (.ended (.error cause), db)
  | .ok mrc =>
    match environment.cancelled .afterPrepare with
    | some cause =>
      (.ended (.error (.wrapTwo "%w: after prepare: %w" [] errContextCancelled cause)), db)
    | none =>
      if environment.lockLost .beforeRun then
        (.ended (.error errLockRefreshFailed), db)
      else if mrc.leftCandidates.length = 0 ∨ mrc.rightCandidates.length = 0 then
        match completeEmptyRun environment mrc db with
        | .error cause => (.ended (.error cause), db)
        | .ok (completed, db') => (.ended (.ok (completed, [])), db')
      else
        match newMatchRun environment.runID environment.input.contextID environment.input.mode with
        | .error cause =>
          (.ended (.error (.wrap "failed to create match run entity: %w" [] cause)), db)
        | .ok run =>
          match attempt (environment.faults .createRun) (db.createRun run) with
          | .error cause => (.ended (.error (.wrap "failed to persist match run: %w" [] cause)), db)
          | .ok db' => (.created mrc run, db')

def runMatch (db : Db) : RunOutcome × Db :=
  match beginRun environment db with
  | (.ended outcome, db') => (outcome, db')
  | (.created mrc run, db') => finishRun environment mrc run db'

/-! ## How a run begins -/

inductive BeginOutcome (environment : RunMatchEnvironment) (db : Db) : RunBeginning × Db → Prop
  | refused (cause : GoError) : BeginOutcome environment db (.ended (.error cause), db)
  | empty (mrc : MatchRunContext) (completed : MatchRun) (db' : Db)
      (hempty : completeEmptyRun environment mrc db = .ok (completed, db')) :
      BeginOutcome environment db (.ended (.ok (completed, [])), db')
  | created (mrc : MatchRunContext) (run : MatchRun) (db' : Db)
      (hopen : openRun environment db = .ok mrc)
      (hrun : newMatchRun environment.runID environment.input.contextID
        environment.input.mode = .ok run)
      (hcreate : db.createRun run = .ok db') :
      BeginOutcome environment db (.created mrc run, db')

theorem beginRun_outcome (db : Db) : BeginOutcome environment db (beginRun environment db) := by
  unfold beginRun
  split
  · exact .refused _
  next mrc hopen =>
  split
  · exact .refused _
  split
  · exact .refused _
  split
  · split
    · exact .refused _
    · next completed db' hempty => exact .empty mrc completed db' hempty
  split
  · exact .refused _
  next run hrun =>
  split
  · exact .refused _
  · next db' hcreate => exact .created mrc run db' hopen hrun (attempt_eq_ok.mp hcreate).2

theorem newMatchRun_eq_ok {runID contextID : UUID} {mode : MatchRunMode}
    {run : MatchRun} (h : newMatchRun runID contextID mode = .ok run) :
    run = ⟨runID, contextID, mode, .processing, [], none⟩ := by
  unfold newMatchRun at h
  split_ifs at h
  exact (Except.ok.inj h).symm

/-! ## A context with one pair -/

def pairDb : Db where
  transactions := ⟨[{ plainTransaction ⟨1⟩ 100 with sourceID := ⟨11⟩ },
    { plainTransaction ⟨2⟩ 100 with sourceID := ⟨12⟩ }], by decide⟩
  runs := Table.empty _
  groups := Table.empty _
  items := []
  outbox := []

def pairConfiguration : Configuration where
  context := .ok (some ⟨.oneToOne, true, none⟩)
  sources := .ok [⟨⟨11⟩, .left⟩, ⟨⟨12⟩, .right⟩]
  matchRules := fun _ => .ok [some ⟨⟨9⟩, 1, .exact, []⟩]
  feeRules := .ok []
  feeSchedules := .ok []

def pairRun (mode : MatchRunMode) (faults : RunCall → Fault) : RunMatchEnvironment where
  input := ⟨⟨7⟩, mode, none, none⟩
  configuration := pairConfiguration
  candidateLimit := 100
  candidatesFault := none
  runID := ⟨6⟩
  newGroupID := fun index => ⟨BitVec.ofNat 128 (100 + index)⟩
  faults := faults
  cancelled := fun _ => none
  lockLost := fun _ => false

end Matcher.Command
