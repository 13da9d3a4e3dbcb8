import Matcher.Command.RunMatch

/-!
# Failures after the row of a run was persisted

A failing step reports its error through `finalizeRunFailure`, which can fail the
run only while it is processing in memory.  The final update of the row comes
after the run was completed in memory, so a failure of that update, of the
transaction's commit or of the update of a dry run leaves the row processing.
-/

namespace Matcher.Command

open Foundation

variable {run : MatchRun} {environment : RunMatchEnvironment} {db : Db} {failure : RunFailure}
  {row : MatchRun} {mrc : MatchRunContext} {reason : String} {call : RunCall}

/-! ## Rows of runs -/

theorem Db.createRun_find {db' : Db} (h : db.createRun run = .ok db') :
    db'.runs.find? run.id = some run := by
  obtain ⟨table, htable, rfl⟩ := Db.createRun_eq_ok h
  obtain ⟨hrows, -, -⟩ := Table.insertAll_eq_some htable
  refine Table.find?_eq_some.mpr ⟨?_, rfl⟩
  rw [hrows]
  exact List.mem_append_right _ (List.mem_singleton_self run)

theorem Db.updateRun_of_find (h : db.runs.find? run.id = some row) :
    ∃ db', db.updateRun run = .ok db' ∧ db'.runs.find? run.id = some (updateRunRow run row) := by
  refine ⟨{ db with runs := db.runs.modify (updateRunRow run) (updateRunRow_id run) },
    by rw [Db.updateRun, h], ?_⟩
  obtain ⟨hrow, hid⟩ := Table.find?_eq_some.mp h
  exact Table.find?_eq_some.mpr
    ⟨(Table.mem_modify (updateRunRow_id run)).mpr ⟨row, hrow, rfl⟩, by rw [updateRunRow_id, hid]⟩

/-! ## Where a failure comes from -/

/-- The run in memory is still processing when the step fails. -/
def FailedStep.beforeCompletion : FailedStep → Bool
  | .call .updateRun | .call .commitTx | .call .updateDryRun => false
  | _ => true

structure InBody (run : MatchRun) (failure : RunFailure) : Prop where
  before : failure.step.beforeCompletion = true
  finalized : failure.finalized = true
  run_eq : failure.run = run
  carries : failure.reported.Is failure.cause

structure Recordable (run : MatchRun) (failure : RunFailure) : Prop
    extends InBody run failure where
  text_ne : failure.reported.text ≠ ""

structure Unrecordable (failure : RunFailure) : Prop where
  after : failure.step.beforeCompletion = false
  lost : failure.finalized = false ∨ failure.run.status ≠ .processing

theorem MatchRun.complete_of_processing (h : run.status = .processing) (stats : List (String × ℤ)) :
    run.complete stats = .ok { run with
      status := .completed, failureReason := none, stats := stats } := by
  unfold MatchRun.complete
  rw [if_neg (not_not_intro h)]

theorem RunMatchEnvironment.call_failsOnly {α : Type} (environment : RunMatchEnvironment)
    (run : MatchRun) (result : Except GoError α)
    (hcall : (FailedStep.call call).beforeCompletion = true) :
    FailsOnly (InBody run) (environment.call call run result) := by
  unfold RunMatchEnvironment.call
  cases attempt (environment.faults call) result with
  | error cause => exact .error ⟨hcall, rfl, rfl, GoError.Is.refl cause⟩
  | ok value => exact .ok value

theorem markTransactions_failsOnly (environment : RunMatchEnvironment)
    {status : TransactionStatus} {transactionIDs : List UUID} (run : MatchRun)
    (hcall : (FailedStep.call call).beforeCompletion = true) :
    FailsOnly (InBody run) (markTransactions environment call status transactionIDs run db) := by
  unfold markTransactions
  split
  · exact environment.call_failsOnly run _ hcall
  · exact .ok _

theorem persistMatchArtifacts_failsOnly (environment : RunMatchEnvironment)
    (run : MatchRun) (result : MatchExecutionResult) (db : Db) :
    FailsOnly (InBody run) (persistMatchArtifacts environment run result db) := by
  refine .bind ?_ fun _ => ?_
  · unfold createGroupsAndItems
    split
    · refine .bind (environment.call_failsOnly run _ rfl) fun _ => ?_
      exact environment.call_failsOnly run _ rfl
    · exact .ok _
  refine .bind (markTransactions_failsOnly environment run rfl) fun _ => ?_
  refine .bind (markTransactions_failsOnly environment run rfl) fun _ => ?_
  refine .bind (environment.call_failsOnly run _ rfl) fun _ => ?_
  refine .bind (environment.call_failsOnly run _ rfl) fun _ => ?_
  exact environment.call_failsOnly run _ rfl

theorem commitBody_failsOnly (environment : RunMatchEnvironment)
    (hrun : run.status = .processing) (result : MatchExecutionResult) (db : Db) :
    FailsOnly (fun failure => InBody run failure ∨ Unrecordable failure)
      (commitBody environment run result db) := by
  -- the update and the commit see the run that was completed in memory
  have hlate : ∀ {α : Type} (call : RunCall) (outcome : Except GoError α),
      (FailedStep.call call).beforeCompletion = false →
      FailsOnly (fun failure => InBody run failure ∨ Unrecordable failure)
        (environment.call call { run with
          status := .completed
          failureReason := none
          stats := result.stats.entries } outcome) := by
    intro α call outcome hcall
    unfold RunMatchEnvironment.call
    cases attempt (environment.faults call) outcome with
    | error =>
      refine .error (Or.inr ⟨hcall, Or.inr ?_⟩)
      intro hstatus
      cases hstatus
    | ok value => exact .ok value
  have hearly : ∀ {α : Type} {computation : Except RunFailure α},
      FailsOnly (InBody run) computation →
      FailsOnly (fun failure => InBody run failure ∨ Unrecordable failure) computation :=
    fun h failure hfailure => Or.inl (h failure hfailure)
  unfold commitBody
  refine .bind (hearly (environment.call_failsOnly run _ rfl)) fun _ => ?_
  split
  · exact .error (Or.inl ⟨rfl, rfl, rfl, GoError.Is.refl _⟩)
  · refine .bind (hearly (persistMatchArtifacts_failsOnly environment run result db)) fun _ => ?_
    rw [MatchRun.complete_of_processing hrun]
    refine .bind (hlate _ _ rfl) fun _ => ?_
    exact .bind (hlate _ _ rfl) fun _ => .ok _

/-! ## Messages of the rule execution -/

def HasText (failure : GoError) : Prop := failure.text ≠ ""

instance : DecidablePred HasText := fun failure =>
  inferInstanceAs (Decidable (failure.text ≠ ""))

theorem wrapError_hasText {α : Type} {format : String} {character : Char} {rest : List Char}
    (hformat : format.toList = character :: rest) (h : character ≠ '%')
    (result : Except GoError α) : FailsOnly HasText (wrapError format result) := by
  cases result with
  | error cause => exact .error (GoError.text_wrap_ne_empty hformat h [] cause)
  | ok value => exact .ok value

theorem decodeRules_hasText (sources : List (Option Matching.MatchRule)) :
    FailsOnly HasText (decodeRules sources) := by
  induction sources with
  | nil => exact .ok _
  | cons _ _ ih =>
    refine .bind (wrapError_hasText rfl (by decide) _) fun _ => ?_
    exact .bind ih fun _ => .ok _

theorem errUnsupportedContextType_text : errUnsupportedContextType.text ≠ "" := by decide

theorem executeByContextTypeDetailed_hasText (engine : Option Matching.Engine)
    (rules : List Matching.RuleDefinition) (left right : List Matching.CandidateTransaction)
    (contextType : ContextType) :
    FailsOnly HasText (executeByContextTypeDetailed engine rules left right contextType) := by
  unfold executeByContextTypeDetailed
  split
  · exact .error (by decide)
  split
  · exact wrapError_hasText rfl (by decide) _
  · exact .bind (wrapError_hasText rfl (by decide) _) fun _ => .ok _
  · exact .bind (wrapError_hasText rfl (by decide) _) fun _ => .ok _
  · exact .error (GoError.text_wrap_cause_ne_empty rfl _ errUnsupportedContextType_text)
  · exact .error (GoError.text_wrap_cause_ne_empty rfl _ errUnsupportedContextType_text)

theorem executeMatchRules_hasText (environment : RunEnvironment) (mrc : MatchRunContext) :
    FailsOnly HasText (executeMatchRules environment mrc) := by
  refine .bind ?_ fun _ =>
    .bind (wrapError_hasText rfl (by decide) _) fun _ => .ok _
  unfold executeRulesDetailed
  split
  · exact .error (by decide)
  split
  · exact .error (by decide)
  refine .bind (.bind (wrapError_hasText rfl (by decide) _) fun _ =>
    decodeRules_hasText _) fun _ => ?_
  exact executeByContextTypeDetailed_hasText _ _ _ _ _

/-! ## Recording a failure -/

theorem InBody.inTx (h : InBody run failure) : Recordable run failure.inTx :=
  ⟨⟨h.before, h.finalized, h.run_eq, h.carries.wrap _ _⟩,
    GoError.text_wrap_ne_empty rfl (by decide) _ _⟩

theorem concludeRun_failsOnly (environment : RunMatchEnvironment)
    (hrun : run.status = .processing) (result : MatchExecutionResult) (db : Db) :
    FailsOnly (fun failure => Recordable run failure ∨ Unrecordable failure)
      (concludeRun environment run result db) := by
  have htext : errLockRefreshFailed.text ≠ "" := by decide
  have hlock : ∀ check, Recordable run (.plain (.lockCheck check) errLockRefreshFailed run) :=
    fun check => ⟨⟨rfl, rfl, rfl, GoError.Is.refl _⟩, htext⟩
  unfold concludeRun
  split
  · unfold completeDryRun
    split
    · exact .error (Or.inl (hlock _))
    rw [MatchRun.complete_of_processing hrun]
    dsimp only
    split
    · exact .error (Or.inr ⟨rfl, Or.inl rfl⟩)
    · exact .ok _
  split
  · exact .error (Or.inl (hlock _))
  unfold commitMatchResults
  split
  · exact .error (Or.inl (hlock _))
  refine (commitBody_failsOnly environment hrun result db).mapError ?_
  rintro failure (hbody | ⟨hafter, hlost⟩)
  · exact Or.inl hbody.inTx
  · exact Or.inr ⟨hafter, hlost⟩

theorem executeRun_failsOnly (environment : RunMatchEnvironment)
    (mrc : MatchRunContext) (hrun : run.status = .processing) (db : Db) :
    FailsOnly (fun failure => Recordable run failure ∨ Unrecordable failure)
      (executeRun environment mrc run db) := by
  have hcancelled : errContextCancelled.text ≠ "" := by decide
  unfold executeRun
  split
  · exact .error (Or.inl ⟨⟨rfl, rfl, rfl, Or.inr (Or.inr (GoError.Is.refl _))⟩,
      GoError.text_wrapTwo_ne_empty rfl _ hcancelled _⟩)
  split
  · next cause hcause =>
    exact .error (Or.inl ⟨⟨rfl, rfl, rfl, GoError.Is.refl cause⟩,
      executeMatchRules_hasText _ _ cause hcause⟩)
  split
  · exact .error (Or.inl ⟨⟨rfl, rfl, rfl, Or.inr (Or.inr (GoError.Is.refl _))⟩,
      GoError.text_wrapTwo_ne_empty rfl _ hcancelled _⟩)
  · exact .bind (concludeRun_failsOnly environment hrun _ db) fun _ => .ok _

theorem MatchRun.fail_of_processing (hrun : run.status = .processing) (hreason : reason ≠ "") :
    run.fail reason = .ok { run with status := .failed, failureReason := some reason } := by
  unfold MatchRun.fail
  rw [if_neg (not_not_intro hrun), if_neg hreason]

theorem MatchRun.fail_of_not_processing (hrun : run.status ≠ .processing) :
    run.fail reason = .error errMatchRunMustBeProcessingToFail := by
  unfold MatchRun.fail
  rw [if_pos hrun]

theorem finalizeRunFailure_of_processing {α : Type} {cause : GoError}
    (hupdate : environment.faults .updateFailedRun = none) (hrun : run.status = .processing)
    (htext : cause.text ≠ "") (hrow : db.runs.find? run.id = some row) :
    ∃ db' row', (finalizeRunFailure environment run cause db :
        Except GoError α × Db) = (.error cause, db') ∧
      db'.runs.find? run.id = some row' ∧ row'.status = .failed := by
  have hid : row.id = run.id := (Table.find?_eq_some.mp hrow).2
  let failed : MatchRun := { run with status := .failed, failureReason := some cause.text }
  have hfailedRow : db.runs.find? failed.id = some row := hrow
  obtain ⟨db', hdb', hrow'⟩ := Db.updateRun_of_find hfailedRow
  refine ⟨db', _, ?_, hrow', ?_⟩
  · unfold finalizeRunFailure
    rw [MatchRun.fail_of_processing hrun htext, hupdate]
    dsimp only [attempt]
    rw [hdb']
  · unfold updateRunRow
    rw [if_pos hid]

/-- The failure of a call after its row was persisted, if it has one. -/
def runFailure (environment : RunMatchEnvironment) (db : Db) : Option RunFailure :=
  match beginRun environment db with
  | (.ended _, _) => none
  | (.created mrc run, db') =>
    match executeRun environment mrc run db' with
    | .ok _ => none
    | .error failure => some failure

theorem finishRun_of_unrecordable (hexecute : executeRun environment mrc run db = .error failure)
    (hlost : Unrecordable failure) : (finishRun environment mrc run db).2 = db := by
  unfold finishRun
  rw [hexecute]
  dsimp only
  rcases hlost.lost with hreturned | hcompleted
  · rw [hreturned, if_neg Bool.false_ne_true]
  · split
    case isTrue =>
      unfold finalizeRunFailure
      rw [MatchRun.fail_of_not_processing hcompleted]
    case isFalse => rfl

theorem finishRun_failure_recorded {db' : Db} {err : GoError} (hrun : run.status = .processing)
    (hstored : db.runs.find? run.id = some run)
    (hupdate : environment.faults .updateFailedRun = none)
    (hexecute : executeRun environment mrc run db = .error failure)
    (h : finishRun environment mrc run db = (.error err, db'))
    (hrow : db'.runs.find? run.id = some row) :
    (row.status = .failed ∧ err.Is failure.cause) ↔ failure.step.beforeCompletion = true := by
  rcases executeRun_failsOnly environment mrc hrun db failure hexecute with
    hrecord | hlost
  · unfold finishRun at h
    rw [hexecute] at h
    dsimp only at h
    rw [hrecord.finalized, if_pos rfl, hrecord.run_eq] at h
    obtain ⟨db₁, row', hfinal, hrow', hfailed⟩ :=
      finalizeRunFailure_of_processing hupdate hrun hrecord.text_ne hstored
    cases hfinal.symm.trans h
    rw [hrow] at hrow'
    cases hrow'
    exact iff_of_true ⟨hfailed, hrecord.carries⟩ hrecord.before
  · have hunchanged := finishRun_of_unrecordable hexecute hlost
    rw [h] at hunchanged
    cases hunchanged
    rw [hstored] at hrow
    cases hrow
    refine iff_of_false ?_ (by simp [hlost.after])
    rintro ⟨hfailed, -⟩
    rw [hrun] at hfailed
    cases hfailed

/--
A call that fails after its row was persisted leaves the row failed and returns
the cause exactly when the failing step came before the run was completed in
memory.
-/
theorem runMatch_failure_recorded_iff {environment : RunMatchEnvironment} {db db' : Db}
    {err : GoError} {row : MatchRun} (hnew : db.runs.find? environment.runID = none)
    (h : runMatch environment db = (.error err, db'))
    (hrow : db'.runs.find? environment.runID = some row)
    (hupdate : environment.faults .updateFailedRun = none) :
    ∃ failure, runFailure environment db = some failure ∧
      ((row.status = .failed ∧ err.Is failure.cause) ↔ failure.step.beforeCompletion = true) := by
  unfold runMatch at h
  unfold runFailure
  have hbegin := beginRun_outcome environment db
  generalize beginRun environment db = beginning at h hbegin ⊢
  cases hbegin with
  | refused =>
    cases h
    rw [hnew] at hrow
    cases hrow
  | empty => cases h
  | created mrc run db₁ _ hrun hcreate =>
    have hstored := Db.createRun_find hcreate
    have hrun := newMatchRun_eq_ok hrun
    have hid : run.id = environment.runID := by rw [hrun]
    have hprocessing : run.status = .processing := by rw [hrun]
    dsimp only at h ⊢
    rw [← hid] at hrow
    cases hexecute : executeRun environment mrc run db₁ with
    | ok =>
      unfold finishRun at h
      rw [hexecute] at h
      cases h
    | error failure =>
      exact ⟨failure, rfl, finishRun_failure_recorded hprocessing hstored hupdate hexecute h hrow⟩

def errConnectionLost : GoError :=
  .sentinel ⟨"errConnectionLost", "connection lost"⟩

def failingOnly (call : RunCall) : RunCall → Fault := fun other =>
  if other = call then some errConnectionLost else none

theorem runMatch_failure_recorded_iff_markMatched :
    ∃ err db' row failure,
      runMatch (pairRun .commit (failingOnly .markMatched)) pairDb = (.error err, db') ∧
        db'.runs.find? ⟨6⟩ = some row ∧
        runFailure (pairRun .commit (failingOnly .markMatched)) pairDb = some failure ∧
        failure.step = .call .markMatched ∧ row.status = .failed ∧ err.Is failure.cause := by
  have hrun : (runMatch (pairRun .commit (failingOnly .markMatched))
      pairDb).1 = .error (.wrap "match run transaction: %w" []
        errConnectionLost) := by decide +kernel
  have hstored : ((runMatch (pairRun .commit (failingOnly .markMatched))
      pairDb).2.runs.find? ⟨6⟩).isSome := by decide +kernel
  have hstep : (runFailure (pairRun .commit (failingOnly .markMatched))
      pairDb).map (·.step) = some (.call .markMatched) := by decide +kernel
  obtain ⟨row, hrow⟩ := Option.isSome_iff_exists.mp hstored
  obtain ⟨failure, hfailure, hiff⟩ := runMatch_failure_recorded_iff
    (by decide +kernel) (Prod.ext hrun rfl) hrow rfl
  rw [hfailure, Option.map_some, Option.some.injEq] at hstep
  obtain ⟨hfailed, hcarries⟩ := hiff.mpr (by rw [hstep]; rfl)
  exact ⟨_, _, row, failure, Prod.ext hrun rfl, hrow, hfailure, hstep, hfailed, hcarries⟩

/--
The final update of the row fails: the run stays processing, and the returned
error names the transition that was refused instead of the cause.
-/
theorem runMatch_final_update_failure_lost :
    (runMatch (pairRun .commit (failingOnly .updateRun)) pairDb).1 =
        .error (.wrap "failed to mark run as failed: %w" [] errMatchRunMustBeProcessingToFail) ∧
      ((runMatch (pairRun .commit (failingOnly .updateRun)) pairDb).2.runs.find?
        ⟨6⟩).map (·.status) = some .processing ∧
      ¬ (GoError.wrap "failed to mark run as failed: %w" []
        errMatchRunMustBeProcessingToFail).Is errConnectionLost := by
  decide +kernel

end Matcher.Command
