import Matcher.Command.RunMatch
import Matcher.Matching.AllocationFailures

/-!
# The size limits of a run

The loader of a run accepts as many candidates as its limit says, and the engine
refuses more than its own limit on either side.  A run loads under the larger of
the two limits, so a backlog can be accepted that the engine then refuses.
-/

namespace Matcher.Command

open Foundation
open Matching

def maxCandidateSet : ℕ := 100000

def NotTooLarge (failure : GoError) : Prop :=
  ¬ failure.Is errCandidateSetTooLarge

/-! ## Executions -/

section Executions

variable {rules : List RuleDefinition} {left right : List CandidateTransaction} {format : String}

theorem notTooLarge_wrap {operands : List String} {cause : GoError} :
    NotTooLarge (.wrap format operands cause) ↔ NotTooLarge cause :=
  not_congr GoError.wrap_is

theorem failsOnly_wrapError {α : Type} {result : Except GoError α} :
    FailsOnly NotTooLarge (wrapError format result) ↔ FailsOnly NotTooLarge result := by
  cases result with
  | ok value => exact ⟨fun _ => .ok value, fun _ => .ok value⟩
  | error =>
    constructor
    · intro h
      exact .error (notTooLarge_wrap.mp (h _ rfl))
    · intro h
      exact .error (notTooLarge_wrap.mpr (h _ rfl))

theorem not_failsOnly_of_tooLarge {α : Type} {result : Except GoError α}
    (h : result = .error errCandidateSetTooLarge) : ¬ FailsOnly NotTooLarge result :=
  fun hfails => hfails _ h (GoError.Is.refl _)

theorem notTooLarge_of_negative {failure : GoError} (h : NegativeAllocation failure) :
    NotTooLarge failure := by
  unfold NotTooLarge
  rcases h with rfl | rfl <;> decide

theorem execute1v1_fits_iff (hrules : ∀ rule ∈ rules, rule.Decoded) :
    FailsOnly NotTooLarge (execute1v1 (some newEngine) rules left right) ↔
      newEngine.Admits rules left right := by
  constructor
  · intro hfails
    by_contra hsize
    refine not_failsOnly_of_tooLarge ?_ hfails
    rw [execute1v1, Engine.checkSize_eq_error hsize]
    rfl
  · intro hsize
    obtain ⟨proposals, hproposals⟩ :=
      execute1v1_returns (fun rule hrule => (hrules rule hrule).supported) hsize
    rw [hproposals]
    exact .ok proposals

theorem execute1vNDetailed_fits_iff (hrules : ∀ rule ∈ rules, rule.Decoded) :
    FailsOnly NotTooLarge (execute1vNDetailed (some newEngine) rules left right) ↔
      newEngine.Admits rules left right := by
  constructor
  · intro hfails
    by_contra hsize
    refine not_failsOnly_of_tooLarge ?_ hfails
    rw [execute1vNDetailed, Engine.checkSize_eq_error hsize]
    rfl
  · intro hsize failure hfailure
    have hlimit : newEngine.maxAllowed ≤ (maxAllocationCandidates : ℤ) := by decide
    have hright : right.length ≤ maxAllocationCandidates :=
      Int.ofNat_le.mp (hsize.right.trans hlimit)
    exact notTooLarge_of_negative
      (execute1vNDetailed_failsOnly hrules hsize hright failure hfailure)

theorem executeByContextTypeDetailed_fits_iff (hrules : ∀ rule ∈ rules, rule.Decoded)
    {contextType : ContextType} (htype : contextType = .oneToOne ∨ contextType = .oneToMany) :
    FailsOnly NotTooLarge (executeByContextTypeDetailed (some newEngine) rules
        left right contextType) ↔ newEngine.Admits rules left right := by
  rcases htype with rfl | rfl
  · exact FailsOnly.map_iff.trans (failsOnly_wrapError.trans (execute1v1_fits_iff hrules))
  · exact failsOnly_wrapError.trans (execute1vNDetailed_fits_iff hrules)

end Executions

/-! ## Runs -/

/-- The rule execution of a run, if the run gets there. -/
def ruleExecution (environment : RunMatchEnvironment) (db : Db) :
    Option (Except GoError EngineResult) :=
  match beginRun environment db, environment.cancelled .beforeRules with
  | (.created mrc _, _), none =>
    some (executeRulesDetailed environment.execution.ruleProvider mrc.rulesInput)
  | _, _ => none

/-- Nothing stops the prepared run before its rules: no side is empty, and its row is
stored. -/
structure ExecutesRules (environment : RunMatchEnvironment) (db : Db)
    (mrc : MatchRunContext) : Prop where
  prepared : environment.cancelled .afterPrepare = none
  begins : environment.cancelled .beforeRules = none
  locked : environment.lockLost .beforeRun = false
  left : mrc.leftCandidates ≠ []
  right : mrc.rightCandidates ≠ []
  stored : ∃ run db', newMatchRun environment.runID environment.input.contextID
    environment.input.mode = .ok run ∧
      attempt (environment.faults .createRun) (db.createRun run) = .ok db'

def MatchRunContext.FitsEngine (mrc : MatchRunContext) (definitions : List RuleDefinition) : Prop :=
  (definitions.length : ℤ) ≤ defaultMaxCandidates ∧
    (mrc.leftCandidates.length : ℤ) ≤ defaultMaxCandidates ∧
    (mrc.rightCandidates.length : ℤ) ≤ defaultMaxCandidates

section Run

variable {environment : RunMatchEnvironment} {db : Db} {mrc : MatchRunContext}
  {stored : List (Option MatchRule)} {definitions : List RuleDefinition}

theorem ruleExecution_eq_some_iff (hopen : openRun environment db = .ok mrc)
    {result : Except GoError EngineResult} :
    ruleExecution environment db = some result ↔ ExecutesRules environment db mrc ∧
      executeRulesDetailed (some environment.configuration.matchRules) mrc.rulesInput =
        result := by
  constructor
  · intro h
    unfold ruleExecution at h
    split at h
    next mrc' run db' hbegin hbegins =>
      simp only [beginRun, hopen] at hbegin
      split at hbegin
      next => cases hbegin
      next hprepared =>
        split_ifs at hbegin with hlost hempty
        · cases hbegin
        · split at hbegin <;> cases hbegin
        · split at hbegin
          next => cases hbegin
          next hrun =>
            split at hbegin
            next => cases hbegin
            next hcreate =>
              cases hbegin
              rw [not_or, List.length_eq_zero_iff, List.length_eq_zero_iff] at hempty
              exact ⟨⟨hprepared, hbegins, Bool.eq_false_of_not_eq_true hlost, hempty.1, hempty.2,
                run, db', hrun, hcreate⟩, Option.some.inj h⟩
    next => cases h
  · rintro ⟨⟨hprepared, hbegins, hlocked, hleft, hright, run, db', hrun, hcreate⟩, rfl⟩
    simp [ruleExecution, beginRun, hopen, hprepared, hbegins, hlocked, hleft, hright, hrun,
      hcreate, RunMatchEnvironment.execution]

theorem openRun_eq_ok (h : openRun environment db = .ok mrc) :
    mrc.contextID ≠ UUID.zero ∧ (mrc.contextType = .oneToOne ∨ mrc.contextType = .oneToMany) ∧
      mrc.leftCandidates.length ≤ environment.candidateLimit ∧
      mrc.rightCandidates.length ≤ environment.candidateLimit := by
  obtain ⟨⟨⟩, hinput, h⟩ := bind_eq_ok.mp h
  obtain ⟨⟨⟩, -, h⟩ := bind_eq_ok.mp h
  obtain ⟨⟨⟩, -, h⟩ := bind_eq_ok.mp h
  obtain ⟨⟨ctxInfo, sources⟩, hcontext, h⟩ := bind_eq_ok.mp h
  obtain ⟨⟨leftSourceIDs, rightSourceIDs⟩, -, h⟩ := bind_eq_ok.mp h
  obtain ⟨classified, hclassified, h⟩ := bind_eq_ok.mp h
  obtain ⟨fees, -, h⟩ := bind_eq_ok.mp h
  cases h
  refine ⟨(guard_eq_ok.mp hinput).1, ?_, ?_⟩
  · obtain ⟨found, -, hcontext⟩ := bind_eq_ok.mp hcontext
    split at hcontext
    next => cases hcontext
    next =>
      split_ifs at hcontext with _ htype
      obtain ⟨found, -, hcontext⟩ := bind_eq_ok.mp hcontext
      split_ifs at hcontext
      cases hcontext
      tauto
  · obtain ⟨candidates, hcandidates, hclassified⟩ := bind_eq_ok.mp hclassified
    cases hclassified
    obtain ⟨-, hlist⟩ := attempt_eq_ok.mp (wrapError_eq_ok.mp hcandidates)
    cases hlist
    have hlimit := List.length_take_le environment.candidateLimit
      (stableSort candidateLess (db.transactions.rows.filter fun tx =>
        tx.extractionStatus = .complete && tx.status = .unmatched &&
          inWindow environment.input.startDate environment.input.endDate tx))
    exact ⟨(List.length_filter_le _ _).trans hlimit, (List.length_filter_le _ _).trans hlimit⟩

theorem executeRulesDetailed_fits_iff (hopen : openRun environment db = .ok mrc)
    (hstored : environment.configuration.matchRules mrc.contextID = .ok stored)
    (hdecode : decodeRules stored = .ok definitions) :
    FailsOnly NotTooLarge
        (executeRulesDetailed (some environment.configuration.matchRules) mrc.rulesInput) ↔
      mrc.FitsEngine definitions := by
  obtain ⟨hcontext, htype, -⟩ := openRun_eq_ok hopen
  obtain ⟨hleft, hright⟩ := mrc.rulesInput.candidates_mirror
  have hadmits : newEngine.Admits definitions mrc.rulesInput.candidates.1
      mrc.rulesInput.candidates.2 ↔ mrc.FitsEngine definitions := by
    change _ ↔ _ ∧ (mrc.rulesInput.left.length : ℤ) ≤ _ ∧ (mrc.rulesInput.right.length : ℤ) ≤ _
    rw [hleft.length_eq, hright.length_eq]
    exact ⟨fun h => ⟨h.rules, h.left, h.right⟩, fun h => ⟨h.1, h.2.1, h.2.2⟩⟩
  have hload : loadRuleDefinitions environment.configuration.matchRules mrc.rulesInput.contextID =
      .ok definitions := by
    rw [loadRuleDefinitions, show mrc.rulesInput.contextID = mrc.contextID from rfl, hstored]
    exact hdecode
  have hinput : mrc.rulesInput.contextID ≠ UUID.zero := hcontext
  unfold executeRulesDetailed
  dsimp only
  rw [if_neg hinput, hload, ← hadmits]
  exact executeByContextTypeDetailed_fits_iff (decodeRules_decoded hdecode) htype

/--
The rule execution of a run does not report that the loaded set is too large exactly
when it is not reached, because a side is empty or the run stops before, or neither
the rules nor a side exceed the engine's limit.  A loader limit that is no larger
would guarantee it.
-/
theorem loaded_candidates_fit_iff (hopen : openRun environment db = .ok mrc)
    (hstored : environment.configuration.matchRules mrc.contextID = .ok stored)
    (hdecode : decodeRules stored = .ok definitions) :
    ((∀ failure, ruleExecution environment db = some (.error failure) →
        ¬ failure.Is errCandidateSetTooLarge) ↔
      (ExecutesRules environment db mrc → mrc.FitsEngine definitions)) ∧
    ((environment.candidateLimit : ℤ) ≤ defaultMaxCandidates →
      (definitions.length : ℤ) ≤ defaultMaxCandidates →
        ∀ failure, ruleExecution environment db = some (.error failure) →
          ¬ failure.Is errCandidateSetTooLarge) := by
  have hiff : (∀ failure, ruleExecution environment db = some (.error failure) →
      NotTooLarge failure) ↔
        (ExecutesRules environment db mrc → mrc.FitsEngine definitions) := by
    rw [← executeRulesDetailed_fits_iff hopen hstored hdecode]
    simp only [ruleExecution_eq_some_iff hopen]
    exact ⟨fun h hexecutes failure hfailure => h failure ⟨hexecutes, hfailure⟩,
      fun h failure hfailure => h hfailure.1 failure hfailure.2⟩
  refine ⟨hiff, ?_⟩
  intro hlimit hrules
  obtain ⟨-, -, hleft, hright⟩ := openRun_eq_ok hopen
  exact hiff.mpr fun _ => ⟨hrules, (Int.ofNat_le.mpr hleft).trans hlimit,
    (Int.ofNat_le.mpr hright).trans hlimit⟩

end Run

/-- The first row is on the right side, the others are on the left. -/
def backlogRow (index : ℕ) : Transaction :=
  { plainTransaction ⟨BitVec.ofNat 128 index⟩ 100 with
    sourceID := if index = 0 then ⟨12⟩ else ⟨11⟩ }

theorem backlogRow_ids_nodup {size : ℕ} (h : size ≤ 2 ^ 128) :
    (((List.range size).map backlogRow).map Transaction.id).Nodup := by
  rw [List.map_map]
  refine List.Nodup.map_on ?_ List.nodup_range
  intro first hfirst second hsecond heq
  have hvalue : BitVec.ofNat 128 first = BitVec.ofNat 128 second := congrArg UUID.value heq
  have hnat := congrArg BitVec.toNat hvalue
  rw [BitVec.toNat_ofNat, BitVec.toNat_ofNat,
    Nat.mod_eq_of_lt ((List.mem_range.mp hfirst).trans_le h),
    Nat.mod_eq_of_lt ((List.mem_range.mp hsecond).trans_le h)] at hnat
  exact hnat

def backlogDb (size : ℕ) (h : size + 1 ≤ 2 ^ 128) : Db :=
  { pairDb with transactions := ⟨(List.range (size + 1)).map backlogRow, backlogRow_ids_nodup h⟩ }

def backlogRun : RunMatchEnvironment :=
  { pairRun .commit (fun _ => none) with candidateLimit := maxCandidateSet }

theorem backlogDb_opened (size : ℕ) (h : size + 1 ≤ 2 ^ 128) (hlimit : size + 1 ≤ maxCandidateSet) :
    ∃ mrc, openRun backlogRun (backlogDb size h) = .ok mrc ∧ mrc.contextID = ⟨7⟩ ∧
      mrc.leftCandidates.length = size ∧ mrc.rightCandidates.length = 1 := by
  have hkept : (backlogDb size h).transactions.rows.filter (fun tx =>
      tx.extractionStatus = .complete && tx.status = .unmatched &&
        inWindow none none tx) = (List.range (size + 1)).map backlogRow := by
    apply List.filter_eq_self.mpr
    intro tx htx
    obtain ⟨index, -, rfl⟩ := List.mem_map.mp htx
    rfl
  have hlisted : ((backlogDb size h).listUnmatchedByContext none none maxCandidateSet).Perm
      (backlogRow 0 :: (List.range size).map (backlogRow ∘ Nat.succ)) := by
    rw [← List.map_map, ← List.map_cons, ← List.range_succ_eq_map]
    change ((stableSort candidateLess (List.filter _ _)).take _).Perm _
    rw [hkept, List.take_of_length_le]
    · exact stableSort_perm _ _
    · rw [(stableSort_perm _ _).length_eq]
      simpa using hlimit
  have hsource : ∀ index, (backlogRow (index + 1)).sourceID = ⟨11⟩ := fun _ => rfl
  refine ⟨_, rfl, rfl, ?_, ?_⟩
  · refine (hlisted.filter _).length_eq.trans ?_
    rw [List.filter_cons_of_neg (by decide),
      List.filter_eq_self.mpr (by simp [hsource, sourceIDs])]
    simp
  · refine (hlisted.filter _).length_eq.trans ?_
    rw [List.filter_cons_of_pos (by decide),
      List.filter_eq_nil_iff.mpr (by simp [hsource, sourceIDs])]
    rfl

theorem decodeRules_pairConfiguration :
    ∃ definitions, decodeRules [some ⟨⟨9⟩, 1, .exact, []⟩] = .ok definitions ∧
      definitions.length = 1 :=
  ⟨_, rfl, rfl⟩

theorem loaded_candidates_fit_iff_ten :
    ∃ mrc, openRun backlogRun (backlogDb 10 (by decide)) = .ok mrc ∧
      mrc.leftCandidates.length = 10 ∧ mrc.rightCandidates.length = 1 ∧
      ∀ failure, ruleExecution backlogRun (backlogDb 10 (by decide)) = some (.error failure) →
        ¬ failure.Is errCandidateSetTooLarge := by
  obtain ⟨mrc, hopen, hcontext, hleft, hright⟩ := backlogDb_opened 10 (by decide) (by decide)
  obtain ⟨definitions, hdecode, hrules⟩ := decodeRules_pairConfiguration
  refine ⟨mrc, hopen, hleft, hright, ?_⟩
  refine (loaded_candidates_fit_iff hopen rfl hdecode).1.mpr fun _ => ?_
  rw [MatchRunContext.FitsEngine, hleft, hright, hrules]
  decide

/-- The loader accepts five thousand and one candidates of the left side and one of the right, and
the engine refuses them. -/
theorem loaded_backlog_refused :
    ∃ mrc failure, openRun backlogRun (backlogDb 5001 (by decide)) = .ok mrc ∧
      mrc.leftCandidates.length = 5001 ∧ mrc.rightCandidates.length = 1 ∧
      ruleExecution backlogRun (backlogDb 5001 (by decide)) = some (.error failure) ∧
      failure.Is errCandidateSetTooLarge := by
  obtain ⟨mrc, hopen, hcontext, hleft, hright⟩ := backlogDb_opened 5001 (by decide) (by decide)
  obtain ⟨definitions, hdecode, -⟩ := decodeRules_pairConfiguration
  have hexecutes : ExecutesRules backlogRun (backlogDb 5001 (by decide)) mrc :=
    ⟨rfl, rfl, rfl, List.ne_nil_of_length_pos (by omega), List.ne_nil_of_length_pos (by omega),
      _, _, rfl, rfl⟩
  have hlarge : ¬ FailsOnly NotTooLarge
      (executeRulesDetailed (some backlogRun.configuration.matchRules) mrc.rulesInput) := by
    rw [executeRulesDetailed_fits_iff hopen rfl hdecode]
    rintro ⟨-, hsize, -⟩
    rw [hleft] at hsize
    exact absurd hsize (by decide)
  simp only [FailsOnly, NotTooLarge, not_forall, not_not] at hlarge
  obtain ⟨failure, hfailure, his⟩ := hlarge
  exact ⟨mrc, failure, hopen, hleft, hright,
    (ruleExecution_eq_some_iff hopen).mpr ⟨hexecutes, hfailure⟩, his⟩

end Matcher.Command
