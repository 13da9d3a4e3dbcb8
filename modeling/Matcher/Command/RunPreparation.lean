import Mathlib.Data.Finset.Card
import Mathlib.Data.List.Dedup
import Matcher.Command.Execution
import Matcher.Command.Store

/-!
# Preparation of a run

A run loads its context, its sources, the unmatched transactions of the context
and the fee rules, and sorts the transactions by the side of their source.  The
candidates of a prepared run are distinct rows that were unmatched when it read
them.
-/

namespace Matcher.Command

open Foundation
open Fee (FeeRule FeeSchedule MatchingSide NormalizationMode)

/-! ## Configuration -/

structure ReconciliationContextInfo where
  type : ContextType
  active : Bool
  feeNormalization : Option NormalizationMode
deriving DecidableEq, Repr

structure SourceInfo where
  id : UUID
  side : MatchingSide
deriving DecidableEq, Repr

structure Configuration where
  context : Except GoError (Option ReconciliationContextInfo)
  sources : Except GoError (List SourceInfo)
  matchRules : MatchRuleProvider
  feeRules : Except GoError (List FeeRule)
  feeSchedules : Except GoError (List FeeSchedule)

structure RunMatchInput where
  contextID : UUID
  mode : MatchRunMode
  startDate : Option Matching.Instant
  endDate : Option Matching.Instant
deriving DecidableEq, Repr

def errRunMatchContextIDRequired : GoError :=
  .sentinel ⟨"ErrRunMatchContextIDRequired", "context id is required"⟩

def errMatchRunModeRequired : GoError :=
  .sentinel ⟨"ErrMatchRunModeRequired", "match run mode is required"⟩

def errContextNotFound : GoError :=
  .sentinel ⟨"ErrContextNotFound", "context not found"⟩

def errContextNotActive : GoError :=
  .sentinel ⟨"ErrContextNotActive", "context is not active"⟩

def errNoSourcesConfigured : GoError :=
  .sentinel ⟨"ErrNoSourcesConfigured", "no sources configured for context"⟩

def errAtLeastTwoSourcesRequired : GoError :=
  .sentinel ⟨"ErrAtLeastTwoSourcesRequired", "at least two sources are required"⟩

def errSourceSideRequiredForMatching : GoError :=
  .sentinel ⟨"ErrSourceSideRequiredForMatching",
    "all sources must declare side LEFT or RIGHT before matching"⟩

def errOneToOneRequiresExactlyOneLeftSource : GoError :=
  .sentinel ⟨"ErrOneToOneRequiresExactlyOneLeftSource",
    "1:1 contexts require exactly one LEFT source"⟩

def errOneToOneRequiresExactlyOneRightSource : GoError :=
  .sentinel ⟨"ErrOneToOneRequiresExactlyOneRightSource",
    "1:1 contexts require exactly one RIGHT source"⟩

def errOneToManyRequiresExactlyOneLeftSource : GoError :=
  .sentinel ⟨"ErrOneToManyRequiresExactlyOneLeftSource",
    "1:N contexts require exactly one LEFT source"⟩

def errAtLeastOneRightSourceRequired : GoError :=
  .sentinel ⟨"ErrAtLeastOneRightSourceRequired", "at least one RIGHT source is required"⟩

def errFeeRulesReferenceMissingSchedules : GoError :=
  .sentinel ⟨"ErrFeeRulesReferenceMissingSchedules", "fee rules reference missing fee schedules"⟩

def errFeeRulesRequiredForNormalization : GoError :=
  .sentinel ⟨"ErrFeeRulesRequiredForNormalization",
    "fee normalization is enabled but no fee rules are configured"⟩

def errFeeRuleCountLimitExceeded : GoError :=
  .sentinel ⟨"ErrFeeRuleCountLimitExceeded",
    "fee rule count exceeds the maximum allowed per context"⟩

/-! ## Sources -/

def loadContextAndSources (configuration : Configuration) :
    Except GoError (ReconciliationContextInfo × List SourceInfo) := do
  let found ← wrapError "failed to load reconciliation context: %w" configuration.context
  match found with
  | none => .error errContextNotFound
  | some ctxInfo =>
    if !ctxInfo.active then .error errContextNotActive
    else if ctxInfo.type ≠ .oneToOne ∧ ctxInfo.type ≠ .oneToMany then
      .error (.wrap "%w: %s" [ctxInfo.type.text] errUnsupportedContextType)
    else do
      let sources ← wrapError "failed to load reconciliation sources: %w" configuration.sources
      if sources.length = 0 then .error errNoSourcesConfigured
      else return (ctxInfo, sources)

def validateSourceCountForContextType (contextType : ContextType) (leftCount rightCount : ℕ) :
    Except GoError Unit :=
  match contextType with
  | .oneToOne =>
    if leftCount ≠ 1 then .error errOneToOneRequiresExactlyOneLeftSource
    else if rightCount ≠ 1 then
      .error errOneToOneRequiresExactlyOneRightSource
    else .ok ()
  | .oneToMany =>
    if leftCount ≠ 1 then .error errOneToManyRequiresExactlyOneLeftSource
    else if rightCount = 0 then .error errAtLeastOneRightSourceRequired
    else .ok ()
  | .manyToMany => .error (.wrap "%w: %s" [contextType.text] errUnsupportedContextType)
  | .other _ => .ok ()

def sourceIDs (sources : List SourceInfo) : Finset UUID :=
  (sources.map (·.id)).toFinset

def classifySources (contextType : ContextType) (sources : List SourceInfo) :
    Except GoError (Finset UUID × Finset UUID) :=
  if sources.length < 2 then .error errAtLeastTwoSourcesRequired
  else if sources.any fun source => !source.side.isExclusive then
    .error errSourceSideRequiredForMatching
  else do
    let leftSourceIDs := sourceIDs (sources.filter fun s => s.side = .left)
    let rightSourceIDs := sourceIDs (sources.filter fun s => s.side ≠ .left)
    validateSourceCountForContextType contextType leftSourceIDs.card rightSourceIDs.card
    return (leftSourceIDs, rightSourceIDs)

/-! ## Candidates -/

structure ClassifiedCandidates where
  left : List Transaction
  right : List Transaction
  external : List Transaction

/-- A transaction of no configured source is external. -/
def classifyCandidates (leftSourceIDs rightSourceIDs : Finset UUID)
    (candidates : List Transaction) : ClassifiedCandidates where
  left := candidates.filter fun tx => tx.sourceID ∈ leftSourceIDs
  right := candidates.filter fun tx =>
    tx.sourceID ∉ leftSourceIDs ∧ tx.sourceID ∈ rightSourceIDs
  external := candidates.filter fun tx =>
    tx.sourceID ∉ leftSourceIDs ∧ tx.sourceID ∉ rightSourceIDs

/-! ## Fee rules -/

structure FeeInputs where
  leftRules : List FeeRule
  rightRules : List FeeRule
  allSchedules : UUID → Option FeeSchedule

def maxFeeRulesPerContext : ℕ := 200

def sortFeeRulesByPriority (rules : List FeeRule) : List FeeRule :=
  stableSort (fun first second => first.priority < second.priority) rules

def loadFeeRulesAndSchedules (configuration : Configuration) : Except GoError FeeInputs := do
  let rules ← wrapError "loading fee rules: %w" configuration.feeRules
  if rules.length = 0 then return ⟨[], [], fun _ => none⟩
  else if maxFeeRulesPerContext < rules.length then
    .error errFeeRuleCountLimitExceeded
  else do
    let scheduleIDs := (rules.map (·.feeScheduleID)).dedup
    let stored ← wrapError "loading fee schedules: %w" configuration.feeSchedules
    let schedules := stored.filter fun schedule => schedule.id ∈ scheduleIDs
    if schedules.length ≠ scheduleIDs.length then
      .error (.wrap "loading fee schedules: %w: %d missing references"
        [Int.repr (scheduleIDs.length - schedules.length)]
        errFeeRulesReferenceMissingSchedules)
    else
      let (leftRules, rightRules) := Fee.splitRulesBySide (sortFeeRulesByPriority rules)
      return ⟨leftRules, rightRules, indexBy (·.id) id schedules⟩

def prepareFeeVerificationInputs (configuration : Configuration) (feeNorm : NormalizationMode) :
    Except GoError FeeInputs := do
  let inputs ← loadFeeRulesAndSchedules configuration
  if feeNorm ≠ .none ∧ inputs.leftRules.length = 0 ∧ inputs.rightRules.length = 0 then
    .error errFeeRulesRequiredForNormalization
  else return inputs

/-! ## The prepared run -/

structure PrepareEnvironment where
  input : RunMatchInput
  configuration : Configuration
  candidateLimit : ℕ
  candidatesFault : Fault

def loadAndClassifyCandidates (environment : PrepareEnvironment) (db : Db)
    (leftSourceIDs rightSourceIDs : Finset UUID) :
    Except GoError ClassifiedCandidates := do
  let candidates ← wrapError "failed to load candidate transactions: %w"
    (attempt environment.candidatesFault
      (.ok (db.listUnmatchedByContext environment.input.startDate
        environment.input.endDate environment.candidateLimit)))
  return classifyCandidates leftSourceIDs rightSourceIDs candidates

def validateRunMatchInput (input : RunMatchInput) : Except GoError Unit :=
  if input.contextID = UUID.zero then .error errRunMatchContextIDRequired
  else if !input.mode.isValid then .error errMatchRunModeRequired
  else .ok ()

def prepareMatchRun (environment : PrepareEnvironment) (db : Db) :
    Except GoError MatchRunContext := do
  validateRunMatchInput environment.input
  let (ctxInfo, sources) ← loadContextAndSources environment.configuration
  let (leftSourceIDs, rightSourceIDs) ← classifySources ctxInfo.type sources
  let candidates ← loadAndClassifyCandidates environment db leftSourceIDs rightSourceIDs
  let fees ← prepareFeeVerificationInputs environment.configuration
    (ctxInfo.feeNormalization.getD .none)
  return {
    contextID := environment.input.contextID
    contextType := ctxInfo.type
    feeNormalization := ctxInfo.feeNormalization
    leftCandidates := candidates.left
    rightCandidates := candidates.right
    unmatchedIDs := candidates.external.map (·.id)
    externalTxByID := indexTransactions candidates.external
    stats := ⟨candidates.left.length, candidates.right.length⟩
    leftRules := fees.leftRules
    rightRules := fees.rightRules
    allSchedules := fees.allSchedules }

/-! ## Candidates are distinct unmatched rows -/

theorem Db.listUnmatchedByContext_mem {db : Db} {startDate endDate : Option Matching.Instant}
    {limit : ℕ} {tx : Transaction} (h : tx ∈ db.listUnmatchedByContext startDate endDate limit) :
    tx ∈ db.transactions.rows ∧ tx.status = .unmatched := by
  have hfiltered := mem_stableSort.mp (List.mem_of_mem_take h)
  simp only [List.mem_filter, Bool.and_eq_true, decide_eq_true_eq] at hfiltered
  exact ⟨hfiltered.1, hfiltered.2.1.2⟩

theorem Db.listUnmatchedByContext_ids_nodup (db : Db) (startDate endDate : Option Matching.Instant)
    (limit : ℕ) : ((db.listUnmatchedByContext startDate endDate limit).map (·.id)).Nodup := by
  have hfiltered := db.transactions.nodup.sublist
    ((List.filter_sublist (p := fun tx : Transaction =>
      tx.extractionStatus = .complete && tx.status = .unmatched &&
        inWindow startDate endDate tx)).map Transaction.id)
  exact (((stableSort_perm candidateLess _).map _).nodup_iff.mpr
    hfiltered).sublist ((List.take_sublist _ _).map _)

theorem classifyCandidates_perm (leftSourceIDs rightSourceIDs : Finset UUID)
    (candidates : List Transaction) :
    let classified := classifyCandidates leftSourceIDs rightSourceIDs candidates
    (classified.left ++ classified.right ++ classified.external).Perm candidates := by
  intro classified
  let others := candidates.filter fun tx => !decide (tx.sourceID ∈ leftSourceIDs)
  have hothers : classified.right ++ classified.external =
      others.filter (fun tx => tx.sourceID ∈ rightSourceIDs) ++
        others.filter (fun tx => !decide (tx.sourceID ∈ rightSourceIDs)) := by
    simp only [classified, classifyCandidates, others, List.filter_filter,
      Bool.decide_and, decide_not, Bool.and_comm]
  rw [List.append_assoc, hothers]
  exact ((List.filter_append_perm _ others).append_left _).trans
    (List.filter_append_perm (fun tx : Transaction => tx.sourceID ∈ leftSourceIDs) candidates)

theorem prepareMatchRun_candidates {environment : PrepareEnvironment} {db : Db}
    {mrc : MatchRunContext} (h : prepareMatchRun environment db = .ok mrc) :
    mrc.candidateIDs.Nodup ∧ db.AllUnmatched mrc.candidateIDs := by
  obtain ⟨⟨⟩, -, h⟩ := bind_eq_ok.mp h
  obtain ⟨⟨ctxInfo, sources⟩, -, h⟩ := bind_eq_ok.mp h
  obtain ⟨⟨leftSourceIDs, rightSourceIDs⟩, -, h⟩ := bind_eq_ok.mp h
  obtain ⟨classified, hclassified, h⟩ := bind_eq_ok.mp h
  obtain ⟨fees, -, h⟩ := bind_eq_ok.mp h
  obtain ⟨candidates, hcandidates, hclassified⟩ := bind_eq_ok.mp hclassified
  cases hclassified
  cases h
  obtain ⟨-, hlist⟩ := attempt_eq_ok.mp (wrapError_eq_ok.mp hcandidates)
  cases hlist
  have hperm := (classifyCandidates_perm leftSourceIDs rightSourceIDs
    (db.listUnmatchedByContext environment.input.startDate
      environment.input.endDate environment.candidateLimit)).map Transaction.id
  rw [List.map_append, List.map_append] at hperm
  refine ⟨hperm.nodup_iff.mpr (db.listUnmatchedByContext_ids_nodup _ _ _), ?_⟩
  intro id hid
  obtain ⟨tx, htx, rfl⟩ := List.mem_map.mp (hperm.mem_iff.mp hid)
  obtain ⟨hrow, hstatus⟩ := Db.listUnmatchedByContext_mem htx
  exact ⟨tx, hrow, rfl, hstatus⟩

end Matcher.Command
