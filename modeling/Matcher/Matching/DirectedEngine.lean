import Mathlib.Logic.Function.Basic
import Matcher.Matching.Engine

/-!
# One-to-many and many-to-one matching

One side of the candidates is primary.  A rule collects for each free primary
candidate the free secondary candidates it accepts.  A rule without allocation
proposes all of them; a rule with allocation splits the primary amount over them
and proposes a complete split.  The sides of an allocated proposal follow the
direction of the allocation, not the side that is primary.
-/

namespace Matcher.Matching

open Foundation

/-! ## Allocated proposals -/

structure AllocationProposalResult where
  proposal : Option MatchProposal := none
  failure : Option AllocationFailure := none
deriving DecidableEq, Repr

def allocateByRuleDetailed (cfg : AllocationConfig) (target : CandidateTransaction)
    (candidates : List CandidateTransaction) : Except GoError AllocationResult :=
  match cfg.direction with
  | .leftToRight | .rightToLeft => allocateOneToManyDetailed target candidates (some cfg)
  | .other _ => .error errInvalidAllocationDirection

def buildAllocationMatchProposal (cfg : AllocationConfig) (rule : RuleDefinition)
    (target : CandidateTransaction) (allocations : List Allocation) (allocatedTotal : Decimal)
    (score : ℤ) : MatchProposal :=
  let targetCurrency := if cfg.useBaseAmount then target.currencyBase else target.currency
  let targetAllocations := [⟨target.id, allocatedTotal, targetCurrency, cfg.useBaseAmount⟩]
  let candidateIDs := allocations.map (·.transactionID)
  if cfg.direction = .rightToLeft then
    { ruleID := rule.id
      leftIDs := candidateIDs
      rightIDs := [target.id]
      leftAllocations := allocations
      rightAllocations := targetAllocations
      score := score
      mode := .manyToOne }
  else
    { ruleID := rule.id
      leftIDs := [target.id]
      rightIDs := candidateIDs
      leftAllocations := targetAllocations
      rightAllocations := allocations
      score := score
      mode := .oneToMany }

def buildAllocationProposalDetailed (rule : RuleDefinition) (target : CandidateTransaction)
    (candidates : List CandidateTransaction) (score : ℤ) :
    Except GoError AllocationProposalResult :=
  match rule.allocation with
  | none => .ok {}
  | some cfg =>
    if candidates.length = 0 then .ok {}
    else do
      validateAllocationConfig cfg
      let allocResult ← allocateByRuleDetailed cfg target candidates
      match allocResult.failure with
      | some failure => return { failure := some failure }
      | none =>
        if !allocResult.complete then return {}
        else
          return { proposal := some (buildAllocationMatchProposal cfg rule
            target allocResult.allocations allocResult.total score) }

/-! ## Engine state -/

structure MatchContext where
  usedPrimary : Finset UUID
  usedSecondary : Finset UUID
  proposals : List MatchProposal
  allocFailures : UUID → Option AllocationFailure
  mode : MatchMode
  primaryIsLeft : Bool

structure EngineResult where
  proposals : List MatchProposal
  allocFailures : UUID → Option AllocationFailure

def resolveUsedMaps (mctx : MatchContext) : Finset UUID × Finset UUID :=
  if mctx.primaryIsLeft then (mctx.usedPrimary, mctx.usedSecondary)
  else (mctx.usedSecondary, mctx.usedPrimary)

/-- The used sets are shared, so what is marked by side reaches the context. -/
def MatchContext.setUsedMaps (mctx : MatchContext) (usedLeft usedRight : Finset UUID) :
    MatchContext :=
  if mctx.primaryIsLeft then
    { mctx with usedPrimary := usedLeft, usedSecondary := usedRight }
  else { mctx with usedPrimary := usedRight, usedSecondary := usedLeft }

/-! ## Candidates of a rule -/

structure Collected where
  candidates : List CandidateTransaction
  ids : List UUID
  maxScore : ℤ

variable {rule : RuleDefinition}
  {primary candidate target : CandidateTransaction} {used : Finset UUID}
  {evalPrimaryFirst : Bool} {secondary candidates : List CandidateTransaction}
  {collected : Collected} {cfg : AllocationConfig} {result : AllocationResult}

def evalPair (rule : RuleDefinition) (primary candidate : CandidateTransaction)
    (evalPrimaryFirst : Bool) : Except GoError (Bool × ℤ) :=
  if evalPrimaryFirst then evalByType rule primary candidate
  else evalByType rule candidate primary

def collectStep (rule : RuleDefinition) (primary : CandidateTransaction) (used : Finset UUID)
    (evalPrimaryFirst : Bool) (state : Collected) (candidate : CandidateTransaction) :
    Except GoError Collected :=
  if candidate.id ∈ used then .ok state
  else do
    let (matched, score) ← evalPair rule primary candidate evalPrimaryFirst
    if !matched || score < minMatchScore then return state
    else
      return ⟨state.candidates ++ [candidate], state.ids ++ [candidate.id],
        if state.maxScore < score then score else state.maxScore⟩

def collectMatches (rule : RuleDefinition) (primary : CandidateTransaction)
    (candidates : List CandidateTransaction) (used : Finset UUID) (evalPrimaryFirst : Bool) :
    Except GoError Collected :=
  candidates.foldlM (collectStep rule primary used evalPrimaryFirst) ⟨[], [], 0⟩

def findMatches (rule : RuleDefinition) (primaryCandidate : CandidateTransaction)
    (secondary : List CandidateTransaction) (mctx : MatchContext) : Except GoError Collected :=
  collectMatches rule primaryCandidate secondary mctx.usedSecondary mctx.primaryIsLeft

/-! ## Proposals of a rule -/

def resolveProposalIDs (primaryID : UUID) (matchedIDs : List UUID) (primaryIsLeft : Bool) :
    List UUID × List UUID :=
  if primaryIsLeft then ([primaryID], matchedIDs) else (matchedIDs, [primaryID])

def directProposal (rule : RuleDefinition) (primaryID : UUID)
    (matchedIDs : List UUID) (maxScore : ℤ) (mctx : MatchContext) :
    MatchProposal where
  ruleID := rule.id
  leftIDs := (resolveProposalIDs primaryID matchedIDs mctx.primaryIsLeft).1
  rightIDs := (resolveProposalIDs primaryID matchedIDs mctx.primaryIsLeft).2
  leftAllocations := []
  rightAllocations := []
  score := maxScore
  mode := mctx.mode

def addDirectProposal (rule : RuleDefinition) (primaryID : UUID) (matchedIDs : List UUID)
    (maxScore : ℤ) (mctx : MatchContext) : MatchContext :=
  { mctx with
    proposals := mctx.proposals ++ [directProposal rule primaryID matchedIDs maxScore mctx]
    usedPrimary := insert primaryID mctx.usedPrimary
    usedSecondary := markUsed matchedIDs mctx.usedSecondary }

def addAllocatedProposal (proposal : MatchProposal) (mctx : MatchContext) : MatchContext :=
  let (usedLeft, usedRight) := resolveUsedMaps mctx
  MatchContext.setUsedMaps
    { mctx with proposals := mctx.proposals ++ [proposal] }
    (markUsed proposal.leftIDs usedLeft) (markUsed proposal.rightIDs usedRight)

def recordFailure (failure : AllocationFailure) (mctx : MatchContext) : MatchContext :=
  { mctx with
    allocFailures :=
      Function.update mctx.allocFailures failure.targetID (some failure) }

/--
A rule with allocation either proposes a complete split, records why it could
not, or does nothing.
-/
def applyAllocationProposalDetailed (rule : RuleDefinition) (base : CandidateTransaction)
    (matchedCandidates : List CandidateTransaction) (maxScore : ℤ) (mctx : MatchContext) :
    Except GoError MatchContext := do
  let result ←
    buildAllocationProposalDetailed rule base matchedCandidates maxScore
  match result.failure, result.proposal with
  | some failure, _ => return recordFailure failure mctx
  | none, none => return mctx
  | none, some proposal => return addAllocatedProposal proposal mctx

def tryMatchCandidate (rule : RuleDefinition) (primaryCandidate : CandidateTransaction)
    (secondary : List CandidateTransaction) (mctx : MatchContext) :
    Except GoError MatchContext := do
  let collected ← findMatches rule primaryCandidate secondary mctx
  if collected.ids.length = 0 then return mctx
  else
    match rule.allocation with
    | none =>
      return addDirectProposal rule primaryCandidate.id collected.ids collected.maxScore mctx
    | some _ =>
      applyAllocationProposalDetailed rule primaryCandidate
        collected.candidates collected.maxScore mctx

def visitPrimary (secondary : List CandidateTransaction) (rule : RuleDefinition)
    (mctx : MatchContext) (primaryCandidate : CandidateTransaction) : Except GoError MatchContext :=
  if primaryCandidate.id ∈ mctx.usedPrimary then .ok mctx
  else tryMatchCandidate rule primaryCandidate secondary mctx

def processRuleMatches (primary secondary : List CandidateTransaction) (mctx : MatchContext)
    (rule : RuleDefinition) : Except GoError MatchContext :=
  primary.foldlM (visitPrimary secondary rule) mctx

def initialContext (mode : MatchMode) (primaryIsLeft : Bool) : MatchContext where
  usedPrimary := ∅
  usedSecondary := ∅
  proposals := []
  allocFailures := fun _ => none
  mode := mode
  primaryIsLeft := primaryIsLeft

def matchWithDirectionDetailed (rules : List RuleDefinition)
    (primary secondary : List CandidateTransaction) (mode : MatchMode) (primaryIsLeft : Bool) :
    Except GoError EngineResult := do
  let mctx ← rules.foldlM (processRuleMatches primary secondary) (initialContext mode primaryIsLeft)
  return ⟨mctx.proposals, mctx.allocFailures⟩

def execute1vNDetailed (engine : Option Engine) (rules : List RuleDefinition)
    (left right : List CandidateTransaction) : Except GoError EngineResult := do
  Engine.checkSize engine rules left right
  matchWithDirectionDetailed (sortRules rules) (sortTransactions left)
    (sortTransactions right) .oneToMany true

def executeNv1Detailed (engine : Option Engine) (rules : List RuleDefinition)
    (left right : List CandidateTransaction) : Except GoError EngineResult := do
  Engine.checkSize engine rules left right
  matchWithDirectionDetailed (sortRules rules) (sortTransactions right)
    (sortTransactions left) .manyToOne false

/-! ## What a visit does -/

theorem collectStep_eq_ok {state state' : Collected}
    (h : collectStep rule primary used evalPrimaryFirst state candidate = .ok state') :
    (state' = state ∧ (candidate.id ∉ used → ∀ score,
        evalPair rule primary candidate evalPrimaryFirst = .ok (true, score) →
          score < minMatchScore)) ∨
      ∃ score, candidate.id ∉ used ∧
        evalPair rule primary candidate evalPrimaryFirst = .ok (true, score) ∧
        minMatchScore ≤ score ∧
        state' = ⟨state.candidates ++ [candidate], state.ids ++ [candidate.id],
          if state.maxScore < score then score else state.maxScore⟩ := by
  unfold collectStep at h
  split at h
  case isTrue hused => exact Or.inl ⟨(Except.ok.inj h).symm, absurd hused⟩
  case isFalse hfree =>
    obtain ⟨⟨matched, score⟩, heval, h⟩ := bind_eq_ok.mp h
    dsimp only at h
    split at h
    case isTrue hrejected =>
      refine Or.inl ⟨(Except.ok.inj h).symm, ?_⟩
      rintro - found hfound
      rw [heval] at hfound
      cases hfound
      simpa using hrejected
    case isFalse hpassed =>
      simp only [Bool.or_eq_true, Bool.not_eq_true', decide_eq_true_eq, not_or,
        Bool.not_eq_false, not_lt] at hpassed
      obtain ⟨rfl, hfloor⟩ := hpassed
      exact Or.inr ⟨score, hfree, heval, hfloor, (Except.ok.inj h).symm⟩

structure Collects (secondary : List CandidateTransaction)
    (used : Finset UUID) (collected : Collected) : Prop where
  sublist : collected.candidates.Sublist secondary
  ids : collected.ids = collected.candidates.map (·.id)
  free : ∀ candidate ∈ collected.candidates, candidate.id ∉ used

theorem collectStep_collects {done : List CandidateTransaction} {state state' : Collected}
    (hstate : Collects done used state)
    (h : collectStep rule primary used evalPrimaryFirst state candidate = .ok state') :
    Collects (done ++ [candidate]) used state' := by
  have hskip : Collects (done ++ [candidate]) used state :=
    ⟨hstate.sublist.trans (List.sublist_append_left _ _), hstate.ids, hstate.free⟩
  rcases collectStep_eq_ok h with ⟨rfl, -⟩ | ⟨score, hfree, -, -, rfl⟩
  · exact hskip
  · refine ⟨hstate.sublist.append (List.Sublist.refl _), ?_, ?_⟩
    · simp [hstate.ids]
    · intro other hother
      rcases List.mem_append.mp hother with hold | hnew
      · exact hstate.free other hold
      · rw [List.mem_singleton.mp hnew]
        exact hfree

theorem collectMatches_collects
    (h : collectMatches rule primary secondary used evalPrimaryFirst = .ok collected) :
    Collects secondary used collected :=
  foldlM_invariant (fun done state => Collects done used state) ⟨by simp, by simp, by simp⟩
    (fun _ _ _ _ _ hstate hstep => collectStep_collects hstate hstep) h

structure CompleteSplit (cfg : AllocationConfig) (target : CandidateTransaction)
    (secondary : List CandidateTransaction) (used : Finset UUID)
    (allocations : List Allocation) (total : Decimal) : Prop where
  nonempty : allocations ≠ []
  nodup : (allocations.map (·.transactionID)).Nodup
  taken : ∀ allocation ∈ allocations, ∃ candidate ∈ secondary,
    candidate.id ∉ used ∧ TakenFrom cfg (relevantCurrency cfg target) candidate allocation
  total_eq : total = (allocations.map (·.allocatedAmount)).sum

theorem CompleteSplit.ids_free {allocations : List Allocation} {total : Decimal}
    (h : CompleteSplit cfg target secondary used allocations total) :
    ∀ id ∈ allocations.map (·.transactionID), id ∉ used ∧ id ∈ secondary.map (·.id) := by
  intro id hid
  obtain ⟨allocation, hallocation, rfl⟩ := List.mem_map.mp hid
  obtain ⟨candidate, hcandidate, hfree, htaken⟩ := h.taken allocation hallocation
  rw [htaken.id]
  exact ⟨hfree, List.mem_map_of_mem hcandidate⟩

theorem allocateOneToManyDetailed_completeSplit (hids : (secondary.map (·.id)).Nodup)
    (hcollected : Collects secondary used collected)
    (h : allocateOneToManyDetailed target collected.candidates (some cfg) = .ok result)
    (hcomplete : result.complete = true) :
    CompleteSplit cfg target secondary used result.allocations result.total := by
  obtain ⟨-, hnothing | hsplit⟩ := allocateOneToManyDetailed_eq_ok h
  · rw [hnothing.2.2] at hcomplete
    cases hcomplete
  obtain ⟨source, seen, left, -, hseen, -, hsplit, hiff⟩ := hsplit
  have hcollectedIds : (collected.candidates.map (·.id)).Nodup :=
    hids.sublist (hcollected.sublist.map _)
  have hsorted : ((sortTransactions collected.candidates).map (·.id)).Nodup :=
    ((stableSort_perm transactionLess _).map _).nodup_iff.mpr hcollectedIds
  refine ⟨(hiff.mp hcomplete).1,
    hsorted.sublist (hsplit.ids.trans (hseen.map _)), ?_, hsplit.sum_eq⟩
  intro allocation hallocation
  obtain ⟨candidate, hcandidate, htaken⟩ := hsplit.taken allocation hallocation
  have hmem : candidate ∈ collected.candidates := mem_stableSort.mp (hseen.subset hcandidate)
  exact ⟨candidate, hcollected.sublist.subset hmem, hcollected.free _ hmem, htaken⟩

def Completes (cfg : AllocationConfig) (target : CandidateTransaction)
    (candidates : List CandidateTransaction) (result : AllocationResult) : Prop :=
  allocateOneToManyDetailed target candidates (some cfg) = .ok result ∧ result.complete = true

theorem allocateByRuleDetailed_eq (h : cfg.Valid)
    (target : CandidateTransaction) (candidates : List CandidateTransaction) :
    allocateByRuleDetailed cfg target candidates =
      allocateOneToManyDetailed target candidates (some cfg) := by
  unfold allocateByRuleDetailed
  rcases h.direction with hdirection | hdirection <;> rw [hdirection]

def allocationProposalResult (cfg : AllocationConfig) (rule : RuleDefinition)
    (target : CandidateTransaction) (score : ℤ) (result : AllocationResult) :
    AllocationProposalResult :=
  match result.failure with
  | some failure => { failure := some failure }
  | none =>
    if !result.complete then {}
    else
      { proposal := some (buildAllocationMatchProposal cfg rule target
          result.allocations result.total score) }

def settleAllocation (cfg : AllocationConfig) (rule : RuleDefinition)
    (target : CandidateTransaction) (score : ℤ) (mctx : MatchContext) (result : AllocationResult) :
    MatchContext :=
  match result.failure with
  | some failure => recordFailure failure mctx
  | none =>
    if !result.complete then mctx
    else
      addAllocatedProposal (buildAllocationMatchProposal cfg rule target
        result.allocations result.total score) mctx

section Visit

variable {secondary : List CandidateTransaction} {mctx : MatchContext}
  {rule : RuleDefinition} {candidate : CandidateTransaction}
  {cfg : AllocationConfig} {collected : Collected}

theorem buildAllocationProposalDetailed_eq_map (hallocation : rule.allocation = some cfg)
    (hnonempty : candidates ≠ []) (score : ℤ) :
    buildAllocationProposalDetailed rule candidate candidates score =
      allocationProposalResult cfg rule candidate score <$>
        allocateOneToManyDetailed candidate candidates (some cfg) := by
  have hlength : ¬ candidates.length = 0 :=
    fun hzero => hnonempty (List.length_eq_zero_iff.mp hzero)
  simp only [buildAllocationProposalDetailed, hallocation, if_neg hlength]
  cases hvalidate : validateAllocationConfig cfg with
  | error =>
    simp only [allocateOneToManyDetailed, validateAllocationInputs, hvalidate]
    rfl
  | ok =>
    rw [allocateByRuleDetailed_eq (validateAllocationConfig_eq_ok.mp hvalidate)]
    cases allocateOneToManyDetailed candidate candidates (some cfg) with
    | error => rfl
    | ok result =>
      change (match result.failure with | some _ => _ | none => _) =
        Except.ok (allocationProposalResult cfg rule candidate score result)
      simp only [allocationProposalResult]
      cases result.failure with
      | some => rfl
      | none =>
        dsimp only
        cases result.complete with
        | false | true => rfl

theorem applyAllocationProposalDetailed_eq_map (hallocation : rule.allocation = some cfg)
    (hnonempty : candidates ≠ []) (score : ℤ) (mctx : MatchContext) :
    applyAllocationProposalDetailed rule candidate candidates score mctx =
      settleAllocation cfg rule candidate score mctx <$>
        allocateOneToManyDetailed candidate candidates (some cfg) := by
  rw [applyAllocationProposalDetailed, buildAllocationProposalDetailed_eq_map hallocation hnonempty]
  cases allocateOneToManyDetailed candidate candidates (some cfg) with
  | error => rfl
  | ok result =>
    change (match (allocationProposalResult cfg rule candidate score
        result).failure, (allocationProposalResult cfg rule candidate score
        result).proposal with
      | some _, _ => _ | none, none => _ | none, some _ => _) =
        Except.ok (settleAllocation cfg rule candidate score mctx result)
    simp only [allocationProposalResult, settleAllocation]
    cases result.failure with
    | some => rfl
    | none =>
      dsimp only
      cases result.complete with
      | false | true => rfl

theorem visitPrimary_of_used (hused : candidate.id ∈ mctx.usedPrimary) :
    visitPrimary secondary rule mctx candidate = .ok mctx :=
  if_pos hused

theorem visitPrimary_of_empty (hfree : candidate.id ∉ mctx.usedPrimary)
    (hfind : findMatches rule candidate secondary mctx = .ok collected)
    (hempty : collected.candidates = []) :
    visitPrimary secondary rule mctx candidate = .ok mctx := by
  have hids : collected.ids.length = 0 := by
    rw [(collectMatches_collects hfind).ids, hempty]
    rfl
  unfold visitPrimary tryMatchCandidate
  rw [if_neg hfree, hfind]
  exact if_pos hids

theorem visitPrimary_of_found (hfree : candidate.id ∉ mctx.usedPrimary)
    (hfind : findMatches rule candidate secondary mctx = .ok collected)
    (hnonempty : collected.candidates ≠ []) :
    visitPrimary secondary rule mctx candidate =
      match rule.allocation with
      | none => .ok (addDirectProposal rule candidate.id collected.ids collected.maxScore mctx)
      | some cfg =>
        settleAllocation cfg rule candidate collected.maxScore mctx <$>
          allocateOneToManyDetailed candidate collected.candidates (some cfg) := by
  have hids : ¬ collected.ids.length = 0 := by
    rw [(collectMatches_collects hfind).ids, List.length_map]
    exact fun hzero => hnonempty (List.length_eq_zero_iff.mp hzero)
  unfold visitPrimary tryMatchCandidate
  rw [if_neg hfree, hfind]
  change (if collected.ids.length = 0 then _ else _) = _
  rw [if_neg hids]
  cases hallocation : rule.allocation with
  | none => rfl
  | some => exact applyAllocationProposalDetailed_eq_map hallocation hnonempty _ _

end Visit

/-- What one visit of the nested loops can do to the engine state. -/
inductive VisitOutcome (secondary : List CandidateTransaction) (rule : RuleDefinition)
    (primaryCandidate : CandidateTransaction) (mctx : MatchContext) : MatchContext → Prop
  | idle : VisitOutcome secondary rule primaryCandidate mctx mctx
  | failed (failure : AllocationFailure) :
      VisitOutcome secondary rule primaryCandidate mctx (recordFailure failure mctx)
  | direct (collected : Collected) (hfree : primaryCandidate.id ∉ mctx.usedPrimary)
      (hallocation : rule.allocation = none)
      (hcollected : Collects secondary mctx.usedSecondary collected)
      (hnonempty : collected.ids ≠ []) :
      VisitOutcome secondary rule primaryCandidate mctx
        (addDirectProposal rule primaryCandidate.id collected.ids collected.maxScore mctx)
  | allocated (cfg : AllocationConfig) (collected : Collected) (result : AllocationResult)
      (hfree : primaryCandidate.id ∉ mctx.usedPrimary)
      (hallocation : rule.allocation = some cfg)
      (hfind : findMatches rule primaryCandidate secondary mctx = .ok collected)
      (hcompletes : Completes cfg primaryCandidate collected.candidates result) :
      VisitOutcome secondary rule primaryCandidate mctx
        (addAllocatedProposal (buildAllocationMatchProposal cfg rule
          primaryCandidate result.allocations result.total collected.maxScore)
          mctx)

theorem visitPrimary_outcome {primaryCandidate : CandidateTransaction} {mctx mctx' : MatchContext}
    (h : visitPrimary secondary rule mctx primaryCandidate = .ok mctx') :
    VisitOutcome secondary rule primaryCandidate mctx mctx' := by
  by_cases hused : primaryCandidate.id ∈ mctx.usedPrimary
  · rw [visitPrimary_of_used hused] at h
    cases h
    exact .idle
  have htry : tryMatchCandidate rule primaryCandidate secondary mctx = .ok mctx' := by
    rwa [visitPrimary, if_neg hused] at h
  obtain ⟨collected, hfind, -⟩ := bind_eq_ok.mp htry
  have hcollected : Collects secondary mctx.usedSecondary collected := collectMatches_collects hfind
  rcases eq_or_ne collected.candidates [] with hempty | hnonempty
  · rw [visitPrimary_of_empty hused hfind hempty] at h
    cases h
    exact .idle
  rw [visitPrimary_of_found hused hfind hnonempty] at h
  cases hallocation : rule.allocation with
  | none =>
    rw [hallocation] at h
    cases h
    refine .direct collected hused hallocation hcollected ?_
    rw [hcollected.ids]
    exact fun hnil => hnonempty (List.map_eq_nil_iff.mp hnil)
  | some cfg =>
    rw [hallocation] at h
    obtain ⟨result, hresult, rfl⟩ := map_eq_ok.mp h
    unfold settleAllocation
    cases result.failure with
    | some failure => exact .failed failure
    | none =>
      dsimp only
      cases hcomplete : result.complete with
      | false => exact .idle
      | true => exact .allocated cfg collected result hused hallocation hfind ⟨hresult, hcomplete⟩

theorem Completes.nonempty (h : Completes cfg target candidates result) : candidates ≠ [] := by
  rintro rfl
  obtain ⟨halloc, hcomplete⟩ := h
  obtain ⟨cfg', -, halloc⟩ := bind_eq_ok.mp halloc
  cases halloc
  cases hcomplete

theorem visitPrimary_of_completes {mctx : MatchContext} (hfree : candidate.id ∉ mctx.usedPrimary)
    (hallocation : rule.allocation = some cfg)
    (hfind : findMatches rule candidate secondary mctx = .ok collected)
    (hcompletes : Completes cfg candidate collected.candidates result) :
    visitPrimary secondary rule mctx candidate =
      .ok (addAllocatedProposal (buildAllocationMatchProposal cfg rule candidate
        result.allocations result.total collected.maxScore) mctx) := by
  rw [visitPrimary_of_found hfree hfind hcompletes.nonempty, hallocation]
  refine map_eq_ok.mpr ⟨result, hcompletes.1, ?_⟩
  simp only [settleAllocation, hcompletes.2,
    allocateOneToManyDetailed_complete_failure hcompletes.1 hcompletes.2]
  rfl

/-! ## Independence of the input order -/

theorem Engine.checkSize_eq_of_perm (engine : Option Engine) {rules rules' : List RuleDefinition}
    {left left' right right' : List CandidateTransaction} (hrules : rules.Perm rules')
    (hleft : left.Perm left') (hright : right.Perm right') :
    Engine.checkSize engine rules left right = Engine.checkSize engine rules' left' right' := by
  unfold Engine.checkSize
  rw [hrules.length_eq, hleft.length_eq, hright.length_eq]

/--
Reordering the rules, the left and the right candidates changes neither the
proposals nor the recorded failures nor the error of an execution.
-/
theorem executions_order_independent {engine : Option Engine} {rules rules' : List RuleDefinition}
    {left left' right right' : List CandidateTransaction} (hrules : rules.Perm rules')
    (hleft : left.Perm left') (hright : right.Perm right') (hruleIDs : (rules.map (·.id)).Nodup)
    (hids : ((left ++ right).map (·.id)).Nodup) :
    execute1v1 engine rules left right = execute1v1 engine rules' left' right' ∧
      execute1vNDetailed engine rules left right =
        execute1vNDetailed engine rules' left' right' := by
  rw [List.map_append] at hids
  have hsortedRules := sortRules_eq_of_perm hrules hruleIDs
  have hsortedLeft := sortTransactions_eq_of_perm hleft hids.of_append_left
  have hsortedRight := sortTransactions_eq_of_perm hright hids.of_append_right
  have hadmit := Engine.checkSize_eq_of_perm engine hrules hleft hright
  unfold execute1v1 execute1vNDetailed
  rw [hsortedRules, hsortedLeft, hsortedRight, hadmit]
  exact ⟨rfl, rfl⟩

theorem executions_order_independent_swap :
    execute1v1 (some newEngine) [amountRule ⟨8⟩ none, amountRule ⟨9⟩ none]
        [plainCandidate ⟨1⟩ 100, plainCandidate ⟨2⟩ 100]
        [plainCandidate ⟨3⟩ 100] =
      execute1v1 (some newEngine) [amountRule ⟨9⟩ none, amountRule ⟨8⟩ none]
        [plainCandidate ⟨2⟩ 100, plainCandidate ⟨1⟩ 100]
        [plainCandidate ⟨3⟩ 100] :=
  (executions_order_independent (List.Perm.swap _ _ _) (List.Perm.swap _ _ _)
    (List.Perm.refl _) (by decide) (by decide)).1

end Matcher.Matching
