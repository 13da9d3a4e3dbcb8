import Matcher.Matching.DirectedEngine

/-!
# The mirror image of a directed run

Exchanging left and right in the settings of every rule and in the candidate
lists turns a many-to-one execution into a one-to-many execution with the same
outcome, read with its sides exchanged.  The evaluators and the scorers tell
left from right only through the percentage base and the lag direction, and an
allocation only in the proposal it ends in.
-/

namespace Matcher.Matching

open Foundation

/-! ## Mirrored settings -/

def TolerancePercentageBase.mirror : TolerancePercentageBase → TolerancePercentageBase
  | .left => .right
  | .right => .left
  | .max => .max
  | .min => .min
  | .average => .average
  | .other value => .other value

def DateLagDirection.mirror : DateLagDirection → DateLagDirection
  | .leftBeforeRight => .rightBeforeLeft
  | .rightBeforeLeft => .leftBeforeRight
  | .abs => .abs
  | .other value => .other value

def AllocationDirection.mirror : AllocationDirection → AllocationDirection
  | .leftToRight => .rightToLeft
  | .rightToLeft => .leftToRight
  | .other value => .other value

def MatchMode.mirror : MatchMode → MatchMode
  | .oneToOne => .oneToOne
  | .oneToMany => .manyToOne
  | .manyToOne => .oneToMany

def ToleranceConfig.mirror (cfg : ToleranceConfig) : ToleranceConfig :=
  { cfg with percentageBase := cfg.percentageBase.mirror }

def DateLagConfig.mirror (cfg : DateLagConfig) : DateLagConfig :=
  { cfg with direction := cfg.direction.mirror }

def AllocationConfig.mirror (cfg : AllocationConfig) : AllocationConfig :=
  { cfg with direction := cfg.direction.mirror }

def RuleDefinition.mirror (rule : RuleDefinition) : RuleDefinition :=
  { rule with
    tolerance := rule.tolerance.map ToleranceConfig.mirror
    dateLag := rule.dateLag.map DateLagConfig.mirror
    allocation := rule.allocation.map AllocationConfig.mirror }

def MatchProposal.mirror (proposal : MatchProposal) : MatchProposal where
  ruleID := proposal.ruleID
  leftIDs := proposal.rightIDs
  rightIDs := proposal.leftIDs
  leftAllocations := proposal.rightAllocations
  rightAllocations := proposal.leftAllocations
  score := proposal.score
  mode := proposal.mode.mirror

def EngineResult.mirror (result : EngineResult) : EngineResult where
  proposals := result.proposals.map MatchProposal.mirror
  allocFailures := result.allocFailures

@[simp] theorem MatchMode.mirror_mirror (mode : MatchMode) : mode.mirror.mirror = mode := by
  cases mode <;> rfl

@[simp] theorem MatchProposal.mirror_mirror (proposal : MatchProposal) :
    proposal.mirror.mirror = proposal := by
  simp [MatchProposal.mirror]

@[simp] theorem EngineResult.mirror_mirror (result : EngineResult) :
    result.mirror.mirror = result := by
  simp [EngineResult.mirror, Function.comp_def]

/-! ## Days -/

theorem signedDayDiff_neg (first second : Instant) :
    signedDayDiff second first = -signedDayDiff first second := by
  simp only [signedDayDiff_eq]
  grind

theorem absDayDiff_comm (first second : Instant) :
    absDayDiff second first = absDayDiff first second := by
  rw [absDayDiff_eq, absDayDiff_eq, abs_sub_comm]

/-! ## Verdicts -/

section Verdicts

variable (left right : CandidateTransaction)

theorem baseAmountsEqual_comm : baseAmountsEqual right left = baseAmountsEqual left right := by
  unfold baseAmountsEqual
  cases left.amountBase with
  | none => cases right.amountBase <;> rfl
  | some =>
    cases right.amountBase with
    | none => rfl
    | some => simp [eq_comm]

theorem baseCurrenciesMatch_comm :
    baseCurrenciesMatch right left = baseCurrenciesMatch left right := by
  simp only [baseCurrenciesMatch, Bool.or_comm (decide (right.currencyBase = _)),
    eq_comm (a := right.currencyBase) (b := left.currencyBase)]

theorem currenciesScore_comm (first second : String) :
    currenciesScore second first = currenciesScore first second := by
  unfold currenciesScore
  by_cases h : first = second
  · rw [h]
  · simp [h, Ne.symm h]

theorem equalFold_comm (first second : String) :
    equalFold second first = equalFold first second := by
  simp [equalFold, eq_comm]

variable (cfg : ExactConfig)

theorem matchAmountAndCurrency_comm :
    matchAmountAndCurrency right left cfg = matchAmountAndCurrency left right cfg := by
  simp only [matchAmountAndCurrency, ne_comm (a := right.amount), ne_comm (a := right.currency)]

theorem matchBaseAmountAndCurrency_comm :
    matchBaseAmountAndCurrency right left cfg = matchBaseAmountAndCurrency left right cfg := by
  unfold matchBaseAmountAndCurrency
  rw [baseAmountsEqual_comm left right, baseCurrenciesMatch_comm left right]

theorem matchDate_comm : matchDate right left cfg = matchDate left right cfg := by
  simp only [matchDate, eq_comm (a := dayUTC right.date), eq_comm (a := right.date)]

theorem matchReference_comm : matchReference right left cfg = matchReference left right cfg := by
  simp only [matchReference,
    stringsEqualFold_comm (trimSpace left.reference) (trimSpace right.reference),
    Bool.or_comm (decide (trimSpace right.reference = "")),
    eq_comm (a := trimSpace right.reference) (b := trimSpace left.reference)]

theorem exactMatch_comm (cfg : Option ExactConfig) :
    exactMatch right left cfg = exactMatch left right cfg := by
  simp only [exactMatch, matchAmountAndCurrency_comm left right,
    matchBaseAmountAndCurrency_comm left right, matchDate_comm left right,
    matchReference_comm left right]

theorem calculateReferenceScoreWithOptions_comm (opts : ReferenceMatchOptions) :
    calculateReferenceScoreWithOptions opts right left =
      calculateReferenceScoreWithOptions opts left right := by
  simp only [calculateReferenceScoreWithOptions, equalFold_comm left.reference right.reference,
    Bool.or_comm (decide (right.reference = "")), Bool.and_comm (decide (right.reference = "")),
    eq_comm (a := right.reference) (b := left.reference)]

theorem extractExactComponents_comm :
    extractExactComponents cfg right left = extractExactComponents cfg left right := by
  simp only [extractExactComponents, evaluateExactAmountMatch, evaluateExactCurrencyMatch,
    evaluateExactDateMatch, evaluateExactReferenceScore, baseAmountsEqual_comm left right,
    currenciesScore_comm left.currency, currenciesScore_comm left.currencyBase,
    calculateReferenceScoreWithOptions_comm left right, Bool.or_comm (decide (right.currency = "")),
    eq_comm (a := right.amount), eq_comm (a := right.currency) (b := left.currency),
    eq_comm (a := dayUTC right.date), eq_comm (a := right.date)]

theorem toleranceThreshold_mirror (absTol pctTol first second : Decimal)
    (base : TolerancePercentageBase) :
    toleranceThreshold absTol pctTol second first base.mirror =
      toleranceThreshold absTol pctTol first second base := by
  have hlarger : (if |second| < |first| then |first| else |second|) =
      (if |first| < |second| then |second| else |first|) := by
    rw [← max_def_lt, ← max_def_lt, max_comm]
  have hsmaller : (if |first| < |second| then |first| else |second|) =
      (if |second| < |first| then |second| else |first|) := by
    rw [← min_def_lt, ← min_def_lt, min_comm]
  cases base with
  | max => simp only [toleranceThreshold, TolerancePercentageBase.mirror, hlarger]
  | min => simp only [toleranceThreshold, TolerancePercentageBase.mirror, hsmaller]
  | average => simp only [toleranceThreshold, TolerancePercentageBase.mirror, add_comm |second|]
  | left | right => rfl
  | other => simp only [toleranceThreshold, TolerancePercentageBase.mirror, hlarger]

variable (cfg : ToleranceConfig)

theorem toleranceAmounts_mirror :
    toleranceAmounts right left cfg.mirror = (toleranceAmounts left right cfg).map Prod.swap := by
  unfold toleranceAmounts
  change (if cfg.matchBaseAmount then _ else _) = _
  split_ifs
  · cases left.amountBase <;> cases right.amountBase <;> rfl
  · rfl

theorem toleranceReferenceMatch_mirror :
    toleranceReferenceMatch right left cfg.mirror = toleranceReferenceMatch left right cfg := by
  simp only [toleranceReferenceMatch, ToleranceConfig.mirror,
    equalFold_comm (trimSpace left.reference) (trimSpace right.reference),
    Bool.or_comm (decide (trimSpace right.reference = "")),
    Bool.and_comm (decide (trimSpace right.reference = "")),
    eq_comm (a := trimSpace right.reference) (b := trimSpace left.reference)]

theorem toleranceCurrencyMatch_mirror :
    toleranceCurrencyMatch right left cfg.mirror = toleranceCurrencyMatch left right cfg := by
  simp only [toleranceCurrencyMatch, ToleranceConfig.mirror,
    ne_comm (a := right.currency), baseCurrenciesMatch_comm left right]

theorem roundAmount_uniform (scale : ℤ) (mode : RoundingMode) :
    (∃ failure, ∀ amount, roundAmount amount scale mode = .error failure) ∨
      ∀ amount, ∃ rounded, roundAmount amount scale mode = .ok rounded := by
  unfold roundAmount
  split_ifs
  · exact Or.inl ⟨_, fun _ => rfl⟩
  · exact Or.inl ⟨_, fun _ => rfl⟩
  · cases mode with
    | other => exact Or.inl ⟨_, fun _ => rfl⟩
    | halfUp | bankers | floor | ceil | truncate => exact Or.inr fun _ => ⟨_, rfl⟩

theorem validateToleranceConfig_mirror :
    validateToleranceConfig (some cfg.mirror) =
      ToleranceConfig.mirror <$> validateToleranceConfig (some cfg) := by
  simp only [validateToleranceConfig, apply_ite (ToleranceConfig.mirror <$> ·), map_bind]
  rfl

def toleranceVerdict (first second : Decimal) : Except GoError Bool := do
  let firstRounded ← roundAmount first cfg.roundingScale cfg.roundingMode
  let secondRounded ← roundAmount second cfg.roundingScale cfg.roundingMode
  let threshold := toleranceThreshold cfg.absAmountTolerance
    cfg.percentTolerance firstRounded secondRounded cfg.percentageBase
  if threshold < |firstRounded - secondRounded| then return false
  else return true

theorem toleranceVerdict_mirror (first second : Decimal) :
    toleranceVerdict cfg.mirror second first = toleranceVerdict cfg first second := by
  simp only [toleranceVerdict, ToleranceConfig.mirror]
  rcases roundAmount_uniform cfg.roundingScale cfg.roundingMode with
    ⟨failure, hfails⟩ | hrounds
  · rw [hfails, hfails]
    rfl
  · obtain ⟨firstRounded, hfirst⟩ := hrounds first
    obtain ⟨secondRounded, hsecond⟩ := hrounds second
    rw [hfirst, hsecond]
    change (if toleranceThreshold _ _ secondRounded firstRounded
      cfg.percentageBase.mirror < |secondRounded - firstRounded| then _
      else _) = _
    rw [toleranceThreshold_mirror, abs_sub_comm]
    rfl

def toleranceChecks (left right : CandidateTransaction) (cfg : ToleranceConfig) :
    Except GoError Bool :=
  if !toleranceCurrencyMatch left right cfg then .ok false
  else if !toleranceDateMatch left right cfg then .ok false
  else
    (toleranceAmounts left right cfg).elim (.ok false) fun amounts =>
      if !toleranceReferenceMatch left right cfg then .ok false
      else toleranceVerdict cfg amounts.1 amounts.2

theorem toleranceMatch_eq_bind (left right : CandidateTransaction) (cfg : ToleranceConfig) :
    toleranceMatch left right (some cfg) =
      validateToleranceConfig (some cfg) >>= toleranceChecks left right := by
  unfold toleranceMatch
  congr 1
  funext checked
  unfold toleranceChecks
  cases toleranceAmounts left right checked with
  | none | some => rfl

theorem toleranceChecks_mirror :
    toleranceChecks right left cfg.mirror = toleranceChecks left right cfg := by
  have hdate : toleranceDateMatch right left cfg.mirror = toleranceDateMatch left right cfg := by
    simp only [toleranceDateMatch, absDayDiff_comm left.date right.date, ToleranceConfig.mirror]
  unfold toleranceChecks
  rw [toleranceCurrencyMatch_mirror, hdate, toleranceAmounts_mirror, toleranceReferenceMatch_mirror]
  cases toleranceAmounts left right cfg with
  | none => rfl
  | some =>
    rw [Option.map_some, Option.elim_some, Option.elim_some,
      Prod.fst_swap, Prod.snd_swap, toleranceVerdict_mirror]

theorem toleranceMatch_mirror :
    toleranceMatch right left (some cfg.mirror) = toleranceMatch left right (some cfg) := by
  rw [toleranceMatch_eq_bind, toleranceMatch_eq_bind, validateToleranceConfig_mirror]
  cases validateToleranceConfig (some cfg) with
  | error => rfl
  | ok checked => exact toleranceChecks_mirror left right checked

theorem extractToleranceComponents_mirror :
    extractToleranceComponents cfg.mirror right left =
      extractToleranceComponents cfg left right := by
  have hamount : ∀ pair : Decimal × Decimal,
      isWithinTolerance pair.2 pair.1 cfg.absAmountTolerance
          cfg.percentTolerance cfg.percentageBase.mirror =
        isWithinTolerance pair.1 pair.2 cfg.absAmountTolerance
          cfg.percentTolerance cfg.percentageBase := by
    intro pair
    simp only [isWithinTolerance, toleranceThreshold_mirror, abs_sub_comm pair.2 pair.1]
  unfold extractToleranceComponents
  rw [toleranceAmounts_mirror]
  congr 1
  · cases toleranceAmounts left right cfg with
    | none => rfl
    | some pair => exact hamount pair
  · simp only [ToleranceConfig.mirror, currenciesScore_comm left.currency,
      currenciesScore_comm left.currencyBase, Bool.and_comm (decide (right.currency ≠ "")),
      eq_comm (a := right.currency) (b := left.currency)]
  · simp only [ToleranceConfig.mirror, absDayDiff_comm left.date right.date]
  · simp only [evaluateToleranceReferenceScore, ToleranceConfig.mirror,
      calculateReferenceScoreWithOptions_comm left right]

theorem computeDateLagDiff_mirror (cfg : DateLagConfig) :
    computeDateLagDiff right left cfg.mirror = computeDateLagDiff left right cfg := by
  have hsigned := signedDayDiff_neg left.date right.date
  simp only [computeDateLagDiff, DateLagConfig.mirror, hsigned]
  cases cfg.direction with
  | abs =>
    simp only [DateLagDirection.mirror, Except.ok.injEq]
    split_ifs <;> omega
  | leftBeforeRight => simp only [DateLagDirection.mirror, neg_neg]
  | rightBeforeLeft | other => simp only [DateLagDirection.mirror]

theorem extractDateLagComponents_mirror (cfg : DateLagConfig) :
    extractDateLagComponents cfg.mirror right left = extractDateLagComponents cfg left right := by
  simp only [extractDateLagComponents, isWithinFeeTolerance, DateLagConfig.mirror,
    currenciesScore_comm left.currency, absDayDiff_comm left.date right.date,
    abs_sub_comm |right.amount|, Bool.and_comm (decide (right.currency ≠ "")),
    eq_comm (a := right.currency) (b := left.currency)]

theorem dateLagMatch_mirror (cfg : DateLagConfig) :
    dateLagMatch right left (some cfg.mirror) = dateLagMatch left right (some cfg) := by
  have hvalidate : validateDateLagConfig (some cfg.mirror) =
      DateLagConfig.mirror <$> validateDateLagConfig (some cfg) := by
    simp only [validateDateLagConfig, apply_ite (DateLagConfig.mirror <$> ·)]
    rfl
  unfold dateLagMatch
  rw [hvalidate]
  cases validateDateLagConfig (some cfg) with
  | error => rfl
  | ok checked =>
    have hcurrency : dateLagCurrencyMatch right left checked.mirror =
        dateLagCurrencyMatch left right checked := by
      simp only [dateLagCurrencyMatch, DateLagConfig.mirror,
        ne_comm (a := right.currency) (b := left.currency),
        Bool.or_comm (decide (right.currency = ""))]
    have hamount : amountWithinFeeTolerance right left checked.feeTolerance =
        amountWithinFeeTolerance left right checked.feeTolerance := by
      simp only [amountWithinFeeTolerance, abs_sub_comm right.amount]
    have hdiff : computeDateLagDiff right left checked.mirror =
        computeDateLagDiff left right checked :=
      computeDateLagDiff_mirror left right checked
    change (if !dateLagCurrencyMatch right left checked.mirror then
        Except.ok false
      else if checked.feeTolerance < 0 then
        .error errDateLagFeeToleranceNegative
      else if !amountWithinFeeTolerance right left checked.feeTolerance then
        .ok false
      else computeDateLagDiff right left checked.mirror >>= fun diff =>
        if diff < 0 then .ok false
        else .ok (isWithinDateLagBounds diff checked)) = _
    rw [hcurrency, hamount, hdiff]
    rfl

theorem evalByType_mirror (rule : RuleDefinition) :
    evalByType rule.mirror right left = evalByType rule left right := by
  obtain ⟨id, priority, type, exact, tolerance, dateLag, allocation⟩ := rule
  cases exact with
  | some =>
    simp only [evalByType, RuleDefinition.mirror, exactMatch_comm left right,
      scoreExactConfidence, scoreWith, extractExactComponents_comm left right]
  | none =>
    cases tolerance with
    | some =>
      simp only [evalByType, RuleDefinition.mirror, Option.map_some,
        toleranceMatch_mirror left right, scoreToleranceConfidence,
        scoreWith, extractToleranceComponents_mirror left right]
    | none =>
      cases dateLag with
      | some =>
        simp only [evalByType, RuleDefinition.mirror, Option.map_some, Option.map_none,
          dateLagMatch_mirror left right, scoreDateLagConfidence, scoreWith,
          extractDateLagComponents_mirror left right]
      | none => rfl

end Verdicts

/-! ## Candidates and allocations -/

theorem evalPair_mirror (rule : RuleDefinition)
    (primary candidate : CandidateTransaction) (evalPrimaryFirst : Bool) :
    evalPair rule.mirror primary candidate (!evalPrimaryFirst) =
      evalPair rule primary candidate evalPrimaryFirst := by
  cases evalPrimaryFirst with
  | true => exact evalByType_mirror primary candidate rule
  | false => exact evalByType_mirror candidate primary rule

theorem collectMatches_mirror (rule : RuleDefinition) (primary : CandidateTransaction)
    (candidates : List CandidateTransaction) (used : Finset UUID) (evalPrimaryFirst : Bool) :
    collectMatches rule.mirror primary candidates used (!evalPrimaryFirst) =
      collectMatches rule primary candidates used evalPrimaryFirst := by
  have hstep : collectStep rule.mirror primary used (!evalPrimaryFirst) =
      collectStep rule primary used evalPrimaryFirst := by
    funext state candidate
    simp only [collectStep, evalPair_mirror]
  rw [collectMatches, collectMatches, hstep]

section Allocations

variable (cfg : AllocationConfig)

theorem validateAllocationConfig_mirror :
    validateAllocationConfig cfg.mirror = validateAllocationConfig cfg := by
  cases hdirection : cfg.direction <;>
    simp [validateAllocationConfig, AllocationConfig.mirror, AllocationDirection.mirror, hdirection]

theorem tryAllocateCandidate_mirror (candidate : CandidateTransaction)
    (remaining : Decimal) (allocationCurrency : String) :
    tryAllocateCandidate candidate remaining cfg.mirror allocationCurrency =
      tryAllocateCandidate candidate remaining cfg allocationCurrency :=
  rfl

theorem allocateLoop_mirror (sourceAmount : Decimal)
    (allocationCurrency : String) (candidates : List CandidateTransaction)
    (allocations : List Allocation) (remaining sum : Decimal) :
    allocateLoop sourceAmount cfg.mirror allocationCurrency candidates allocations remaining sum =
      allocateLoop sourceAmount cfg allocationCurrency candidates allocations remaining sum := by
  have hwithin : ∀ rest, withinAllocationTolerance rest sourceAmount
      cfg.mirror = withinAllocationTolerance rest sourceAmount cfg :=
    fun _ => rfl
  induction candidates generalizing allocations remaining sum with
  | nil => rw [allocateLoop, allocateLoop, hwithin]
  | cons _ _ ih =>
    rw [allocateLoop, allocateLoop, tryAllocateCandidate_mirror]
    simp only [ih, hwithin]

theorem allocateOneToManyDetailed_mirror (target : CandidateTransaction)
    (candidates : List CandidateTransaction) :
    allocateOneToManyDetailed target candidates (some cfg.mirror) =
      allocateOneToManyDetailed target candidates (some cfg) := by
  have hamount : allocationAmountDetailed target cfg.mirror =
      allocationAmountDetailed target cfg := rfl
  have hcurrency : resolveAllocationCurrency target cfg.mirror =
      resolveAllocationCurrency target cfg := rfl
  have hbuild : ∀ id source allocations total complete currency,
      buildAllocationResult id source allocations total complete currency cfg.mirror =
        buildAllocationResult id source allocations total complete currency
          cfg := fun _ _ _ _ _ _ => rfl
  unfold allocateOneToManyDetailed validateAllocationInputs
  dsimp only
  rw [validateAllocationConfig_mirror]
  cases validateAllocationConfig cfg with
  | error => rfl
  | ok =>
    simp only [bind, Except.bind, pure, Except.pure, hamount, hcurrency,
      hbuild, allocateCandidates, allocateLoop_mirror]

variable {cfg}

theorem buildAllocationMatchProposal_mirror (hvalid : cfg.Valid) (rule : RuleDefinition)
    (target : CandidateTransaction) (allocations : List Allocation) (total : Decimal) (score : ℤ) :
    buildAllocationMatchProposal cfg.mirror rule.mirror target allocations total score =
      (buildAllocationMatchProposal cfg rule target allocations total score).mirror := by
  rcases hvalid.direction with hdirection | hdirection <;>
    simp [buildAllocationMatchProposal, AllocationConfig.mirror, MatchProposal.mirror,
      AllocationDirection.mirror, MatchMode.mirror, RuleDefinition.mirror, hdirection]

end Allocations

/-! ## The mirrored run -/

/-- The used sets belong to the primary and the secondary side and stay. -/
def MatchContext.mirror (mctx : MatchContext) : MatchContext where
  usedPrimary := mctx.usedPrimary
  usedSecondary := mctx.usedSecondary
  proposals := mctx.proposals.map MatchProposal.mirror
  allocFailures := mctx.allocFailures
  mode := mctx.mode.mirror
  primaryIsLeft := !mctx.primaryIsLeft

theorem findMatches_mirror (rule : RuleDefinition) (candidate : CandidateTransaction)
    (secondary : List CandidateTransaction) (mctx : MatchContext) :
    findMatches rule.mirror candidate secondary mctx.mirror =
      findMatches rule candidate secondary mctx :=
  collectMatches_mirror rule candidate secondary mctx.usedSecondary mctx.primaryIsLeft

theorem addDirectProposal_mirror (rule : RuleDefinition) (primaryID : UUID)
    (matchedIDs : List UUID) (maxScore : ℤ) (mctx : MatchContext) :
    addDirectProposal rule.mirror primaryID matchedIDs maxScore mctx.mirror =
      (addDirectProposal rule primaryID matchedIDs maxScore mctx).mirror := by
  cases hside : mctx.primaryIsLeft <;>
    simp [addDirectProposal, directProposal, resolveProposalIDs,
      MatchContext.mirror, MatchProposal.mirror, RuleDefinition.mirror, hside]

theorem addAllocatedProposal_mirror (proposal : MatchProposal) (mctx : MatchContext) :
    addAllocatedProposal proposal.mirror mctx.mirror =
      (addAllocatedProposal proposal mctx).mirror := by
  cases hside : mctx.primaryIsLeft <;>
    simp [addAllocatedProposal, resolveUsedMaps, MatchContext.setUsedMaps,
      MatchContext.mirror, MatchProposal.mirror, hside]

theorem settleAllocation_mirror {cfg : AllocationConfig} (hvalid : cfg.Valid)
    (rule : RuleDefinition) (target : CandidateTransaction) (score : ℤ)
    (mctx : MatchContext) (result : AllocationResult) :
    settleAllocation cfg.mirror rule.mirror target score mctx.mirror result =
      (settleAllocation cfg rule target score mctx result).mirror := by
  unfold settleAllocation
  rw [buildAllocationMatchProposal_mirror hvalid, addAllocatedProposal_mirror]
  cases result.failure with
  | some => rfl
  | none =>
    dsimp only
    cases result.complete <;> rfl

theorem visitPrimary_mirror (secondary : List CandidateTransaction) (rule : RuleDefinition)
    (mctx : MatchContext) (candidate : CandidateTransaction) :
    visitPrimary secondary rule.mirror mctx.mirror candidate =
      MatchContext.mirror <$> visitPrimary secondary rule mctx candidate := by
  by_cases hused : candidate.id ∈ mctx.usedPrimary
  · rw [visitPrimary_of_used hused,
      visitPrimary_of_used (show candidate.id ∈ mctx.mirror.usedPrimary from hused)]
    rfl
  have hfree : candidate.id ∉ mctx.mirror.usedPrimary := hused
  have hmirror := findMatches_mirror rule candidate secondary mctx
  cases hfind : findMatches rule candidate secondary mctx with
  | error =>
    rw [visitPrimary, visitPrimary, if_neg hused, if_neg hfree,
      tryMatchCandidate, tryMatchCandidate, hmirror, hfind]
    rfl
  | ok collected =>
    rw [hfind] at hmirror
    rcases eq_or_ne collected.candidates [] with hempty | hnonempty
    · rw [visitPrimary_of_empty hused hfind hempty, visitPrimary_of_empty hfree hmirror hempty]
      rfl
    rw [visitPrimary_of_found hused hfind hnonempty, visitPrimary_of_found hfree hmirror hnonempty]
    have hallocation : rule.mirror.allocation = rule.allocation.map AllocationConfig.mirror := rfl
    rw [hallocation]
    cases rule.allocation with
    | none =>
      exact congrArg Except.ok (addDirectProposal_mirror rule candidate.id
        collected.ids collected.maxScore mctx)
    | some cfg =>
      dsimp only [Option.map_some]
      rw [allocateOneToManyDetailed_mirror]
      cases hresult : allocateOneToManyDetailed candidate collected.candidates (some cfg) with
      | error => rfl
      | ok result =>
        exact congrArg Except.ok (settleAllocation_mirror
          (allocateOneToManyDetailed_eq_ok hresult).1 rule candidate
          collected.maxScore mctx result)

theorem processRuleMatches_mirror (primary secondary : List CandidateTransaction)
    (mctx : MatchContext) (rule : RuleDefinition) :
    processRuleMatches primary secondary mctx.mirror rule.mirror =
      MatchContext.mirror <$> processRuleMatches primary secondary mctx
        rule := by
  have himage := foldlM_image MatchContext.mirror
    (id : CandidateTransaction → CandidateTransaction)
    (fun state candidate => visitPrimary_mirror secondary rule state candidate)
    primary mctx
  rwa [List.map_id] at himage

theorem matchWithDirectionDetailed_mirror (rules : List RuleDefinition)
    (primary secondary : List CandidateTransaction) (mode : MatchMode) (primaryIsLeft : Bool) :
    matchWithDirectionDetailed (rules.map RuleDefinition.mirror) primary
        secondary mode.mirror (!primaryIsLeft) =
      EngineResult.mirror <$> matchWithDirectionDetailed rules primary
        secondary mode primaryIsLeft := by
  have himage := foldlM_image MatchContext.mirror RuleDefinition.mirror
    (fun state rule => processRuleMatches_mirror primary secondary state rule)
    rules (initialContext mode primaryIsLeft)
  unfold matchWithDirectionDetailed
  change ((rules.map RuleDefinition.mirror).foldlM (processRuleMatches primary secondary)
    (initialContext mode primaryIsLeft).mirror >>= _) = _
  rw [himage]
  cases rules.foldlM (processRuleMatches primary secondary) (initialContext mode primaryIsLeft) with
  | error | ok => rfl

theorem sortRules_mirror (rules : List RuleDefinition) :
    sortRules (rules.map RuleDefinition.mirror) = (sortRules rules).map RuleDefinition.mirror :=
  stableSort_map RuleDefinition.mirror (fun _ _ => rfl) rules

theorem Engine.checkSize_mirror (engine : Option Engine)
    (rules : List RuleDefinition) (left right : List CandidateTransaction) :
    Engine.checkSize engine (rules.map RuleDefinition.mirror) right left =
      Engine.checkSize engine rules left right := by
  cases engine with
  | none => rfl
  | some engine =>
    simp only [Engine.checkSize, List.length_map,
      or_comm (a := engine.maxAllowed < (right.length : ℤ))]

/--
A many-to-one execution is the mirror image of the one-to-many execution with
mirrored rules and exchanged sides: the same proposals in the same order with
their sides exchanged, the same recorded failures, and the same error.
-/
theorem executeNv1Detailed_mirror (engine : Option Engine)
    (rules : List RuleDefinition) (left right : List CandidateTransaction) :
    executeNv1Detailed engine rules left right =
      EngineResult.mirror <$> execute1vNDetailed engine
        (rules.map RuleDefinition.mirror) right left := by
  unfold executeNv1Detailed execute1vNDetailed
  rw [Engine.checkSize_mirror, sortRules_mirror]
  cases Engine.checkSize engine rules left right with
  | error => rfl
  | ok =>
    have hrun := matchWithDirectionDetailed_mirror (sortRules rules)
      (sortTransactions right) (sortTransactions left) .manyToOne false
    change matchWithDirectionDetailed _ _ _ _ _ =
      EngineResult.mirror <$> matchWithDirectionDetailed _ _ _
        (MatchMode.mirror .manyToOne) (!false)
    rw [hrun]
    cases matchWithDirectionDetailed (sortRules rules)
        (sortTransactions right) (sortTransactions left) .manyToOne
        false with
    | error failure => rfl
    | ok result => exact congrArg Except.ok result.mirror_mirror.symm

end Matcher.Matching
