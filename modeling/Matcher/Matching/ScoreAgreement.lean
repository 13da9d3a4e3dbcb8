import Matcher.Foundation.Padding
import Matcher.Matching.Engine
import Matcher.Matching.RuleConfigDecode

/-!
# Evaluators and scores

The score of an accepted pair compares the two candidates again, and not always
as the evaluator did.  For exact and date lag rules the amount and the date that
the evaluator accepted are always awarded.  A tolerance rule rounds the amounts
it compares while the score does not, and references are trimmed only by the
evaluators.
-/

namespace Matcher.Matching

open Foundation

variable {components : ConfidenceComponents}

/-! ## The score as points -/

def points (awarded : Bool) (weight : ℤ) : ℤ :=
  if awarded then weight else 0

@[simp] theorem points_true (weight : ℤ) : points true weight = weight := rfl

@[simp] theorem points_false (weight : ℤ) : points false weight = 0 := rfl

def referencesAgree (opts : ReferenceMatchOptions) (left right : String) : Bool :=
  if opts.referenceMustSet && (left = "" || right = "") then false
  else if left = "" && right = "" then true
  else if opts.caseInsensitive then equalFold left right
  else left = right

theorem calculateReferenceScoreWithOptions_eq (opts : ReferenceMatchOptions)
    (left right : CandidateTransaction) :
    calculateReferenceScoreWithOptions opts left right =
      if referencesAgree opts left.reference right.reference then 1 else 0 := by
  unfold calculateReferenceScoreWithOptions referencesAgree
  dsimp only
  split_ifs <;> simp_all

theorem calculateConfidenceScore_eq {amount currency date reference : Bool}
    (hamount : components.amountMatch = amount) (hcurrency : components.currencyMatch = currency)
    (hdate : components.dateMatch = date)
    (hreference : components.referenceScore = if reference then 1 else 0) :
    calculateConfidenceScore components defaultConfidenceWeights =
      points amount 40 + points currency 30 + points date 20 + points reference 10 := by
  have hpoints : ∀ amount currency date reference : Bool,
      calculateConfidenceScore
          ⟨amount, currency, date, if reference then 1 else 0⟩
          defaultConfidenceWeights =
        points amount 40 + points currency 30 + points date 20 + points reference 10 := by
    decide +kernel
  obtain ⟨_, _, _, _⟩ := components
  cases hamount
  cases hcurrency
  cases hdate
  cases hreference
  exact hpoints _ _ _ _

theorem calculateConfidenceScore_le {reference : Bool}
    (hreference : components.referenceScore = if reference then 1 else 0) :
    calculateConfidenceScore components defaultConfidenceWeights ≤ 100 := by
  have hpoints : ∀ amount currency date reference : Bool,
      points amount 40 + points currency 30 + points date 20 + points reference 10 ≤ 100 := by
    decide
  rw [calculateConfidenceScore_eq rfl rfl rfl hreference]
  exact hpoints _ _ _ _

theorem passed_of_match {passed : Bool} {next : Except GoError Bool}
    (h : (if !passed then .ok false else next) = .ok true) : passed = true ∧ next = .ok true := by
  cases passed with
  | false => cases h
  | true => exact ⟨rfl, h⟩

/-! ## Exact rules -/

section Exact

variable {left right : CandidateTransaction} {cfg : ExactConfig}

theorem exactMatch_eq_true (h : exactMatch left right (some cfg) = .ok true) :
    matchAmountAndCurrency left right cfg = true ∧
      matchBaseAmountAndCurrency left right cfg = true ∧
      matchDate left right cfg = .ok true ∧
      matchReference left right cfg = true := by
  obtain ⟨hamount, h⟩ := passed_of_match h
  obtain ⟨hbase, h⟩ := passed_of_match h
  obtain ⟨matched, hdate, h⟩ := bind_eq_ok.mp h
  obtain ⟨hmatched, h⟩ := passed_of_match h
  obtain ⟨hreference, -⟩ := passed_of_match h
  exact ⟨hamount, hbase, hmatched ▸ hdate, hreference⟩

theorem evaluateExactAmountMatch_of_match (hamount : matchAmountAndCurrency left right cfg = true)
    (hbase : matchBaseAmountAndCurrency left right cfg = true) :
    evaluateExactAmountMatch cfg left right = true := by
  unfold evaluateExactAmountMatch
  cases hmatchBase : cfg.matchBaseAmount with
  | true =>
    cases hequal : baseAmountsEqual left right with
    | true => simp
    | false => simp [matchBaseAmountAndCurrency, hmatchBase, hequal] at hbase
  | false =>
    cases hmatchAmount : cfg.matchAmount with
    | false => simp
    | true =>
      by_contra hdifferent
      simp [matchAmountAndCurrency, hmatchAmount] at hamount hdifferent
      exact hdifferent hamount.1

theorem evaluateExactDateMatch_of_match (hdate : matchDate left right cfg = .ok true) :
    evaluateExactDateMatch cfg left right = true := by
  unfold evaluateExactDateMatch
  unfold matchDate at hdate
  cases hmatch : cfg.matchDate with
  | false => simp
  | true =>
    rw [hmatch] at hdate
    cases hprecision : cfg.datePrecision with
    | day | timestamp =>
      rw [hprecision] at hdate
      exact Except.ok.inj hdate
    | other => rfl

theorem evaluateExactReferenceScore_eq :
    evaluateExactReferenceScore cfg left right =
      if (!cfg.matchReference || referencesAgree
        ⟨cfg.caseInsensitive, cfg.referenceMustSet⟩ left.reference
        right.reference) then 1 else 0 := by
  unfold evaluateExactReferenceScore
  rw [calculateReferenceScoreWithOptions_eq]
  cases cfg.matchReference <;> simp

theorem scoreExactConfidence_floor (h : exactMatch left right (some cfg) = .ok true) :
    60 ≤ scoreExactConfidence (some cfg) left right := by
  obtain ⟨hamount, hbase, hdate, -⟩ := exactMatch_eq_true h
  have hscore : scoreExactConfidence (some cfg) left right = _ :=
    calculateConfidenceScore_eq
      (evaluateExactAmountMatch_of_match hamount hbase) rfl
      (evaluateExactDateMatch_of_match hdate) evaluateExactReferenceScore_eq
  have hcurrencyPoints : ∀ awarded, 0 ≤ points awarded 30 := by decide
  have hreferencePoints : ∀ awarded, 0 ≤ points awarded 10 := by decide
  rw [hscore, points_true, points_true]
  have := hcurrencyPoints (extractExactComponents cfg left right).currencyMatch
  have := hreferencePoints (!cfg.matchReference || referencesAgree
    ⟨cfg.caseInsensitive, cfg.referenceMustSet⟩ left.reference
    right.reference)
  omega

end Exact

/-! ## Tolerance rules -/

section Tolerance

variable {left right : CandidateTransaction} {cfg : ToleranceConfig}

theorem validateToleranceConfig_eq_ok {checked : ToleranceConfig}
    (h : validateToleranceConfig (some cfg) = .ok checked) :
    checked = cfg ∧ 0 ≤ cfg.dateWindowDays := by
  obtain ⟨hwindow, h⟩ := guard_eq_ok.mp h
  obtain ⟨-, h⟩ := guard_eq_ok.mp h
  obtain ⟨rounded, -, h⟩ := bind_eq_ok.mp h
  exact ⟨(Except.ok.inj h).symm, not_lt.mp hwindow⟩

structure TolerancePassed (left right : CandidateTransaction) (cfg : ToleranceConfig) : Prop where
  window : 0 ≤ cfg.dateWindowDays
  currency : toleranceCurrencyMatch left right cfg = true
  date : toleranceDateMatch left right cfg = true
  reference : toleranceReferenceMatch left right cfg = true
  amounts : ∃ amounts, toleranceAmounts left right cfg = some amounts

theorem toleranceMatch_eq_true (h : toleranceMatch left right (some cfg) = .ok true) :
    TolerancePassed left right cfg := by
  obtain ⟨checked, hchecked, hbody⟩ := bind_eq_ok.mp h
  obtain ⟨hsame, hwindow⟩ := validateToleranceConfig_eq_ok hchecked
  rw [hsame] at hbody
  obtain ⟨hcurrency, hbody⟩ := passed_of_match hbody
  obtain ⟨hdate, hbody⟩ := passed_of_match hbody
  cases hamounts : toleranceAmounts left right cfg with
  | none =>
    rw [hamounts] at hbody
    cases hbody
  | some amounts =>
    rw [hamounts] at hbody
    obtain ⟨hreference, -⟩ := passed_of_match hbody
    exact ⟨hwindow, hcurrency, hdate, hreference, amounts, hamounts⟩

/-- The amounts as they are stored, without rounding, are within tolerance. -/
def StoredWithinTolerance (cfg : ToleranceConfig) (left right : CandidateTransaction) : Prop :=
  ∃ leftAmount rightAmount,
    toleranceAmounts left right cfg = some (leftAmount, rightAmount) ∧
      |leftAmount - rightAmount| ≤ toleranceThreshold cfg.absAmountTolerance
        cfg.percentTolerance leftAmount rightAmount cfg.percentageBase

/-- The candidates share a currency, and the references as stored agree. -/
def StoredTermsAgree (cfg : ToleranceConfig) (left right : CandidateTransaction) : Prop :=
  (cfg.matchBaseCurrency = true ∨ left.currency = right.currency) ∧
    cfg.matchReference = true ∧
    referencesAgree ⟨cfg.caseInsensitive, cfg.referenceMustSet⟩
      left.reference right.reference = true

theorem toleranceAmountMatch_iff :
    (extractToleranceComponents cfg left right).amountMatch = true ↔
      StoredWithinTolerance cfg left right := by
  simp only [extractToleranceComponents, StoredWithinTolerance]
  cases toleranceAmounts left right cfg with
  | none => simp
  | some amounts =>
    obtain ⟨leftAmount, rightAmount⟩ := amounts
    simp [isWithinTolerance]

theorem currenciesScore_iff {first second : String} (hfirst : first ≠ "") :
    currenciesScore first second = true ↔ first = second := by
  simp [currenciesScore, hfirst]

theorem toleranceCurrencyScore_iff (hleft : left.currency ≠ "")
    (hright : right.currency ≠ "") (hpassed : TolerancePassed left right cfg) :
    (extractToleranceComponents cfg left right).currencyMatch = true ↔
      cfg.matchBaseCurrency = true ∨ left.currency = right.currency := by
  have hcurrency := hpassed.currency
  cases hbase : cfg.matchBaseCurrency with
  | true =>
    -- the evaluator has asked for base currencies that are set and equal
    have hbaseCurrencies : baseCurrenciesMatch left right = true := by
      by_contra hdifferent
      simp [toleranceCurrencyMatch, hbase, hdifferent] at hcurrency
    simp only [extractToleranceComponents, hbase, if_true, true_or, iff_true]
    simp only [baseCurrenciesMatch] at hbaseCurrencies
    split at hbaseCurrencies
    next => cases hbaseCurrencies
    next hset =>
      simp only [Bool.or_eq_true, decide_eq_true_eq, not_or] at hset
      exact (currenciesScore_iff hset.1).mpr (of_decide_eq_true hbaseCurrencies)
  | false =>
    simp only [extractToleranceComponents, hbase, Bool.false_eq_true, if_false, false_or]
    cases cfg.matchCurrency with
    | true => simp [currenciesScore_iff hleft]
    | false => simp [hleft, hright]

theorem evaluateToleranceReferenceScore_eq :
    evaluateToleranceReferenceScore cfg left right =
      if (cfg.matchReference && referencesAgree
        ⟨cfg.caseInsensitive, cfg.referenceMustSet⟩ left.reference
        right.reference) then 1 else 0 := by
  unfold evaluateToleranceReferenceScore
  rw [calculateReferenceScoreWithOptions_eq]
  cases cfg.matchReference <;> simp

theorem scoreToleranceConfidence_eq (hpassed : TolerancePassed left right cfg) :
    scoreToleranceConfidence (some cfg) left right =
      points (extractToleranceComponents cfg left right).amountMatch 40 +
        points (extractToleranceComponents cfg left right).currencyMatch 30 +
        20 +
        points (cfg.matchReference && referencesAgree
          ⟨cfg.caseInsensitive, cfg.referenceMustSet⟩ left.reference
          right.reference) 10 := by
  have hdate : (extractToleranceComponents cfg left right).dateMatch =
      true := by
    simp only [extractToleranceComponents, if_pos hpassed.window]
    exact hpassed.date
  exact calculateConfidenceScore_eq rfl rfl hdate evaluateToleranceReferenceScore_eq

theorem scoreToleranceConfidence_floor_iff (hleft : left.currency ≠ "")
    (hright : right.currency ≠ "") (h : toleranceMatch left right (some cfg) = .ok true) :
    60 ≤ scoreToleranceConfidence (some cfg) left right ↔
      StoredWithinTolerance cfg left right ∨ StoredTermsAgree cfg left right := by
  have hpassed := toleranceMatch_eq_true h
  rw [scoreToleranceConfidence_eq hpassed, ← toleranceAmountMatch_iff, StoredTermsAgree,
    ← toleranceCurrencyScore_iff hleft hright hpassed, ← Bool.and_eq_true]
  cases (extractToleranceComponents cfg left right).amountMatch <;>
    cases (extractToleranceComponents cfg left right).currencyMatch <;>
      cases (cfg.matchReference && referencesAgree
        ⟨cfg.caseInsensitive, cfg.referenceMustSet⟩ left.reference
        right.reference) <;> simp

end Tolerance

/-! ## Date lag rules -/

section DateLag

variable {left right : CandidateTransaction} {cfg : DateLagConfig}

theorem validateDateLagConfig_eq_ok {checked : DateLagConfig}
    (h : validateDateLagConfig (some cfg) = .ok checked) : checked = cfg := by
  obtain ⟨-, h⟩ := guard_eq_ok.mp h
  obtain ⟨-, h⟩ := guard_eq_ok.mp h
  exact (Except.ok.inj h).symm

theorem computeDateLagDiff_eq_abs {diff : ℤ} (h : computeDateLagDiff left right cfg = .ok diff)
    (hdiff : 0 ≤ diff) : absDayDiff left.date right.date = diff := by
  simp only [computeDateLagDiff] at h
  simp only [absDayDiff]
  cases hdirection : cfg.direction with
  | abs =>
    rw [hdirection] at h
    exact Except.ok.inj h
  | leftBeforeRight =>
    rw [hdirection] at h
    have hlag := Except.ok.inj h
    simp only [directedLag] at hlag
    split at hlag
    · omega
    · rw [if_neg (by omega)]
      exact hlag
  | rightBeforeLeft =>
    rw [hdirection] at h
    have hlag := Except.ok.inj h
    simp only [directedLag] at hlag
    split at hlag
    · omega
    · split <;> omega
  | other =>
    rw [hdirection] at h
    cases h

theorem dateLagMatch_eq_true (h : dateLagMatch left right (some cfg) = .ok true) :
    amountWithinFeeTolerance left right cfg.feeTolerance = true ∧
      isWithinDateLagBounds (absDayDiff left.date right.date) cfg = true := by
  obtain ⟨checked, hchecked, hbody⟩ := bind_eq_ok.mp h
  rw [validateDateLagConfig_eq_ok hchecked] at hbody
  obtain ⟨-, hbody⟩ := passed_of_match hbody
  obtain ⟨-, hbody⟩ := guard_eq_ok.mp hbody
  obtain ⟨hamount, hbody⟩ := passed_of_match hbody
  obtain ⟨diff, hdiff, hbody⟩ := bind_eq_ok.mp hbody
  split at hbody
  next => cases hbody
  next hnonneg =>
    rw [computeDateLagDiff_eq_abs hdiff (not_lt.mp hnonneg)]
    exact ⟨hamount, Except.ok.inj hbody⟩

theorem isWithinFeeTolerance_of_match
    (h : amountWithinFeeTolerance left right cfg.feeTolerance = true) :
    isWithinFeeTolerance left.amount right.amount cfg.feeTolerance = true := by
  simp only [amountWithinFeeTolerance, isWithinFeeTolerance, Bool.not_eq_true',
    decide_eq_false_iff_not, not_lt] at h ⊢
  exact (abs_abs_sub_abs_le_abs_sub left.amount right.amount).trans h

def sameCurrency (left right : CandidateTransaction) : Bool :=
  currenciesScore left.currency right.currency

theorem dateLagCurrencyScore_eq :
    (extractDateLagComponents cfg left right).currencyMatch = sameCurrency left right := by
  simp only [extractDateLagComponents, sameCurrency]
  cases cfg.matchCurrency with
  | true => rfl
  | false =>
    simp only [currenciesScore, Bool.false_eq_true, if_false]
    grind

theorem scoreDateLagConfidence_eq (h : dateLagMatch left right (some cfg) = .ok true) :
    scoreDateLagConfidence (some cfg) left right = 60 + points (sameCurrency left right) 30 := by
  obtain ⟨hamount, hdate⟩ := dateLagMatch_eq_true h
  have hamountScore : (extractDateLagComponents cfg left right).amountMatch =
      true := isWithinFeeTolerance_of_match hamount
  have hdateScore : (extractDateLagComponents cfg left right).dateMatch =
      true := by
    simp only [isWithinDateLagBounds] at hdate
    simp only [extractDateLagComponents]
    cases hinclusive : cfg.inclusive with
    | true =>
      rw [hinclusive] at hdate
      simpa using hdate
    | false =>
      rw [hinclusive] at hdate
      simp only [Bool.false_eq_true, if_false, Bool.and_eq_true, decide_eq_true_eq] at hdate
      simp [hdate.1.le, hdate.2]
  have hscore : scoreDateLagConfidence (some cfg) left right = _ :=
    calculateConfidenceScore_eq hamountScore dateLagCurrencyScore_eq hdateScore
      (rfl : _ = if false then (1 : ℚ) else 0)
  rw [hscore, points_true, points_true, points_false]
  ring

end DateLag

/-! ## The score floor -/

/-- A decoded rule carries the configuration of its own type and no other. -/
inductive Configured (rule : RuleDefinition) : Prop
  | exact (cfg : ExactConfig) (htype : rule.type = .exact)
      (hexact : rule.exact = some cfg) (htolerance : rule.tolerance = none)
  | tolerance (cfg : ToleranceConfig) (htype : rule.type = .tolerance)
      (hexact : rule.exact = none) (htolerance : rule.tolerance = some cfg)
  | dateLag (cfg : DateLagConfig) (htype : rule.type = .dateLag)
      (hexact : rule.exact = none) (htolerance : rule.tolerance = none)
      (hdateLag : rule.dateLag = some cfg)

theorem decodeRuleDefinition_configured {stored : Option MatchRule} {rule : RuleDefinition}
    (h : decodeRuleDefinition stored = .ok rule) : Configured rule := by
  obtain ⟨found, hdecoded⟩ := decodeRuleDefinition_eq_ok h
  cases hdecoded with
  | exact => exact .exact _ rfl rfl rfl
  | tolerance => exact .tolerance _ rfl rfl rfl
  | dateLag => exact .dateLag _ rfl rfl rfl rfl

section Evaluation

variable {rule : RuleDefinition} {left right : CandidateTransaction}
  {score : ℤ}

theorem evalByType_exact {cfg : ExactConfig} (hexact : rule.exact = some cfg)
    (h : evalByType rule left right = .ok (true, score)) :
    exactMatch left right (some cfg) = .ok true ∧
      score = scoreExactConfidence (some cfg) left right := by
  simp only [evalByType, hexact] at h
  obtain ⟨matched, hmatched, h⟩ := bind_eq_ok.mp h
  obtain ⟨rfl, rfl⟩ := Prod.mk.inj (Except.ok.inj h)
  exact ⟨hmatched, rfl⟩

theorem evalByType_tolerance {cfg : ToleranceConfig} (hexact : rule.exact = none)
    (htolerance : rule.tolerance = some cfg) (h : evalByType rule left right = .ok (true, score)) :
    toleranceMatch left right (some cfg) = .ok true ∧
      score = scoreToleranceConfidence (some cfg) left right := by
  simp only [evalByType, hexact, htolerance] at h
  obtain ⟨matched, hmatched, h⟩ := bind_eq_ok.mp h
  obtain ⟨rfl, rfl⟩ := Prod.mk.inj (Except.ok.inj h)
  exact ⟨hmatched, rfl⟩

theorem evalByType_dateLag {cfg : DateLagConfig} (hexact : rule.exact = none)
    (htolerance : rule.tolerance = none) (hdateLag : rule.dateLag = some cfg)
    (h : evalByType rule left right = .ok (true, score)) :
    dateLagMatch left right (some cfg) = .ok true ∧
      score = 60 + points (sameCurrency left right) 30 := by
  simp only [evalByType, hexact, htolerance, hdateLag] at h
  obtain ⟨matched, hmatched, h⟩ := bind_eq_ok.mp h
  obtain ⟨rfl, rfl⟩ := Prod.mk.inj (Except.ok.inj h)
  exact ⟨hmatched, scoreDateLagConfidence_eq hmatched⟩

theorem evalByType_score_le (h : evalByType rule left right = .ok (true, score)) : score ≤ 100 := by
  cases hexact : rule.exact with
  | some =>
    obtain ⟨-, rfl⟩ := evalByType_exact hexact h
    exact calculateConfidenceScore_le evaluateExactReferenceScore_eq
  | none =>
    cases htolerance : rule.tolerance with
    | some =>
      obtain ⟨-, rfl⟩ := evalByType_tolerance hexact htolerance h
      exact calculateConfidenceScore_le evaluateToleranceReferenceScore_eq
    | none =>
      cases hdateLag : rule.dateLag with
      | some =>
        obtain ⟨-, rfl⟩ := evalByType_dateLag hexact htolerance hdateLag h
        cases sameCurrency left right <;> decide
      | none =>
        simp only [evalByType, hexact, htolerance, hdateLag] at h
        cases h

theorem accepted_score_floor_iff {stored : Option MatchRule}
    (hdecode : decodeRuleDefinition stored = .ok rule) (hleft : left.currency ≠ "")
    (hright : right.currency ≠ "") (hmatch : evalByType rule left right = .ok (true, score)) :
    60 ≤ score ↔
      ∀ cfg, rule.tolerance = some cfg →
        StoredWithinTolerance cfg left right ∨ StoredTermsAgree cfg left right := by
  cases decodeRuleDefinition_configured hdecode with
  | exact _ _ hexact htolerance =>
    obtain ⟨hmatched, rfl⟩ := evalByType_exact hexact hmatch
    simp [htolerance, scoreExactConfidence_floor hmatched]
  | tolerance _ _ hexact htolerance =>
    obtain ⟨hmatched, rfl⟩ := evalByType_tolerance hexact htolerance hmatch
    rw [scoreToleranceConfidence_floor_iff hleft hright hmatched]
    simp [htolerance]
  | dateLag _ _ hexact htolerance hdateLag =>
    obtain ⟨-, rfl⟩ := evalByType_dateLag hexact htolerance hdateLag hmatch
    have hpoints : ∀ awarded, 0 ≤ points awarded 30 := by decide
    simp [htolerance, hpoints]

end Evaluation

/-- No tolerance at all, and references are not compared. -/
def strictToleranceRule : MatchRule where
  id := ⟨9⟩
  priority := 1
  type := .tolerance
  config := [("absTolerance", .float 0), ("percentTolerance", .float 0),
    ("matchReference", .boolean false)]

def strictToleranceDefinition : RuleDefinition where
  id := ⟨9⟩
  priority := 1
  type := .tolerance
  exact := none
  tolerance := some {
    matchCurrency := true
    dateWindowDays := 0
    absAmountTolerance := 0
    percentTolerance := 0
    roundingScale := 2
    roundingMode := .halfUp
    matchBaseAmount := false
    matchBaseCurrency := false
    matchScore := 85
    matchBaseScore := 80
    percentageBase := .max
    matchReference := false
    caseInsensitive := true
    referenceMustSet := false }
  dateLag := none
  allocation := some ⟨false, .leftToRight, .absolute, 0, false⟩

theorem accepted_score_floor_iff_equal :
    decodeRuleDefinition (some strictToleranceRule) = .ok strictToleranceDefinition ∧
      evalByType strictToleranceDefinition (plainCandidate ⟨1⟩ 100)
          (plainCandidate ⟨2⟩ 100) = .ok (true, 90) ∧
      ∀ cfg, strictToleranceDefinition.tolerance = some cfg →
        StoredWithinTolerance cfg (plainCandidate ⟨1⟩ 100) (plainCandidate ⟨2⟩ 100) ∨
          StoredTermsAgree cfg (plainCandidate ⟨1⟩ 100) (plainCandidate ⟨2⟩ 100) := by
  refine (and_iff_left_of_imp fun hdecode => ?_).mpr (by decide +kernel)
  refine (and_iff_left_of_imp fun hmatch => ?_).mpr (by decide +kernel)
  exact (accepted_score_floor_iff hdecode (by decide) (by decide) hmatch).mp (by decide)

/-- The amounts agree to the cent, so the rule accepts the pair; the score sees
the tenth of a cent, and the engine drops the pair. -/
theorem accepted_pair_below_floor :
    decodeRuleDefinition (some strictToleranceRule) = .ok strictToleranceDefinition ∧
      (plainCandidate ⟨1⟩ (100001 / 1000)).currency ≠ "" ∧
      (plainCandidate ⟨2⟩ 100).currency ≠ "" ∧
      evalByType strictToleranceDefinition
          (plainCandidate ⟨1⟩ (100001 / 1000)) (plainCandidate ⟨2⟩ 100) =
        .ok (true, 50) ∧
      execute1v1 (some newEngine) [strictToleranceDefinition]
          [plainCandidate ⟨1⟩ (100001 / 1000)] [plainCandidate ⟨2⟩ 100] =
        .ok [] := by
  decide +kernel

/-! ## References -/

theorem equalFold_iff (left right : String) :
    equalFold left right = true ↔
      SamePadding left right ∧ equalFold (trimSpace left) (trimSpace right) = true := by
  simp only [equalFold, decide_eq_true_eq]
  exact map_lowerAscii_eq_iff left right

theorem ne_empty_of_trimmed {text : String} (h : trimSpace text ≠ "") : text ≠ "" := by
  rintro rfl
  exact h (by decide)

theorem referencesAgree_iff (opts : ReferenceMatchOptions) {left right : String}
    (hleft : trimSpace left ≠ "") (hright : trimSpace right ≠ "") :
    referencesAgree opts left right = true ↔
      SamePadding left right ∧
        (if opts.caseInsensitive then
            equalFold (trimSpace left) (trimSpace right) = true
          else trimSpace left = trimSpace right) := by
  have hleftSet := ne_empty_of_trimmed hleft
  have hrightSet := ne_empty_of_trimmed hright
  simp only [referencesAgree, hleftSet, hrightSet, decide_false,
    Bool.or_false, Bool.and_false, Bool.false_eq_true, if_false]
  cases opts.caseInsensitive with
  | true => simpa using equalFold_iff left right
  | false => simpa using eq_iff_samePadding left right

theorem ite_eq_one_iff {agree : Bool} : (if agree then (1 : ℚ) else 0) = 1 ↔ agree = true := by
  cases agree <;> simp

theorem reference_component_iff {left right : CandidateTransaction}
    (hleft : trimSpace left.reference ≠ "") (hright : trimSpace right.reference ≠ "") :
    (∀ cfg : ExactConfig, cfg.matchReference = true →
      matchReference left right cfg = true →
        (evaluateExactReferenceScore cfg left right = 1 ↔
          SamePadding left.reference right.reference ∧
            (cfg.caseInsensitive = true →
              equalFold (trimSpace left.reference) (trimSpace right.reference) = true))) ∧
    (∀ cfg : ToleranceConfig, cfg.matchReference = true →
      toleranceReferenceMatch left right cfg = true →
        (evaluateToleranceReferenceScore cfg left right = 1 ↔
          SamePadding left.reference right.reference)) := by
  refine ⟨?_, ?_⟩
  · intro cfg henabled hmatch
    simp only [matchReference, henabled, Bool.not_true, Bool.false_eq_true,
      if_false, hleft, hright, decide_false, Bool.or_false, Bool.and_false]
      at hmatch
    simp only [evaluateExactReferenceScore, henabled, Bool.not_true, Bool.false_eq_true, if_false]
    rw [calculateReferenceScoreWithOptions_eq, ite_eq_one_iff, referencesAgree_iff _ hleft hright]
    cases hfold : cfg.caseInsensitive with
    | true => simp
    | false =>
      rw [hfold] at hmatch
      simp only [Bool.false_eq_true, if_false, decide_eq_true_eq] at hmatch
      simp [hmatch]
  · intro cfg henabled hmatch
    simp only [toleranceReferenceMatch, henabled, Bool.not_true, Bool.false_eq_true, if_false,
      hleft, hright, decide_false, Bool.or_false, Bool.and_false] at hmatch
    simp only [evaluateToleranceReferenceScore, henabled, Bool.not_true,
      Bool.false_eq_true, if_false]
    rw [calculateReferenceScoreWithOptions_eq, ite_eq_one_iff, referencesAgree_iff _ hleft hright]
    cases hfold : cfg.caseInsensitive with
    | true =>
      rw [hfold] at hmatch
      simp only [if_true] at hmatch
      simp [hmatch]
    | false =>
      rw [hfold] at hmatch
      simp only [Bool.false_eq_true, if_false, decide_eq_true_eq] at hmatch
      simp [hmatch]

def defaultExactRule : MatchRule where
  id := ⟨9⟩
  priority := 1
  type := .exact
  config := []

def defaultExactConfig : ExactConfig where
  matchAmount := true
  matchCurrency := true
  matchDate := true
  datePrecision := .day
  matchReference := true
  caseInsensitive := true
  referenceMustSet := false
  matchBaseAmount := false
  matchBaseCurrency := false
  matchScore := 100
  matchBaseScore := 90

def referring (id : UUID) (reference : String) : CandidateTransaction :=
  { plainCandidate id 100 with reference := reference }

theorem reference_component_iff_padded :
    matchReference (referring ⟨1⟩ " Inv-1") (referring ⟨2⟩ " INV-1") defaultExactConfig = true ∧
      evaluateExactReferenceScore defaultExactConfig (referring ⟨1⟩ " Inv-1")
        (referring ⟨2⟩ " INV-1") = 1 := by
  refine (and_iff_left_of_imp fun hmatch => ?_).mpr (by decide +kernel)
  exact ((reference_component_iff (by decide +kernel) (by decide +kernel)).1
    defaultExactConfig rfl hmatch).mpr (by decide +kernel)

/-- A trailing blank, or a letter outside ASCII, costs the reference its points
although the evaluator accepts the pair. -/
theorem accepted_references_unscored :
    (decodeRuleDefinition (some defaultExactRule)).map (·.exact) = .ok (some defaultExactConfig) ∧
      trimSpace "INV-1 " = "INV-1" ∧
      exactMatch (referring ⟨1⟩ "INV-1 ") (referring ⟨2⟩ "INV-1")
        (some defaultExactConfig) = .ok true ∧
      evaluateExactReferenceScore defaultExactConfig
        (referring ⟨1⟩ "INV-1 ") (referring ⟨2⟩ "INV-1") = 0 ∧
      exactMatch (referring ⟨1⟩ "CAFÉ") (referring ⟨2⟩ "café")
        (some defaultExactConfig) = .ok true ∧
      evaluateExactReferenceScore defaultExactConfig
        (referring ⟨1⟩ "CAFÉ") (referring ⟨2⟩ "café") = 0 := by
  decide +kernel

end Matcher.Matching
