import Matcher.Foundation.Calendar
import Matcher.Matching.ScoreAgreement

/-!
# What decoded rules can do

The decoder refuses every setting that an evaluator would fail on, so a decoded
rule gives a verdict on any pair of candidates and a one-to-one execution within
the engine's size limit returns.  It does not refuse every window of days that no
pair of dates can meet, but the longest one it admits is far below the days at which
a duration saturates, so a window is tested in days of the calendar.
-/

namespace Matcher.Matching

open Foundation

variable {config : ConfigMap} {cfg : DateLagConfig} {rule : RuleDefinition} {value : String}
  {days : ℤ}

/-! ## Supported settings -/

def ExactConfig.Supported (cfg : ExactConfig) : Prop :=
  cfg.datePrecision = .day ∨ cfg.datePrecision = .timestamp

structure ToleranceConfig.Supported (cfg : ToleranceConfig) : Prop where
  dateWindowDays : 0 ≤ cfg.dateWindowDays
  absAmountTolerance : 0 ≤ cfg.absAmountTolerance
  percentTolerance : 0 ≤ cfg.percentTolerance
  roundingScale : 0 ≤ cfg.roundingScale ∧ cfg.roundingScale ≤ maxRoundingScale
  roundingMode : ∀ value, cfg.roundingMode ≠ .other value

structure DateLagConfig.Supported (cfg : DateLagConfig) : Prop where
  minDays : 0 ≤ cfg.minDays
  maxDays : cfg.minDays ≤ cfg.maxDays
  limit : cfg.maxDays ≤ maxDateLagDays
  feeTolerance : 0 ≤ cfg.feeTolerance
  direction : ∀ value, cfg.direction ≠ .other value

theorem parseDatePrecision_supported {precision : DatePrecision}
    (h : parseDatePrecision value = some precision) :
    precision = .day ∨ precision = .timestamp := by
  unfold parseDatePrecision at h
  split at h
  · cases h
    exact Or.inl rfl
  · cases h
    exact Or.inr rfl
  · cases h

theorem parseRoundingMode_supported {mode : RoundingMode}
    (h : parseRoundingMode value = some mode) : ∀ other, mode ≠ .other other := by
  rintro other rfl
  unfold parseRoundingMode at h
  split at h <;> cases h

theorem parseDateLagDirection_supported {direction : DateLagDirection}
    (h : parseDateLagDirection value = some direction) : ∀ other, direction ≠ .other other := by
  rintro other rfl
  unfold parseDateLagDirection at h
  split at h <;> cases h

theorem rest_of_conditional_check {α β : Type} {condition : Prop} [Decidable condition]
    {check other : Except GoError α} {rest : α → Except GoError β} {result : β}
    (h : (if condition then check >>= rest else other >>= rest) = .ok result) :
    ∃ value, rest value = .ok result := by
  split at h
  all_goals
    obtain ⟨value, -, hrest⟩ := bind_eq_ok.mp h
    exact ⟨value, hrest⟩

theorem decodeExactConfig_supported {cfg : ExactConfig} (h : decodeExactConfig config = .ok cfg) :
    cfg.Supported := by
  unfold decodeExactConfig at h
  iterate 9 obtain ⟨_, -, h⟩ := bind_eq_ok.mp h
  obtain ⟨matchScore, -, h⟩ := bind_eq_ok.mp h
  obtain ⟨matchBaseScore, -, h⟩ := bind_eq_ok.mp h
  obtain ⟨-, h⟩ := check_eq_ok.mp h
  obtain ⟨⟨⟩, h⟩ := rest_of_conditional_check h
  obtain ⟨precision, hprecision, h⟩ := bind_eq_ok.mp h
  cases h
  rcases getChoice_eq_ok hprecision with rfl | ⟨value, hparse⟩
  · exact Or.inl rfl
  · exact parseDatePrecision_supported hparse

theorem decodeToleranceConfig_supported {cfg : ToleranceConfig}
    (h : decodeToleranceConfig config = .ok cfg) :
    cfg.Supported ∧ cfg.dateWindowDays ≤ maxDateWindowDays := by
  unfold decodeToleranceConfig at h
  obtain ⟨window, -, h⟩ := bind_eq_ok.mp h
  obtain ⟨scale, -, h⟩ := bind_eq_ok.mp h
  obtain ⟨hwindow, h⟩ := check_eq_ok.mp h
  obtain ⟨hmaxWindow, h⟩ := check_eq_ok.mp h
  obtain ⟨hscale, h⟩ := check_eq_ok.mp h
  obtain ⟨hmaxScale, h⟩ := check_eq_ok.mp h
  obtain ⟨mode, hmode, h⟩ := bind_eq_ok.mp h
  obtain ⟨base, -, h⟩ := bind_eq_ok.mp h
  obtain ⟨absTol, -, h⟩ := bind_eq_ok.mp h
  obtain ⟨pctTol, -, h⟩ := bind_eq_ok.mp h
  obtain ⟨habs, h⟩ := check_eq_ok.mp h
  obtain ⟨hpct, h⟩ := check_eq_ok.mp h
  iterate 5 obtain ⟨_, -, h⟩ := bind_eq_ok.mp h
  obtain ⟨-, h⟩ := check_eq_ok.mp h
  obtain ⟨⟨⟩, h⟩ := rest_of_conditional_check h
  iterate 3 obtain ⟨_, -, h⟩ := bind_eq_ok.mp h
  cases h
  refine ⟨⟨not_lt.mp (rejectWhen_eq_ok hwindow),
    not_lt.mp (rejectWhen_eq_ok habs), not_lt.mp (rejectWhen_eq_ok hpct),
    ⟨not_lt.mp (rejectWhen_eq_ok hscale), not_lt.mp (rejectWhen_eq_ok hmaxScale)⟩, ?_⟩,
    not_lt.mp (rejectWhen_eq_ok hmaxWindow)⟩
  rcases getChoice_eq_ok hmode with rfl | ⟨value, hparse⟩
  · intro other hother
    cases hother
  · exact parseRoundingMode_supported hparse

theorem decodeDateLagConfig_supported (h : decodeDateLagConfig config = .ok cfg) :
    cfg.Supported := by
  unfold decodeDateLagConfig at h
  obtain ⟨minDays, -, h⟩ := bind_eq_ok.mp h
  obtain ⟨maxDays, -, h⟩ := bind_eq_ok.mp h
  obtain ⟨inclusive, -, h⟩ := bind_eq_ok.mp h
  obtain ⟨feeTolerance, -, h⟩ := bind_eq_ok.mp h
  obtain ⟨hfee, h⟩ := check_eq_ok.mp h
  obtain ⟨hnegative, h⟩ := check_eq_ok.mp h
  obtain ⟨horder, h⟩ := check_eq_ok.mp h
  obtain ⟨hlimit, h⟩ := check_eq_ok.mp h
  obtain ⟨-, h⟩ := check_eq_ok.mp h
  obtain ⟨direction, hdirection, h⟩ := bind_eq_ok.mp h
  obtain ⟨matchCurrency, -, h⟩ := bind_eq_ok.mp h
  obtain ⟨matchScore, -, h⟩ := bind_eq_ok.mp h
  obtain ⟨-, h⟩ := check_eq_ok.mp h
  cases h
  have hnonneg := rejectWhen_eq_ok hnegative
  have hmax := rejectWhen_eq_ok hlimit
  refine ⟨not_lt.mp fun hmin => hnonneg (.inl hmin), not_lt.mp (rejectWhen_eq_ok horder),
    not_lt.mp fun habove => hmax (.inr habove),
    not_lt.mp (rejectWhen_eq_ok hfee), ?_⟩
  rcases getChoice_eq_ok hdirection with rfl | ⟨value, hparse⟩
  · intro other hother
    cases hother
  · exact parseDateLagDirection_supported hparse

/-- The rule is evaluated by one configuration, with supported settings. -/
inductive RuleDefinition.Supported (rule : RuleDefinition) : Prop
  | exact (cfg : ExactConfig) (hcfg : rule.exact = some cfg)
      (hdateLag : rule.dateLag = none) (hsupported : cfg.Supported)
  | tolerance (cfg : ToleranceConfig) (hexact : rule.exact = none)
      (hcfg : rule.tolerance = some cfg) (hdateLag : rule.dateLag = none)
      (hsupported : cfg.Supported)
  | dateLag (cfg : DateLagConfig) (hexact : rule.exact = none)
      (htolerance : rule.tolerance = none) (hcfg : rule.dateLag = some cfg)
      (hsupported : cfg.Supported)

def RuleDefinition.Decoded (rule : RuleDefinition) : Prop :=
  ∃ stored, decodeRuleDefinition stored = .ok rule

theorem RuleDefinition.Decoded.supported (h : rule.Decoded) : rule.Supported := by
  obtain ⟨stored, h⟩ := h
  obtain ⟨found, hdecoded⟩ := decodeRuleDefinition_eq_ok h
  cases hdecoded with
  | exact _ _ _ _ _ hcfg =>
    have hprecision := decodeExactConfig_supported hcfg
    exact .exact _ rfl rfl hprecision
  | tolerance _ _ _ _ _ hcfg =>
    obtain ⟨⟨hwindow, habs, hpct, hscale, hmode⟩, -⟩ := decodeToleranceConfig_supported hcfg
    exact .tolerance _ rfl rfl rfl ⟨hwindow, habs, hpct, hscale, hmode⟩
  | dateLag cfg _ hcfg =>
    exact .dateLag cfg rfl rfl rfl (decodeDateLagConfig_supported hcfg)

theorem RuleDefinition.Decoded.allocation (h : rule.Decoded) :
    ∃ cfg, rule.allocation = some cfg ∧ cfg.Valid := by
  obtain ⟨stored, h⟩ := h
  exact decodeRuleDefinition_allocation h

/-! ## Evaluations that cannot fail -/

section Evaluation

variable (left right : CandidateTransaction)

theorem exactMatch_of_supported {cfg : ExactConfig} (h : cfg.Supported) :
    ∃ matched, exactMatch left right (some cfg) = .ok matched := by
  have hdate : ∃ matched, matchDate left right cfg = .ok matched := by
    unfold matchDate
    split
    · exact ⟨true, rfl⟩
    · rcases h with hprecision | hprecision
      · rw [hprecision]
        exact ⟨_, rfl⟩
      · rw [hprecision]
        exact ⟨_, rfl⟩
  obtain ⟨sameDate, hdate⟩ := hdate
  simp only [exactMatch]
  split
  · exact ⟨false, rfl⟩
  split
  · exact ⟨false, rfl⟩
  rw [hdate]
  change ∃ matched, (if !sameDate then _ else _) = Except.ok matched
  split
  · exact ⟨false, rfl⟩
  split
  · exact ⟨false, rfl⟩
  · exact ⟨true, rfl⟩

theorem roundAmount_of_supported {cfg : ToleranceConfig} (h : cfg.Supported) (amount : Decimal) :
    ∃ rounded, roundAmount amount cfg.roundingScale cfg.roundingMode = .ok rounded := by
  have hscale : ¬ maxInt32 < cfg.roundingScale := not_lt.mpr (h.roundingScale.2.trans (by decide))
  rw [roundAmount, if_neg (not_lt.mpr h.roundingScale.1), if_neg hscale]
  cases hmode : cfg.roundingMode with
  | other value => exact absurd hmode (h.roundingMode value)
  | halfUp | bankers | floor | ceil | truncate => exact ⟨_, rfl⟩

theorem validateToleranceConfig_of_supported {cfg : ToleranceConfig} (h : cfg.Supported) :
    validateToleranceConfig (some cfg) = .ok cfg := by
  obtain ⟨rounded, hrounded⟩ := roundAmount_of_supported h 0
  have htolerances : ¬ (cfg.absAmountTolerance < 0 ∨ cfg.percentTolerance < 0) :=
    not_or.mpr ⟨not_lt.mpr h.absAmountTolerance, not_lt.mpr h.percentTolerance⟩
  simp only [validateToleranceConfig]
  rw [if_neg (not_lt.mpr h.dateWindowDays), if_neg htolerances, hrounded]
  rfl

theorem toleranceMatch_of_supported {cfg : ToleranceConfig} (h : cfg.Supported) :
    ∃ matched, toleranceMatch left right (some cfg) = .ok matched := by
  rw [toleranceMatch, validateToleranceConfig_of_supported h]
  change ∃ matched, (if !toleranceCurrencyMatch left right cfg then _ else _) = Except.ok matched
  split
  · exact ⟨false, rfl⟩
  split
  · exact ⟨false, rfl⟩
  cases toleranceAmounts left right cfg with
  | none => exact ⟨false, rfl⟩
  | some amounts =>
    obtain ⟨leftAmount, rightAmount⟩ := amounts
    dsimp only
    split
    · exact ⟨false, rfl⟩
    obtain ⟨leftRounded, hleft⟩ := roundAmount_of_supported h leftAmount
    obtain ⟨rightRounded, hright⟩ := roundAmount_of_supported h rightAmount
    rw [hleft, hright]
    change ∃ matched, (if _ < _ then _ else _) = Except.ok matched
    split
    · exact ⟨false, rfl⟩
    · exact ⟨true, rfl⟩

theorem validateDateLagConfig_of_supported (h : cfg.Supported) :
    validateDateLagConfig (some cfg) = .ok cfg := by
  have hdays : ¬ (cfg.minDays < 0 ∨ cfg.maxDays < 0) :=
    not_or.mpr ⟨not_lt.mpr h.minDays, not_lt.mpr (h.minDays.trans h.maxDays)⟩
  simp only [validateDateLagConfig]
  rw [if_neg hdays, if_neg (not_lt.mpr h.maxDays)]

theorem dateLagMatch_of_supported (h : cfg.Supported) :
    ∃ matched, dateLagMatch left right (some cfg) = .ok matched := by
  have hdiff : ∃ diff, computeDateLagDiff left right cfg = .ok diff := by
    unfold computeDateLagDiff
    cases hdirection : cfg.direction with
    | other value => exact absurd hdirection (h.direction value)
    | abs | leftBeforeRight | rightBeforeLeft => exact ⟨_, rfl⟩
  obtain ⟨diff, hdiff⟩ := hdiff
  rw [dateLagMatch, validateDateLagConfig_of_supported h]
  change ∃ matched, (if !dateLagCurrencyMatch left right cfg then _ else _) = Except.ok matched
  split
  · exact ⟨false, rfl⟩
  rw [if_neg (not_lt.mpr h.feeTolerance)]
  split
  · exact ⟨false, rfl⟩
  rw [hdiff]
  change ∃ matched, (if diff < 0 then _ else _) = Except.ok matched
  split
  · exact ⟨false, rfl⟩
  · exact ⟨_, rfl⟩

theorem RuleDefinition.Supported.evalByType (h : rule.Supported) :
    ∃ verdict, Matching.evalByType rule left right = .ok verdict := by
  cases h with
  | exact _ hcfg _ hsupported =>
    obtain ⟨matched, hmatched⟩ := exactMatch_of_supported left right hsupported
    simp only [Matching.evalByType, hcfg, hmatched]
    exact ⟨_, rfl⟩
  | tolerance _ hexact hcfg _ hsupported =>
    obtain ⟨matched, hmatched⟩ := toleranceMatch_of_supported left right hsupported
    simp only [Matching.evalByType, hexact, hcfg, hmatched]
    exact ⟨_, rfl⟩
  | dateLag _ hexact htolerance hcfg hsupported =>
    obtain ⟨matched, hmatched⟩ := dateLagMatch_of_supported left right hsupported
    simp only [Matching.evalByType, hexact, htolerance, hcfg, hmatched]
    exact ⟨_, rfl⟩

end Evaluation

/-! ## Executions that cannot fail -/

section Execution

variable {rule : RuleDefinition}

theorem scanRight_returns (h : rule.Supported) (leftTxn : CandidateTransaction)
    (usedRight localUsedRight : Finset UUID) (right : List CandidateTransaction) :
    ∃ found, scanRight rule leftTxn usedRight localUsedRight right = .ok found := by
  induction right with
  | nil => exact ⟨none, rfl⟩
  | cons rightTxn _ ih =>
    obtain ⟨⟨matched, score⟩, hverdict⟩ := h.evalByType leftTxn rightTxn
    rw [scanRight]
    split
    · exact ih
    split
    · exact ih
    rw [hverdict]
    dsimp only
    split
    · exact ih
    · exact ⟨_, rfl⟩

theorem findAll1v1Matches_returns (h : rule.Supported) (left right : List CandidateTransaction)
    (usedLeft usedRight : Finset UUID) :
    ∃ proposals, findAll1v1Matches rule left right usedLeft usedRight = .ok proposals := by
  have hstep : ∀ state, ∀ leftTxn ∈ left, FailsOnly (fun _ => False)
      (matchLeft rule right usedLeft usedRight state leftTxn) := by
    intro state leftTxn _
    unfold matchLeft
    split
    · exact .ok _
    split
    · exact .ok _
    obtain ⟨found, hfound⟩ := scanRight_returns h leftTxn usedRight state.localUsedRight right
    rw [hfound]
    cases found with
    | none | some => exact .ok _
  obtain ⟨final, hfinal⟩ := (FailsOnly.foldlM hstep ⟨[], ∅, ∅⟩).exists_ok
  refine ⟨final.proposals, ?_⟩
  rw [findAll1v1Matches, hfinal]
  rfl

theorem execute1v1_returns {engine : Engine} {rules : List RuleDefinition}
    {left right : List CandidateTransaction} (hrules : ∀ rule ∈ rules, rule.Supported)
    (hsize : engine.Admits rules left right) :
    ∃ proposals, execute1v1 (some engine) rules left right = .ok proposals := by
  have hstep : ∀ state, ∀ rule ∈ sortRules rules, FailsOnly (fun _ => False)
      (applyRule (sortTransactions left) (sortTransactions right) state rule) := by
    intro state rule hrule
    obtain ⟨proposals, hproposals⟩ := findAll1v1Matches_returns
      (hrules rule (mem_stableSort.mp hrule)) (sortTransactions left)
      (sortTransactions right) state.usedLeft state.usedRight
    rw [applyRule, hproposals]
    exact .ok _
  obtain ⟨final, hfinal⟩ := (FailsOnly.foldlM hstep ⟨[], ∅, ∅⟩).exists_ok
  refine ⟨final.out, ?_⟩
  rw [execute1v1, Engine.checkSize_eq_ok.mpr hsize]
  exact bind_eq_ok.mpr ⟨(), rfl, bind_eq_ok.mpr ⟨final, hfinal, rfl⟩⟩

end Execution

/--
A decoded rule gives a verdict on every pair of candidates, and a one-to-one
execution of decoded rules within the size limit returns.
-/
theorem decoded_rules_never_fail :
    (∀ (stored : Option MatchRule) (rule : RuleDefinition),
      decodeRuleDefinition stored = .ok rule →
        ∀ left right : CandidateTransaction, ∃ verdict, evalByType rule left right = .ok verdict) ∧
    (∀ (engine : Engine) (rules : List RuleDefinition) (left right : List CandidateTransaction),
      (∀ rule ∈ rules, rule.Decoded) → engine.Admits rules left right →
        ∃ proposals, execute1v1 (some engine) rules left right = .ok proposals) := by
  refine ⟨?_, ?_⟩
  · intro stored rule hdecode left right
    exact (RuleDefinition.Decoded.supported ⟨stored, hdecode⟩).evalByType
      left right
  · intro engine rules left right hrules hsize
    exact execute1v1_returns (fun rule hrule => (hrules rule hrule).supported) hsize

theorem decoded_rules_never_fail_strict :
    ∃ proposals, execute1v1 (some newEngine) [strictToleranceDefinition] [plainCandidate ⟨1⟩ (-100)]
      [{ plainCandidate ⟨2⟩ 100 with currency := "" }] = .ok proposals := by
  have hdecode : decodeRuleDefinition (some strictToleranceRule) =
      .ok strictToleranceDefinition := by decide +kernel
  refine decoded_rules_never_fail.2 newEngine _ _ _ ?_ ⟨by decide, by decide, by decide⟩
  intro rule hrule
  rw [List.mem_singleton.mp hrule]
  exact ⟨some strictToleranceRule, hdecode⟩

/-! ## Windows of days -/

def utcDate (instant : Instant) : Date := Date.ofDays (instant / nanosecondsPerDay)

/-- The days from the date of the left candidate to that of the right one. -/
def calendarDays (left right : CandidateTransaction) : ℤ :=
  (utcDate right.date).toDays - (utcDate left.date).toDays

def DateLagDirection.lag (days : ℤ) : DateLagDirection → ℤ
  | .abs => |days|
  | .rightBeforeLeft => -days
  | .leftBeforeRight | .other _ => days

theorem signedDayDiff_calendar (left right : CandidateTransaction) :
    signedDayDiff left.date right.date = max (-106751) (min 106751 (calendarDays left right)) := by
  rw [signedDayDiff_eq, calendarDays, utcDate, utcDate, Date.toDays_ofDays, Date.toDays_ofDays]

theorem toleranceDateMatch_calendar {cfg : ToleranceConfig}
    (h : cfg.dateWindowDays ≤ maxDateWindowDays) (left right : CandidateTransaction) :
    toleranceDateMatch left right cfg = true ↔ |calendarDays left right| ≤ cfg.dateWindowDays := by
  simp only [maxDateWindowDays] at h
  simp only [toleranceDateMatch, absDayDiff, signedDayDiff_calendar, decide_eq_true_eq]
  grind

theorem computeDateLagDiff_calendar (h : cfg.Supported) (left right : CandidateTransaction) :
    ∃ diff, computeDateLagDiff left right cfg = .ok diff ∧
      (0 ≤ diff ∧ isWithinDateLagBounds diff cfg = true ↔
        isWithinDateLagBounds (cfg.direction.lag (calendarDays left right)) cfg = true) := by
  obtain ⟨hmin, hmax, hlimit, -, hsupported⟩ := h
  simp only [maxDateLagDays] at hlimit
  simp only [computeDateLagDiff, signedDayDiff_calendar, directedLag, isWithinDateLagBounds]
  cases hdirection : cfg.direction with
  | other value => exact absurd hdirection (hsupported value)
  | abs | leftBeforeRight | rightBeforeLeft =>
    refine ⟨_, rfl, ?_⟩
    simp only [DateLagDirection.lag]
    grind

theorem date_windows_count_calendar_days {tolerance : ToleranceConfig} {lagConfig : ConfigMap}
    (htolerance : decodeToleranceConfig config = .ok tolerance)
    (hlag : decodeDateLagConfig lagConfig = .ok cfg) (left right : CandidateTransaction) :
    (toleranceDateMatch left right tolerance = true ↔
      |calendarDays left right| ≤ tolerance.dateWindowDays) ∧
    ∃ diff, computeDateLagDiff left right cfg = .ok diff ∧
      (0 ≤ diff ∧ isWithinDateLagBounds diff cfg = true ↔
        isWithinDateLagBounds (cfg.direction.lag (calendarDays left right)) cfg = true) :=
  ⟨toleranceDateMatch_calendar (decodeToleranceConfig_supported htolerance).2 left right,
    computeDateLagDiff_calendar (decodeDateLagConfig_supported hlag) left right⟩

theorem saturated_pair_outside_window : ∃ tolerance, decodeToleranceConfig [] = .ok tolerance ∧
    toleranceDateMatch (plainCandidate ⟨1⟩ 0)
      { plainCandidate ⟨2⟩ 0 with date := 200000 * nanosecondsPerDay } tolerance = false := by
  obtain ⟨cfg, hlag⟩ : ∃ cfg, decodeDateLagConfig [] = .ok cfg := ⟨_, rfl⟩
  refine exists_ok_of_map (f := (·.dateWindowDays)) 0 (by decide +kernel) ?_
  intro tolerance htolerance hwindow
  refine Bool.eq_false_iff.mpr fun hmatch => ?_
  have hdays := (date_windows_count_calendar_days htolerance hlag _ _).1.mp hmatch
  rw [hwindow] at hdays
  exact absurd hdays (by decide +kernel)

def onDay (id : UUID) (day : ℤ) : CandidateTransaction :=
  { plainCandidate id 0 with date := day * nanosecondsPerDay }

def daysApart (direction : DateLagDirection) (days : ℤ) :
    CandidateTransaction × CandidateTransaction :=
  if direction = .rightBeforeLeft then (onDay ⟨1⟩ days, onDay ⟨2⟩ 0)
  else (onDay ⟨1⟩ 0, onDay ⟨2⟩ days)

theorem calendarDays_onDay (first second : ℤ) {left right : UUID} :
    calendarDays (onDay left first) (onDay right second) = second - first := by
  simp only [calendarDays, utcDate, onDay, Date.toDays_ofDays]
  rw [Int.mul_ediv_cancel _ (by decide), Int.mul_ediv_cancel _ (by decide)]

theorem computeDateLagDiff_daysApart (h : cfg.Supported)
    (hmin : cfg.minDays ≤ days) (hmax : days ≤ cfg.maxDays) :
    computeDateLagDiff (daysApart cfg.direction days).1
      (daysApart cfg.direction days).2 cfg = .ok days := by
  have hlimit : days ≤ 3650 := hmax.trans h.limit
  have hnonneg : 0 ≤ days := h.minDays.trans hmin
  simp only [computeDateLagDiff, daysApart, directedLag]
  cases hdirection : cfg.direction with
  | other value => exact absurd hdirection (h.direction value)
  | abs | leftBeforeRight | rightBeforeLeft =>
    simp only [reduceCtorEq, if_true, if_false, signedDayDiff_calendar, calendarDays_onDay]
    grind

theorem dateLagMatch_daysApart (h : cfg.Supported) (hmin : cfg.minDays ≤ days)
    (hmax : days ≤ cfg.maxDays) (hwithin : isWithinDateLagBounds days cfg = true) :
    dateLagMatch (daysApart cfg.direction days).1
      (daysApart cfg.direction days).2 (some cfg) = .ok true := by
  have hdiff := computeDateLagDiff_daysApart h hmin hmax
  have hplain : let pair := daysApart cfg.direction days
      pair.1.amount = 0 ∧ pair.2.amount = 0 ∧
        pair.1.currency = "USD" ∧ pair.2.currency = "USD" := by
    unfold daysApart
    split <;> exact ⟨rfl, rfl, rfl, rfl⟩
  generalize daysApart cfg.direction days = pair at hdiff hplain ⊢
  obtain ⟨hleft, hright, hleftCurrency, hrightCurrency⟩ := hplain
  have hcurrency : dateLagCurrencyMatch pair.1 pair.2 cfg = true := by
    simp [dateLagCurrencyMatch, hleftCurrency, hrightCurrency]
  have hfee : amountWithinFeeTolerance pair.1 pair.2 cfg.feeTolerance = true := by
    simp [amountWithinFeeTolerance, hleft, hright, h.feeTolerance]
  rw [dateLagMatch, validateDateLagConfig_of_supported h]
  change (if !dateLagCurrencyMatch _ _ cfg then _ else _) = _
  rw [hcurrency, hfee, hdiff]
  simp only [Bool.not_true, Bool.false_eq_true, if_false]
  rw [if_neg (not_lt.mpr h.feeTolerance)]
  change (if days < 0 then _ else _) = _
  rw [if_neg (not_lt.mpr (h.minDays.trans hmin)), hwithin]
  rfl

theorem window_of_match {left right : CandidateTransaction}
    (h : dateLagMatch left right (some cfg) = .ok true) :
    cfg.inclusive = true ∨ cfg.minDays + 1 < cfg.maxDays := by
  have hwithin := (dateLagMatch_eq_true h).2
  cases hinclusive : cfg.inclusive with
  | true => exact Or.inl rfl
  | false =>
    simp only [isWithinDateLagBounds, hinclusive, Bool.false_eq_true,
      if_false, Bool.and_eq_true, decide_eq_true_eq] at hwithin
    right
    omega

/--
A decoded date lag rule accepts some pair of candidates exactly when its window
is inclusive or leaves a day between its bounds.
-/
theorem dateLag_window_satisfiable_iff {stored : Option MatchRule} {rule : RuleDefinition}
    {cfg : DateLagConfig} (hdecode : decodeRuleDefinition stored = .ok rule)
    (hcfg : rule.dateLag = some cfg) :
    (∃ left right, dateLagMatch left right (some cfg) = .ok true) ↔
      cfg.inclusive = true ∨ cfg.minDays + 1 < cfg.maxDays := by
  have hsupported : cfg.Supported := by
    cases RuleDefinition.Decoded.supported ⟨stored, hdecode⟩ with
    | exact _ _ hdateLag | tolerance _ _ _ hdateLag => simp [hdateLag] at hcfg
    | dateLag _ _ _ hown hsupported =>
      rw [hown] at hcfg
      cases hcfg
      exact hsupported
  constructor
  · rintro ⟨left, right, h⟩
    exact window_of_match h
  · intro hwindow
    cases hinclusive : cfg.inclusive with
    | true =>
      refine ⟨_, _, dateLagMatch_daysApart hsupported le_rfl hsupported.maxDays ?_⟩
      simp [isWithinDateLagBounds, hinclusive, hsupported.maxDays]
    | false =>
      have hroom : cfg.minDays + 1 < cfg.maxDays := hwindow.resolve_left (by simp [hinclusive])
      refine ⟨_, _, dateLagMatch_daysApart hsupported
        (Int.le_of_lt (Int.lt_succ cfg.minDays)) hroom.le ?_⟩
      simp [isWithinDateLagBounds, hinclusive, hroom]

/-- Bounds that the decoder's own advice for exclusive windows leads to. -/
def exclusiveLagRule (maxDays : ℤ) : MatchRule where
  id := ⟨9⟩
  priority := 1
  type := .dateLag
  config := [("inclusive", .boolean false), ("minDays", .integer 1), ("maxDays", .integer maxDays)]

def exclusiveLagConfig (maxDays : ℤ) : DateLagConfig where
  minDays := 1
  maxDays := maxDays
  inclusive := false
  direction := .abs
  feeTolerance := 0
  matchScore := 80
  matchCurrency := true

theorem dateLag_window_satisfiable_iff_three :
    ∃ rule, decodeRuleDefinition (some (exclusiveLagRule 3)) = .ok rule ∧
      rule.dateLag = some (exclusiveLagConfig 3) ∧
      ∃ left right, dateLagMatch left right (some (exclusiveLagConfig 3)) = .ok true := by
  refine exists_ok_of_map (f := (·.dateLag)) (some (exclusiveLagConfig 3)) (by decide +kernel) ?_
  intro rule hdecode hcfg
  exact ⟨hcfg, (dateLag_window_satisfiable_iff hdecode hcfg).mpr (Or.inr (by decide))⟩

/-- More than one day and less than two. -/
theorem dateLag_window_empty :
    ∃ rule, decodeRuleDefinition (some (exclusiveLagRule 2)) = .ok rule ∧
      rule.dateLag = some (exclusiveLagConfig 2) ∧
      ¬ ∃ left right, dateLagMatch left right (some (exclusiveLagConfig 2)) = .ok true := by
  refine exists_ok_of_map (f := (·.dateLag)) (some (exclusiveLagConfig 2)) (by decide +kernel) ?_
  intro rule _ hcfg
  refine ⟨hcfg, ?_⟩
  rintro ⟨left, right, h⟩
  exact absurd (window_of_match h) (by decide)

end Matcher.Matching
