import Matcher.Matching.Allocation

/-!
# Decoding of rule configurations

A stored rule carries an untyped configuration, a JSON object.  Decoding fills in
defaults, checks bounds and enumerations, and always produces an allocation
configuration next to the one of the rule's own type.
-/

namespace Matcher.Matching

open Foundation

/-! ## Untyped configuration -/

/-- A configuration value; a float is given by its shortest decimal form. -/
inductive ConfigValue
  | null
  | boolean (value : Bool)
  | integer (value : ℤ)
  | float (value : Decimal)
  | number (literal : String)
  | text (value : String)
  | composite
deriving DecidableEq, Repr

abbrev ConfigMap := List (String × ConfigValue)

structure MatchRule where
  id : UUID
  priority : ℤ
  type : RuleType
  config : ConfigMap
deriving DecidableEq, Repr

def errNilMatchRule : GoError :=
  .sentinel ⟨"ErrNilMatchRule", "match rule is nil"⟩

def errUnsupportedRuleType : GoError :=
  .sentinel ⟨"ErrUnsupportedRuleType", "unsupported rule type"⟩

def errRuleConfigDecode : GoError :=
  .sentinel ⟨"ErrRuleConfigDecode", "rule config decode error"⟩

def wrapDecodeErr (message : String) : GoError :=
  .wrap "%w: %s" [message] errRuleConfigDecode

def mustBeInt : String := "must be integer"

def outOfRange : String := "out of range"

/-! ## Typed access -/

variable (config : ConfigMap) {definition : RuleDefinition} {rule : Option MatchRule}
  {value : String}

def getBool (key : String) (default : Bool) : Except GoError Bool :=
  match config.lookup key with
  | none | some .null => .ok default
  | some (.boolean value) => .ok value
  | some _ => .error (wrapDecodeErr (key ++ " must be bool"))

def hasExplicitFalse (key : String) : Bool :=
  config.lookup key = some (.boolean false)

/-- Conversion of a float; the upper bound itself wraps to the lowest integer. -/
def parseFloat64Value (num : Decimal) : Except String ℤ :=
  if num.den ≠ 1 then .error mustBeInt
  else if (2 : ℚ) ^ 63 < num ∨ num < -(2 : ℚ) ^ 63 then .error outOfRange
  else if num = (2 : ℚ) ^ 63 then .ok (-(2 ^ 63))
  else .ok num.num

def parseIntValue : ConfigValue → Except String ℤ
  | .integer value => .ok value
  | .float value => parseFloat64Value value
  | .number literal =>
    match Decimal.parseInt 64 literal with
    | some value => .ok value
    | none => .error mustBeInt
  | .text value =>
    match Decimal.parseInt 64 (trimSpace value) with
    | some parsed => .ok parsed
    | none => .error mustBeInt
  | .null | .boolean _ | .composite => .error mustBeInt

def getInt (key : String) (default : ℤ) : Except GoError ℤ :=
  match config.lookup key with
  | none | some .null => .ok default
  | some value =>
    (parseIntValue value).mapError fun message =>
      wrapDecodeErr (key ++ ": " ++ message)

def getDecimal (key : String) (default : Decimal) : Except GoError Decimal :=
  match config.lookup key with
  | none | some .null => .ok default
  | some (.text value) =>
    match Decimal.ofString value with
    | some parsed => .ok parsed
    | none => .error (wrapDecodeErr (key ++ " invalid decimal string"))
  | some (.float value) => .ok value
  | some (.integer value) => .ok value
  | some (.number literal) =>
    match Decimal.ofString literal with
    | some parsed => .ok parsed
    | none => .error (wrapDecodeErr (key ++ " invalid json.Number"))
  | some (.boolean _) | some .composite => .error (wrapDecodeErr (key ++ " unsupported type"))

/-- A configured choice: unlike a missing key, an explicit null is rejected. -/
def getChoice {α : Type} (config : ConfigMap) (key : String) (parse : String → Option α)
    (default : α) (invalid : String) : Except GoError α :=
  match config.lookup key with
  | none => .ok default
  | some (.text value) =>
    match parse value with
    | some choice => .ok choice
    | none => .error (wrapDecodeErr invalid)
  | some _ => .error (wrapDecodeErr (key ++ " must be string"))

def validateScore (score : ℤ) : Except GoError Unit :=
  if score < 0 ∨ 100 < score then
    .error (wrapDecodeErr "score must be between 0 and 100")
  else .ok ()

/-- A check of the decoder: the message is returned when the condition holds. -/
def rejectWhen (condition : Prop) [Decidable condition] (message : String) : Except GoError Unit :=
  if condition then .error (wrapDecodeErr message) else .ok ()

/-! ## Defaults -/

def maxRoundingScale : ℤ := 10

def maxDateWindowDays : ℤ := 3650

def maxDateLagDays : ℤ := 3650

def defaultExactScore : ℤ := 100

def defaultExactBaseScore : ℤ := 90

def defaultToleranceScore : ℤ := 85

def defaultToleranceBase : ℤ := 80

def defaultDateLagScore : ℤ := 80

def defaultRoundingScale : ℤ := 2

/-! ## Exact rules -/

def parseDatePrecision : String → Option DatePrecision
  | "DAY" => some .day
  | "TIMESTAMP" => some .timestamp
  | _ => none

def decodeExactConfig : Except GoError ExactConfig := do
  let matchAmount ← getBool config "matchAmount" true
  let matchCurrency ← getBool config "matchCurrency" true
  let matchDate ← getBool config "matchDate" true
  let matchReference ← getBool config "matchReference" true
  let caseInsensitive ← getBool config "caseInsensitive" true
  let referenceMustSet ← getBool config "referenceMustSet" false
  let configuredBaseAmount ← getBool config "matchBaseAmount" false
  let configuredBaseCurrency ← getBool config "matchBaseCurrency" false
  let allocationUseBaseAmount ← getBool config "allocationUseBaseAmount" false
  let matchBaseAmount := configuredBaseAmount || allocationUseBaseAmount
  let matchBaseCurrency := configuredBaseCurrency || allocationUseBaseAmount
  let matchScore ← getInt config "matchScore" defaultExactScore
  let matchBaseScore ← getInt config "matchBaseScore" defaultExactBaseScore
  validateScore matchScore
  if matchBaseAmount || matchBaseCurrency then validateScore matchBaseScore
  else .ok ()
  let datePrecision ← getChoice config "datePrecision" parseDatePrecision .day
    "invalid datePrecision"
  return {
    matchAmount := matchAmount
    matchCurrency := matchCurrency
    matchDate := matchDate
    datePrecision := datePrecision
    matchReference := matchReference
    caseInsensitive := caseInsensitive
    referenceMustSet := referenceMustSet
    matchBaseAmount := matchBaseAmount
    matchBaseCurrency := matchBaseCurrency
    matchScore := matchScore
    matchBaseScore := matchBaseScore }

/-! ## Tolerance rules -/

def parseRoundingMode : String → Option RoundingMode
  | "HALF_UP" => some .halfUp
  | "BANKERS" => some .bankers
  | "FLOOR" => some .floor
  | "CEIL" => some .ceil
  | "TRUNCATE" => some .truncate
  | _ => none

def parsePercentageBase (value : String) : Option TolerancePercentageBase :=
  match toUpper value with
  | "MAX" => some .max
  | "MIN" => some .min
  | "AVERAGE" => some .average
  | "LEFT" => some .left
  | "RIGHT" => some .right
  | _ => none

def decodeToleranceConfig : Except GoError ToleranceConfig := do
  let dateWindowDays ← getInt config "dateWindowDays" 0
  let roundingScale ← getInt config "roundingScale" defaultRoundingScale
  rejectWhen (dateWindowDays < 0) "dateWindowDays must be >= 0"
  rejectWhen (maxDateWindowDays < dateWindowDays) "dateWindowDays exceeds maximum"
  rejectWhen (roundingScale < 0) "roundingScale must be >= 0"
  rejectWhen (maxRoundingScale < roundingScale) "roundingScale exceeds maximum"
  let roundingMode ← getChoice config "roundingMode" parseRoundingMode .halfUp
    "invalid roundingMode"
  let percentageBase ← getChoice config "percentageBase" parsePercentageBase
    .max "invalid percentageBase: must be MAX, MIN, AVERAGE, LEFT, or RIGHT"
  let absTol ← getDecimal config "absTolerance" (50 / 100)
  let pctTol ← getDecimal config "percentTolerance" (5 / 1000)
  rejectWhen (absTol < 0) "absTolerance must be non-negative"
  rejectWhen (pctTol < 0) "percentTolerance must be non-negative"
  let matchCurrency ← getBool config "matchCurrency" true
  let matchBaseAmount ← getBool config "matchBaseAmount" false
  let matchBaseCurrency ← getBool config "matchBaseCurrency" false
  let matchScore ← getInt config "matchScore" defaultToleranceScore
  let matchBaseScore ← getInt config "matchBaseScore" defaultToleranceBase
  validateScore matchScore
  if matchBaseAmount || matchBaseCurrency then validateScore matchBaseScore
  else .ok ()
  let matchReference ← getBool config "matchReference" true
  let caseInsensitive ← getBool config "caseInsensitive" true
  let referenceMustSet ← getBool config "referenceMustSet" false
  return {
    matchCurrency := matchCurrency
    dateWindowDays := dateWindowDays
    absAmountTolerance := absTol
    percentTolerance := pctTol
    roundingScale := roundingScale
    roundingMode := roundingMode
    matchBaseAmount := matchBaseAmount
    matchBaseCurrency := matchBaseCurrency
    matchScore := matchScore
    matchBaseScore := matchBaseScore
    percentageBase := percentageBase
    matchReference := matchReference
    caseInsensitive := caseInsensitive
    referenceMustSet := referenceMustSet }

/-! ## Date lag rules -/

def parseDateLagDirection : String → Option DateLagDirection
  | "ABS" => some .abs
  | "LEFT_BEFORE_RIGHT" => some .leftBeforeRight
  | "RIGHT_BEFORE_LEFT" => some .rightBeforeLeft
  | _ => none

def decodeDateLagConfig : Except GoError DateLagConfig := do
  let minDays ← getInt config "minDays" 0
  let maxDays ← getInt config "maxDays" 0
  let inclusive ← getBool config "inclusive" true
  let feeTolerance ← getDecimal config "feeTolerance" 0
  rejectWhen (feeTolerance < 0) "feeTolerance must be non-negative"
  rejectWhen (minDays < 0 ∨ maxDays < 0) "minDays/maxDays must be >= 0"
  rejectWhen (maxDays < minDays) "maxDays must be >= minDays"
  rejectWhen (maxDateLagDays < minDays ∨ maxDateLagDays < maxDays) "date lag days exceed maximum"
  rejectWhen (inclusive = false ∧ minDays = 0)
    ("exclusive bounds (inclusive=false) with minDays=0 excludes same-day " ++
      "transactions; use inclusive=true with minDays=0 to include same-day " ++
      "matches, or set minDays=1 for exclusive bounds starting from 1 day")
  let direction ← getChoice config "direction" parseDateLagDirection .abs "invalid direction"
  let matchCurrency ← getBool config "matchCurrency" true
  let matchScore ← getInt config "matchScore" defaultDateLagScore
  validateScore matchScore
  return {
    minDays := minDays
    maxDays := maxDays
    inclusive := inclusive
    direction := direction
    feeTolerance := feeTolerance
    matchScore := matchScore
    matchCurrency := matchCurrency }

/-! ## Allocation -/

def parseAllocationDirection : String → Option AllocationDirection
  | "LEFT_TO_RIGHT" => some .leftToRight
  | "RIGHT_TO_LEFT" => some .rightToLeft
  | _ => none

def parseAllocationToleranceMode : String → Option AllocationToleranceMode
  | "ABS" => some .absolute
  | "PERCENT" => some .percent
  | _ => none

def decodeAllocationConfig : Except GoError AllocationConfig := do
  let allowPartial ← getBool config "allowPartial" false
  let useBaseAmount ← getBool config "allocationUseBaseAmount" false
  let toleranceValue ← getDecimal config "allocationToleranceValue" 0
  rejectWhen (toleranceValue < 0) "allocationToleranceValue must be non-negative"
  let direction ← getChoice config "allocationDirection"
    parseAllocationDirection .leftToRight "invalid allocationDirection"
  let toleranceMode ← getChoice config "allocationToleranceMode"
    parseAllocationToleranceMode .absolute "invalid allocationToleranceMode"
  return {
    allowPartial := allowPartial
    direction := direction
    toleranceMode := toleranceMode
    toleranceValue := toleranceValue
    useBaseAmount := useBaseAmount }

/--
Base matching and base allocation imply each other, except that an explicit
`false` keeps the allocation on the original amounts.
-/
def alignBaseAmountSettings (allocation : AllocationConfig)
    (matchBaseAmount matchBaseCurrency : Bool) : AllocationConfig × Bool × Bool :=
  let baseAmount := matchBaseAmount || allocation.useBaseAmount
  let baseCurrency := matchBaseCurrency || allocation.useBaseAmount
  let useBaseAmount := allocation.useBaseAmount ||
    (baseAmount && !hasExplicitFalse config "allocationUseBaseAmount")
  ({ allocation with useBaseAmount := useBaseAmount }, baseAmount, baseCurrency)

/-! ## Rules -/

def ruleDefinitionFromMatchRule (rule : Option MatchRule) :
    Except GoError (MatchRule × RuleDefinition) :=
  match rule with
  | none => .error errNilMatchRule
  | some rule =>
    if !rule.type.valid then .error errUnsupportedRuleType
    else .ok (rule, ⟨rule.id, rule.priority, rule.type, none, none, none, none⟩)

def decodeExactRule (definition : RuleDefinition) : Except GoError RuleDefinition := do
  let cfg ← decodeExactConfig config
  let allocation ← decodeAllocationConfig config
  let (aligned, baseAmount, baseCurrency) := alignBaseAmountSettings config
    allocation cfg.matchBaseAmount cfg.matchBaseCurrency
  return { definition with
    exact := some { cfg with matchBaseAmount := baseAmount, matchBaseCurrency := baseCurrency }
    allocation := some aligned }

def decodeToleranceRule (definition : RuleDefinition) : Except GoError RuleDefinition := do
  let cfg ← decodeToleranceConfig config
  let allocation ← decodeAllocationConfig config
  let (aligned, baseAmount, baseCurrency) := alignBaseAmountSettings config
    allocation cfg.matchBaseAmount cfg.matchBaseCurrency
  return { definition with
    tolerance := some { cfg with matchBaseAmount := baseAmount, matchBaseCurrency := baseCurrency }
    allocation := some aligned }

def decodeDateLagRule (definition : RuleDefinition) : Except GoError RuleDefinition := do
  let cfg ← decodeDateLagConfig config
  let allocation ← decodeAllocationConfig config
  return { definition with dateLag := some cfg, allocation := some allocation }

def decodeRuleDefinition (rule : Option MatchRule) : Except GoError RuleDefinition := do
  let (rule, definition) ← ruleDefinitionFromMatchRule rule
  match definition.type with
  | .exact => decodeExactRule rule.config definition
  | .tolerance => decodeToleranceRule rule.config definition
  | .dateLag => decodeDateLagRule rule.config definition
  | .other _ => .error errUnsupportedRuleType

/-! ## Decoded allocations -/

theorem getChoice_eq_ok {α : Type} {config : ConfigMap} {key invalid : String}
    {parse : String → Option α} {default choice : α}
    (h : getChoice config key parse default invalid = .ok choice) :
    choice = default ∨ ∃ value, parse value = some choice := by
  unfold getChoice at h
  split at h
  · cases h
    exact Or.inl rfl
  · rename_i value _
    cases hparse : parse value with
    | none =>
      rw [hparse] at h
      cases h
    | some =>
      rw [hparse] at h
      cases h
      exact Or.inr ⟨value, hparse⟩
  · cases h

theorem rejectWhen_eq_ok {condition : Prop} [Decidable condition] {message : String}
    (h : rejectWhen condition message = .ok ()) : ¬ condition := by
  intro hcondition
  rw [rejectWhen, if_pos hcondition] at h
  cases h

theorem parseAllocationDirection_supported {direction : AllocationDirection}
    (h : parseAllocationDirection value = some direction) :
    direction = .leftToRight ∨ direction = .rightToLeft := by
  unfold parseAllocationDirection at h
  split at h
  · cases h
    exact Or.inl rfl
  · cases h
    exact Or.inr rfl
  · cases h

theorem parseAllocationToleranceMode_supported {mode : AllocationToleranceMode}
    (h : parseAllocationToleranceMode value = some mode) : mode = .absolute ∨ mode = .percent := by
  unfold parseAllocationToleranceMode at h
  split at h
  · cases h
    exact Or.inl rfl
  · cases h
    exact Or.inr rfl
  · cases h

theorem decodeAllocationConfig_valid {config : ConfigMap} {cfg : AllocationConfig}
    (h : decodeAllocationConfig config = .ok cfg) : cfg.Valid := by
  obtain ⟨allowPartial, -, h⟩ := bind_eq_ok.mp h
  obtain ⟨useBaseAmount, -, h⟩ := bind_eq_ok.mp h
  obtain ⟨toleranceValue, -, h⟩ := bind_eq_ok.mp h
  obtain ⟨⟨⟩, hvalue, h⟩ := bind_eq_ok.mp h
  obtain ⟨direction, hdirection, h⟩ := bind_eq_ok.mp h
  obtain ⟨toleranceMode, hmode, h⟩ := bind_eq_ok.mp h
  cases h
  refine ⟨?_, ?_, not_lt.mp (rejectWhen_eq_ok hvalue)⟩
  · rcases getChoice_eq_ok hmode with rfl | ⟨value, hparse⟩
    · exact Or.inl rfl
    · exact parseAllocationToleranceMode_supported hparse
  · rcases getChoice_eq_ok hdirection with rfl | ⟨value, hparse⟩
    · exact Or.inl rfl
    · exact parseAllocationDirection_supported hparse

/-! ## Decoded rules -/

/-- The definition is decoded from the settings of the stored rule; base settings
may have been aligned afterwards. -/
inductive DecodedFrom (stored : MatchRule) : RuleDefinition → Prop
  | exact (cfg : ExactConfig) (allocation : AllocationConfig)
      (baseAmount baseCurrency useBaseAmount : Bool)
      (hcfg : decodeExactConfig stored.config = .ok cfg)
      (hallocation : decodeAllocationConfig stored.config = .ok allocation) :
      DecodedFrom stored ⟨stored.id, stored.priority, .exact,
        some { cfg with matchBaseAmount := baseAmount, matchBaseCurrency := baseCurrency },
        none, none, some { allocation with useBaseAmount := useBaseAmount }⟩
  | tolerance (cfg : ToleranceConfig) (allocation : AllocationConfig)
      (baseAmount baseCurrency useBaseAmount : Bool)
      (hcfg : decodeToleranceConfig stored.config = .ok cfg)
      (hallocation : decodeAllocationConfig stored.config = .ok allocation) :
      DecodedFrom stored ⟨stored.id, stored.priority, .tolerance, none,
        some { cfg with matchBaseAmount := baseAmount, matchBaseCurrency := baseCurrency },
        none, some { allocation with useBaseAmount := useBaseAmount }⟩
  | dateLag (cfg : DateLagConfig) (allocation : AllocationConfig)
      (hcfg : decodeDateLagConfig stored.config = .ok cfg)
      (hallocation : decodeAllocationConfig stored.config = .ok allocation) :
      DecodedFrom stored ⟨stored.id, stored.priority, .dateLag, none, none,
        some cfg, some allocation⟩

theorem ruleDefinitionFromMatchRule_eq_ok {stored : Option MatchRule}
    {found : MatchRule × RuleDefinition} (h : ruleDefinitionFromMatchRule stored = .ok found) :
    found.2 = ⟨found.1.id, found.1.priority, found.1.type, none, none, none, none⟩ := by
  cases stored with
  | none => cases h
  | some =>
    obtain ⟨-, h⟩ := guard_eq_ok.mp h
    cases h
    rfl

theorem decodeRuleDefinition_eq_ok (h : decodeRuleDefinition rule = .ok definition) :
    ∃ stored, DecodedFrom stored definition := by
  obtain ⟨⟨found, start⟩, hfound, h⟩ := bind_eq_ok.mp h
  have hstart := ruleDefinitionFromMatchRule_eq_ok hfound
  dsimp only at h hstart
  subst hstart
  refine ⟨found, ?_⟩
  cases hkind : found.type with
  | exact =>
    rw [hkind] at h
    obtain ⟨cfg, hcfg, h⟩ := bind_eq_ok.mp h
    obtain ⟨allocation, hallocation, h⟩ := bind_eq_ok.mp h
    cases h
    exact .exact cfg allocation _ _ _ hcfg hallocation
  | tolerance =>
    rw [hkind] at h
    obtain ⟨cfg, hcfg, h⟩ := bind_eq_ok.mp h
    obtain ⟨allocation, hallocation, h⟩ := bind_eq_ok.mp h
    cases h
    exact .tolerance cfg allocation _ _ _ hcfg hallocation
  | dateLag =>
    rw [hkind] at h
    obtain ⟨cfg, hcfg, h⟩ := bind_eq_ok.mp h
    obtain ⟨allocation, hallocation, h⟩ := bind_eq_ok.mp h
    cases h
    exact .dateLag cfg allocation hcfg hallocation
  | other =>
    rw [hkind] at h
    cases h

theorem decodeRuleDefinition_allocation (h : decodeRuleDefinition rule = .ok definition) :
    ∃ cfg, definition.allocation = some cfg ∧ cfg.Valid := by
  obtain ⟨stored, hdecoded⟩ := decodeRuleDefinition_eq_ok h
  cases hdecoded with
  | exact _ _ _ _ _ _ hallocation =>
    have hvalid := decodeAllocationConfig_valid hallocation
    exact ⟨_, rfl, hvalid.mode, hvalid.direction, hvalid.tolerance⟩
  | tolerance cfg allocation baseAmount baseCurrency useBaseAmount _
      hallocation =>
      have hvalid := decodeAllocationConfig_valid hallocation
      exact ⟨_, rfl, hvalid.mode, hvalid.direction, hvalid.tolerance⟩
  | dateLag _ allocation _ hallocation =>
    exact ⟨allocation, rfl, decodeAllocationConfig_valid hallocation⟩

end Matcher.Matching
