import Matcher.Fee.Schedule

/-!
# Candidates, rules and proposals

The data of the matching engine.  Configuration values that the program keeps as
strings are enumerations with a last case for any unsupported text, because the
evaluators reject such texts only when they reach them.
-/

namespace Matcher.Matching

open Foundation

/-- An instant, in nanoseconds from the Unix epoch. -/
abbrev Instant := ℤ

/-! ## Candidates -/

structure CandidateTransaction where
  id : UUID
  sourceID : UUID
  amount : Decimal
  originalAmount : Decimal
  amountBase : Option Decimal
  feeBreakdown : Option Fee.FeeBreakdown
  currency : String
  currencyBase : String
  reference : String
  date : Instant
deriving DecidableEq, Repr

/-! ## Rules -/

inductive RuleType
  | exact
  | tolerance
  | dateLag
  | other (value : String)
deriving DecidableEq, Repr

def RuleType.text : RuleType → String
  | .exact => "EXACT"
  | .tolerance => "TOLERANCE"
  | .dateLag => "DATE_LAG"
  | .other value => value

def RuleType.valid : RuleType → Bool
  | .exact | .tolerance | .dateLag => true
  | .other _ => false

inductive DatePrecision
  | day
  | timestamp
  | other (value : String)
deriving DecidableEq, Repr

structure ExactConfig where
  matchAmount : Bool
  matchCurrency : Bool
  matchDate : Bool
  datePrecision : DatePrecision
  matchReference : Bool
  caseInsensitive : Bool
  referenceMustSet : Bool
  matchBaseAmount : Bool
  matchBaseCurrency : Bool
  matchScore : ℤ
  matchBaseScore : ℤ
deriving DecidableEq, Repr

inductive TolerancePercentageBase
  | max
  | min
  | average
  | left
  | right
  | other (value : String)
deriving DecidableEq, Repr

structure ToleranceConfig where
  matchCurrency : Bool
  dateWindowDays : ℤ
  absAmountTolerance : Decimal
  percentTolerance : Decimal
  roundingScale : ℤ
  roundingMode : RoundingMode
  matchBaseAmount : Bool
  matchBaseCurrency : Bool
  matchScore : ℤ
  matchBaseScore : ℤ
  percentageBase : TolerancePercentageBase
  matchReference : Bool
  caseInsensitive : Bool
  referenceMustSet : Bool
deriving DecidableEq, Repr

inductive DateLagDirection
  | abs
  | leftBeforeRight
  | rightBeforeLeft
  | other (value : String)
deriving DecidableEq, Repr

structure DateLagConfig where
  minDays : ℤ
  maxDays : ℤ
  inclusive : Bool
  direction : DateLagDirection
  feeTolerance : Decimal
  matchScore : ℤ
  matchCurrency : Bool
deriving DecidableEq, Repr

inductive AllocationDirection
  | leftToRight
  | rightToLeft
  | other (value : String)
deriving DecidableEq, Repr

inductive AllocationToleranceMode
  | absolute
  | percent
  | other (value : String)
deriving DecidableEq, Repr

structure AllocationConfig where
  allowPartial : Bool
  direction : AllocationDirection
  toleranceMode : AllocationToleranceMode
  toleranceValue : Decimal
  useBaseAmount : Bool
deriving DecidableEq, Repr

structure RuleDefinition where
  id : UUID
  priority : ℤ
  type : RuleType
  exact : Option ExactConfig
  tolerance : Option ToleranceConfig
  dateLag : Option DateLagConfig
  allocation : Option AllocationConfig
deriving DecidableEq, Repr

/-! ## Proposals -/

structure Allocation where
  transactionID : UUID
  allocatedAmount : Decimal
  currency : String
  useBaseAmount : Bool
deriving DecidableEq, Repr

inductive MatchMode
  | oneToOne
  | oneToMany
  | manyToOne
deriving DecidableEq, Repr

structure MatchProposal where
  ruleID : UUID
  leftIDs : List UUID
  rightIDs : List UUID
  leftAllocations : List Allocation
  rightAllocations : List Allocation
  score : ℤ
  mode : MatchMode
deriving DecidableEq, Repr

end Matcher.Matching
