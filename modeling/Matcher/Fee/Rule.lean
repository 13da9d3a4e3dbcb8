import Matcher.Fee.Schedule

/-!
# Fee rules

A fee rule selects a schedule for the transactions whose metadata satisfy all of
its predicates.  The first rule, in the given order, that selects a known
schedule wins.
-/

namespace Matcher.Fee

open Foundation

/-- A member of an object of the metadata.  Only texts and numbers are read. -/
inductive MetadataMember
  | text (value : String)
  | number (value : Decimal)
  | other
deriving DecidableEq, Repr

/--
A metadata value decoded from JSON.  Of a list the predicates read the printed
form; an object has its members besides.
-/
inductive MetadataValue
  | text (value : String)
  | boolean (value : Bool)
  | number (value : Decimal)
  | null
  | composite (printed : String)
  | object (printed : String) (members : List (String × MetadataMember))
deriving DecidableEq, Repr

/-- Decoded metadata: the entries of a JSON object, with distinct keys. -/
abbrev Metadata := List (String × MetadataValue)

inductive PredicateOperator
  | equals
  | isIn
  | exists_
  | other (value : String)
deriving DecidableEq, Repr

structure FieldPredicate where
  field : String
  operator : PredicateOperator
  value : String
  values : List String
deriving DecidableEq, Repr

def stringifyPredicateValue : MetadataValue → String
  | .text value => value
  | .boolean true => "true"
  | .boolean false => "false"
  | .number value => value.toText
  | .null => "<nil>"
  | .composite printed => printed
  | .object printed _ => printed

def FieldPredicate.evaluate (pred : FieldPredicate) (metadata : Option Metadata) : Bool :=
  match metadata with
  | none => false
  | some entries =>
    match pred.operator, entries.lookup pred.field with
    | .equals, some raw => stringsEqualFold (stringifyPredicateValue raw) pred.value
    | .isIn, some raw => pred.values.any (stringsEqualFold (stringifyPredicateValue raw))
    | .exists_, some _ => true
    | _, _ => false

inductive MatchingSide
  | left
  | right
  | any
  | other (value : String)
deriving DecidableEq, Repr

def MatchingSide.appliesToLeft (side : MatchingSide) : Bool :=
  side = .left || side = .any

def MatchingSide.appliesToRight (side : MatchingSide) : Bool :=
  side = .right || side = .any

def MatchingSide.isExclusive (side : MatchingSide) : Bool :=
  side = .left || side = .right

structure FeeRule where
  id : UUID
  side : MatchingSide
  feeScheduleID : UUID
  priority : ℤ
  predicates : List FieldPredicate
deriving DecidableEq, Repr

def allPredicatesMatch (metadata : Option Metadata) (predicates : List FieldPredicate) : Bool :=
  predicates.all fun pred => pred.evaluate metadata

def resolveFeeSchedule (metadata : Option Metadata) (rules : List FeeRule)
    (schedules : UUID → Option FeeSchedule) : Option FeeSchedule :=
  rules.findSome? fun rule =>
    if allPredicatesMatch metadata rule.predicates then
      schedules rule.feeScheduleID
    else none

def splitRulesBySide (rules : List FeeRule) : List FeeRule × List FeeRule :=
  (rules.filter fun rule => rule.side.appliesToLeft,
    rules.filter fun rule => rule.side.appliesToRight)

inductive NormalizationMode
  | none
  | net
  | gross
  | other (value : String)
deriving DecidableEq, Repr

end Matcher.Fee
