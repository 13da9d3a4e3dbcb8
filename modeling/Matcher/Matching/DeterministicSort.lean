import Mathlib.Data.Prod.Lex
import Mathlib.Data.String.Basic
import Mathlib.Order.WithBot
import Matcher.Foundation.Calendar
import Matcher.Matching.Types

/-!
# Date arithmetic and deterministic order

Candidates are ordered by day, amount, currency, base amount, base currency,
reference and identifier, rules by priority, type and identifier.  Both
comparisons are the strict order of a key in a lexicographic linear order whose
last component separates distinct identifiers.
-/

namespace Matcher.Matching

open Foundation

/-! ## Days -/

def dayUTC (instant : Instant) : Instant :=
  instant / nanosecondsPerDay * nanosecondsPerDay

def maxDuration : ℤ := 2 ^ 63 - 1

/-- The difference of two instants as a duration, which saturates. -/
def durationSub (later earlier : Instant) : ℤ :=
  max (-maxDuration - 1) (min maxDuration (later - earlier))

def signedDayDiff (left right : Instant) : ℤ :=
  (durationSub (dayUTC right) (dayUTC left)).tdiv nanosecondsPerDay

def absDayDiff (left right : Instant) : ℤ :=
  let days := signedDayDiff left right
  if days < 0 then -days else days

/-- The duration saturates at the largest number of whole days it can hold. -/
theorem signedDayDiff_eq (left right : Instant) : signedDayDiff left right =
    max (-106751) (min 106751 (right / nanosecondsPerDay - left / nanosecondsPerDay)) := by
  unfold signedDayDiff durationSub dayUTC
  rw [← sub_mul]
  generalize (right / nanosecondsPerDay - left / nanosecondsPerDay : ℤ) = days
  simp only [maxDuration, nanosecondsPerDay, nanosecondsPerSecond]
  grind

theorem absDayDiff_eq (left right : Instant) : absDayDiff left right =
    min 106751 |(right / nanosecondsPerDay - left / nanosecondsPerDay : ℤ)| := by
  simp only [absDayDiff, signedDayDiff_eq]
  grind

/-! ## Rules -/

def ruleLess (first second : RuleDefinition) : Bool :=
  if first.priority ≠ second.priority then first.priority < second.priority
  else if first.type.text ≠ second.type.text then
    first.type.text < second.type.text
  else first.id.toText < second.id.toText

def sortRules (rules : List RuleDefinition) : List RuleDefinition :=
  stableSort ruleLess rules

def ruleKey (rule : RuleDefinition) : ℤ ×ₗ String ×ₗ String :=
  toLex (rule.priority, toLex (rule.type.text, rule.id.toText))

theorem ruleLess_iff (first second : RuleDefinition) :
    ruleLess first second = true ↔ ruleKey first < ruleKey second := by
  unfold ruleLess ruleKey
  rw [lexStep_iff, lexStep_iff, decide_eq_true_iff, Prod.Lex.toLex_lt_toLex,
    Prod.Lex.toLex_lt_toLex]

theorem ruleKey_id {first second : RuleDefinition} (h : ruleKey first = ruleKey second) :
    first.id = second.id := by
  have hpair := toLex.injective h
  have htail := toLex.injective (Prod.ext_iff.mp hpair).2
  exact UUID.toText_injective (Prod.ext_iff.mp htail).2

theorem sortRules_eq_of_perm {first second : List RuleDefinition} (hperm : first.Perm second)
    (hids : (first.map (·.id)).Nodup) : sortRules first = sortRules second := by
  apply stableSort_eq_of_perm ruleLess_iff hperm
  intro rule hrule other hother hkey
  exact List.inj_on_of_nodup_map hids hrule hother (ruleKey_id hkey)

/-! ## Transactions -/

def transactionLess (first second : CandidateTransaction) : Bool :=
  if dayUTC first.date ≠ dayUTC second.date then
    dayUTC first.date < dayUTC second.date
  else if first.amount ≠ second.amount then first.amount < second.amount
  else if first.currency ≠ second.currency then
    first.currency < second.currency
  else
    let afterBaseAmount :=
      if first.currencyBase ≠ second.currencyBase then
        decide (first.currencyBase < second.currencyBase)
      else if first.reference ≠ second.reference then
        first.reference < second.reference
      else first.id.toText < second.id.toText
    match first.amountBase, second.amountBase with
    | some firstBase, some secondBase =>
      if firstBase ≠ secondBase then firstBase < secondBase
      else afterBaseAmount
    | none, some _ => true
    | some _, none => false
    | none, none => afterBaseAmount

def sortTransactions (transactions : List CandidateTransaction) : List CandidateTransaction :=
  stableSort transactionLess transactions

/-- A missing base amount comes first. -/
def baseAmountKey : Option Decimal → WithBot ℚ
  | none => ⊥
  | some amount => amount

def transactionKey (transaction : CandidateTransaction) :
    ℤ ×ₗ ℚ ×ₗ String ×ₗ WithBot ℚ ×ₗ String ×ₗ String ×ₗ String :=
  toLex (dayUTC transaction.date, toLex (transaction.amount,
    toLex (transaction.currency, toLex (baseAmountKey transaction.amountBase,
      toLex (transaction.currencyBase, toLex (transaction.reference, transaction.id.toText))))))

private theorem baseAmountStep_iff (first second : Option Decimal) (rest : Bool) :
    (match first, second with
      | some firstBase, some secondBase =>
        if firstBase ≠ secondBase then decide (firstBase < secondBase)
        else rest
      | none, some _ => true
      | some _, none => false
      | none, none => rest) = true ↔
      baseAmountKey first < baseAmountKey second ∨
        baseAmountKey first = baseAmountKey second ∧ rest = true := by
  cases first with
  | none =>
    cases second with
    | none | some => simp [baseAmountKey]
  | some =>
    cases second with
    | none => simp [baseAmountKey]
    | some =>
      rw [lexStep_iff]
      simp [baseAmountKey]

theorem transactionLess_iff (first second : CandidateTransaction) :
    transactionLess first second = true ↔ transactionKey first < transactionKey second := by
  unfold transactionLess transactionKey
  rw [lexStep_iff, lexStep_iff, lexStep_iff, baseAmountStep_iff, lexStep_iff,
    lexStep_iff, decide_eq_true_iff]
  simp only [Prod.Lex.toLex_lt_toLex]

theorem transactionKey_id {first second : CandidateTransaction}
    (h : transactionKey first = transactionKey second) : first.id = second.id := by
  simp only [transactionKey, EmbeddingLike.apply_eq_iff_eq, Prod.mk.injEq] at h
  exact UUID.toText_injective h.2.2.2.2.2.2

theorem sortTransactions_eq_of_perm {first second : List CandidateTransaction}
    (hperm : first.Perm second) (hids : (first.map (·.id)).Nodup) :
    sortTransactions first = sortTransactions second := by
  apply stableSort_eq_of_perm transactionLess_iff hperm
  intro transaction htransaction other hother hkey
  exact List.inj_on_of_nodup_map hids htransaction hother (transactionKey_id hkey)

end Matcher.Matching
