import Matcher.Command.FeeVerification

/-!
# Which fee data stop a run

Fee data that are missing, unreadable or in another currency become exceptions.
What stops the run is a fee that can be compared and that the record of a
variance then refuses, or an expected fee that cannot be calculated.
-/

namespace Matcher.Fee

open Foundation

variable {currency : String} {expected : Decimal} {actual : Money}

theorem normalizeCurrency_eq_error {failure : GoError}
    (h : normalizeCurrency currency = .error failure) : failure = errInvalidCurrency := by
  dsimp only [normalizeCurrency] at h
  split_ifs at h
  · cases h
    rfl
  · cases h
    rfl

/-- What a stored schedule has besides: it can be referred to and named. -/
structure FeeSchedule.Recorded (schedule : FeeSchedule) : Prop extends schedule.Valid where
  id : schedule.id ≠ UUID.zero
  name : schedule.name ≠ ""

end Matcher.Fee

namespace Matcher.Command

open Foundation
open Fee (FeeSchedule Money NormalizationMode Tolerance)

variable {txn : Transaction} {schedule : FeeSchedule} {currency : String} {expected : Decimal}
  {mode : NormalizationMode} {tolerance : Tolerance} {actual : Money}

/-! ## The expected fee -/

theorem expectedFee_of_unknown_currency {failure : GoError}
    (hcurrency : Fee.normalizeCurrency txn.currency = .error failure) :
    ∃ calcErr, expectedFeeForTransaction txn schedule mode = .error calcErr ∧
      ¬ calcErr.Is Fee.errCurrencyMismatch := by
  obtain rfl := Fee.normalizeCurrency_eq_error hcurrency
  unfold expectedFeeForTransaction
  simp only [Fee.calculateGrossFromNet, Fee.calculateSchedule, hcurrency]
  split <;>
  · refine ⟨_, rfl, ?_⟩
    simp [Fee.errInvalidCurrency, Fee.errCurrencyMismatch]

theorem expectedFee_of_other_currency (hvalid : schedule.Valid)
    (hcurrency : Fee.normalizeCurrency txn.currency = .ok currency)
    (hother : currency ≠ schedule.currency) :
    ∃ calcErr, expectedFeeForTransaction txn schedule mode = .error calcErr ∧
      calcErr.Is Fee.errCurrencyMismatch := by
  unfold expectedFeeForTransaction
  simp only [Fee.calculateGrossFromNet, Fee.calculateSchedule, wrapError, Except.mapError,
    bind, Except.bind, hcurrency, hvalid.currency, if_pos hother]
  split <;>
  · refine ⟨_, rfl, ?_⟩
    simp [Fee.errCurrencyMismatch]

theorem expectedFee_of_some (hvalid : schedule.Valid)
    (hcurrency : Fee.normalizeCurrency txn.currency = .ok schedule.currency)
    (hexpected : schedule.expectedFee mode |txn.amount| = some expected) :
    expectedFeeForTransaction txn schedule mode = .ok ⟨expected, schedule.currency⟩ := by
  have hamount : 0 ≤ (Money.mk |txn.amount| txn.currency).amount := abs_nonneg txn.amount
  unfold expectedFeeForTransaction
  dsimp only
  split
  next hgross =>
    subst hgross
    obtain ⟨rounds, hrounds, rfl⟩ := Option.map_eq_some_iff.mp hexpected
    have hfound := Fee.calculateGrossFromNet_totalFee hvalid hamount hcurrency
    rw [hrounds] at hfound
    generalize Fee.calculateGrossFromNet _ _ = result at hfound ⊢
    cases result with
    | error => cases hfound
    | ok => exact congrArg Except.ok (Option.some.inj hfound)
  next hother =>
    have htotal : schedule.total |txn.amount| = expected := by
      unfold FeeSchedule.expectedFee at hexpected
      split at hexpected
      next => exact absurd rfl hother
      next => exact Option.some.inj hexpected
    obtain ⟨breakdown, hok, hfee⟩ := Fee.calculateSchedule_totalFee hvalid hamount hcurrency
    rw [hok, ← htotal]
    exact congrArg Except.ok hfee

theorem expectedFee_of_none (hvalid : schedule.Valid)
    (hcurrency : Fee.normalizeCurrency txn.currency = .ok schedule.currency)
    (hexpected : schedule.expectedFee mode |txn.amount| = none) :
    ∃ calcErr, expectedFeeForTransaction txn schedule mode = .error calcErr ∧
      ¬ calcErr.Is Fee.errCurrencyMismatch := by
  have hamount : 0 ≤ (Money.mk |txn.amount| txn.currency).amount := abs_nonneg txn.amount
  have hgross : mode = .gross := by
    unfold FeeSchedule.expectedFee at hexpected
    split at hexpected
    next => rfl
    next => cases hexpected
  subst hgross
  have hfound := Fee.calculateGrossFromNet_totalFee hvalid hamount hcurrency
  have hfails := Fee.calculateGrossFromNet_fails hvalid hamount hcurrency
  rw [Option.map_eq_none_iff.mp hexpected] at hfound
  unfold expectedFeeForTransaction
  dsimp only
  rw [if_pos rfl]
  generalize Fee.calculateGrossFromNet _ _ = result at hfound hfails ⊢
  cases result with
  | error failure =>
    obtain ⟨format, operands, rfl⟩ := hfails failure rfl
    refine ⟨_, rfl, ?_⟩
    simp [Fee.errGrossConvergenceFailed, Fee.errCurrencyMismatch]
  | ok => cases hfound

/-! ## One item -/

theorem extractActualFee_currency (h : extractActualFee txn currency = .ok actual) :
    actual.currency = currency := by
  unfold extractActualFee at h
  split at h
  next => cases h
  next =>
    split at h
    next =>
      split at h
      next => cases h
      next =>
        obtain ⟨amount, -, h⟩ := bind_eq_ok.mp h
        obtain ⟨hsame, h⟩ := guard_eq_ok.mp h
        cases h
        exact not_not.mp hsame
    next => cases h

/-- An actual fee that can be compared.  The currency of the transaction must be
known.  Where it is the currency of the schedule, there must be an expected fee,
and a negative actual fee must pass as equal to it. -/
def Comparable (mode : NormalizationMode) (tolerance : Tolerance)
    (txn : Transaction) (schedule : FeeSchedule) (actual : Money) : Prop :=
  ∃ currency, Fee.normalizeCurrency txn.currency = .ok currency ∧
    (currency = schedule.currency →
      ∃ expected, schedule.expectedFee mode |txn.amount| = some expected ∧
        0 ≤ tolerance.abs ∧ 0 ≤ tolerance.percent ∧
        (0 ≤ actual.amount ∨ |actual.amount - expected| ≤
          tolerance.threshold actual.amount expected))

/-- Fee data that verification can digest: no actual fee can be read, or one that
can be compared. -/
def Digestible (mode : NormalizationMode) (tolerance : Tolerance)
    (txn : Transaction) (schedule : FeeSchedule) : Prop :=
  ∀ actual, extractActualFee txn schedule.currency = .ok actual →
    Comparable mode tolerance txn schedule actual

structure Identified (createdRun : MatchRun) (group : MatchGroup) : Prop where
  contextID : createdRun.contextID ≠ UUID.zero
  runID : createdRun.id ≠ UUID.zero
  groupID : group.id ≠ UUID.zero
  items : ∀ item ∈ group.items, item.transactionID ≠ UUID.zero

section Item

variable {newVarianceID : UUID} {item : MatchItem} {group : MatchGroup}
  {createdRun : MatchRun} {feeInput : FeeVerificationInput}

theorem newFeeVariance_succeeds_iff (hrecorded : schedule.Recorded)
    (hidentified : Identified createdRun group) (hitem : item ∈ group.items)
    {actual : Decimal} (hexpected : 0 ≤ expected) (habs : 0 ≤ tolerance.abs)
    (hpercent : 0 ≤ tolerance.percent) (type : Fee.VarianceType) :
    (∃ fv, newFeeVariance newVarianceID createdRun.contextID createdRun.id
        group.id item.transactionID schedule.id schedule.name
        schedule.currency expected actual tolerance.abs tolerance.percent
        type.text = .ok fv) ↔ 0 ≤ actual := by
  have hcurrency : schedule.currency ≠ "" := (Fee.normalizeCurrency_eq_ok.mp hrecorded.currency).2.1
  have htype : type.text ≠ "" := by
    cases type with
    | match_ | undercharge | overcharge => decide
  simp only [newFeeVariance, if_neg hidentified.contextID, if_neg hidentified.runID,
    if_neg hidentified.groupID, if_neg (hidentified.items item hitem), if_neg hrecorded.id,
    if_neg hrecorded.name, if_neg hcurrency, if_neg htype, not_lt.mpr hexpected, not_lt.mpr habs,
    not_lt.mpr hpercent, false_or, or_self, if_false]
  split
  next hnegative => simpa using hnegative
  next hnonneg => simpa using hnonneg

theorem verifyFee_eq {expected : Money} (hsame : actual.currency = expected.currency)
    (habs : 0 ≤ tolerance.abs) (hpercent : 0 ≤ tolerance.percent) :
    ∃ result, Fee.verifyFee actual expected tolerance = .ok result ∧
      (result.type = .match_ ↔ |actual.amount - expected.amount| ≤
        tolerance.threshold actual.amount expected.amount) := by
  unfold Fee.verifyFee
  rw [if_neg (not_not.mpr hsame), if_neg (not_or.mpr ⟨not_lt.mpr habs, not_lt.mpr hpercent⟩)]
  refine ⟨_, rfl, ?_⟩
  dsimp only
  split_ifs with hclose hless
  · exact iff_of_true rfl hclose
  · exact iff_of_false (by decide) hclose
  · exact iff_of_false (by decide) hclose

theorem compareFees_of_error {calcErr : GoError}
    (hcalc : expectedFeeForTransaction txn schedule feeInput.normalizationMode = .error calcErr) :
    (∃ result, compareFees newVarianceID item group createdRun feeInput
        schedule tolerance txn actual = .ok result) ↔
      calcErr.Is Fee.errCurrencyMismatch := by
  unfold compareFees
  simp only [hcalc]
  split
  next hmismatch => exact iff_of_true ⟨_, rfl⟩ hmismatch
  next hother => simpa using hother

theorem compareFees_of_ok (hrecorded : schedule.Recorded)
    (hidentified : Identified createdRun group) (hitem : item ∈ group.items)
    (hsame : actual.currency = schedule.currency) (hexpected : 0 ≤ expected)
    (hcalc : expectedFeeForTransaction txn schedule
      feeInput.normalizationMode = .ok ⟨expected, schedule.currency⟩) :
    (∃ result, compareFees newVarianceID item group createdRun feeInput
        schedule tolerance txn actual = .ok result) ↔
      0 ≤ tolerance.abs ∧ 0 ≤ tolerance.percent ∧
        (0 ≤ actual.amount ∨ |actual.amount - expected| ≤
          tolerance.threshold actual.amount expected) := by
  unfold compareFees
  simp only [hcalc]
  by_cases hnegative : tolerance.abs < 0 ∨ tolerance.percent < 0
  · have hverify : Fee.verifyFee actual ⟨expected, schedule.currency⟩
        tolerance = .error Fee.errToleranceNegative := by
      unfold Fee.verifyFee
      rw [if_neg (not_not.mpr hsame), if_pos hnegative]
    have hother : ¬ Fee.errToleranceNegative.Is Fee.errCurrencyMismatch := by decide
    simp only [hverify, if_neg hother]
    refine iff_of_false (by simp) ?_
    rintro ⟨habs, hpercent, -⟩
    exact hnegative.elim (not_lt.mpr habs) (not_lt.mpr hpercent)
  · obtain ⟨habs, hpercent⟩ := not_or.mp hnegative
    rw [not_lt] at habs hpercent
    obtain ⟨verified, hverify, htype⟩ :
        ∃ result, Fee.verifyFee actual ⟨expected, schedule.currency⟩ tolerance = .ok result ∧
          (result.type = .match_ ↔ |actual.amount - expected| ≤
            tolerance.threshold actual.amount expected) :=
      verifyFee_eq hsame habs hpercent
    simp only [hverify, ← htype]
    rw [and_iff_right habs, and_iff_right hpercent]
    by_cases hmatch : verified.type = .match_
    · rw [if_neg (not_not.mpr hmatch)]
      exact iff_of_true ⟨_, rfl⟩ (.inr hmatch)
    · rw [if_pos hmatch, or_iff_left hmatch,
        ← newFeeVariance_succeeds_iff hrecorded hidentified hitem hexpected habs hpercent
          verified.type]
      constructor
      · rintro ⟨result, h⟩
        obtain ⟨fv, hfv, -⟩ := bind_eq_ok.mp h
        exact ⟨fv, wrapError_eq_ok.mp hfv⟩
      · rintro ⟨fv, hfv⟩
        exact ⟨_, bind_eq_ok.mpr ⟨fv, wrapError_eq_ok.mpr hfv, rfl⟩⟩

theorem compareFees_succeeds_iff (hrecorded : schedule.Recorded)
    (hidentified : Identified createdRun group) (hitem : item ∈ group.items)
    (hsame : actual.currency = schedule.currency) :
    (∃ result, compareFees newVarianceID item group createdRun feeInput
        schedule tolerance txn actual = .ok result) ↔
      Comparable feeInput.normalizationMode tolerance txn schedule actual := by
  have hvalid := hrecorded.toValid
  unfold Comparable
  cases hcurrency : Fee.normalizeCurrency txn.currency with
  | error =>
    obtain ⟨calcErr, hcalc, hother⟩ : ∃ calcErr,
        expectedFeeForTransaction txn schedule feeInput.normalizationMode =
          .error calcErr ∧ ¬ calcErr.Is Fee.errCurrencyMismatch :=
      expectedFee_of_unknown_currency hcurrency
    rw [compareFees_of_error hcalc]
    exact iff_of_false hother (by simp)
  | ok currency =>
    simp only [Except.ok.injEq, exists_eq_left']
    by_cases hagrees : currency = schedule.currency
    · subst hagrees
      rw [imp_iff_right rfl]
      cases hexpected : schedule.expectedFee feeInput.normalizationMode |txn.amount| with
      | none =>
        obtain ⟨calcErr, hcalc, hother⟩ := expectedFee_of_none hvalid hcurrency hexpected
        rw [compareFees_of_error hcalc]
        exact iff_of_false hother (by simp)
      | some =>
        have hnonneg := hvalid.priced.expectedFee_nonneg (abs_nonneg txn.amount) hexpected
        rw [compareFees_of_ok hrecorded hidentified hitem hsame hnonneg
          (expectedFee_of_some hvalid hcurrency hexpected)]
        simp only [Option.some.injEq, exists_eq_left']
    · obtain ⟨calcErr, hcalc, hmismatch⟩ : ∃ calcErr,
          expectedFeeForTransaction txn schedule feeInput.normalizationMode = .error calcErr ∧
            calcErr.Is Fee.errCurrencyMismatch :=
        expectedFee_of_other_currency hvalid hcurrency hagrees
      rw [compareFees_of_error hcalc]
      exact iff_of_true hmismatch fun h => absurd h hagrees

theorem processFeeForItem_succeeds_iff (hrecorded : schedule.Recorded)
    (hidentified : Identified createdRun group) (hitem : item ∈ group.items) :
    (∃ result, processFeeForItem newVarianceID item group createdRun feeInput
        schedule tolerance = .ok result) ↔
      ∀ txn, feeInput.txByID item.transactionID = some txn →
        Digestible feeInput.normalizationMode tolerance txn schedule := by
  unfold processFeeForItem
  cases htxn : feeInput.txByID item.transactionID with
  | none => simp
  | some txn =>
    simp only [Option.some.injEq, forall_eq', Digestible]
    cases hactual : extractActualFee txn schedule.currency with
    | error => simp
    | ok =>
      simp only [Except.ok.injEq, forall_eq']
      exact compareFees_succeeds_iff hrecorded hidentified hitem (extractActualFee_currency hactual)

end Item

/-! ## The whole run -/

theorem resolveScheduleForTransaction_mem {transactionID : UUID} {feeInput : FeeVerificationInput}
    (h : resolveScheduleForTransaction transactionID feeInput = some schedule) :
    ∃ id, feeInput.allSchedules id = some schedule := by
  have hresolve : ∀ metadata rules,
      Fee.resolveFeeSchedule metadata rules feeInput.allSchedules =
        some schedule → ∃ id, feeInput.allSchedules id = some schedule := by
    intro metadata rules hfound
    obtain ⟨rule, -, hrule⟩ := List.exists_of_findSome?_eq_some hfound
    split at hrule
    next => exact ⟨rule.feeScheduleID, hrule⟩
    next => cases hrule
  unfold resolveScheduleForTransaction at h
  split at h
  next => cases h
  next =>
    split_ifs at h <;> exact hresolve _ _ h

section Run

variable {newVarianceID : ℕ → UUID} {groups : List MatchGroup}
  {createdRun : MatchRun} {feeInput : FeeVerificationInput}

section

variable (hrecorded : ∀ id schedule, feeInput.allSchedules id = some schedule → schedule.Recorded)

include hrecorded

theorem collectItemFindings_succeeds_iff
    {group : MatchGroup} (hidentified : Identified createdRun group) {item : MatchItem}
    (hitem : item ∈ group.items) (findings : FeeFindings) :
    (∃ next, collectItemFindings newVarianceID group createdRun feeInput
        tolerance findings item = .ok next) ↔
      ∀ txn schedule, feeInput.txByID item.transactionID = some txn →
        resolveScheduleForTransaction item.transactionID feeInput = some schedule →
        Digestible feeInput.normalizationMode tolerance txn schedule := by
  unfold collectItemFindings
  cases hschedule : resolveScheduleForTransaction item.transactionID feeInput with
  | none => simp
  | some schedule =>
    obtain ⟨id, hid⟩ := resolveScheduleForTransaction_mem hschedule
    have hprocess : (∃ result, processFeeForItem
        (newVarianceID findings.variances.length) item group createdRun
        feeInput schedule tolerance = .ok result) ↔ _ :=
      processFeeForItem_succeeds_iff (hrecorded id schedule hid) hidentified hitem
    simp only [Option.some.injEq]
    constructor
    · rintro ⟨next, h⟩ txn other htxn rfl
      obtain ⟨result, hresult, -⟩ := bind_eq_ok.mp h
      exact hprocess.mp ⟨result, hresult⟩ txn htxn
    · intro h
      obtain ⟨result, hresult⟩ := hprocess.mpr fun txn htxn => h txn schedule htxn rfl
      exact ⟨_, bind_eq_ok.mpr ⟨result, hresult, rfl⟩⟩

theorem collectFeeFindings_succeeds_iff
    (hidentified : ∀ group ∈ groups, Identified createdRun group) :
    (∃ findings, collectFeeFindings newVarianceID groups createdRun feeInput
        tolerance = .ok findings) ↔
      ∀ group ∈ groups, group.status = .confirmed →
        ∀ item ∈ group.items, ∀ txn schedule, feeInput.txByID item.transactionID = some txn →
          resolveScheduleForTransaction item.transactionID feeInput = some schedule →
          Digestible feeInput.normalizationMode tolerance txn schedule := by
  unfold collectFeeFindings
  refine foldlM_succeeds_iff_forall ?_
  intro findings group hgroup
  split
  next hother => exact iff_of_true ⟨findings, rfl⟩ fun h => absurd h hother
  next hconfirmed =>
    rw [imp_iff_right (not_not.mp hconfirmed)]
    refine foldlM_succeeds_iff_forall ?_
    intro findings item hitem
    exact collectItemFindings_succeeds_iff hrecorded (hidentified group hgroup) hitem findings

end

end Run

/-! ## A refund in the fee field -/

def feeTransaction (fee : Fee.MetadataMember) : Transaction :=
  { plainTransaction ⟨1⟩ 100 with
    metadata := some [("fee", .object "map[amount]" [("amount", fee)])] }

def cardFeeRule : Fee.FeeRule := ⟨⟨8⟩, .any, ⟨7⟩, 1, []⟩

def cardFeeInput (txn : Transaction) : FeeVerificationInput where
  ctxInfo := some ⟨.oneToOne, true, some .net⟩
  txByID := indexTransactions [txn]
  sourceTypeByID := fun _ => ""
  leftSourceIDs := {UUID.zero}
  rightSourceIDs := ∅
  leftRules := [cardFeeRule]
  rightRules := [cardFeeRule]
  allSchedules := fun id =>
    if id = ⟨7⟩ then some (Fee.cardSchedule .parallel) else none

def cardFeeRun : MatchRun :=
  ⟨⟨3⟩, ⟨2⟩, .commit, .processing, [], none⟩

def cardFeeGroup (txn : Transaction) : MatchGroup where
  id := ⟨5⟩
  contextID := ⟨2⟩
  runID := ⟨3⟩
  ruleID := ⟨4⟩
  confidence := ⟨100, Int.natCast_nonneg 100, le_rfl⟩
  status := .confirmed
  items := [⟨⟨5⟩, txn.id, |txn.amount|, txn.currency, |txn.amount|, false,
    abs_nonneg txn.amount, le_rfl⟩]
  rejectedReason := none

theorem cardFeeInput_recorded (txn : Transaction) :
    ∀ id schedule, (cardFeeInput txn).allSchedules id = some schedule → schedule.Recorded := by
  intro id schedule hschedule
  simp only [cardFeeInput] at hschedule
  split at hschedule
  next =>
    cases hschedule
    exact {
      toValid := Fee.cardSchedule_valid.1
      id := (by decide)
      name := (by decide) }
  next => cases hschedule

theorem cardFeeGroup_identified (fee : Fee.MetadataMember) :
    ∀ group ∈ [cardFeeGroup (feeTransaction fee)], Identified cardFeeRun group := by
  intro group hgroup
  have hgroupID : (⟨5⟩ : UUID) ≠ UUID.zero := by decide
  have htransactionID : (⟨1⟩ : UUID) ≠ UUID.zero := by decide
  rw [List.mem_singleton.mp hgroup]
  refine ⟨by decide, by decide, hgroupID, ?_⟩
  intro item hitem
  rw [List.mem_singleton.mp hitem]
  exact htransactionID

theorem collectFeeFindings_refund_tolerated :
    ∃ findings, collectFeeFindings (fun index => ⟨index + 100⟩)
      [cardFeeGroup (feeTransaction (.text "-5"))] cardFeeRun
      (cardFeeInput (feeTransaction (.text "-5"))) ⟨10, 0⟩ = .ok findings := by
  have hactual : extractActualFee (feeTransaction (.text "-5")) "USD" = .ok ⟨-5, "USD"⟩ := by
    decide +kernel
  have hcurrency : Fee.normalizeCurrency "USD" = .ok "USD" := by decide +kernel
  have hexpected : (Fee.cardSchedule .parallel).expectedFee .net |100| = some (31 / 10) := by
    decide +kernel
  have hclose : |(-5 : Decimal) - 31 / 10| ≤ (⟨10, 0⟩ : Tolerance).threshold (-5) (31 / 10) := by
    decide +kernel
  refine (collectFeeFindings_succeeds_iff (cardFeeInput_recorded _)
    (cardFeeGroup_identified _)).mpr ?_
  intro group hgroup _ item hitem txn schedule htxn hschedule actual hread
  cases List.mem_singleton.mp hgroup
  cases List.mem_singleton.mp hitem
  obtain rfl : feeTransaction (.text "-5") = txn := Option.some.inj htxn
  obtain rfl : Fee.cardSchedule .parallel = schedule := Option.some.inj hschedule
  cases hactual.symm.trans hread
  exact ⟨"USD", hcurrency, fun _ => ⟨31 / 10, hexpected, by decide +kernel,
    by decide +kernel, .inr hclose⟩⟩

theorem collectFeeFindings_stopped_by_refund :
    (∀ id schedule, (cardFeeInput (feeTransaction (.text "-5"))).allSchedules id = some schedule →
      schedule.Recorded) ∧
    collectFeeFindings (fun index => ⟨index + 100⟩)
      [cardFeeGroup (feeTransaction (.text "-5"))] cardFeeRun
      (cardFeeInput (feeTransaction (.text "-5"))) ⟨1 / 100, 0⟩ =
        .error (.wrap "create fee variance: %w" []
          (assertionError "fee variance amounts: %w" "fees must be non-negative")) :=
  ⟨cardFeeInput_recorded _, by decide +kernel⟩

end Matcher.Command
