import Matcher.Matching.DeterministicSort

/-!
# Allocation of one transaction to many

The amount of a target is split greedily over candidates in deterministic order.
A candidate that does not fit is skipped, or capped when partial allocation is
allowed, and the split ends as soon as the rest is within tolerance.
-/

namespace Matcher.Matching

open Foundation

variable {cfg : AllocationConfig} {allocationCurrency : String}
  {target candidate tx : CandidateTransaction} {allocation : Allocation}
  {remaining amount : Decimal}

/-! ## Errors and failures -/

def errAllocationConfigRequired : GoError :=
  .sentinel ⟨"ErrAllocationConfigRequired", "allocation config is required"⟩

def errBaseAmountRequired : GoError :=
  .sentinel ⟨"ErrBaseAmountRequired", "base amount is required for allocation"⟩

def errBaseCurrencyRequired : GoError :=
  .sentinel ⟨"ErrBaseCurrencyRequired", "base currency is required for allocation"⟩

def errNegativeAllocationAmount : GoError :=
  .sentinel ⟨"ErrNegativeAllocationAmount", "allocation amounts must be non-negative"⟩

def errNegativeAllocationTarget : GoError :=
  .sentinel ⟨"ErrNegativeAllocationTarget", "allocation target amount must be non-negative"⟩

def errNegativeAllocationCandidate : GoError :=
  .sentinel ⟨"ErrNegativeAllocationCandidate", "allocation candidate amount must be non-negative"⟩

def errInvalidAllocationToleranceMode : GoError :=
  .sentinel ⟨"ErrInvalidAllocationToleranceMode", "invalid allocation tolerance mode"⟩

def errInvalidAllocationDirection : GoError :=
  .sentinel ⟨"ErrInvalidAllocationDirection", "invalid allocation direction"⟩

def errNegativeAllocationTolerance : GoError :=
  .sentinel ⟨"ErrNegativeAllocationTolerance", "allocation tolerance must be non-negative"⟩

def errCandidateSetTooLarge : GoError :=
  .sentinel ⟨"ErrCandidateSetTooLarge", "candidate set too large"⟩

inductive AllocationFailureCode
  | fxRateUnavailable
  | splitIncomplete
deriving DecidableEq, Repr

structure AllocationFailure where
  code : AllocationFailureCode
  targetID : UUID
  fields : List (String × String)
deriving DecidableEq, Repr

def allocationFailureMetaMissingKey : String := "missing"

def allocationFailureMissingAmountBase : String := "amount_base"

def allocationFailureMissingCurrencyBase : String := "currency_base"

def newFXRateUnavailableFailure (targetID : UUID) (missing : String) : AllocationFailure where
  code := .fxRateUnavailable
  targetID := targetID
  fields := [(allocationFailureMetaMissingKey, missing)]

def boolToString (value : Bool) : String :=
  if value then "true" else "false"

def newSplitIncompleteFailure (targetID : UUID) (expectedTotal allocatedTotal gap currency : String)
    (useBaseAmount allowPartial : Bool) : AllocationFailure where
  code := .splitIncomplete
  targetID := targetID
  fields := [("expected_total", expectedTotal), ("allocated_total", allocatedTotal), ("gap", gap),
    ("currency", currency),
    ("use_base_amount", boolToString useBaseAmount),
    ("allow_partial", boolToString allowPartial)]

structure AllocationResult where
  allocations : List Allocation := []
  total : Decimal := 0
  complete : Bool := false
  failure : Option AllocationFailure := none
deriving DecidableEq, Repr

/-! ## Configuration -/

def validateAllocationConfig (cfg : AllocationConfig) : Except GoError Unit :=
  if cfg.toleranceMode ≠ .absolute ∧ cfg.toleranceMode ≠ .percent then
    .error errInvalidAllocationToleranceMode
  else if cfg.direction ≠ .leftToRight ∧ cfg.direction ≠ .rightToLeft then
    .error errInvalidAllocationDirection
  else if cfg.toleranceValue < 0 then .error errNegativeAllocationTolerance
  else .ok ()

def validateAllocationInputs : Option AllocationConfig → Except GoError AllocationConfig
  | none => .error errAllocationConfigRequired
  | some cfg => do
      validateAllocationConfig cfg
      return cfg

def withinAllocationTolerance (remaining target : Decimal) (cfg : AllocationConfig) : Bool :=
  match cfg.toleranceMode with
  | .percent =>
    let threshold := |target| * cfg.toleranceValue
    if threshold < 0 then false else |remaining| ≤ threshold
  | .absolute =>
    if cfg.toleranceValue < 0 then false
    else |remaining| ≤ cfg.toleranceValue
  | .other _ => false

/-! ## Amounts -/

/-- The amount to allocate, or the failure that names the missing base field. -/
def allocationAmountDetailed (tx : CandidateTransaction) (cfg : AllocationConfig) :
    AllocationFailure ⊕ Decimal :=
  if cfg.useBaseAmount then
    match tx.amountBase with
    | none => .inl (newFXRateUnavailableFailure tx.id allocationFailureMissingAmountBase)
    | some amountBase =>
      if tx.currencyBase = "" then
        .inl (newFXRateUnavailableFailure tx.id allocationFailureMissingCurrencyBase)
      else .inr amountBase
  else .inr tx.amount

def allocationAmount (tx : CandidateTransaction) (cfg : AllocationConfig) :
    Except GoError Decimal :=
  match allocationAmountDetailed tx cfg with
  | .inl failure =>
    if failure.code = .fxRateUnavailable ∧
        failure.fields.lookup allocationFailureMetaMissingKey =
          some allocationFailureMissingAmountBase then
      .error errBaseAmountRequired
    else .error errBaseCurrencyRequired
  | .inr amount => .ok amount

def resolveAllocationCurrency (target : CandidateTransaction) (cfg : AllocationConfig) :
    AllocationFailure ⊕ String :=
  if !cfg.useBaseAmount then .inr target.currency
  else if target.currencyBase = "" then
    .inl (newFXRateUnavailableFailure target.id allocationFailureMissingCurrencyBase)
  else .inr target.currencyBase

/-! ## The greedy split -/

def allocationCurrencyMatches (candidate : CandidateTransaction)
    (cfg : AllocationConfig) (allocationCurrency : String) : Bool :=
  if cfg.useBaseAmount then
    candidate.currencyBase ≠ "" && candidate.currencyBase = allocationCurrency
  else candidate.currency = allocationCurrency

/-- The allocation and the new rest, or `none` when the candidate is skipped. -/
def tryAllocateCandidate (candidate : CandidateTransaction) (remaining : Decimal)
    (cfg : AllocationConfig) (allocationCurrency : String) :
    Except GoError (Option (Allocation × Decimal)) :=
  match allocationAmount candidate cfg with
  | .error failure =>
    if failure = errBaseAmountRequired ∨ failure = errBaseCurrencyRequired
    then .ok none
    else .error failure
  | .ok amount =>
    if amount < 0 then .error errNegativeAllocationCandidate
    else if !allocationCurrencyMatches candidate cfg allocationCurrency then
      .ok none
    else if amount = 0 then .ok none
    else if remaining < amount ∧ cfg.allowPartial = false then .ok none
    else
      let allocated := if remaining < amount then remaining else amount
      let newRemaining := remaining - allocated
      if newRemaining < 0 then .error errNegativeAllocationAmount
      else
        .ok (some (⟨candidate.id, allocated, allocationCurrency, cfg.useBaseAmount⟩, newRemaining))

def allocateLoop (sourceAmount : Decimal) (cfg : AllocationConfig) (allocationCurrency : String) :
    List CandidateTransaction → List Allocation → (remaining sum : Decimal) →
      Except GoError (List Allocation × Decimal × Bool)
  | [], allocations, remaining, sum =>
    .ok (allocations, sum,
      withinAllocationTolerance remaining sourceAmount cfg &&
        decide (0 < allocations.length))
  | candidate :: rest, allocations, remaining, sum =>
    match tryAllocateCandidate candidate remaining cfg allocationCurrency with
    | .error failure => .error failure
    | .ok none => allocateLoop sourceAmount cfg allocationCurrency rest allocations remaining sum
    | .ok (some (allocation, newRemaining)) =>
      if withinAllocationTolerance newRemaining sourceAmount cfg then
        .ok (allocations ++ [allocation], sum + allocation.allocatedAmount, true)
      else
        allocateLoop sourceAmount cfg allocationCurrency rest
          (allocations ++ [allocation]) newRemaining
          (sum + allocation.allocatedAmount)

def allocateCandidates (candidates : List CandidateTransaction) (sourceAmount : Decimal)
    (cfg : AllocationConfig) (allocationCurrency : String) :
    Except GoError (List Allocation × Decimal × Bool) :=
  allocateLoop sourceAmount cfg allocationCurrency candidates [] sourceAmount 0

def buildAllocationResult (targetID : UUID) (sourceAmount : Decimal) (allocations : List Allocation)
    (total : Decimal) (complete : Bool) (currency : String) (cfg : AllocationConfig) :
    AllocationResult where
  allocations := allocations
  total := total
  complete := complete
  failure :=
    if !complete && !cfg.allowPartial && 0 < allocations.length then
      some (newSplitIncompleteFailure targetID sourceAmount.toText
        total.toText (Decimal.toText (sourceAmount - total)) currency
        cfg.useBaseAmount cfg.allowPartial)
    else none

def maxAllocationCandidates : ℕ := 100000

def allocateOneToManyDetailed (target : CandidateTransaction)
    (candidates : List CandidateTransaction) (cfg : Option AllocationConfig) :
    Except GoError AllocationResult := do
  let cfg ← validateAllocationInputs cfg
  if candidates.length = 0 then return {}
  else if maxAllocationCandidates < candidates.length then
    .error errCandidateSetTooLarge
  else
    match allocationAmountDetailed target cfg with
    | .inl failure => return { failure := some failure }
    | .inr sourceAmount =>
      if sourceAmount < 0 then .error errNegativeAllocationTarget
      else if sourceAmount = 0 then return {}
      else
        match resolveAllocationCurrency target cfg with
        | .inl failure => return { failure := some failure }
        | .inr allocationCurrency => do
            let (allocations, total, complete) ←
              allocateCandidates (sortTransactions candidates) sourceAmount cfg allocationCurrency
            return buildAllocationResult target.id sourceAmount allocations
              total complete allocationCurrency cfg

/-! ## What a split is -/

/-- The amount a configuration allocates of a transaction, when it has one. -/
def relevantAmount (cfg : AllocationConfig) (tx : CandidateTransaction) : Option Decimal :=
  if cfg.useBaseAmount then
    if tx.currencyBase = "" then none else tx.amountBase
  else some tx.amount

def relevantCurrency (cfg : AllocationConfig) (tx : CandidateTransaction) : String :=
  if cfg.useBaseAmount then tx.currencyBase else tx.currency

/-- The configured tolerance admits leaving `gap` of `target` unallocated. -/
def AllocationConfig.Tolerates (cfg : AllocationConfig) (target gap : Decimal) : Prop :=
  match cfg.toleranceMode with
  | .absolute => |gap| ≤ cfg.toleranceValue
  | .percent => |gap| ≤ |target| * cfg.toleranceValue
  | .other _ => False

/-- The allocation takes a positive part of the candidate's relevant amount. -/
structure TakenFrom (cfg : AllocationConfig) (allocationCurrency : String)
    (candidate : CandidateTransaction) (allocation : Allocation) : Prop where
  id : allocation.transactionID = candidate.id
  positive : 0 < allocation.allocatedAmount
  part : ∃ amount, relevantAmount cfg candidate = some amount ∧
    allocation.allocatedAmount ≤ amount ∧
      (cfg.allowPartial = false → allocation.allocatedAmount = amount)
  candidateCurrency : relevantCurrency cfg candidate = allocationCurrency
  currency : allocation.currency = allocationCurrency
  useBaseAmount : allocation.useBaseAmount = cfg.useBaseAmount

structure Split (cfg : AllocationConfig) (allocationCurrency : String) (sourceAmount : Decimal)
    (seen : List CandidateTransaction) (allocations : List Allocation) (remaining sum : Decimal) :
    Prop where
  ids : (allocations.map (·.transactionID)).Sublist (seen.map (·.id))
  taken : ∀ allocation ∈ allocations, ∃ candidate ∈ seen,
    TakenFrom cfg allocationCurrency candidate allocation
  sum_eq : sum = (allocations.map (·.allocatedAmount)).sum
  remaining_eq : remaining = sourceAmount - sum

theorem withinAllocationTolerance_iff {target : Decimal} (h : 0 ≤ cfg.toleranceValue) :
    withinAllocationTolerance remaining target cfg = true ↔ cfg.Tolerates target remaining := by
  unfold withinAllocationTolerance AllocationConfig.Tolerates
  cases cfg.toleranceMode with
  | absolute => simp [not_lt.mpr h]
  | percent =>
    have hthreshold : 0 ≤ |target| * cfg.toleranceValue := mul_nonneg (abs_nonneg target) h
    simp [not_lt.mpr hthreshold]
  | other => simp

structure AllocationConfig.Valid (cfg : AllocationConfig) : Prop where
  mode : cfg.toleranceMode = .absolute ∨ cfg.toleranceMode = .percent
  direction : cfg.direction = .leftToRight ∨ cfg.direction = .rightToLeft
  tolerance : 0 ≤ cfg.toleranceValue

theorem validateAllocationConfig_eq_ok : validateAllocationConfig cfg = .ok () ↔ cfg.Valid := by
  unfold validateAllocationConfig
  constructor
  · intro h
    split_ifs at h with hmode hdirection hvalue
    exact ⟨by tauto, by tauto, not_lt.mp hvalue⟩
  · intro h
    have hmode := h.mode
    have hdirection := h.direction
    rw [if_neg (by tauto), if_neg (by tauto), if_neg (not_lt.mpr h.tolerance)]

theorem AllocationConfig.Valid.tolerates_zero (h : cfg.Valid) (target : Decimal) :
    cfg.Tolerates target 0 := by
  unfold AllocationConfig.Tolerates
  rcases h.mode with hmode | hmode
  · rw [hmode]
    simpa using h.tolerance
  · rw [hmode]
    simpa using mul_nonneg (abs_nonneg target) h.tolerance

theorem allocationAmountDetailed_eq_inr :
    allocationAmountDetailed tx cfg = .inr amount ↔ relevantAmount cfg tx = some amount := by
  unfold allocationAmountDetailed relevantAmount
  by_cases hbase : cfg.useBaseAmount = true
  · rw [if_pos hbase, if_pos hbase]
    cases tx.amountBase with
    | none => simp
    | some =>
      by_cases hcurrency : tx.currencyBase = "" <;> simp [hcurrency]
  · rw [if_neg hbase, if_neg hbase]
    simp

theorem allocationAmount_eq_ok (h : allocationAmount tx cfg = .ok amount) :
    relevantAmount cfg tx = some amount := by
  unfold allocationAmount at h
  cases hdetailed : allocationAmountDetailed tx cfg with
  | inl =>
    rw [hdetailed] at h
    dsimp only at h
    split_ifs at h
  | inr =>
    rw [hdetailed] at h
    cases h
    exact allocationAmountDetailed_eq_inr.mp hdetailed

theorem allocationCurrencyMatches_relevant
    (h : allocationCurrencyMatches candidate cfg allocationCurrency = true) :
    relevantCurrency cfg candidate = allocationCurrency := by
  unfold allocationCurrencyMatches at h
  unfold relevantCurrency
  by_cases hbase : cfg.useBaseAmount = true
  · rw [if_pos hbase] at h ⊢
    simp only [Bool.and_eq_true, decide_eq_true_eq] at h
    exact h.2
  · rw [if_neg hbase] at h ⊢
    exact of_decide_eq_true h

theorem resolveAllocationCurrency_eq_inr
    (h : resolveAllocationCurrency target cfg = .inr allocationCurrency) :
    allocationCurrency = relevantCurrency cfg target := by
  unfold resolveAllocationCurrency at h
  unfold relevantCurrency
  by_cases hbase : cfg.useBaseAmount = true
  · simp only [hbase, Bool.not_true, Bool.false_eq_true, if_false] at h
    split_ifs at h
    rw [if_pos hbase]
    exact (Sum.inr.inj h).symm
  · simp only [hbase, Bool.not_false, if_true] at h
    rw [if_neg hbase]
    exact (Sum.inr.inj h).symm

theorem tryAllocateCandidate_eq_some {newRemaining : Decimal} (hremaining : 0 < remaining)
    (h : tryAllocateCandidate candidate remaining cfg allocationCurrency =
      .ok (some (allocation, newRemaining))) :
    TakenFrom cfg allocationCurrency candidate allocation ∧
      newRemaining = remaining - allocation.allocatedAmount ∧ 0 ≤ newRemaining := by
  unfold tryAllocateCandidate at h
  cases hamount : allocationAmount candidate cfg with
  | error =>
    rw [hamount] at h
    dsimp only at h
    split_ifs at h
    simp at h
  | ok amount =>
    rw [hamount] at h
    simp only at h
    split_ifs at h with hnegative hcurrency hzero hskip hfits hrest hrest
    · simp at h
    · simp at h
    · simp at h
    · simp only [Except.ok.injEq, Option.some.injEq, Prod.mk.injEq] at h
      obtain ⟨rfl, rfl⟩ := h
      refine ⟨⟨rfl, hremaining, ⟨amount, allocationAmount_eq_ok hamount,
        le_of_lt hfits, ?_⟩, ?_, rfl, rfl⟩, rfl, not_lt.mp hrest⟩
      · intro hpartial
        exact absurd ⟨hfits, hpartial⟩ hskip
      · exact allocationCurrencyMatches_relevant (by simpa using hcurrency)
    · simp only [Except.ok.injEq, Option.some.injEq, Prod.mk.injEq] at h
      obtain ⟨rfl, rfl⟩ := h
      have hpositive : 0 < amount := lt_of_le_of_ne (not_lt.mp hnegative) (Ne.symm hzero)
      refine ⟨⟨rfl, hpositive, ⟨amount, allocationAmount_eq_ok hamount,
        le_rfl, fun _ => rfl⟩, ?_, rfl, rfl⟩, rfl, not_lt.mp hrest⟩
      exact allocationCurrencyMatches_relevant (by simpa using hcurrency)

namespace Split

variable {cfg : AllocationConfig} {allocationCurrency : String}
  {sourceAmount remaining sum : Decimal} {seen : List CandidateTransaction}
  {allocations : List Allocation} {candidate : CandidateTransaction}

theorem nil : Split cfg allocationCurrency sourceAmount [] [] sourceAmount 0 where
  ids := by simp
  taken := by simp
  sum_eq := by simp
  remaining_eq := by simp

section

variable (h : Split cfg allocationCurrency sourceAmount seen allocations remaining sum)

include h

theorem skip (candidate : CandidateTransaction) :
    Split cfg allocationCurrency sourceAmount (seen ++ [candidate]) allocations remaining sum where
  ids := by
    rw [List.map_append]
    exact h.ids.trans (List.sublist_append_left _ _)
  taken := by
    intro allocation hallocation
    obtain ⟨source, hsource, htaken⟩ := h.taken allocation hallocation
    exact ⟨source, List.mem_append_left _ hsource, htaken⟩
  sum_eq := h.sum_eq
  remaining_eq := h.remaining_eq

theorem take (htaken : TakenFrom cfg allocationCurrency candidate allocation) :
    Split cfg allocationCurrency sourceAmount (seen ++ [candidate])
      (allocations ++ [allocation]) (remaining - allocation.allocatedAmount)
      (sum + allocation.allocatedAmount) where
  ids := by
    simp only [List.map_append, List.map_cons, List.map_nil, htaken.id]
    exact h.ids.append (List.Sublist.refl _)
  taken := by
    intro other hother
    rcases List.mem_append.mp hother with hold | hnew
    · exact (h.skip candidate).taken other hold
    · rw [List.mem_singleton.mp hnew]
      exact ⟨candidate, by simp, htaken⟩
  sum_eq := by
    rw [h.sum_eq]
    simp
  remaining_eq := by
    rw [h.remaining_eq]
    ring

theorem sum_le (hremaining : 0 ≤ remaining) : sum ≤ sourceAmount := by
  have hrest := h.remaining_eq
  linarith

end

end Split

theorem allocateLoop_split {sourceAmount : Decimal} (hvalid : cfg.Valid) {total : Decimal}
    {complete : Bool} {result : List Allocation} (rest seen : List CandidateTransaction)
    (allocations : List Allocation) (remaining sum : Decimal) (hremaining : 0 < remaining)
    (hsplit : Split cfg allocationCurrency sourceAmount seen allocations remaining sum)
    (h : allocateLoop sourceAmount cfg allocationCurrency rest allocations
      remaining sum = .ok (result, total, complete)) :
    (∃ scanned, scanned.Sublist rest ∧ ∃ left, 0 ≤ left ∧
      Split cfg allocationCurrency sourceAmount (seen ++ scanned) result left total) ∧
    (complete = true ↔ result ≠ [] ∧ cfg.Tolerates sourceAmount (sourceAmount - total)) := by
  induction rest generalizing seen allocations remaining sum with
  | nil =>
    simp only [allocateLoop, Except.ok.injEq, Prod.mk.injEq] at h
    obtain ⟨rfl, rfl, rfl⟩ := h
    refine ⟨⟨[], List.Sublist.refl _, remaining, le_of_lt hremaining, ?_⟩, ?_⟩
    · simpa using hsplit
    · rw [Bool.and_eq_true, withinAllocationTolerance_iff hvalid.tolerance, hsplit.remaining_eq,
        decide_eq_true_iff, List.length_pos_iff, and_comm]
  | cons candidate _ ih =>
    rw [allocateLoop] at h
    cases htry : tryAllocateCandidate candidate remaining cfg allocationCurrency with
    | error =>
      rw [htry] at h
      cases h
    | ok outcome =>
      rw [htry] at h
      cases outcome with
      | none =>
        obtain ⟨⟨scanned, hscanned, hleft⟩, hcomplete⟩ :=
          ih (seen ++ [candidate]) allocations remaining sum hremaining (hsplit.skip candidate) h
        rw [List.append_assoc] at hleft
        exact ⟨⟨candidate :: scanned, hscanned.cons_cons candidate, hleft⟩, hcomplete⟩
      | some pair =>
        obtain ⟨allocation, newRemaining⟩ := pair
        obtain ⟨htaken, rfl, hnonneg⟩ := tryAllocateCandidate_eq_some hremaining htry
        have hnext := hsplit.take htaken
        dsimp only at h
        split_ifs at h with hwithin
        · simp only [Except.ok.injEq, Prod.mk.injEq] at h
          obtain ⟨rfl, rfl, rfl⟩ := h
          refine ⟨⟨[candidate], by simp, _, hnonneg, hnext⟩, ?_⟩
          rw [withinAllocationTolerance_iff hvalid.tolerance, hnext.remaining_eq] at hwithin
          simp [hwithin]
        · have hpositive : 0 < remaining - allocation.allocatedAmount := by
            refine lt_of_le_of_ne hnonneg fun hzero => hwithin ?_
            rw [← hzero, withinAllocationTolerance_iff hvalid.tolerance]
            exact hvalid.tolerates_zero sourceAmount
          obtain ⟨⟨scanned, hscanned, hleft⟩, hcomplete⟩ :=
            ih (seen ++ [candidate]) _ _ _ hpositive hnext h
          rw [List.append_assoc] at hleft
          exact ⟨⟨candidate :: scanned, hscanned.cons_cons candidate, hleft⟩, hcomplete⟩

theorem allocationAmountDetailed_target {failure : AllocationFailure}
    (h : allocationAmountDetailed target cfg = .inl failure) : failure.targetID = target.id := by
  unfold allocationAmountDetailed at h
  cases hbase : target.amountBase with
  | none =>
    rw [hbase] at h
    dsimp only at h
    split_ifs at h
    cases h
    rfl
  | some =>
    rw [hbase] at h
    split_ifs at h
    cases h
    rfl

theorem resolveAllocationCurrency_target {failure : AllocationFailure}
    (h : resolveAllocationCurrency target cfg = .inl failure) : failure.targetID = target.id := by
  unfold resolveAllocationCurrency at h
  split_ifs at h
  cases h
  rfl

section Returned

variable {target : CandidateTransaction} {candidates : List CandidateTransaction}
  {result : AllocationResult}
  (h : allocateOneToManyDetailed target candidates (some cfg) = .ok result)

include h

/-- A call that returns allocates nothing, with at most a failure about its target, or
it returns what the loop allocated. -/
theorem allocateOneToManyDetailed_cases :
    cfg.Valid ∧
    ((∃ failure : Option AllocationFailure, result = { failure := failure } ∧
      ∀ missing, failure = some missing → missing.targetID = target.id) ∨
    ∃ source allocations total complete, relevantAmount cfg target = some source ∧ 0 < source ∧
      allocateCandidates (sortTransactions candidates) source cfg (relevantCurrency cfg target) =
        .ok (allocations, total, complete) ∧
      result = buildAllocationResult target.id source allocations total complete
        (relevantCurrency cfg target) cfg) := by
  unfold allocateOneToManyDetailed at h
  obtain ⟨cfg', hcfg, h⟩ := bind_eq_ok.mp h
  obtain ⟨⟨⟩, hvalidate, hpure⟩ := bind_eq_ok.mp hcfg
  cases hpure
  refine ⟨validateAllocationConfig_eq_ok.mp hvalidate, ?_⟩
  split_ifs at h with hlength hlimit
  · exact Or.inl ⟨none, (Except.ok.inj h).symm, by simp⟩
  cases hamount : allocationAmountDetailed target cfg with
  | inl failure =>
    rw [hamount] at h
    refine Or.inl ⟨some failure, (Except.ok.inj h).symm, ?_⟩
    rintro _ ⟨⟩
    exact allocationAmountDetailed_target hamount
  | inr source =>
    rw [hamount] at h
    dsimp only at h
    split_ifs at h with hnegative hzero
    · exact Or.inl ⟨none, (Except.ok.inj h).symm, by simp⟩
    have hpositive : 0 < source := lt_of_le_of_ne (not_lt.mp hnegative) (Ne.symm hzero)
    cases hcurrency : resolveAllocationCurrency target cfg with
    | inl failure =>
      rw [hcurrency] at h
      refine Or.inl ⟨some failure, (Except.ok.inj h).symm, ?_⟩
      rintro _ ⟨⟩
      exact resolveAllocationCurrency_target hcurrency
    | inr =>
      rw [hcurrency] at h
      obtain ⟨⟨allocations, total, complete⟩, hloop, hresult⟩ := bind_eq_ok.mp h
      rw [resolveAllocationCurrency_eq_inr hcurrency] at hloop hresult
      exact Or.inr ⟨source, allocations, total, complete,
        allocationAmountDetailed_eq_inr.mp hamount, hpositive, hloop, (Except.ok.inj hresult).symm⟩

/--
What a returned allocation is: either nothing was allocated, or a split of the
target's amount over candidates in sorted order.
-/
theorem allocateOneToManyDetailed_eq_ok :
    cfg.Valid ∧
    ((result.allocations = [] ∧ result.total = 0 ∧ result.complete = false) ∨
      ∃ source seen left, relevantAmount cfg target = some source ∧
        seen.Sublist (sortTransactions candidates) ∧ 0 ≤ left ∧
        Split cfg (relevantCurrency cfg target) source seen result.allocations
          left result.total ∧
        (result.complete = true ↔ result.allocations ≠ [] ∧
          cfg.Tolerates source (source - result.total))) := by
  obtain ⟨hvalid, hcases⟩ := allocateOneToManyDetailed_cases h
  refine ⟨hvalid, ?_⟩
  rcases hcases with ⟨_, rfl, -⟩ | ⟨source, _, _, _, hsource, hpositive, hloop, rfl⟩
  · exact Or.inl ⟨rfl, rfl, rfl⟩
  · obtain ⟨⟨seen, hseen, left, hleft, hsplit⟩, hcomplete⟩ :=
      allocateLoop_split hvalid _ [] [] source 0 hpositive Split.nil hloop
    exact Or.inr ⟨source, seen, left, hsource, hseen, hleft, hsplit, hcomplete⟩

theorem allocateOneToManyDetailed_failure_target {failure : AllocationFailure}
    (hfailure : result.failure = some failure) : failure.targetID = target.id := by
  obtain ⟨-, ⟨_, rfl, htarget⟩ | ⟨source, _, _, _, -, -, -, rfl⟩⟩ :=
    allocateOneToManyDetailed_cases h
  · exact htarget failure hfailure
  · dsimp only [buildAllocationResult] at hfailure
    split_ifs at hfailure
    cases hfailure
    rfl

theorem allocateOneToManyDetailed_complete_failure (hcomplete : result.complete = true) :
    result.failure = none := by
  obtain ⟨-, ⟨_, rfl, -⟩ | ⟨source, _, _, _, -, -, -, rfl⟩⟩ := allocateOneToManyDetailed_cases h
  · cases hcomplete
  · simp only [buildAllocationResult] at hcomplete ⊢
    simp [hcomplete]

end Returned

/--
The conservation law of an allocation.  The allocated candidates are distinct,
each gives a positive part of its amount in the target's currency, the total is
the sum of the parts and stays within the target, and the allocation is complete
exactly when something was allocated and the gap is tolerated.
-/
theorem allocateOneToManyDetailed_conserves {target : CandidateTransaction}
    {candidates : List CandidateTransaction} {cfg : AllocationConfig} {result : AllocationResult}
    (hids : (candidates.map (·.id)).Nodup)
    (h : allocateOneToManyDetailed target candidates (some cfg) = .ok result) :
    (result.allocations.map (·.transactionID)).Nodup ∧
    (∀ allocation ∈ result.allocations, ∃ candidate ∈ candidates,
      candidate.id = allocation.transactionID ∧
      ∃ amount, relevantAmount cfg candidate = some amount ∧ 0 < allocation.allocatedAmount ∧
        allocation.allocatedAmount ≤ amount ∧
        (cfg.allowPartial = false → allocation.allocatedAmount = amount) ∧
        relevantCurrency cfg candidate = relevantCurrency cfg target ∧
        allocation.currency = relevantCurrency cfg target) ∧
    result.total = (result.allocations.map (·.allocatedAmount)).sum ∧
    (result.allocations ≠ [] → ∃ amount,
      relevantAmount cfg target = some amount ∧ result.total ≤ amount) ∧
    (result.complete = true ↔ result.allocations ≠ [] ∧
      ∃ amount, relevantAmount cfg target = some amount ∧
        cfg.Tolerates amount (amount - result.total)) := by
  obtain ⟨-, hnothing | hsplit⟩ := allocateOneToManyDetailed_eq_ok h
  · obtain ⟨hallocations, htotal, hcomplete⟩ := hnothing
    simp [hallocations, htotal, hcomplete]
  · obtain ⟨source, seen, left, hsource, hseen, hleft, hsplit, hcomplete⟩ := hsplit
    have hsorted : ((sortTransactions candidates).map (·.id)).Nodup :=
      ((stableSort_perm transactionLess candidates).map _).nodup_iff.mpr hids
    refine ⟨?_, ?_, hsplit.sum_eq, ?_, ?_⟩
    · exact hsorted.sublist (hsplit.ids.trans (hseen.map _))
    · intro allocation hallocation
      obtain ⟨candidate, hcandidate, htaken⟩ := hsplit.taken allocation hallocation
      obtain ⟨amount, hamount, hle, hfull⟩ := htaken.part
      refine ⟨candidate, mem_stableSort.mp (hseen.subset hcandidate),
        htaken.id.symm, amount, hamount, htaken.positive, hle, hfull,
        htaken.candidateCurrency, htaken.currency⟩
    · intro _
      exact ⟨source, hsource, hsplit.sum_le hleft⟩
    · rw [hcomplete, hsource]
      simp

def plainCandidate (id : UUID) (amount : Decimal) : CandidateTransaction where
  id := id
  sourceID := UUID.zero
  amount := amount
  originalAmount := amount
  amountBase := none
  feeBreakdown := none
  currency := "USD"
  currencyBase := ""
  reference := "REF"
  date := 0

def exactSplitConfig : AllocationConfig where
  allowPartial := false
  direction := .leftToRight
  toleranceMode := .absolute
  toleranceValue := 0
  useBaseAmount := false

theorem allocateOneToManyDetailed_conserves_pair :
    let result : AllocationResult :=
      { allocations := [⟨⟨3⟩, 40, "USD", false⟩, ⟨⟨2⟩, 60, "USD", false⟩]
        total := 100
        complete := true }
    allocateOneToManyDetailed (plainCandidate ⟨1⟩ 100)
        [plainCandidate ⟨2⟩ 60, plainCandidate ⟨3⟩ 40] (some exactSplitConfig) =
      .ok result ∧
    result.total = (result.allocations.map (·.allocatedAmount)).sum := by
  intro result
  refine (and_iff_left_of_imp fun h => ?_).mpr (by decide +kernel)
  exact (allocateOneToManyDetailed_conserves (by decide) h).2.2.1

end Matcher.Matching
