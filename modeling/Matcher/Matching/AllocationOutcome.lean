import Mathlib.Algebra.BigOperators.Group.List.Basic
import Mathlib.Algebra.Order.BigOperators.Group.List
import Matcher.Matching.Allocation

/-!
# When an allocation completes and when it fails

One step of the greedy split takes a part of what a candidate offers in the
allocation currency.  Where partial allocation is allowed that part is as much as
is still needed, so the split completes exactly when the offers add up to the
target, up to the tolerance, in whatever order they come.  A split fails only at
a negative amount that it reaches before it is complete.
-/

namespace Matcher.Matching

open Foundation

variable {amount : Decimal} {candidates : List CandidateTransaction}
  {rest : List CandidateTransaction}

/-! ## One candidate -/

def offer (cfg : AllocationConfig) (allocationCurrency : String)
    (candidate : CandidateTransaction) : Option Decimal :=
  if relevantCurrency cfg candidate = allocationCurrency then
    relevantAmount cfg candidate
  else none

def offers (cfg : AllocationConfig) (allocationCurrency : String)
    (candidates : List CandidateTransaction) : List Decimal :=
  candidates.filterMap (offer cfg allocationCurrency)

def takenPart (cfg : AllocationConfig) (allocationCurrency : String)
    (remaining : Decimal) (candidate : CandidateTransaction) : Decimal :=
  let offered := (offer cfg allocationCurrency candidate).getD 0
  if offered ≤ remaining then offered
  else if cfg.allowPartial then remaining
  else 0

/-- No amount of the candidate that the configuration would allocate is
negative. -/
def NonnegativeAmount (cfg : AllocationConfig) (candidate : CandidateTransaction) : Prop :=
  ∀ amount, relevantAmount cfg candidate = some amount → 0 ≤ amount

section Candidate

variable {cfg : AllocationConfig} {allocationCurrency : String}
  {remaining : Decimal} {candidate : CandidateTransaction}

theorem allocationAmount_of_none (h : relevantAmount cfg candidate = none) :
    allocationAmount candidate cfg = .error errBaseAmountRequired ∨
      allocationAmount candidate cfg = .error errBaseCurrencyRequired := by
  unfold allocationAmount
  cases hdetailed : allocationAmountDetailed candidate cfg with
  | inl =>
    dsimp only
    split
    · exact Or.inl rfl
    · exact Or.inr rfl
  | inr =>
    rw [allocationAmountDetailed_eq_inr.mp hdetailed] at h
    cases h

section

variable (h : relevantAmount cfg candidate = some amount)

include h

theorem allocationAmount_of_some : allocationAmount candidate cfg = .ok amount := by
  rw [allocationAmount, allocationAmountDetailed_eq_inr.mpr h]

theorem allocationCurrencyMatches_iff :
    allocationCurrencyMatches candidate cfg allocationCurrency = true ↔
      relevantCurrency cfg candidate = allocationCurrency := by
  refine ⟨allocationCurrencyMatches_relevant, ?_⟩
  unfold relevantAmount at h
  unfold relevantCurrency allocationCurrencyMatches
  cases hbase : cfg.useBaseAmount with
  | false => simp
  | true =>
    rw [hbase] at h
    simp only [if_true] at h ⊢
    split at h
    next => cases h
    next hset => simp [hset]

theorem tryAllocateCandidate_of_negative (hnegative : amount < 0) :
    tryAllocateCandidate candidate remaining cfg allocationCurrency =
      .error errNegativeAllocationCandidate := by
  simp only [tryAllocateCandidate, allocationAmount_of_some h, if_pos hnegative]

end

theorem offer_nonneg (h : NonnegativeAmount cfg candidate)
    (hoffer : offer cfg allocationCurrency candidate = some amount) : 0 ≤ amount := by
  unfold offer at hoffer
  split at hoffer
  next => exact h amount hoffer
  next => cases hoffer

section

variable {taken : Decimal} (h : NonnegativeAmount cfg candidate) (hremaining : 0 < remaining)
  (htaken : takenPart cfg allocationCurrency remaining candidate = taken)

include h hremaining htaken

theorem tryAllocateCandidate_of_nonneg :
    tryAllocateCandidate candidate remaining cfg allocationCurrency =
      .ok (if taken = 0 then none
        else some (⟨candidate.id, taken, allocationCurrency, cfg.useBaseAmount⟩,
          remaining - taken)) := by
  subst htaken
  cases hamount : relevantAmount cfg candidate with
  | none =>
    have htaken : takenPart cfg allocationCurrency remaining candidate = 0 := by
      simp [takenPart, offer, hamount, hremaining.le]
    rw [if_pos htaken, tryAllocateCandidate]
    rcases allocationAmount_of_none hamount with herror | herror
    · rw [herror]
      exact if_pos (Or.inl rfl)
    · rw [herror]
      exact if_pos (Or.inr rfl)
  | some amount =>
    have hnonneg := h amount hamount
    simp only [tryAllocateCandidate, allocationAmount_of_some hamount, if_neg (not_lt.mpr hnonneg)]
    by_cases hcurrency : relevantCurrency cfg candidate = allocationCurrency
    · have hoffer : offer cfg allocationCurrency candidate = some amount := by
        rw [offer, if_pos hcurrency, hamount]
      rw [(allocationCurrencyMatches_iff hamount).mpr hcurrency]
      simp only [takenPart, hoffer, Option.getD_some, Bool.not_true, Bool.false_eq_true, if_false]
      rcases hnonneg.eq_or_lt with rfl | hpositive
      · simp [hremaining.le]
      rw [if_neg hpositive.ne']
      rcases le_or_gt amount remaining with hfits | hexceeds
      · rw [if_neg (fun hskip => not_lt.mpr hfits hskip.1), if_neg (not_lt.mpr hfits), if_pos hfits,
          if_neg hpositive.ne', if_neg (not_lt.mpr (sub_nonneg.mpr hfits))]
      · rw [if_neg (not_le.mpr hexceeds), if_pos hexceeds]
        cases hallowed : cfg.allowPartial with
        | false => simp [hexceeds]
        | true => simp [hremaining.ne']
    · have hother : allocationCurrencyMatches candidate cfg allocationCurrency = false := by
        rw [Bool.eq_false_iff]
        exact fun hmatches => hcurrency ((allocationCurrencyMatches_iff hamount).mp hmatches)
      have htaken : takenPart cfg allocationCurrency remaining candidate = 0 := by
        simp [takenPart, offer, hcurrency, hremaining.le]
      rw [if_pos htaken, hother]
      rfl

theorem allocateLoop_cons_of_nonneg (sourceAmount : Decimal) (rest : List CandidateTransaction)
    (allocations : List Allocation) (sum : Decimal) :
    allocateLoop sourceAmount cfg allocationCurrency (candidate :: rest) allocations remaining sum =
      if taken = 0 then
        allocateLoop sourceAmount cfg allocationCurrency rest allocations remaining sum
      else if withinAllocationTolerance (remaining - taken) sourceAmount cfg = true then
        .ok (allocations ++ [⟨candidate.id, taken, allocationCurrency, cfg.useBaseAmount⟩],
          sum + taken, true)
      else
        allocateLoop sourceAmount cfg allocationCurrency rest
          (allocations ++ [⟨candidate.id, taken, allocationCurrency, cfg.useBaseAmount⟩])
          (remaining - taken) (sum + taken) := by
  rw [allocateLoop, tryAllocateCandidate_of_nonneg h hremaining htaken]
  by_cases hzero : taken = 0
  · rw [if_pos hzero, if_pos hzero]
  · rw [if_neg hzero, if_neg hzero]

end

theorem takenPart_le (hremaining : 0 < remaining) :
    takenPart cfg allocationCurrency remaining candidate ≤ remaining := by
  simp only [takenPart]
  split
  next hfits => exact hfits
  next =>
    split
    · exact le_rfl
    · exact hremaining.le

theorem takenPart_of_allowed (hallowed : cfg.allowPartial = true) :
    takenPart cfg allocationCurrency remaining candidate =
      min ((offer cfg allocationCurrency candidate).getD 0) remaining := by
  simp only [takenPart, hallowed, if_true]
  split
  next hfits => rw [min_eq_left hfits]
  next hexceeds => rw [min_eq_right (not_le.mp hexceeds).le]

end Candidate

/-! ## The tolerance as an amount -/

def AllocationConfig.toleranceAmount (cfg : AllocationConfig) (target : Decimal) : Decimal :=
  match cfg.toleranceMode with
  | .percent => |target| * cfg.toleranceValue
  | .absolute | .other _ => cfg.toleranceValue

section Tolerance

variable {cfg : AllocationConfig} {target gap : Decimal}

theorem AllocationConfig.Valid.toleranceAmount_nonneg (h : cfg.Valid) (target : Decimal) :
    0 ≤ cfg.toleranceAmount target := by
  unfold AllocationConfig.toleranceAmount
  split
  · exact mul_nonneg (abs_nonneg target) h.tolerance
  · exact h.tolerance
  · exact h.tolerance

theorem withinAllocationTolerance_iff_le (h : cfg.Valid) (hgap : 0 ≤ gap) :
    withinAllocationTolerance gap target cfg = true ↔ gap ≤ cfg.toleranceAmount target := by
  rw [withinAllocationTolerance_iff h.tolerance, AllocationConfig.Tolerates,
    AllocationConfig.toleranceAmount]
  rcases h.mode with hmode | hmode <;> rw [hmode, abs_of_nonneg hgap]

theorem pos_of_not_within (h : cfg.Valid) (hgap : 0 ≤ gap)
    (hwithin : withinAllocationTolerance gap target cfg ≠ true) : 0 < gap := by
  refine lt_of_le_of_ne hgap fun hzero => hwithin ?_
  rw [← hzero, withinAllocationTolerance_iff_le h le_rfl]
  exact h.toleranceAmount_nonneg target

end Tolerance

/-! ## Partial allocation -/

section Partial

variable {cfg : AllocationConfig} {allocationCurrency : String}

theorem offers_cons (candidate : CandidateTransaction) (rest : List CandidateTransaction) :
    (offers cfg allocationCurrency (candidate :: rest)).sum =
      (offer cfg allocationCurrency candidate).getD 0 +
        (offers cfg allocationCurrency rest).sum := by
  unfold offers
  cases hoffer : offer cfg allocationCurrency candidate with
  | none => rw [List.filterMap_cons_none hoffer, Option.getD_none, zero_add]
  | some => rw [List.filterMap_cons_some hoffer, List.sum_cons, Option.getD_some]

section

variable (h : ∀ candidate ∈ candidates, NonnegativeAmount cfg candidate)

include h

theorem offers_nonneg : ∀ amount ∈ offers cfg allocationCurrency candidates, 0 ≤ amount := by
  intro amount hamount
  obtain ⟨candidate, hcandidate, hoffer⟩ := List.mem_filterMap.mp hamount
  exact offer_nonneg (h candidate hcandidate) hoffer

theorem offers_sum_pos_iff :
    0 < (offers cfg allocationCurrency candidates).sum ↔
      ∃ amount ∈ offers cfg allocationCurrency candidates, 0 < amount := by
  have hnonneg : ∀ amount ∈ offers cfg allocationCurrency candidates, 0 ≤ amount := offers_nonneg h
  constructor
  · intro hsum
    by_contra hnone
    have hzero : ∀ amount ∈ offers cfg allocationCurrency candidates, amount = 0 := by
      intro amount hamount
      refine le_antisymm ?_ (hnonneg amount hamount)
      exact not_lt.mp fun hpositive => hnone ⟨amount, hamount, hpositive⟩
    exact absurd (List.sum_eq_zero hzero) hsum.ne'
  · rintro ⟨amount, hamount, hpositive⟩
    exact hpositive.trans_le (List.single_le_sum hnonneg amount hamount)

end

/--
The split of what remains over the rest of the candidates.  The sum of the offers
decides, whatever was allocated before.
-/
theorem allocateLoop_allowed {sourceAmount : Decimal} (hvalid : cfg.Valid)
    (hallowed : cfg.allowPartial = true) (rest : List CandidateTransaction)
    (hrest : ∀ candidate ∈ rest, NonnegativeAmount cfg candidate) (allocations : List Allocation)
    {remaining : Decimal} (hremaining : 0 < remaining) (sum : Decimal) :
    ∃ result total complete,
      allocateLoop sourceAmount cfg allocationCurrency rest allocations
        remaining sum = .ok (result, total, complete) ∧
      (complete = true ↔
        (allocations ≠ [] ∨ 0 < (offers cfg allocationCurrency rest).sum) ∧
          remaining - cfg.toleranceAmount sourceAmount ≤
            (offers cfg allocationCurrency rest).sum) := by
  have htolerance := hvalid.toleranceAmount_nonneg sourceAmount
  induction rest generalizing allocations remaining sum with
  | nil =>
    refine ⟨_, _, _, rfl, ?_⟩
    rw [Bool.and_eq_true, withinAllocationTolerance_iff_le hvalid hremaining.le,
      decide_eq_true_iff, List.length_pos_iff]
    simp [offers, and_comm]
  | cons candidate rest ih =>
    have hfirst := hrest candidate (by simp)
    have hothers : ∀ other ∈ rest, NonnegativeAmount cfg other :=
      fun other hother => hrest other (by simp [hother])
    have hofferNonneg : 0 ≤ (offer cfg allocationCurrency candidate).getD 0 := by
      cases hoffer : offer cfg allocationCurrency candidate with
      | none => exact le_rfl
      | some => exact offer_nonneg hfirst hoffer
    have hsumNonneg : 0 ≤ (offers cfg allocationCurrency rest).sum :=
      List.sum_nonneg (offers_nonneg hothers)
    rw [allocateLoop_cons_of_nonneg hfirst hremaining (takenPart_of_allowed hallowed), offers_cons]
    generalize (offer cfg allocationCurrency candidate).getD 0 = offered at *
    by_cases hzero : min offered remaining = 0
    · -- nothing is offered, as something remains
      have hoffered : offered = 0 := by
        rcases min_choice offered remaining with hmin | hmin
        · rw [← hmin, hzero]
        · exact absurd (hmin.symm.trans hzero) hremaining.ne'
      rw [if_pos hzero, hoffered, zero_add]
      exact ih hothers allocations hremaining sum
    · have hpositive : 0 < offered := by
        refine lt_of_le_of_ne hofferNonneg fun hnone => hzero ?_
        rw [← hnone, min_eq_left hremaining.le]
      rw [if_neg hzero]
      have hgap : 0 ≤ remaining - min offered remaining :=
        sub_nonneg.mpr (min_le_right offered remaining)
      split
      next hwithin =>
        refine ⟨_, _, true, rfl, ?_⟩
        rw [withinAllocationTolerance_iff_le hvalid hgap] at hwithin
        have hle := min_le_left offered remaining
        refine iff_of_true rfl ⟨Or.inr (by linarith), by linarith⟩
      next hwithin =>
        -- the whole offer was taken, or nothing would remain
        have hrestPositive := pos_of_not_within hvalid hgap hwithin
        have htaken : min offered remaining = offered :=
          (min_choice offered remaining).resolve_right fun hall => by
            rw [hall, sub_self] at hrestPositive
            exact lt_irrefl 0 hrestPositive
        rw [htaken] at hrestPositive ⊢
        obtain ⟨result, total, complete, hloop, hcomplete⟩ :=
          ih hothers (allocations ++ [⟨candidate.id, offered,
            allocationCurrency, cfg.useBaseAmount⟩]) hrestPositive
            (sum + offered)
        refine ⟨result, total, complete, hloop, ?_⟩
        rw [hcomplete]
        have hsome : 0 < offered + (offers cfg allocationCurrency rest).sum := by linarith
        simp only [ne_eq, List.append_eq_nil_iff, List.cons_ne_self,
          and_false, not_false_eq_true, true_or, true_and, hsome, or_true]
        constructor
        all_goals
          intro hle
          linarith

end Partial

/-! ## Complete allocations -/

section Target

variable {cfg : AllocationConfig} {target : CandidateTransaction}
  {source : Decimal} {candidates : List CandidateTransaction}

theorem resolveAllocationCurrency_of_amount (h : relevantAmount cfg target = some source) :
    resolveAllocationCurrency target cfg = .inr (relevantCurrency cfg target) := by
  unfold relevantAmount at h
  unfold resolveAllocationCurrency relevantCurrency
  cases hbase : cfg.useBaseAmount with
  | false => simp
  | true =>
    rw [hbase] at h
    simp only [if_true] at h
    split at h
    next => cases h
    next hset => simp [hset]

theorem allocateOneToManyDetailed_checked (hvalid : cfg.Valid) (hnonempty : candidates ≠ [])
    (hsize : candidates.length ≤ maxAllocationCandidates) :
    allocateOneToManyDetailed target candidates (some cfg) =
      match allocationAmountDetailed target cfg with
      | .inl failure => .ok { failure := some failure }
      | .inr sourceAmount =>
        if sourceAmount < 0 then .error errNegativeAllocationTarget
        else if sourceAmount = 0 then .ok {}
        else
          match resolveAllocationCurrency target cfg with
          | .inl failure => .ok { failure := some failure }
          | .inr allocationCurrency =>
            (fun split => buildAllocationResult target.id sourceAmount
              split.1 split.2.1 split.2.2 allocationCurrency cfg) <$>
              allocateCandidates (sortTransactions candidates) sourceAmount
                cfg allocationCurrency := by
  have hlength : ¬ candidates.length = 0 :=
    fun hzero => hnonempty (List.length_eq_zero_iff.mp hzero)
  simp only [allocateOneToManyDetailed, validateAllocationInputs,
    validateAllocationConfig_eq_ok.mpr hvalid]
  change (if candidates.length = 0 then _ else _) = _
  rw [if_neg hlength, if_neg (not_lt.mpr hsize)]
  cases allocationAmountDetailed target cfg with
  | inl => rfl
  | inr sourceAmount =>
    dsimp only
    cases resolveAllocationCurrency target cfg with
    | inl => rfl
    | inr allocationCurrency =>
      dsimp only
      cases allocateCandidates (sortTransactions candidates) sourceAmount
          cfg allocationCurrency with
      | error failure => rfl
      | ok split => rfl

theorem allocateOneToManyDetailed_of_positive (hvalid : cfg.Valid)
    (hsource : relevantAmount cfg target = some source) (hpositive : 0 < source)
    (hnonempty : candidates ≠ []) (hsize : candidates.length ≤ maxAllocationCandidates) :
    allocateOneToManyDetailed target candidates (some cfg) =
      (fun split => buildAllocationResult target.id source split.1 split.2.1
          split.2.2 (relevantCurrency cfg target) cfg) <$>
        allocateCandidates (sortTransactions candidates) source cfg
          (relevantCurrency cfg target) := by
  rw [allocateOneToManyDetailed_checked hvalid hnonempty hsize,
    allocationAmountDetailed_eq_inr.mpr hsource]
  dsimp only
  rw [if_neg (not_lt.mpr hpositive.le), if_neg hpositive.ne',
    resolveAllocationCurrency_of_amount hsource]

theorem allocateOneToManyDetailed_nil (hvalid : cfg.Valid) :
    allocateOneToManyDetailed target [] (some cfg) = .ok {} := by
  simp only [allocateOneToManyDetailed, validateAllocationInputs,
    validateAllocationConfig_eq_ok.mpr hvalid]
  rfl

/--
With partial allocation, the allocation of a positive amount is complete exactly
when some candidate offers a positive amount in the target's currency and all
offers together reach the target, up to the tolerance.  The order in which the
candidates are taken makes no difference.
-/
theorem partial_allocation_complete_iff (hvalid : cfg.Valid) (hallowed : cfg.allowPartial = true)
    (hsource : relevantAmount cfg target = some source) (hpositive : 0 < source)
    (hcandidates : ∀ candidate ∈ candidates, NonnegativeAmount cfg candidate)
    (hsize : candidates.length ≤ maxAllocationCandidates) :
    ∃ result, allocateOneToManyDetailed target candidates (some cfg) = .ok result ∧
      (result.complete = true ↔
        (∃ amount ∈ offers cfg (relevantCurrency cfg target) candidates, 0 < amount) ∧
        source - cfg.toleranceAmount source ≤
          (offers cfg (relevantCurrency cfg target) candidates).sum) ∧
      ∀ order, order.Perm candidates → ∃ allocations total,
        allocateCandidates order source cfg (relevantCurrency cfg target) =
          .ok (allocations, total, result.complete) := by
  have hsplit : ∀ order, order.Perm candidates → ∃ allocations total complete,
      allocateCandidates order source cfg (relevantCurrency cfg target) =
        .ok (allocations, total, complete) ∧
      (complete = true ↔
        (∃ amount ∈ offers cfg (relevantCurrency cfg target) candidates, 0 < amount) ∧
        source - cfg.toleranceAmount source ≤
          (offers cfg (relevantCurrency cfg target) candidates).sum) := by
    intro order hperm
    have horder : ∀ candidate ∈ order, NonnegativeAmount cfg candidate :=
      fun candidate hmem => hcandidates candidate (hperm.mem_iff.mp hmem)
    obtain ⟨allocations, total, complete, hloop, hcomplete⟩ :=
      allocateLoop_allowed hvalid hallowed order horder [] hpositive 0
    have hsum : (offers cfg (relevantCurrency cfg target) order).sum =
        (offers cfg (relevantCurrency cfg target) candidates).sum :=
      (hperm.filterMap _).sum_eq
    refine ⟨allocations, total, complete, hloop, ?_⟩
    rw [hcomplete, hsum, ← offers_sum_pos_iff hcandidates]
    simp
  rcases eq_or_ne candidates [] with rfl | hnonempty
  · refine ⟨{}, allocateOneToManyDetailed_nil hvalid, ?_, ?_⟩
    · simp [offers]
    · intro order hperm
      obtain rfl := List.perm_nil.mp hperm
      refine ⟨[], 0, ?_⟩
      simp [allocateCandidates, allocateLoop]
  · obtain ⟨allocations, total, complete, hsorted, hcomplete⟩ :=
      hsplit _ (stableSort_perm transactionLess candidates)
    refine ⟨buildAllocationResult target.id source allocations total complete
      (relevantCurrency cfg target) cfg, ?_, hcomplete, ?_⟩
    · rw [allocateOneToManyDetailed_of_positive hvalid hsource hpositive hnonempty hsize]
      exact map_eq_ok.mpr ⟨_, hsorted, rfl⟩
    · intro order hperm
      obtain ⟨others, otherTotal, same, horder, hsame⟩ := hsplit order hperm
      refine ⟨others, otherTotal, ?_⟩
      rw [horder, Bool.eq_iff_iff.mpr (hsame.trans hcomplete.symm)]
      rfl

def partialSplitConfig : AllocationConfig :=
  { exactSplitConfig with allowPartial := true }

theorem partial_allocation_complete_iff_capped :
    ∃ result, allocateOneToManyDetailed (plainCandidate ⟨1⟩ 100)
        [plainCandidate ⟨2⟩ 70, plainCandidate ⟨3⟩ 80]
        (some partialSplitConfig) = .ok result ∧ result.complete = true := by
  have hvalid : partialSplitConfig.Valid := ⟨.inl rfl, .inl rfl, le_rfl⟩
  have hsource : relevantAmount partialSplitConfig (plainCandidate ⟨1⟩ 100) = some 100 := rfl
  have hcandidates : ∀ candidate ∈
      [plainCandidate ⟨2⟩ 70, plainCandidate ⟨3⟩ 80],
        NonnegativeAmount partialSplitConfig candidate := by
    intro candidate hcandidate amount hamount
    simp only [List.mem_cons, List.not_mem_nil, or_false] at hcandidate
    rcases hcandidate with rfl | rfl
    all_goals
      cases hamount
      decide
  obtain ⟨result, hresult, hcomplete, -⟩ := partial_allocation_complete_iff
    hvalid rfl hsource (by decide) hcandidates (by decide)
  exact ⟨result, hresult, hcomplete.mpr (by decide +kernel)⟩

end Target

/-! ## Negative amounts -/

/-- The split, from the given state of the loop, comes to a candidate with a
negative amount before it is complete. -/
def ReachesNegative (sourceAmount : Decimal) (cfg : AllocationConfig) (allocationCurrency : String)
    (order : List CandidateTransaction) (allocations : List Allocation) (remaining sum : Decimal) :
    Prop :=
  ∃ before candidate rest result total, order = before ++ candidate :: rest ∧
    allocateLoop sourceAmount cfg allocationCurrency before allocations
      remaining sum = .ok (result, total, false) ∧
    ¬ NonnegativeAmount cfg candidate

section Negative

variable {cfg : AllocationConfig} {allocationCurrency : String}
  {sourceAmount remaining sum : Decimal} {allocations : List Allocation}
  {candidate : CandidateTransaction}

theorem exists_negative (h : ¬ NonnegativeAmount cfg candidate) :
    ∃ amount, relevantAmount cfg candidate = some amount ∧ amount < 0 := by
  by_contra hnone
  refine h fun amount hamount => not_lt.mp fun hnegative => hnone ?_
  exact ⟨amount, hamount, hnegative⟩

theorem reachesNegative_cons {allocations' : List Allocation}
    {remaining' sum' : Decimal} (hcandidate : NonnegativeAmount cfg candidate)
    (hstep : ∀ order, allocateLoop sourceAmount cfg allocationCurrency
        (candidate :: order) allocations remaining sum =
      allocateLoop sourceAmount cfg allocationCurrency order allocations' remaining' sum') :
    ReachesNegative sourceAmount cfg allocationCurrency (candidate :: rest)
        allocations remaining sum ↔
      ReachesNegative sourceAmount cfg allocationCurrency rest allocations' remaining' sum' := by
  constructor
  · rintro ⟨before, negative, after, result, total, horder, hloop, hnegative⟩
    cases before with
    | nil =>
      cases horder
      exact absurd hcandidate hnegative
    | cons _ before =>
      cases horder
      rw [hstep] at hloop
      exact ⟨before, negative, after, result, total, rfl, hloop, hnegative⟩
  · rintro ⟨before, negative, after, result, total, rfl, hloop, hnegative⟩
    exact ⟨candidate :: before, negative, after, result, total, rfl,
      (hstep before).trans hloop, hnegative⟩

theorem not_reachesNegative_of_completed
    {result : List Allocation} {total : Decimal} (hcandidate : NonnegativeAmount cfg candidate)
    (hstep : ∀ order, allocateLoop sourceAmount cfg allocationCurrency
        (candidate :: order) allocations remaining sum =
      .ok (result, total, true)) :
    ¬ ReachesNegative sourceAmount cfg allocationCurrency (candidate :: rest)
      allocations remaining sum := by
  rintro ⟨before, negative, after, found, foundTotal, horder, hloop, hnegative⟩
  cases before with
  | nil =>
    cases horder
    exact hnegative hcandidate
  | cons =>
    cases horder
    rw [hstep] at hloop
    cases hloop

theorem allocateLoop_nil_of_open
    (hopen : allocations ≠ [] → withinAllocationTolerance remaining sourceAmount cfg ≠ true) :
    allocateLoop sourceAmount cfg allocationCurrency [] allocations remaining
      sum = .ok (allocations, sum, false) := by
  have hcomplete : (withinAllocationTolerance remaining sourceAmount cfg &&
      decide (0 < allocations.length)) = false := by
    rw [Bool.and_eq_false_iff, decide_eq_false_iff_not, List.length_pos_iff, not_not]
    by_cases hnil : allocations = []
    · exact Or.inr hnil
    · exact Or.inl (Bool.eq_false_iff.mpr (hopen hnil))
  rw [allocateLoop, hcomplete]

/-- The split fails exactly when it reaches a negative amount.  A state with
allocations is one that is not complete yet. -/
theorem allocateLoop_outcome (sourceAmount : Decimal) (allocationCurrency : String)
    (hvalid : cfg.Valid) (order : List CandidateTransaction) (allocations : List Allocation)
    (hremaining : 0 < remaining) (sum : Decimal)
    (hopen : allocations ≠ [] → withinAllocationTolerance remaining sourceAmount cfg ≠ true) :
    ReachesNegative sourceAmount cfg allocationCurrency order allocations remaining sum ∧
      allocateLoop sourceAmount cfg allocationCurrency order allocations
        remaining sum = .error errNegativeAllocationCandidate ∨
    ¬ ReachesNegative sourceAmount cfg allocationCurrency order allocations remaining sum ∧
      ∃ split, allocateLoop sourceAmount cfg allocationCurrency order
        allocations remaining sum = .ok split := by
  induction order generalizing allocations remaining sum with
  | nil =>
    refine Or.inr ⟨?_, _, rfl⟩
    rintro ⟨before, negative, after, result, total, horder, -⟩
    exact List.cons_ne_nil _ _ (List.append_eq_nil_iff.mp horder.symm).2
  | cons candidate rest ih =>
    by_cases hcandidate : NonnegativeAmount cfg candidate
    · have hcons : ∀ order, allocateLoop sourceAmount cfg allocationCurrency
          (candidate :: order) allocations remaining sum = _ :=
        fun order => allocateLoop_cons_of_nonneg hcandidate hremaining rfl _ order _ _
      have hbound : takenPart cfg allocationCurrency remaining candidate ≤ remaining :=
        takenPart_le hremaining
      generalize takenPart cfg allocationCurrency remaining candidate = taken at hcons hbound
      by_cases htaken : taken = 0
      · have hstep := fun order => (hcons order).trans (if_pos htaken)
        rw [reachesNegative_cons hcandidate hstep, hstep]
        exact ih allocations hremaining sum hopen
      · have hnext := fun order => (hcons order).trans (if_neg htaken)
        by_cases hwithin : withinAllocationTolerance (remaining - taken) sourceAmount cfg = true
        · have hstep := fun order => (hnext order).trans (if_pos hwithin)
          exact Or.inr ⟨not_reachesNegative_of_completed hcandidate hstep, _, hstep rest⟩
        · have hstep := fun order => (hnext order).trans (if_neg hwithin)
          rw [reachesNegative_cons hcandidate hstep, hstep]
          exact ih _ (pos_of_not_within hvalid (sub_nonneg.mpr hbound) hwithin) _ (fun _ => hwithin)
    · obtain ⟨amount, hamount, hnegative⟩ := exists_negative hcandidate
      refine Or.inl ⟨⟨[], candidate, rest, allocations, sum, rfl,
        allocateLoop_nil_of_open hopen, hcandidate⟩, ?_⟩
      rw [allocateLoop, tryAllocateCandidate_of_negative hamount hnegative]

/-- The allocation meets a negative amount: that of its target, or one that the
split over the candidates reaches. -/
def MeetsNegative (cfg : AllocationConfig) (target : CandidateTransaction)
    (candidates : List CandidateTransaction) : Prop :=
  ∃ source, relevantAmount cfg target = some source ∧
    (source < 0 ∨ 0 < source ∧
      ReachesNegative source cfg (relevantCurrency cfg target)
        (sortTransactions candidates) [] source 0)

theorem not_meetsNegative_of_nonneg {target : CandidateTransaction}
    (htarget : NonnegativeAmount cfg target)
    (hcandidates : ∀ candidate ∈ candidates, NonnegativeAmount cfg candidate) :
    ¬ MeetsNegative cfg target candidates := by
  rintro ⟨source, hsource, hnegative | ⟨-, before, candidate, rest, -, -, horder, -, hnegative⟩⟩
  · exact absurd (htarget source hsource) (not_le.mpr hnegative)
  · have hmem : candidate ∈ sortTransactions candidates := by
      rw [horder]
      simp
    exact hnegative (hcandidates candidate (mem_stableSort.mp hmem))

def NegativeAllocation (failure : GoError) : Prop :=
  failure = errNegativeAllocationTarget ∨ failure = errNegativeAllocationCandidate

theorem allocateOneToManyDetailed_outcome (hvalid : cfg.Valid) (target : CandidateTransaction)
    (hnonempty : candidates ≠ []) (hsize : candidates.length ≤ maxAllocationCandidates) :
    (MeetsNegative cfg target candidates ∧ ∃ failure,
      allocateOneToManyDetailed target candidates (some cfg) =
          .error failure ∧ NegativeAllocation failure) ∨
    (¬ MeetsNegative cfg target candidates ∧ ∃ result,
      allocateOneToManyDetailed target candidates (some cfg) = .ok result) := by
  have hchecked : allocateOneToManyDetailed target candidates (some cfg) = _ :=
    allocateOneToManyDetailed_checked hvalid hnonempty hsize
  cases hsource : relevantAmount cfg target with
  | none =>
    refine Or.inr ⟨?_, ?_⟩
    · rintro ⟨source, hsome, -⟩
      rw [hsource] at hsome
      cases hsome
    · cases hamount : allocationAmountDetailed target cfg with
      | inl =>
        rw [hchecked, hamount]
        exact ⟨_, rfl⟩
      | inr =>
        rw [allocationAmountDetailed_eq_inr.mp hamount] at hsource
        cases hsource
  | some source =>
    have hamount := allocationAmountDetailed_eq_inr.mpr hsource
    simp only [MeetsNegative, hsource, Option.some.injEq, exists_eq_left']
    rcases lt_trichotomy source 0 with hnegative | hzero | hpositive
    · refine Or.inl ⟨Or.inl hnegative, errNegativeAllocationTarget, ?_, Or.inl rfl⟩
      rw [hchecked, hamount]
      exact if_pos hnegative
    · refine Or.inr ⟨?_, {}, ?_⟩
      · rintro (hnegative | ⟨hpositive, -⟩)
        · exact absurd hzero hnegative.ne
        · exact absurd hzero hpositive.ne'
      · rw [hchecked, hamount]
        dsimp only
        rw [if_neg (not_lt.mpr hzero.ge), if_pos hzero]
    · rw [allocateOneToManyDetailed_of_positive hvalid hsource hpositive hnonempty hsize]
      have houtcome := allocateLoop_outcome source
        (relevantCurrency cfg target) hvalid (sortTransactions candidates) []
        hpositive 0 (fun hnil => absurd rfl hnil)
      rcases houtcome with ⟨hreaches, herror⟩ | ⟨hreaches, split, hsplit⟩
      · refine Or.inl ⟨Or.inr ⟨hpositive, hreaches⟩, errNegativeAllocationCandidate, ?_, Or.inr rfl⟩
        rw [allocateCandidates, herror]
        rfl
      · refine Or.inr ⟨?_, _, map_eq_ok.mpr ⟨split, hsplit, rfl⟩⟩
        rintro (hnegative | ⟨-, hreached⟩)
        · exact absurd hpositive (not_lt.mpr hnegative.le)
        · exact hreaches hreached

end Negative

end Matcher.Matching
