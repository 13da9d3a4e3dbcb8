import Mathlib.Algebra.Order.BigOperators.Group.List
import Matcher.Matching.Orientation
import Matcher.Matching.ScoreAgreement

/-!
# Origins of directed proposals

When every rule carries an allocation, each proposal of a directed run settles a
complete split of one primary candidate over candidates that its rule collected.
What the split draws from a candidate stays within the relevant amount of the
candidate, and the proposal carries a score that the engine proposes.
-/

namespace Matcher.Matching

open Foundation

variable {rule : RuleDefinition} {primary candidate : CandidateTransaction}
  {evalPrimaryFirst : Bool} {secondary : List CandidateTransaction} {rules : List RuleDefinition}
  {used : Finset UUID}

/-! ## Scores of collected candidates -/

structure ScoreInRange (state : Collected) : Prop where
  nonneg : 0 ≤ state.maxScore
  le : state.maxScore ≤ 100
  floor : state.candidates ≠ [] → minMatchScore ≤ state.maxScore

theorem evalPair_score_le {score : ℤ}
    (h : evalPair rule primary candidate evalPrimaryFirst = .ok (true, score)) : score ≤ 100 := by
  cases evalPrimaryFirst with
  | true | false => exact evalByType_score_le h

theorem collectStep_scoreInRange {state state' : Collected} (hstate : ScoreInRange state)
    (h : collectStep rule primary used evalPrimaryFirst state candidate = .ok state') :
    ScoreInRange state' := by
  rcases collectStep_eq_ok h with ⟨rfl, -⟩ | ⟨score, -, heval, hfloor, rfl⟩
  · exact hstate
  · have hle := evalPair_score_le heval
    have hnonneg := hstate.nonneg
    have hbound := hstate.le
    constructor
    · dsimp only
      split <;> omega
    · dsimp only
      split <;> omega
    · intro _
      dsimp only
      split <;> omega

theorem collectMatches_scoreInRange {collected : Collected}
    (h : collectMatches rule primary secondary used evalPrimaryFirst = .ok collected) :
    ScoreInRange collected := by
  refine foldlM_preserves ScoreInRange ⟨le_rfl, by decide, by simp⟩ ?_ h
  intro candidate state state' _ hstate hstep
  exact collectStep_scoreInRange hstate hstep

/-! ## Amounts drawn by a complete split -/

structure DrawnFrom (cfg : AllocationConfig) (candidate : CandidateTransaction)
    (allocation : Allocation) : Prop where
  id : allocation.transactionID = candidate.id
  nonneg : 0 ≤ allocation.allocatedAmount
  within : ∃ amount, relevantAmount cfg candidate = some amount ∧
    allocation.allocatedAmount ≤ amount
  useBaseAmount : allocation.useBaseAmount = cfg.useBaseAmount

theorem TakenFrom.drawn {cfg : AllocationConfig} {currency : String} {allocation : Allocation}
    (h : TakenFrom cfg currency candidate allocation) : DrawnFrom cfg candidate allocation := by
  obtain ⟨amount, hamount, hle, -⟩ := h.part
  exact ⟨h.id, h.positive.le, ⟨amount, hamount, hle⟩, h.useBaseAmount⟩

def targetAllocation (cfg : AllocationConfig) (target : CandidateTransaction) (total : Decimal) :
    Allocation where
  transactionID := target.id
  allocatedAmount := total
  currency := relevantCurrency cfg target
  useBaseAmount := cfg.useBaseAmount

section Completes

variable {cfg : AllocationConfig} {target : CandidateTransaction}
  {candidates : List CandidateTransaction} {result : AllocationResult}

section

variable (h : Completes cfg target candidates result)

include h

theorem Completes.split :
    ∃ source seen left, relevantAmount cfg target = some source ∧
      seen.Sublist (sortTransactions candidates) ∧ 0 ≤ left ∧
      Split cfg (relevantCurrency cfg target) source seen result.allocations
        left result.total := by
  obtain ⟨hresult, hcomplete⟩ := h
  obtain ⟨-, ⟨-, -, hincomplete⟩ | hsplit⟩ := allocateOneToManyDetailed_eq_ok hresult
  · rw [hincomplete] at hcomplete
    cases hcomplete
  · obtain ⟨source, seen, left, hsource, hseen, hleft, hsplit, -⟩ := hsplit
    exact ⟨source, seen, left, hsource, hseen, hleft, hsplit⟩

theorem Completes.drawn :
    ∀ allocation ∈ result.allocations, ∃ candidate ∈ candidates,
      DrawnFrom cfg candidate allocation := by
  obtain ⟨source, seen, left, -, hseen, -, hsplit⟩ := h.split
  intro allocation hallocation
  obtain ⟨candidate, hcandidate, htaken⟩ := hsplit.taken allocation hallocation
  exact ⟨candidate, mem_stableSort.mp (hseen.subset hcandidate), htaken.drawn⟩

theorem Completes.target_drawn :
    DrawnFrom cfg target (targetAllocation cfg target result.total) := by
  obtain ⟨source, seen, left, hsource, -, hleft, hsplit⟩ := h.split
  have htotal : 0 ≤ result.total := by
    rw [hsplit.sum_eq]
    apply List.sum_nonneg
    intro amount hamount
    obtain ⟨allocation, hallocation, rfl⟩ := List.mem_map.mp hamount
    obtain ⟨candidate, -, htaken⟩ := hsplit.taken allocation hallocation
    exact htaken.positive.le
  refine ⟨rfl, htotal, ⟨source, hsource, ?_⟩, rfl⟩
  rw [hsplit.remaining_eq] at hleft
  exact sub_nonneg.mp hleft

end

end Completes

/-! ## Proposals of a run -/

/--
The proposal settles a complete split that a visit of the run found among the
candidates outside the earlier proposals.
-/
def FromSplit (rules : List RuleDefinition) (primary secondary : List CandidateTransaction)
    (primaryIsLeft : Bool) (earlier : List MatchProposal) (proposal : MatchProposal) : Prop :=
  ∃ rule ∈ rules, ∃ target ∈ primary, ∃ cfg used collected result,
    rule.allocation = some cfg ∧
      (∀ id, id ∈ used ↔ ∃ other ∈ earlier, id ∈ secondaryIDs primaryIsLeft other) ∧
      collectMatches rule target secondary used primaryIsLeft = .ok collected ∧
      Completes cfg target collected.candidates result ∧
      proposal = buildAllocationMatchProposal cfg rule target
        result.allocations result.total collected.maxScore

theorem runVisits_fromSplit {primary : List CandidateTransaction}
    {mode : MatchMode} {primaryIsLeft : Bool} {mctx : MatchContext}
    (hallocates : ∀ rule ∈ rules, rule.allocation ≠ none)
    (h : runVisits secondary (rules ×ˢ primary) (initialContext mode primaryIsLeft) = .ok mctx) :
    ∀ earlier proposal, earlier ++ [proposal] <+: mctx.proposals →
      FromSplit rules primary secondary primaryIsLeft earlier proposal := by
  refine (foldlM_preserves (fun state : MatchContext => state.primaryIsLeft = primaryIsLeft ∧
    (∀ id, id ∈ state.usedSecondary ↔
      ∃ other ∈ state.proposals, id ∈ secondaryIDs primaryIsLeft other) ∧
    ∀ earlier proposal, earlier ++ [proposal] <+: state.proposals →
      FromSplit rules primary secondary primaryIsLeft earlier proposal)
    ⟨rfl, by simp [initialContext], by simp [initialContext]⟩ ?_ h).2.2
  rintro ⟨rule, target⟩ state state' hvisit ⟨hside, hused, hfrom⟩ hstep
  obtain ⟨hrule, htarget⟩ := List.mem_product.mp hvisit
  cases visitPrimary_outcome hstep with
  | idle | failed => exact ⟨hside, hused, hfrom⟩
  | direct _ _ hallocation => exact absurd hallocation (hallocates rule hrule)
  | allocated cfg collected result _ hallocation hfind hcompletes =>
    have happends := addAllocatedProposal_appends
      (buildAllocationMatchProposal cfg rule target result.allocations
        result.total collected.maxScore) state
    refine ⟨happends.primaryIsLeft.trans hside, ?_, ?_⟩
    · intro id
      rw [happends.usedSecondary, happends.proposals, hside, hused]
      simp [or_and_right, exists_or, or_comm]
    · rw [happends.proposals]
      intro earlier proposal hreached
      rcases List.prefix_concat_iff.mp hreached with hlast | hold
      · obtain ⟨rfl, hproposal⟩ := List.append_inj' hlast rfl
        rw [findMatches, hside] at hfind
        exact ⟨rule, hrule, target, htarget, cfg, state.usedSecondary, collected, result,
          hallocation, hused, hfind, hcompletes, List.singleton_inj.mp hproposal⟩
      · exact hfrom earlier proposal hold

theorem execute1vNDetailed_fromSplit {engine : Option Engine}
    {left right : List CandidateTransaction} {result : EngineResult}
    (hallocates : ∀ rule ∈ rules, rule.allocation ≠ none)
    (h : execute1vNDetailed engine rules left right = .ok result) :
    ∀ earlier proposal, earlier ++ [proposal] <+: result.proposals →
      FromSplit (sortRules rules) (sortTransactions left)
        (sortTransactions right) true earlier proposal := by
  obtain ⟨⟨⟩, -, h⟩ := bind_eq_ok.mp h
  obtain ⟨mctx, hrun, rfl⟩ := matchWithDirectionDetailed_eq_ok h
  exact runVisits_fromSplit (fun rule hrule => hallocates rule (mem_stableSort.mp hrule)) hrun

end Matcher.Matching
