import Matcher.Matching.AllocationOutcome
import Matcher.Matching.DecodedRules
import Matcher.Matching.Orientation

/-!
# Errors and recorded failures of a directed run

A visit that collects candidates for a rule with allocation ends as the
allocation ends.  An error of the allocation is an error of the whole run, and
for decoded rules it is always a negative amount that the allocation met.  A
failure of the allocation is only recorded, under the id of the primary
candidate, and the record stays when a later visit matches the candidate.
-/

namespace Matcher.Matching

open Foundation

variable {target : CandidateTransaction} {cfg : AllocationConfig}
  {failure : AllocationFailure}
  {visits : List (RuleDefinition × CandidateTransaction)} {primary : List CandidateTransaction}
  {rules : List RuleDefinition} {proposal : MatchProposal}

/-! ## The allocation of a visit -/

/-- The visit comes to the allocation of the candidates that it has collected. -/
structure Allocates (secondary : List CandidateTransaction) (mctx : MatchContext)
    (visit : RuleDefinition × CandidateTransaction) (cfg : AllocationConfig)
    (collected : Collected) : Prop where
  free : visit.2.id ∉ mctx.usedPrimary
  allocation : visit.1.allocation = some cfg
  found : findMatches visit.1 visit.2 secondary mctx = .ok collected
  nonempty : collected.candidates ≠ []

section Visit

variable {secondary : List CandidateTransaction} {mctx : MatchContext}
  {rule : RuleDefinition} {candidate : CandidateTransaction}
  {cfg : AllocationConfig} {collected : Collected}

theorem visitPrimary_of_allocates (h : Allocates secondary mctx (rule, candidate) cfg collected) :
    visitPrimary secondary rule mctx candidate =
      settleAllocation cfg rule candidate collected.maxScore mctx <$>
        allocateOneToManyDetailed candidate collected.candidates (some cfg) := by
  have hallocation : rule.allocation = some cfg := h.allocation
  rw [visitPrimary_of_found h.free h.found h.nonempty, hallocation]

theorem visitPrimary_of_not_allocates
    (hnone : ∀ cfg collected, ¬ Allocates secondary mctx (rule, candidate) cfg collected)
    (hfind : candidate.id ∉ mctx.usedPrimary →
      ∃ collected, findMatches rule candidate secondary mctx = .ok collected) :
    visitPrimary secondary rule mctx candidate = .ok mctx ∨
      ∃ collected, candidate.id ∉ mctx.usedPrimary ∧
        rule.allocation = none ∧ collected.candidates ≠ [] ∧
        findMatches rule candidate secondary mctx = .ok collected := by
  by_cases hused : candidate.id ∈ mctx.usedPrimary
  · exact Or.inl (visitPrimary_of_used hused)
  obtain ⟨collected, hfind⟩ := hfind hused
  rcases eq_or_ne collected.candidates [] with hempty | hnonempty
  · exact Or.inl (visitPrimary_of_empty hused hfind hempty)
  cases hallocation : rule.allocation with
  | some cfg => exact absurd ⟨hused, hallocation, hfind, hnonempty⟩ (hnone cfg collected)
  | none => exact Or.inr ⟨collected, hused, rfl, hnonempty, hfind⟩

end Visit

/-! ## Negative amounts abort a run -/

def AbortsAt (secondary : List CandidateTransaction) (mctx : MatchContext)
    (visit : RuleDefinition × CandidateTransaction) : Prop :=
  ∃ cfg collected, Allocates secondary mctx visit cfg collected ∧
    MeetsNegative cfg visit.2 collected.candidates

/-- No visit of the run meets a negative amount. -/
def NeverAborts (rules : List RuleDefinition) (primary secondary : List CandidateTransaction)
    (mode : MatchMode) (primaryIsLeft : Bool) : Prop :=
  ∀ done visit rest state, rules ×ˢ primary = done ++ visit :: rest →
    runVisits secondary done (initialContext mode primaryIsLeft) = .ok state →
      ¬ AbortsAt secondary state visit

section Abort

variable {secondary : List CandidateTransaction} {mctx : MatchContext}
  {rule : RuleDefinition} {candidate : CandidateTransaction}

theorem findMatches_returns (h : rule.Supported) (candidate : CandidateTransaction)
    (secondary : List CandidateTransaction) (mctx : MatchContext) :
    ∃ collected, findMatches rule candidate secondary mctx = .ok collected := by
  refine (FailsOnly.foldlM ?_ (⟨[], [], 0⟩ : Collected)).exists_ok
  intro state other _
  unfold collectStep
  split
  · exact .ok _
  have hverdict : ∃ verdict, evalPair rule candidate other mctx.primaryIsLeft = .ok verdict := by
    unfold evalPair
    split
    · exact h.evalByType candidate other
    · exact h.evalByType other candidate
  obtain ⟨⟨matched, score⟩, hverdict⟩ := hverdict
  rw [hverdict]
  change FailsOnly _ (if !matched || score < minMatchScore then _ else _)
  split <;> exact .ok _

theorem visitPrimary_abort (h : rule.Decoded) (hsize : secondary.length ≤ maxAllocationCandidates)
    (mctx : MatchContext) (candidate : CandidateTransaction) :
    (AbortsAt secondary mctx (rule, candidate) ∧ ∃ failure,
      visitPrimary secondary rule mctx candidate = .error failure ∧ NegativeAllocation failure) ∨
    (¬ AbortsAt secondary mctx (rule, candidate) ∧ ∃ mctx',
      visitPrimary secondary rule mctx candidate = .ok mctx') := by
  obtain ⟨cfg, hcfg, hvalid⟩ := h.allocation
  by_cases hallocates : ∃ collected, Allocates secondary mctx (rule, candidate) cfg collected
  · obtain ⟨collected, hallocates⟩ := hallocates
    have hlength : collected.candidates.length ≤ maxAllocationCandidates :=
      (collectMatches_collects hallocates.found).sublist.length_le.trans hsize
    have hunique : AbortsAt secondary mctx (rule, candidate) →
        MeetsNegative cfg candidate collected.candidates := by
      rintro ⟨cfg', collected', hother, hmeets⟩
      cases hallocates.allocation.symm.trans hother.allocation
      cases hallocates.found.symm.trans hother.found
      exact hmeets
    rw [visitPrimary_of_allocates hallocates]
    rcases allocateOneToManyDetailed_outcome hvalid candidate
      hallocates.nonempty hlength with ⟨hmeets, failure, herror, hkind⟩ | ⟨hmeets, result, hresult⟩
    · refine Or.inl ⟨⟨cfg, collected, hallocates, hmeets⟩, failure, ?_, hkind⟩
      rw [herror]
      rfl
    · exact Or.inr ⟨fun habort => hmeets (hunique habort), _, map_eq_ok.mpr ⟨result, hresult, rfl⟩⟩
  · have hnone : ∀ cfg' collected, ¬ Allocates secondary mctx (rule, candidate) cfg' collected := by
      intro cfg' collected hother
      cases hcfg.symm.trans hother.allocation
      exact hallocates ⟨collected, hother⟩
    refine Or.inr ⟨?_, ?_⟩
    · rintro ⟨cfg', collected, hother, -⟩
      exact hnone cfg' collected hother
    · rcases visitPrimary_of_not_allocates hnone (fun _ =>
        findMatches_returns h.supported candidate secondary mctx) with hidle |
        ⟨collected, hfree, hallocation, hnonempty, hfind⟩
      · exact ⟨mctx, hidle⟩
      · rw [visitPrimary_of_found hfree hfind hnonempty, hallocation]
        exact ⟨_, rfl⟩

theorem matchWithDirectionDetailed_eq_runVisits (rules : List RuleDefinition)
    (primary secondary : List CandidateTransaction) (mode : MatchMode) (primaryIsLeft : Bool) :
    matchWithDirectionDetailed rules primary secondary mode primaryIsLeft =
      (fun mctx => ⟨mctx.proposals, mctx.allocFailures⟩) <$>
        runVisits secondary (rules ×ˢ primary) (initialContext mode primaryIsLeft) := by
  have hloop : runVisits secondary (rules ×ˢ primary)
      (initialContext mode primaryIsLeft) =
        rules.foldlM (processRuleMatches primary secondary) (initialContext mode primaryIsLeft) :=
    foldlM_product rules primary (initialContext mode primaryIsLeft)
  rw [hloop, matchWithDirectionDetailed]
  cases rules.foldlM (processRuleMatches primary secondary) (initialContext mode primaryIsLeft) with
  | error | ok => rfl

theorem matchWithDirectionDetailed_returns_iff (hrules : ∀ rule ∈ rules, rule.Decoded)
    (hsize : secondary.length ≤ maxAllocationCandidates) (mode : MatchMode) (primaryIsLeft : Bool) :
    (∃ result, matchWithDirectionDetailed rules primary secondary mode primaryIsLeft = .ok result) ↔
      NeverAborts rules primary secondary mode primaryIsLeft := by
  have hmap : (∃ result, matchWithDirectionDetailed rules primary secondary
      mode primaryIsLeft = .ok result) ↔
        ∃ mctx, runVisits secondary (rules ×ˢ primary)
          (initialContext mode primaryIsLeft) = .ok mctx := by
    rw [matchWithDirectionDetailed_eq_runVisits]
    cases runVisits secondary _ _ with
    | error | ok => simp
  rw [hmap, runVisits, foldlM_succeeds_iff]
  have hvisit : ∀ done visit rest, rules ×ˢ primary = done ++ visit :: rest → visit.1.Decoded := by
    intro done visit rest hvisits
    exact hrules visit.1 (visit_mem hvisits).1
  constructor
  · intro h done visit rest state hvisits hdone habort
    obtain ⟨state', hstep⟩ := h done visit rest state hvisits hdone
    rcases visitPrimary_abort (hvisit done visit rest hvisits) hsize state
      visit.2 with ⟨-, failure, herror, -⟩ | ⟨hnever, -⟩
    · rw [herror] at hstep
      cases hstep
    · exact hnever habort
  · intro h done visit rest state hvisits hdone
    rcases visitPrimary_abort (hvisit done visit rest hvisits) hsize state
      visit.2 with ⟨habort, -⟩ | ⟨-, hreturns⟩
    · exact absurd habort (h done visit rest state hvisits hdone)
    · exact hreturns

theorem neverAborts_of_nonneg (h : ∀ rule ∈ rules, ∀ cfg, rule.allocation = some cfg →
      ∀ candidate ∈ primary ++ secondary, NonnegativeAmount cfg candidate) (mode : MatchMode)
    (primaryIsLeft : Bool) : NeverAborts rules primary secondary mode primaryIsLeft := by
  rintro done visit rest state hvisits - ⟨cfg, collected, hallocates, hmeets⟩
  obtain ⟨hrule, hcandidate⟩ := visit_mem hvisits
  have hamounts := h visit.1 hrule cfg hallocates.allocation
  have hcollected := collectMatches_collects hallocates.found
  refine not_meetsNegative_of_nonneg
    (hamounts visit.2 (List.mem_append_left _ hcandidate)) ?_ hmeets
  intro other hother
  exact hamounts other (List.mem_append_right _ (hcollected.sublist.subset hother))

end Abort

section Executions

variable {engine : Engine} {rules : List RuleDefinition}
  {left right : List CandidateTransaction}

/--
Within the size limits, the directed executions of decoded rules return exactly
when no visit of the run meets a negative amount.
-/
theorem directed_executions_return_iff (hrules : ∀ rule ∈ rules, rule.Decoded)
    (hsize : engine.Admits rules left right) (hleft : left.length ≤ maxAllocationCandidates)
    (hright : right.length ≤ maxAllocationCandidates) :
    ((∃ result, execute1vNDetailed (some engine) rules left right = .ok result) ↔
      NeverAborts (sortRules rules) (sortTransactions left)
        (sortTransactions right) .oneToMany true) ∧
    ((∃ result, executeNv1Detailed (some engine) rules left right = .ok result) ↔
      NeverAborts (sortRules rules) (sortTransactions right)
        (sortTransactions left) .manyToOne false) := by
  have hsorted : ∀ rule ∈ sortRules rules, rule.Decoded :=
    fun rule hrule => hrules rule (mem_stableSort.mp hrule)
  have hadmit := Engine.checkSize_eq_ok.mpr hsize
  constructor
  · rw [execute1vNDetailed, hadmit, ← matchWithDirectionDetailed_returns_iff hsorted]
    · rfl
    · rwa [sortTransactions, (stableSort_perm _ _).length_eq]
  · rw [executeNv1Detailed, hadmit, ← matchWithDirectionDetailed_returns_iff hsorted]
    · rfl
    · rwa [sortTransactions, (stableSort_perm _ _).length_eq]

theorem execute1vNDetailed_failsOnly (hrules : ∀ rule ∈ rules, rule.Decoded)
    (hsize : engine.Admits rules left right) (hright : right.length ≤ maxAllocationCandidates) :
    FailsOnly NegativeAllocation (execute1vNDetailed (some engine) rules left right) := by
  have hlength : (sortTransactions right).length ≤ maxAllocationCandidates := by
    rwa [sortTransactions, (stableSort_perm _ _).length_eq]
  rw [execute1vNDetailed, Engine.checkSize_eq_ok.mpr hsize]
  change FailsOnly _ (matchWithDirectionDetailed _ _ _ _ _)
  rw [matchWithDirectionDetailed_eq_runVisits]
  intro failure hfailure
  refine FailsOnly.foldlM ?_ _ failure (map_eq_error.mp hfailure)
  intro state visit hvisit other hother
  have hdecoded : visit.1.Decoded :=
    hrules visit.1 (mem_stableSort.mp (List.mem_product.mp hvisit).1)
  rcases visitPrimary_abort hdecoded hlength state visit.2 with
    ⟨-, found, herror, hkind⟩ | ⟨-, state', hok⟩
  · cases hother.symm.trans herror
    exact hkind
  · cases hother.symm.trans hok

end Executions

def amountMatchRule : MatchRule where
  id := ⟨9⟩
  priority := 1
  type := .exact
  config := [("matchDate", .boolean false), ("matchReference", .boolean false)]

def amountMatchDefinition : RuleDefinition where
  id := ⟨9⟩
  priority := 1
  type := .exact
  exact := some { defaultExactConfig with matchDate := false, matchReference := false }
  tolerance := none
  dateLag := none
  allocation := some exactSplitConfig

theorem amountMatchDefinition_decoded : amountMatchDefinition.Decoded :=
  ⟨some amountMatchRule, by decide +kernel⟩

theorem directed_executions_return_iff_pair :
    ∃ result, execute1vNDetailed (some newEngine) [amountMatchDefinition]
      [plainCandidate ⟨1⟩ 100] [plainCandidate ⟨2⟩ 100] = .ok result := by
  refine (directed_executions_return_iff
    (List.forall_mem_singleton.mpr amountMatchDefinition_decoded)
    ⟨by decide, by decide, by decide⟩ (by decide) (by decide)).1.mpr ?_
  apply neverAborts_of_nonneg
  intro rule hrule cfg hcfg candidate hcandidate amount hamount
  rw [sortRules, mem_stableSort, List.mem_singleton] at hrule
  rw [hrule] at hcfg
  cases hcfg
  simp only [sortTransactions, List.mem_append, mem_stableSort, List.mem_singleton] at hcandidate
  rcases hcandidate with rfl | rfl
  · cases hamount
    decide
  · cases hamount
    decide

/-- Two pairs of equal amounts, of which one is negative: the run fails, and the
other pair is not matched either. -/
theorem negative_amount_aborts_run :
    amountMatchDefinition.Decoded ∧
      execute1vNDetailed (some newEngine) [amountMatchDefinition]
          [plainCandidate ⟨1⟩ (-100), plainCandidate ⟨3⟩ 50]
          [plainCandidate ⟨2⟩ (-100), plainCandidate ⟨4⟩ 50] =
        .error errNegativeAllocationTarget ∧
      executeNv1Detailed (some newEngine) [amountMatchDefinition]
          [plainCandidate ⟨1⟩ (-100), plainCandidate ⟨3⟩ 50]
          [plainCandidate ⟨2⟩ (-100), plainCandidate ⟨4⟩ 50] =
        .error errNegativeAllocationTarget ∧
      (·.proposals.length) <$> execute1vNDetailed (some newEngine)
          [amountMatchDefinition] [plainCandidate ⟨3⟩ 50]
          [plainCandidate ⟨4⟩ 50] = .ok 1 := by
  -- the failures of a result cannot be compared, the number of proposals can
  refine ⟨amountMatchDefinition_decoded, (map_eq_error (f := (·.proposals.length))).mp ?_,
    (map_eq_error (f := (·.proposals.length))).mp ?_, ?_⟩
  · decide +kernel
  · decide +kernel
  · decide +kernel

/-! ## Recorded failures and proposals -/

def FailsAt (secondary : List CandidateTransaction) (mctx : MatchContext)
    (visit : RuleDefinition × CandidateTransaction) : Prop :=
  ∃ cfg collected result, Allocates secondary mctx visit cfg collected ∧
    allocateOneToManyDetailed visit.2 collected.candidates (some cfg) =
      .ok result ∧ result.failure ≠ none

def ProposesAt (secondary : List CandidateTransaction) (mctx : MatchContext)
    (visit : RuleDefinition × CandidateTransaction) : Prop :=
  visit.2.id ∉ mctx.usedPrimary ∧ ∃ collected,
    findMatches visit.1 visit.2 secondary mctx = .ok collected ∧
      collected.candidates ≠ [] ∧ ∀ cfg, visit.1.allocation = some cfg →
        ∃ result, Completes cfg visit.2 collected.candidates result

def MatchProposal.Member (proposal : MatchProposal) (id : UUID) : Prop :=
  id ∈ proposal.leftIDs ∨ id ∈ proposal.rightIDs

def MatchContext.Recorded (mctx : MatchContext) (id : UUID) : Prop :=
  mctx.allocFailures id ≠ none

def MatchContext.Proposed (mctx : MatchContext) (id : UUID) : Prop :=
  ∃ proposal ∈ mctx.proposals, proposal.Member id

/--
No visit of the run proposes a candidate with a recorded failure or records a
failure of a candidate that is proposed.
-/
def NeverOverlaps (rules : List RuleDefinition) (primary secondary : List CandidateTransaction)
    (mode : MatchMode) (primaryIsLeft : Bool) : Prop :=
  ∀ done visit rest state, rules ×ˢ primary = done ++ visit :: rest →
    runVisits secondary done (initialContext mode primaryIsLeft) = .ok state →
      ¬ (state.Recorded visit.2.id ∧ ProposesAt secondary state visit) ∧
        ¬ (state.Proposed visit.2.id ∧ FailsAt secondary state visit)

structure RecordsFailure (id : UUID) (mctx mctx' : MatchContext) : Prop where
  proposals : mctx'.proposals = mctx.proposals
  recorded : ∀ other, mctx'.Recorded other ↔ other = id ∨ mctx.Recorded other

structure AddsProposal (secondary : List CandidateTransaction) (id : UUID)
    (mctx mctx' : MatchContext) : Prop where
  proposed : mctx'.Proposed id
  members : ∀ other, mctx'.Proposed other →
    mctx.Proposed other ∨ other = id ∨ other ∈ secondary.map (·.id)
  allocFailures : mctx'.allocFailures = mctx.allocFailures

section Report

variable {secondary : List CandidateTransaction} {mctx mctx' : MatchContext}
  {rule : RuleDefinition} {candidate : CandidateTransaction}

theorem FailsAt.recordsFailure (h : FailsAt secondary mctx (rule, candidate))
    (hvisit : visitPrimary secondary rule mctx candidate = .ok mctx') :
    RecordsFailure candidate.id mctx mctx' := by
  obtain ⟨cfg, collected, result, hallocates, hresult, hfailure⟩ := h
  obtain ⟨failure, hfailure⟩ := Option.ne_none_iff_exists'.mp hfailure
  have htarget := allocateOneToManyDetailed_failure_target hresult hfailure
  rw [visitPrimary_of_allocates hallocates, hresult] at hvisit
  cases hvisit
  simp only [settleAllocation, hfailure]
  refine ⟨rfl, ?_⟩
  intro other
  simp only [MatchContext.Recorded, recordFailure, htarget]
  by_cases hother : other = candidate.id
  · rw [hother, Function.update_self]
    simp
  · rw [Function.update_of_ne hother]
    simp [hother]

theorem addAllocatedProposal_allocFailures (proposal : MatchProposal) (mctx : MatchContext) :
    (addAllocatedProposal proposal mctx).allocFailures = mctx.allocFailures := by
  unfold addAllocatedProposal MatchContext.setUsedMaps
  split_ifs <;> rfl

theorem proposed_append (hproposals : mctx'.proposals = mctx.proposals ++ [proposal]) (id : UUID) :
    mctx'.Proposed id ↔ mctx.Proposed id ∨ proposal.Member id := by
  simp only [MatchContext.Proposed, hproposals, List.mem_append,
    List.mem_singleton, or_and_right, exists_or, exists_eq_left]

theorem member_directProposal (rule : RuleDefinition) (primaryID : UUID)
    (matchedIDs : List UUID) (maxScore : ℤ) (mctx : MatchContext) (id : UUID) :
    (directProposal rule primaryID matchedIDs maxScore mctx).Member id ↔
      id = primaryID ∨ id ∈ matchedIDs := by
  unfold directProposal resolveProposalIDs MatchProposal.Member
  cases mctx.primaryIsLeft with
  | true => simp
  | false =>
    simp only [Bool.false_eq_true, if_false, List.mem_singleton]
    exact Or.comm

theorem addsProposal_of_appended {ids : List UUID}
    (hproposals : mctx'.proposals = mctx.proposals ++ [proposal])
    (hfailures : mctx'.allocFailures = mctx.allocFailures)
    (hmember : ∀ id, proposal.Member id ↔ id = candidate.id ∨ id ∈ ids)
    (hids : ids ⊆ secondary.map (·.id)) : AddsProposal secondary candidate.id mctx mctx' := by
  refine ⟨?_, ?_, hfailures⟩
  · rw [proposed_append hproposals, hmember]
    exact Or.inr (Or.inl rfl)
  · intro other hother
    rw [proposed_append hproposals, hmember] at hother
    exact hother.imp_right fun hnew => hnew.imp_right fun hid => hids hid

theorem ProposesAt.addsProposal (hids : (secondary.map (·.id)).Nodup)
    (h : ProposesAt secondary mctx (rule, candidate))
    (hvisit : visitPrimary secondary rule mctx candidate = .ok mctx') :
    AddsProposal secondary candidate.id mctx mctx' := by
  obtain ⟨hfree, collected, hfind, hnonempty, hcompletes⟩ := h
  have hcollected := collectMatches_collects hfind
  cases hallocation : rule.allocation with
  | some cfg =>
    obtain ⟨result, hcompletes⟩ := hcompletes cfg hallocation
    have hsplit := allocateOneToManyDetailed_completeSplit hids hcollected hcompletes.1 hcompletes.2
    rw [visitPrimary_of_completes hfree hallocation hfind hcompletes] at hvisit
    cases hvisit
    refine addsProposal_of_appended (addAllocatedProposal_appends _ _).proposals
      (addAllocatedProposal_allocFailures _ _)
      (buildAllocationMatchProposal_origin cfg rule candidate _ _ _ rfl).2.2 ?_
    exact fun id hid => (hsplit.ids_free id hid).2
  | none =>
    rw [visitPrimary_of_found hfree hfind hnonempty, hallocation] at hvisit
    cases hvisit
    refine addsProposal_of_appended rfl rfl
      (member_directProposal rule candidate.id collected.ids _ mctx) ?_
    rw [hcollected.ids]
    exact (hcollected.sublist.map _).subset

theorem visitPrimary_report (hvisit : visitPrimary secondary rule mctx candidate = .ok mctx') :
    mctx' = mctx ∨ FailsAt secondary mctx (rule, candidate) ∨
      ProposesAt secondary mctx (rule, candidate) := by
  by_cases hallocates : ∃ cfg collected, Allocates secondary mctx (rule, candidate) cfg collected
  · obtain ⟨cfg, collected, hallocates⟩ := hallocates
    have hsettled := hvisit
    rw [visitPrimary_of_allocates hallocates] at hsettled
    obtain ⟨result, hresult, rfl⟩ := map_eq_ok.mp hsettled
    cases hfailure : result.failure with
    | some failure =>
      refine Or.inr (Or.inl ⟨cfg, collected, result, hallocates, hresult, ?_⟩)
      rw [hfailure]
      exact Option.some_ne_none failure
    | none =>
      cases hcomplete : result.complete with
      | false =>
        left
        simp [settleAllocation, hfailure, hcomplete]
      | true =>
        refine Or.inr (Or.inr ⟨hallocates.free, collected,
          hallocates.found, hallocates.nonempty, ?_⟩)
        intro cfg' hcfg'
        cases hallocates.allocation.symm.trans hcfg'
        exact ⟨result, hresult, hcomplete⟩
  · have hfind : candidate.id ∉ mctx.usedPrimary → ∃ collected,
        findMatches rule candidate secondary mctx = .ok collected := by
      intro hfree
      rw [visitPrimary, if_neg hfree] at hvisit
      obtain ⟨collected, hfind, -⟩ := bind_eq_ok.mp hvisit
      exact ⟨collected, hfind⟩
    have hnone : ∀ cfg collected, ¬ Allocates secondary mctx (rule, candidate) cfg collected :=
      fun cfg collected hother => hallocates ⟨cfg, collected, hother⟩
    rcases visitPrimary_of_not_allocates hnone hfind with hidle |
      ⟨collected, hfree, hallocation, hnonempty, hfound⟩
    · exact Or.inl (Except.ok.inj (hvisit.symm.trans hidle))
    · refine Or.inr (Or.inr ⟨hfree, collected, hfound, hnonempty, ?_⟩)
      intro cfg hcfg
      cases hallocation.symm.trans hcfg

end Report

section Overlap

variable {rules : List RuleDefinition}
  {primary secondary : List CandidateTransaction} {mode : MatchMode}
  {primaryIsLeft : Bool} {start finish : MatchContext}

theorem runVisits_recorded (hids : (secondary.map (·.id)).Nodup)
    (h : runVisits secondary visits start = .ok finish) {id : UUID} (hid : start.Recorded id) :
    finish.Recorded id := by
  refine foldlM_preserves (fun (state : MatchContext) => state.Recorded id) hid ?_ h
  intro visit state state' _ hstate hstep
  rcases visitPrimary_report hstep with rfl | hfails | hproposes
  · exact hstate
  · exact ((hfails.recordsFailure hstep).recorded id).mpr (Or.inr hstate)
  · rw [MatchContext.Recorded, (hproposes.addsProposal hids hstep).allocFailures]
    exact hstate

theorem runVisits_proposed (h : runVisits secondary visits start = .ok finish)
    {id : UUID} (hid : start.Proposed id) : finish.Proposed id := by
  obtain ⟨proposal, hproposal, hmember⟩ := hid
  exact ⟨proposal, (runVisits_keeps h).2 hproposal, hmember⟩

/--
The keys of the recorded failures are primary ids, and none of them is proposed.
-/
structure Separated (primary : List CandidateTransaction) (mctx : MatchContext) : Prop where
  primary : ∀ id, mctx.Recorded id → id ∈ primary.map (·.id)
  apart : ∀ id, mctx.Recorded id → ¬ mctx.Proposed id

theorem Separated.visit {rule : RuleDefinition} {candidate : CandidateTransaction}
    {mctx mctx' : MatchContext} (h : Separated primary mctx) (hids : (secondary.map (·.id)).Nodup)
    (hdisjoint : (primary.map (·.id)).Disjoint (secondary.map (·.id)))
    (hcandidate : candidate ∈ primary)
    (hrecorded : ¬ (mctx.Recorded candidate.id ∧ ProposesAt secondary mctx (rule, candidate)))
    (hproposed : ¬ (mctx.Proposed candidate.id ∧ FailsAt secondary mctx (rule, candidate)))
    (hvisit : visitPrimary secondary rule mctx candidate = .ok mctx') :
    Separated primary mctx' := by
  rcases visitPrimary_report hvisit with rfl | hfails | hproposes
  · exact h
  · have hrecords := hfails.recordsFailure hvisit
    constructor
    · intro id hid
      rcases (hrecords.recorded id).mp hid with rfl | hold
      · exact List.mem_map_of_mem hcandidate
      · exact h.primary id hold
    · intro id hid
      rw [MatchContext.Proposed, hrecords.proposals]
      rcases (hrecords.recorded id).mp hid with rfl | hold
      · exact fun hother => hproposed ⟨hother, hfails⟩
      · exact h.apart id hold
  · obtain ⟨-, hmembers, hfailures⟩ := hproposes.addsProposal hids hvisit
    have hsame : ∀ id, mctx'.Recorded id ↔ mctx.Recorded id := by
      intro id
      rw [MatchContext.Recorded, hfailures, MatchContext.Recorded]
    constructor
    · intro id hid
      exact h.primary id ((hsame id).mp hid)
    · intro id hid hnew
      rw [hsame] at hid
      rcases hmembers id hnew with hold | rfl | hsecondary
      · exact h.apart id hid hold
      · exact hrecorded ⟨hid, hproposes⟩
      · exact hdisjoint (h.primary id hid) hsecondary

theorem runVisits_separated_iff (hids : (secondary.map (·.id)).Nodup)
    (hdisjoint : (primary.map (·.id)).Disjoint (secondary.map (·.id)))
    (h : runVisits secondary (rules ×ˢ primary) (initialContext mode primaryIsLeft) = .ok finish) :
    (∀ id, finish.Recorded id → ¬ finish.Proposed id) ↔
      NeverOverlaps rules primary secondary mode primaryIsLeft := by
  constructor
  · intro hapart done visit rest state hvisits hdone
    rw [hvisits] at h
    obtain ⟨next, hstep, hrest⟩ := foldlM_step hdone h
    constructor
    · rintro ⟨hrecorded, hproposes⟩
      have hnext := hproposes.addsProposal hids hstep
      refine hapart visit.2.id (runVisits_recorded hids hrest ?_)
        (runVisits_proposed hrest hnext.proposed)
      rw [MatchContext.Recorded, hnext.allocFailures]
      exact hrecorded
    · rintro ⟨hproposed, hfails⟩
      have hnext := hfails.recordsFailure hstep
      refine hapart visit.2.id
        (runVisits_recorded hids hrest ((hnext.recorded _).mpr (Or.inl rfl)))
        (runVisits_proposed hrest ?_)
      rw [MatchContext.Proposed, hnext.proposals]
      exact hproposed
  · intro hnever
    refine (foldlM_trace_invariant (fun _ (state : MatchContext) => Separated primary state)
      ⟨?_, ?_⟩ ?_ h).apart
    · exact fun id hid => absurd rfl hid
    · exact fun id hid => absurd rfl hid
    · intro done visit rest state state' hvisits hdone hstate hstep
      obtain ⟨hrecorded, hproposed⟩ := hnever done visit rest state hvisits hdone
      exact hstate.visit hids hdisjoint (visit_mem hvisits).2 hrecorded hproposed hstep

theorem neverOverlaps_of_direct (hids : (secondary.map (·.id)).Nodup)
    (h : ∀ rule ∈ rules, rule.allocation = none) :
    NeverOverlaps rules primary secondary mode primaryIsLeft := by
  have hnever : ∀ visit ∈ rules ×ˢ primary, ∀ state, ¬ FailsAt secondary state visit := by
    rintro visit hvisit state ⟨cfg, collected, result, hallocates, -⟩
    have hnone := h visit.1 (List.mem_product.mp hvisit).1
    cases hnone.symm.trans hallocates.allocation
  intro done visit rest state hvisits hdone
  have hempty : ∀ id, ¬ state.Recorded id := by
    refine foldlM_preserves (fun (state : MatchContext) =>
      ∀ id, ¬ state.Recorded id) (fun id hid => hid rfl) ?_ hdone
    intro earlier before after hearlier hbefore hstep
    have hvisited : earlier ∈ rules ×ˢ primary := by
      rw [hvisits]
      exact List.mem_append_left _ hearlier
    rcases visitPrimary_report hstep with rfl | hfails | hproposes
    · exact hbefore
    · exact absurd hfails (hnever earlier hvisited before)
    · intro id
      rw [MatchContext.Recorded, (hproposes.addsProposal hids hstep).allocFailures]
      exact hbefore id
  exact ⟨fun hoverlap => hempty visit.2.id hoverlap.1,
    fun hoverlap =>
      hnever visit (List.mem_product.mpr (visit_mem hvisits)) state hoverlap.2⟩

end Overlap

/--
No id is both a key of the recorded failures and in a proposal exactly when no
visit proposes a candidate that already failed, or fails for one already
proposed.
-/
theorem allocFailures_apart_iff {engine : Option Engine} {rules : List RuleDefinition}
    {left right : List CandidateTransaction} (hids : ((left ++ right).map (·.id)).Nodup) :
    (∀ result, execute1vNDetailed engine rules left right = .ok result →
      ((∀ id, result.allocFailures id ≠ none →
          ∀ proposal ∈ result.proposals, id ∉ proposal.leftIDs ∧ id ∉ proposal.rightIDs) ↔
        NeverOverlaps (sortRules rules) (sortTransactions left)
          (sortTransactions right) .oneToMany true)) ∧
    (∀ result, executeNv1Detailed engine rules left right = .ok result →
      ((∀ id, result.allocFailures id ≠ none →
          ∀ proposal ∈ result.proposals, id ∉ proposal.leftIDs ∧ id ∉ proposal.rightIDs) ↔
        NeverOverlaps (sortRules rules) (sortTransactions right)
          (sortTransactions left) .manyToOne false)) := by
  rw [List.map_append] at hids
  have hleft := sortTransactions_ids_nodup hids.of_append_left
  have hright := sortTransactions_ids_nodup hids.of_append_right
  have hdisjoint := sortTransactions_ids_disjoint (List.disjoint_of_nodup_append hids)
  have hstated : ∀ mctx : MatchContext,
      (∀ id, mctx.allocFailures id ≠ none → ∀ proposal ∈ mctx.proposals,
        id ∉ proposal.leftIDs ∧ id ∉ proposal.rightIDs) ↔
      ∀ id, mctx.Recorded id → ¬ mctx.Proposed id := by
    intro mctx
    simp only [MatchContext.Recorded, MatchContext.Proposed,
      MatchProposal.Member, not_exists, not_and, not_or]
  constructor
  · intro result h
    obtain ⟨⟨⟩, -, h⟩ := bind_eq_ok.mp h
    obtain ⟨mctx, hrun, rfl⟩ := matchWithDirectionDetailed_eq_ok h
    exact (hstated mctx).trans (runVisits_separated_iff hright hdisjoint hrun)
  · intro result h
    obtain ⟨⟨⟩, -, h⟩ := bind_eq_ok.mp h
    obtain ⟨mctx, hrun, rfl⟩ := matchWithDirectionDetailed_eq_ok h
    exact (hstated mctx).trans (runVisits_separated_iff hleft hdisjoint.symm hrun)

theorem allocFailures_apart_iff_pair :
    ∃ result, execute1vNDetailed (some newEngine) [amountRule ⟨8⟩ none]
        [plainCandidate ⟨1⟩ 100] [plainCandidate ⟨2⟩ 100] = .ok result ∧
      result.proposals.length = 1 ∧
      ∀ id, result.allocFailures id ≠ none → ∀ proposal ∈ result.proposals,
        id ∉ proposal.leftIDs ∧ id ∉ proposal.rightIDs := by
  refine exists_ok_of_map (f := (·.proposals.length)) 1 (by decide +kernel) ?_
  intro result h hcount
  refine ⟨hcount, ?_⟩
  apply ((allocFailures_apart_iff (by decide)).1 result h).mpr
  apply neverOverlaps_of_direct (sortTransactions_ids_nodup (by decide))
  intro rule hrule
  rw [sortRules, mem_stableSort, List.mem_singleton] at hrule
  rw [hrule]
  rfl

def currencyRule (id : UUID) (allocation : AllocationConfig) : RuleDefinition :=
  { amountRule id (some allocation) with
    exact := some { defaultExactConfig with
      matchAmount := false
      matchDate := false
      matchReference := false } }

/--
The first rule records that the split of 60 over 100 is incomplete, the second
tolerates the gap and proposes the same target.
-/
theorem failed_target_proposed_later :
    ∃ result, execute1vNDetailed (some newEngine)
        [currencyRule ⟨8⟩ exactSplitConfig,
          currencyRule ⟨9⟩ { exactSplitConfig with toleranceValue := 50 }]
        [plainCandidate ⟨1⟩ 100] [plainCandidate ⟨2⟩ 60] = .ok result ∧
      result.allocFailures ⟨1⟩ ≠ none ∧
      result.proposals.map (fun p => (p.ruleID, p.leftIDs, p.rightIDs)) =
        [(⟨9⟩, [⟨1⟩], [⟨2⟩])] := by
  refine exists_ok_of_map (f := fun result => ((result.allocFailures ⟨1⟩).isSome,
      result.proposals.map fun p => (p.ruleID, p.leftIDs, p.rightIDs)))
    (true, [(⟨9⟩, [⟨1⟩], [⟨2⟩])]) (by decide +kernel) ?_
  intro result _ hvalue
  simp only [Prod.mk.injEq] at hvalue
  exact ⟨Option.isSome_iff_ne_none.mp hvalue.1, hvalue.2⟩

end Matcher.Matching
