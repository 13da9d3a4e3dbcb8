import Mathlib.Data.Finset.Card
import Mathlib.Data.List.Perm.Basic
import Matcher.Command.ProposalProcessing

/-!
# Execution of a run

The rules of the context run over the candidates, the proposals become groups,
and every candidate that no group takes stays unmatched.  The candidates are thus
split into auto-matched, pending-review and unmatched ones.
-/

namespace Matcher.Command

open Foundation
open Fee (FeeRule FeeSchedule NormalizationMode)
open Matching

structure CandidateStats where
  candidatesLeft : ℤ
  candidatesRight : ℤ
deriving DecidableEq, Repr

structure MatchStats extends CandidateStats where
  matches_ : ℤ
  unmatchedLeft : ℤ
  unmatchedRight : ℤ
  unmatchedExternal : ℤ
  autoMatchedLeft : ℤ
  autoMatchedRight : ℤ
  pendingReviewLeft : ℤ
  pendingReviewRight : ℤ
  proposedLeft : ℤ
  proposedRight : ℤ
deriving DecidableEq, Repr

structure MatchRunContext where
  contextID : UUID
  contextType : ContextType
  feeNormalization : Option NormalizationMode
  leftCandidates : List Transaction
  rightCandidates : List Transaction
  unmatchedIDs : List UUID
  externalTxByID : TransactionMap
  stats : CandidateStats
  leftRules : List FeeRule
  rightRules : List FeeRule
  allSchedules : UUID → Option FeeSchedule

structure MatchExecutionResult where
  groups : List MatchGroup
  items : List MatchItem
  autoMatchedIDs : List UUID
  pendingReviewIDs : List UUID
  unmatchedIDs : List UUID
  unmatchedReasons : Reasons
  allTxByID : TransactionMap
  stats : MatchStats

variable (mrc : MatchRunContext) {output : ProposalProcessingResult} {right left : List Transaction}

def MatchRunContext.rulesInput : ExecuteRulesInput where
  contextID := mrc.contextID
  contextType := mrc.contextType
  left := mrc.leftCandidates
  right := mrc.rightCandidates
  leftRules := mrc.leftRules
  rightRules := mrc.rightRules
  allSchedules := mrc.allSchedules
  feeNormalization := mrc.feeNormalization.getD .none

def MatchRunContext.sides : Sides :=
  sidesOf mrc.leftCandidates mrc.rightCandidates

def allocationFailureCodeText : AllocationFailureCode → String
  | .fxRateUnavailable => "FX_RATE_UNAVAILABLE"
  | .splitIncomplete => "SPLIT_INCOMPLETE"

/-- A reason set while proposals were processed is kept. -/
def mergeReasons (unmatchedReasons : Reasons) (allocFailures : UUID → Option AllocationFailure) :
    Reasons := fun id =>
  match unmatchedReasons id with
  | some reason => some reason
  | none =>
    (allocFailures id).map fun failure =>
      allocationFailureCodeText failure.code

def collectUnmatched (transactions : List Transaction) (matched : Finset UUID) : List UUID :=
  (transactions.filter fun tx => tx.id ∉ matched).map (·.id)

/-- Later maps overwrite earlier ones. -/
def mergeTransactionMaps (first second third : TransactionMap) :
    TransactionMap := fun id =>
  ((third id).or (second id)).or (first id)

structure RunEnvironment where
  ruleProvider : Option MatchRuleProvider
  runID : UUID
  ctxErr : ℕ → Option GoError
  newGroupID : ℕ → UUID

def RunEnvironment.proposals (environment : RunEnvironment) (mrc : MatchRunContext) :
    ProposalEnvironment where
  contextID := mrc.contextID
  runID := environment.runID
  ctxErr := environment.ctxErr
  newGroupID := environment.newGroupID
  sides := mrc.sides

def executionStats (output : ProposalProcessingResult) (unmatchedLeft unmatchedRight : List UUID) :
    MatchStats where
  toCandidateStats := mrc.stats
  matches_ := output.groups.length
  unmatchedLeft := unmatchedLeft.length
  unmatchedRight := unmatchedRight.length
  unmatchedExternal := mrc.unmatchedIDs.length
  autoMatchedLeft := output.leftConfirmed.card
  autoMatchedRight := output.rightConfirmed.card
  pendingReviewLeft := output.leftPending.card
  pendingReviewRight := output.rightPending.card
  proposedLeft := output.leftMatched.card - output.leftConfirmed.card
  proposedRight := output.rightMatched.card - output.rightConfirmed.card

def executionResult (rulesResult : EngineResult) (output : ProposalProcessingResult) :
    MatchExecutionResult :=
  let unmatchedLeft := collectUnmatched mrc.leftCandidates output.leftMatched
  let unmatchedRight := collectUnmatched mrc.rightCandidates output.rightMatched
  { groups := output.groups
    items := output.items
    autoMatchedIDs := output.autoMatchedIDs
    pendingReviewIDs := output.pendingReviewIDs
    unmatchedIDs := mrc.unmatchedIDs ++ unmatchedLeft ++ unmatchedRight
    unmatchedReasons :=
      mergeReasons output.unmatchedReasons rulesResult.allocFailures
    allTxByID := mergeTransactionMaps mrc.sides.leftByID mrc.sides.rightByID mrc.externalTxByID
    stats := executionStats mrc output unmatchedLeft unmatchedRight }

def executeMatchRules (environment : RunEnvironment) (mrc : MatchRunContext) :
    Except GoError MatchExecutionResult := do
  let rulesResult ←
    executeRulesDetailed environment.ruleProvider mrc.rulesInput
  let output ← wrapError "proposal processing: %w"
    (processProposals (environment.proposals mrc) rulesResult.proposals)
  return executionResult mrc rulesResult output

/-! ## Groups share no transaction -/

section Groups

variable {environment : ProposalEnvironment} {left right : List Transaction}
  {proposals : List MatchProposal} {output : ProposalProcessingResult}

theorem processProposals_ids_nodup (hids : ((left ++ right).map (·.id)).Nodup)
    (hsides : environment.sides = sidesOf left right)
    (hapart : PlacedApart (left.map (·.id)) (right.map (·.id)) proposals)
    (h : processProposals environment proposals = .ok output) :
    (output.groups.flatMap (·.transactionIDs)).Nodup := by
  rw [List.map_append] at hids
  have hdisjoint := List.disjoint_of_nodup_append hids
  obtain ⟨-, pairs, hsublist, hgroups, hbuilt⟩ := processProposals_processed h
  have hbuiltIDs : ∀ pair ∈ pairs,
      pair.2.transactionIDs = pair.1.1.leftIDs ++ pair.1.1.rightIDs ∧
        Placed (left.map (·.id)) (right.map (·.id)) pair.1.1 :=
    fun pair hpair => BuiltFrom.ids hsides (hbuilt pair hpair)
  have hmem : ∀ pair ∈ pairs, pair.1.1 ∈ proposals := by
    intro pair hpair
    have hentry := hsublist.subset (List.mem_map_of_mem hpair)
    have hproposal := List.mem_map_of_mem (f := Prod.fst) hentry
    rwa [List.zipIdx_map_fst] at hproposal
  have hpairwise : pairs.Pairwise fun first second =>
      Placed (left.map (·.id)) (right.map (·.id)) first.1.1 →
        Placed (left.map (·.id)) (right.map (·.id)) second.1.1 → Apart first.1.1 second.1.1 := by
    have hzip := hapart.apart
    rw [← List.zipIdx_map_fst 0 proposals, List.pairwise_map] at hzip
    exact List.pairwise_map.mp (hzip.sublist hsublist)
  rw [← hgroups, List.flatMap_map, List.nodup_flatMap]
  constructor
  · intro pair hpair
    obtain ⟨htransactionIDs, hplaced⟩ := hbuiltIDs pair hpair
    obtain ⟨hleft, hright⟩ := hapart.nodup _ (hmem pair hpair) hplaced
    rw [htransactionIDs]
    apply hleft.append hright
    intro id hidLeft hidRight
    exact hdisjoint (hplaced.left id hidLeft) (hplaced.right id hidRight)
  · apply hpairwise.imp_of_mem
    intro first second hfirst hsecond hapart
    obtain ⟨hfirstIDs, hfirstPlaced⟩ := hbuiltIDs first hfirst
    obtain ⟨hsecondIDs, hsecondPlaced⟩ := hbuiltIDs second hsecond
    obtain ⟨hleftApart, hrightApart⟩ := hapart hfirstPlaced hsecondPlaced
    change List.Disjoint first.2.transactionIDs second.2.transactionIDs
    rw [hfirstIDs, hsecondIDs]
    intro id hidFirst hidSecond
    rcases List.mem_append.mp hidFirst with hl | hr
    · rcases List.mem_append.mp hidSecond with hl' | hr'
      · exact hleftApart hl hl'
      · exact hdisjoint (hfirstPlaced.left id hl) (hsecondPlaced.right id hr')
    · rcases List.mem_append.mp hidSecond with hl' | hr'
      · exact hdisjoint (hsecondPlaced.left id hl') (hfirstPlaced.right id hr)
      · exact hrightApart hr hr'

theorem processProposals_ids_subset (hsides : environment.sides = sidesOf left right)
    (h : processProposals environment proposals = .ok output) :
    ∀ id ∈ output.groups.flatMap (·.transactionIDs),
      id ∈ left.map (·.id) ∨ id ∈ right.map (·.id) := by
  intro id hid
  obtain ⟨group, hgroup, hid⟩ := List.mem_flatMap.mp hid
  obtain ⟨earlier, proposal, -, hbuilds⟩ := processProposals_built h hgroup
  obtain ⟨htransactionIDs, hplaced⟩ := BuiltFrom.ids hsides hbuilds
  rw [htransactionIDs] at hid
  rcases List.mem_append.mp hid with hl | hr
  · exact Or.inl (hplaced.left id hl)
  · exact Or.inr (hplaced.right id hr)

end Groups

/-! ## The split of the candidates -/

theorem collectUnmatched_eq (transactions : List Transaction) (matched : Finset UUID) :
    collectUnmatched transactions matched = (transactions.map (·.id)).filter (· ∉ matched) := by
  rw [collectUnmatched, List.filter_map]
  rfl

theorem Bookkeeping.ids_perm {sides : Sides} (h : Bookkeeping sides output) :
    (output.autoMatchedIDs ++ output.pendingReviewIDs).Perm
      (output.groups.flatMap (·.transactionIDs)) := by
  rw [h.autoMatchedIDs, h.pendingReviewIDs, ← List.flatMap_append]
  exact (List.filter_append_perm _ _).flatMap_right _

theorem Bookkeeping.itemIDs {sides : Sides} (h : Bookkeeping sides output) :
    output.items.map (·.transactionID) = output.groups.flatMap (·.transactionIDs) := by
  rw [h.items, List.map_flatMap]
  rfl

section OneSide

variable {ids autoMatched pending : List UUID} {matched : Finset UUID}

theorem card_add_unmatched (hids : ids.Nodup) (hmatched : ∀ id ∈ matched, id ∈ ids) :
    matched.card + (ids.filter (· ∉ matched)).length = ids.length := by
  have hcard : (ids.filter (· ∈ matched)).length = matched.card := by
    rw [← List.toFinset_card_of_nodup (hids.filter _)]
    congr 1
    ext id
    simp only [List.mem_toFinset, List.mem_filter, decide_eq_true_eq]
    exact ⟨And.right, fun hid => ⟨hmatched id hid, hid⟩⟩
  have hsplit := (List.filter_append_perm (· ∈ matched) ids).length_eq
  rw [List.length_append, hcard] at hsplit
  simpa using hsplit

theorem card_matched_eq {confirmed pendings : Finset UUID} {on : UUID → Prop}
    (hnodup : (autoMatched ++ pending).Nodup)
    (hmatched : ∀ id, id ∈ matched ↔ id ∈ autoMatched ++ pending ∧ on id)
    (hconfirmed : ∀ id, id ∈ confirmed ↔ id ∈ autoMatched ∧ on id)
    (hpending : ∀ id, id ∈ pendings ↔ id ∈ pending ∧ on id) :
    matched.card = confirmed.card + pendings.card := by
  have hunion : matched = confirmed ∪ pendings := by
    ext id
    rw [Finset.mem_union, hmatched, hconfirmed, hpending, List.mem_append, or_and_right]
  have hdisjoint : Disjoint confirmed pendings := by
    rw [Finset.disjoint_left]
    intro id hid hid'
    exact List.disjoint_of_nodup_append hnodup ((hconfirmed id).mp hid).1 ((hpending id).mp hid').1
  rw [hunion, Finset.card_union_of_disjoint hdisjoint]

end OneSide

def MatchRunContext.leftIDs : List UUID :=
  mrc.leftCandidates.map (·.id)

def MatchRunContext.rightIDs : List UUID :=
  mrc.rightCandidates.map (·.id)

def MatchRunContext.candidateIDs : List UUID :=
  mrc.leftIDs ++ mrc.rightIDs ++ mrc.unmatchedIDs

/--
Every candidate is in one of the three id lists, the items are those of the
matched ids, and the counts of each side add up.
-/
structure SplitsCandidates (mrc : MatchRunContext) (result : MatchExecutionResult) : Prop where
  covers : (result.autoMatchedIDs ++ result.pendingReviewIDs ++
    result.unmatchedIDs).Perm mrc.candidateIDs
  once : ∀ id ∈ mrc.candidateIDs,
    result.autoMatchedIDs.count id + result.pendingReviewIDs.count id +
      result.unmatchedIDs.count id = 1
  items : result.items = result.groups.flatMap (·.items)
  itemIDs : (result.items.map (·.transactionID)).Perm
    (result.autoMatchedIDs ++ result.pendingReviewIDs)
  left : (mrc.leftCandidates.length : ℤ) = result.stats.autoMatchedLeft +
    result.stats.proposedLeft + result.stats.unmatchedLeft
  right : (mrc.rightCandidates.length : ℤ) = result.stats.autoMatchedRight +
    result.stats.proposedRight + result.stats.unmatchedRight
  proposedLeft : result.stats.proposedLeft = result.stats.pendingReviewLeft
  proposedRight : result.stats.proposedRight = result.stats.pendingReviewRight

theorem sidesOf_onLeft {id : UUID} : (sidesOf left right).OnLeft id ↔ id ∈ left.map (·.id) :=
  indexTransactions_isSome_iff

theorem sidesOf_onRight {id : UUID} (hdisjoint : (left.map (·.id)).Disjoint (right.map (·.id))) :
    (sidesOf left right).OnRight id ↔ id ∈ right.map (·.id) := by
  unfold Sides.OnRight
  rw [sidesOf_onLeft]
  constructor
  · rintro ⟨-, hright⟩
    exact indexTransactions_isSome_iff.mp hright
  · intro hright
    exact ⟨fun hleft => hdisjoint hleft hright, indexTransactions_isSome_iff.mpr hright⟩

section Split

variable {mrc : MatchRunContext} {output : ProposalProcessingResult}

theorem taken_perm (hids : (mrc.leftIDs ++ mrc.rightIDs).Nodup)
    (hbookkeeping : Bookkeeping mrc.sides output)
    (hnodup : (output.groups.flatMap (·.transactionIDs)).Nodup)
    (hsubset : ∀ id ∈ output.groups.flatMap (·.transactionIDs),
      id ∈ mrc.leftIDs ∨ id ∈ mrc.rightIDs) :
    (output.groups.flatMap (·.transactionIDs)).Perm
      (mrc.leftIDs.filter (· ∈ output.leftMatched) ++
        mrc.rightIDs.filter (· ∈ output.rightMatched)) := by
  have hdisjoint := List.disjoint_of_nodup_append hids
  have hmatchedNodup : (mrc.leftIDs.filter (· ∈ output.leftMatched) ++
      mrc.rightIDs.filter (· ∈ output.rightMatched)).Nodup :=
    hids.sublist (List.filter_sublist.append List.filter_sublist)
  apply (List.perm_ext_iff_of_nodup hnodup hmatchedNodup).mpr
  intro id
  simp only [List.mem_append, List.mem_filter, decide_eq_true_eq, hbookkeeping.leftMatched,
    hbookkeeping.rightMatched, MatchRunContext.sides, sidesOf_onLeft, sidesOf_onRight hdisjoint]
  constructor
  · intro hid
    rcases hsubset id hid with hleft | hright
    · exact Or.inl ⟨hleft, hid, hleft⟩
    · exact Or.inr ⟨hright, hid, hright⟩
  · rintro (⟨-, hid, -⟩ | ⟨-, hid, -⟩)
    · exact hid
    · exact hid

end Split

theorem executeMatchRules_eq_ok {environment : RunEnvironment} {mrc : MatchRunContext}
    {result : MatchExecutionResult} (h : executeMatchRules environment mrc = .ok result) :
    ∃ rulesResult output,
      executeRulesDetailed environment.ruleProvider mrc.rulesInput = .ok rulesResult ∧
        processProposals (environment.proposals mrc) rulesResult.proposals = .ok output ∧
          result = executionResult mrc rulesResult output := by
  obtain ⟨rulesResult, hrules, h⟩ := bind_eq_ok.mp h
  obtain ⟨output, houtput, h⟩ := bind_eq_ok.mp h
  exact ⟨rulesResult, output, hrules, wrapError_eq_ok.mp houtput, (Except.ok.inj h).symm⟩

theorem halves_perm {left right external taken : List UUID} {leftMatched rightMatched : Finset UUID}
    (htaken : taken.Perm (left.filter (· ∈ leftMatched) ++ right.filter (· ∈ rightMatched))) :
    (taken ++ (external ++ left.filter (· ∉ leftMatched) ++
      right.filter (· ∉ rightMatched))).Perm (left ++ right ++ external) := by
  have hleft := List.filter_append_perm (· ∈ leftMatched) left
  have hright := List.filter_append_perm (· ∈ rightMatched) right
  rw [List.perm_iff_count] at htaken hleft hright ⊢
  intro id
  have htaken := htaken id
  have hleft := hleft id
  have hright := hright id
  simp only [List.count_append, decide_not] at htaken hleft hright ⊢
  omega

/--
A successful execution over distinct candidates puts each of them into exactly
one of the auto-matched, pending-review and unmatched lists.
-/
theorem executeMatchRules_splits_candidates {environment : RunEnvironment} {mrc : MatchRunContext}
    {result : MatchExecutionResult} (hids : mrc.candidateIDs.Nodup)
    (h : executeMatchRules environment mrc = .ok result) : SplitsCandidates mrc result := by
  have hsides : (mrc.leftIDs ++ mrc.rightIDs).Nodup := hids.of_append_left
  have hdisjoint := List.disjoint_of_nodup_append hsides
  have hinput : ((mrc.leftCandidates ++ mrc.rightCandidates).map (·.id)).Nodup := by
    rw [List.map_append]
    exact hsides
  obtain ⟨rulesResult, output, hrules, houtput, rfl⟩ := executeMatchRules_eq_ok h
  have hapart := executeRulesDetailed_placedApart hinput hrules
  have hnodup := processProposals_ids_nodup hinput rfl hapart houtput
  have hsubset := processProposals_ids_subset rfl houtput
  have hbook : Bookkeeping mrc.sides output := (processProposals_processed houtput).bookkeeping
  have htaken := hbook.ids_perm.trans (taken_perm hsides hbook hnodup hsubset)
  have hcovers : (output.autoMatchedIDs ++ output.pendingReviewIDs ++
      (executionResult mrc rulesResult output).unmatchedIDs).Perm mrc.candidateIDs := by
    change (_ ++ (mrc.unmatchedIDs ++
      collectUnmatched mrc.leftCandidates output.leftMatched ++
        collectUnmatched mrc.rightCandidates output.rightMatched)).Perm _
    rw [collectUnmatched_eq, collectUnmatched_eq]
    exact halves_perm htaken
  have hmatchedNodup := hbook.ids_perm.nodup_iff.mpr hnodup
  have hleft := card_matched_eq hmatchedNodup
    (fun id => (hbook.leftMatched id).trans (and_congr_left fun _ => hbook.ids_perm.mem_iff.symm))
    hbook.leftConfirmed hbook.leftPending
  have hright := card_matched_eq hmatchedNodup
    (fun id => (hbook.rightMatched id).trans (and_congr_left fun _ => hbook.ids_perm.mem_iff.symm))
    hbook.rightConfirmed hbook.rightPending
  have hleftCount := card_add_unmatched hsides.of_append_left
    fun id hid => sidesOf_onLeft.mp ((hbook.leftMatched id).mp hid).2
  have hrightCount := card_add_unmatched hsides.of_append_right
    fun id hid =>
      (sidesOf_onRight hdisjoint).mp ((hbook.rightMatched id).mp hid).2
  rw [MatchRunContext.leftIDs, ← collectUnmatched_eq, List.length_map] at hleftCount
  rw [MatchRunContext.rightIDs, ← collectUnmatched_eq, List.length_map] at hrightCount
  refine ⟨hcovers, ?_, hbook.items, ?_, ?_, ?_, ?_, ?_⟩
  · intro id hid
    have hcount := List.perm_iff_count.mp hcovers id
    rw [List.count_eq_one_of_mem hids hid, List.count_append, List.count_append] at hcount
    exact hcount
  · change (output.items.map (·.transactionID)).Perm
      (output.autoMatchedIDs ++ output.pendingReviewIDs)
    rw [hbook.itemIDs]
    exact hbook.ids_perm.symm
  all_goals
    simp only [executionResult, executionStats]
    omega

def pairContext (contextType : ContextType) : MatchRunContext where
  contextID := ⟨7⟩
  contextType := contextType
  feeNormalization := none
  leftCandidates := [plainTransaction ⟨1⟩ 100]
  rightCandidates := [plainTransaction ⟨2⟩ 100]
  unmatchedIDs := [⟨3⟩]
  externalTxByID := fun _ => none
  stats := ⟨1, 1⟩
  leftRules := []
  rightRules := []
  allSchedules := fun _ => none

def exactEnvironment : RunEnvironment where
  ruleProvider := some fun _ => .ok [some ⟨⟨9⟩, 1, .exact, []⟩]
  runID := ⟨6⟩
  ctxErr := fun _ => none
  newGroupID := fun index => ⟨BitVec.ofNat 128 (100 + index)⟩

theorem executeMatchRules_splits_candidates_pair :
    ∃ result, executeMatchRules exactEnvironment (pairContext .oneToOne) = .ok result ∧
      result.autoMatchedIDs = [⟨1⟩, ⟨2⟩] ∧ result.unmatchedIDs = [⟨3⟩] ∧
        SplitsCandidates (pairContext .oneToOne) result := by
  refine exists_ok_of_map (f := fun result => (result.autoMatchedIDs, result.unmatchedIDs))
    ([⟨1⟩, ⟨2⟩], [⟨3⟩]) (by decide +kernel) ?_
  intro result h hlists
  simp only [Prod.mk.injEq] at hlists
  exact ⟨hlists.1, hlists.2, executeMatchRules_splits_candidates (by decide) h⟩

end Matcher.Command
