import Matcher.Command.ProposalProcessing
import Matcher.Matching.ProposalOrigins

/-!
# Balance of one-to-many groups

Every decoded rule carries an allocation, so a one-to-many run only proposes
complete splits of one target.  A split whose sides were swapped finds its ids on
neither side and is dropped; the group of any other split is balanced, in one
currency, and within the stored amounts.
-/

namespace Matcher.Command

open Foundation
open Matching

variable {tx : Transaction} {allocations : List Allocation}
  {allocation : Allocation} {transactions : List Transaction}
  {items : List MatchItem} {cfg : AllocationConfig}
  {target : CandidateTransaction} {item : MatchItem} {total allocated : Decimal}
  {candidate : CandidateTransaction} {rightItems leftItems : List MatchItem} {rule : RuleDefinition}
  {used : Finset UUID} {currency : String} {score : ℤ}

/-! ## Proposals of a run are splits -/

def SplitProposal (rules : List RuleDefinition) (primary secondary : List CandidateTransaction)
    (proposal : MatchProposal) : Prop :=
  ∃ rule ∈ rules, ∃ cfg target used allocations total score,
    rule.allocation = some cfg ∧ target ∈ primary ∧
      CompleteSplit cfg target secondary used allocations total ∧
        proposal = buildAllocationMatchProposal cfg rule target allocations total score

theorem execute1vNDetailed_splitProposals {engine : Option Engine} {rules : List RuleDefinition}
    {left right : List CandidateTransaction} {result : EngineResult}
    (hids : (right.map (·.id)).Nodup) (hallocates : ∀ rule ∈ rules, rule.allocation ≠ none)
    (h : execute1vNDetailed engine rules left right = .ok result) :
    ∀ proposal ∈ result.proposals,
      SplitProposal (sortRules rules) (sortTransactions left)
        (sortTransactions right) proposal := by
  intro proposal hproposal
  obtain ⟨earlier, later, hsplit⟩ := List.append_of_mem hproposal
  obtain ⟨rule, hrule, target, htarget, cfg, used, collected, split, hcfg, -,
    hcollect, hcompletes, rfl⟩ :=
    execute1vNDetailed_fromSplit hallocates h earlier proposal ⟨later, by simp [hsplit]⟩
  exact ⟨rule, hrule, cfg, target, used, split.allocations, split.total,
    collected.maxScore, hcfg, htarget,
    allocateOneToManyDetailed_completeSplit (sortTransactions_ids_nodup hids)
      (collectMatches_collects hcollect) hcompletes.1 hcompletes.2, rfl⟩

/-! ## Items of an allocated side -/

/-- The item takes the allocated amount, checked against what is stored. -/
structure ItemOfAllocation (transactions : List Transaction)
    (allocation : Allocation) (item : MatchItem) : Prop where
  amount : item.allocatedAmount = allocation.allocatedAmount
  stored : ∃ tx ∈ transactions, tx.id = item.transactionID ∧
    tx.id = allocation.transactionID ∧
      if allocation.useBaseAmount then
        tx.amountBase = some item.expectedAmount ∧ tx.baseCurrency = some item.allocatedCurrency
      else
        tx.amount = item.expectedAmount ∧
          item.allocatedCurrency =
            if allocation.currency ≠ "" then allocation.currency
            else tx.currency

theorem baseFields_eq_ok {fields : AllocationFields} (h : baseFields tx allocated = .ok fields) :
    fields.allocated = allocated ∧ tx.amountBase = some fields.expected ∧
      tx.baseCurrency = some fields.currency := by
  unfold baseFields at h
  split at h
  · cases h
  next amountBase hamount =>
  split at h
  · cases h
  next baseCurrency hcurrency =>
  split at h
  · cases h
  · cases h
    exact ⟨rfl, hamount, hcurrency⟩

theorem allocationFields_of_some {pic : ProposalItemsContext}
    {useBase : Bool} (hallocated : pic.allocations tx.id = some allocated)
    (hcurrency : pic.allocationCurrencies tx.id = some currency)
    (huseBase : pic.allocationUseBase tx.id = some useBase) :
    allocationFields tx pic =
      if useBase then baseFields tx allocated
      else .ok ⟨allocated, if currency ≠ "" then currency else tx.currency, tx.amount⟩ := by
  simp only [allocationFields, hallocated, hcurrency, huseBase, Option.getD_some]

theorem allocationFields_of_mem (txByID : TransactionMap)
    (hnodup : (allocations.map (·.transactionID)).Nodup) (hallocation : allocation ∈ allocations)
    (hid : tx.id = allocation.transactionID) :
    allocationFields tx (sideContext txByID allocations) =
      if allocation.useBaseAmount then
        baseFields tx allocation.allocatedAmount
      else .ok ⟨allocation.allocatedAmount,
        if allocation.currency ≠ "" then allocation.currency else tx.currency,
        tx.amount⟩ := by
  have hmap : ∀ {β : Type} (value : Allocation → β),
      indexBy (·.transactionID) value allocations tx.id = some (value allocation) := by
    intro β value
    rw [hid]
    exact indexBy_of_mem hnodup hallocation
  exact allocationFields_of_some (hmap (·.allocatedAmount)) (hmap (·.currency))
    (hmap (·.useBaseAmount))

theorem itemOfAllocation_of_itemOf (hnodup : (allocations.map (·.transactionID)).Nodup)
    (hallocation : allocation ∈ allocations)
    (h : ItemOf (sideContext (indexTransactions transactions) allocations)
      allocation.transactionID item) : ItemOfAllocation transactions allocation item := by
  obtain ⟨tx, hfound, hitem, fields, hfields, hamount, hcurrency, hexpected⟩ := h
  obtain ⟨htx, hid⟩ := indexTransactions_eq_some hfound
  rw [allocationFields_of_mem _ hnodup hallocation hid] at hfields
  cases hbase : allocation.useBaseAmount with
  | true =>
    rw [hbase, if_pos rfl] at hfields
    obtain ⟨hfieldAmount, hamountBase, hbaseCurrency⟩ := baseFields_eq_ok hfields
    refine ⟨hamount.trans hfieldAmount, tx, htx, hitem.symm, hid, ?_⟩
    rw [hbase, if_pos rfl, hexpected, hcurrency]
    exact ⟨hamountBase, hbaseCurrency⟩
  | false =>
    rw [hbase, if_neg Bool.false_ne_true] at hfields
    cases hfields
    refine ⟨hamount, tx, htx, hitem.symm, hid, ?_⟩
    rw [hbase, if_neg Bool.false_ne_true]
    exact ⟨hexpected.symm, hcurrency⟩

theorem items_of_allocations (hnodup : (allocations.map (·.transactionID)).Nodup) (h : List.Forall₂
      (ItemOf (sideContext (indexTransactions transactions) allocations))
      (allocations.map (·.transactionID)) items) :
    List.Forall₂ (ItemOfAllocation transactions) allocations items := by
  rw [List.forall₂_map_left_iff] at h
  rw [List.forall₂_iff_zip] at h ⊢
  refine ⟨h.1, ?_⟩
  intro allocation item hpair
  exact itemOfAllocation_of_itemOf hnodup (List.of_mem_zip hpair).1 (h.2 hpair)

/-! ## Stored amounts and currencies -/

def storedAmount (cfg : AllocationConfig) (tx : Transaction) : Option Decimal :=
  if cfg.useBaseAmount then tx.amountBase else some tx.amount

def storedCurrency (cfg : AllocationConfig) (tx : Transaction) : Option String :=
  if cfg.useBaseAmount then tx.baseCurrency else some tx.currency

structure WithinStored (cfg : AllocationConfig) (transactions : List Transaction)
    (item : MatchItem) : Prop where
  stored : ∃ tx ∈ transactions, tx.id = item.transactionID ∧
    storedCurrency cfg tx = some item.allocatedCurrency ∧
      ∃ amount, storedAmount cfg tx = some amount ∧ item.allocatedAmount ≤ amount

theorem Mirrors.relevantCurrency_eq (h : Mirrors tx candidate) :
    relevantCurrency cfg candidate = (storedCurrency cfg tx).getD "" := by
  unfold relevantCurrency storedCurrency
  cases cfg.useBaseAmount with
  | true => exact h.currencyBase
  | false => exact h.currency

theorem ItemOfAllocation.withinStored {candidates : List CandidateTransaction}
    (hmirror : List.Forall₂ Mirrors transactions candidates)
    (hids : (transactions.map (·.id)).Nodup)
    (hcandidate : candidate ∈ candidates) (hid : allocation.transactionID = candidate.id)
    (hbase : allocation.useBaseAmount = cfg.useBaseAmount)
    (hcurrency : allocation.currency = relevantCurrency cfg candidate)
    (h : ItemOfAllocation transactions allocation item) :
    WithinStored cfg transactions item ∧ item.allocatedCurrency = allocation.currency := by
  obtain ⟨-, tx, htx, hitem, hallocation, hfields⟩ := h
  obtain ⟨mirrored, hmirrored, hmirrors⟩ := exists_left_of_forall₂ hmirror hcandidate
  -- the transaction found for the id is the one the candidate mirrors
  have hsame : mirrored = tx := by
    apply List.inj_on_of_nodup_map hids hmirrored htx
    rw [hallocation, hid, hmirrors.id]
  rw [hsame] at hmirrors
  rw [hmirrors.relevantCurrency_eq] at hcurrency
  have hbound := item.bounds.2
  unfold storedCurrency at hcurrency
  cases huse : cfg.useBaseAmount with
  | true =>
    rw [hbase, huse, if_pos rfl] at hfields
    rw [huse, if_pos rfl, hfields.2] at hcurrency
    refine ⟨⟨tx, htx, hitem, ?_, item.expectedAmount, ?_, hbound⟩, hcurrency.symm⟩
    · rw [storedCurrency, huse]
      exact hfields.2
    · rw [storedAmount, huse]
      exact hfields.1
  | false =>
    rw [hbase, huse, if_neg Bool.false_ne_true] at hfields
    rw [huse, if_neg Bool.false_ne_true, Option.getD_some] at hcurrency
    have hitemCurrency : item.allocatedCurrency = tx.currency := by
      rw [hfields.2, hcurrency, ite_self]
    refine ⟨⟨tx, htx, hitem, ?_, item.expectedAmount, ?_, hbound⟩,
      hitemCurrency.trans hcurrency.symm⟩
    · rw [storedCurrency, huse, hitemCurrency]
      rfl
    · rw [storedAmount, huse, ← hfields.1]
      rfl

theorem allocatedAmounts_eq (h : List.Forall₂ (ItemOfAllocation transactions) allocations items) :
    items.map (·.allocatedAmount) = allocations.map (·.allocatedAmount) := by
  induction h with
  | nil => rfl
  | cons hfirst _ ih => rw [List.map_cons, List.map_cons, hfirst.amount, ih]

/-! ## Balanced groups -/

def allocatedTo (transactions : List Transaction) (group : MatchGroup) : Decimal :=
  ((group.items.filter fun item =>
    item.transactionID ∈ transactions.map (·.id)).map (·.allocatedAmount)).sum

structure BalancedGroup (rules : List RuleDefinition)
    (left right : List Transaction) (group : MatchGroup) : Prop where
  balanced : allocatedTo left group = allocatedTo right group
  oneCurrency : ∃ currency, ∀ item ∈ group.items, item.allocatedCurrency = currency
  bounded : ∃ rule ∈ rules, rule.id = group.ruleID ∧
    ∃ cfg, rule.allocation = some cfg ∧ ∀ item ∈ group.items, WithinStored cfg (left ++ right) item

theorem allocatedTo_sides {groupID : UUID} {left right : List Transaction} {group : MatchGroup}
    (hdisjoint : (left.map (·.id)).Disjoint (right.map (·.id)))
    (hleft : ∀ item ∈ leftItems, item.transactionID ∈ left.map (·.id))
    (hright : ∀ item ∈ rightItems, item.transactionID ∈ right.map (·.id))
    (hitems : group.items = (leftItems ++ rightItems).map (MatchItem.setGroup groupID)) :
    allocatedTo left group = (leftItems.map (·.allocatedAmount)).sum ∧
      allocatedTo right group = (rightItems.map (·.allocatedAmount)).sum := by
  have hfilter : ∀ (ids : List UUID) (items : List MatchItem),
      ((items.map (MatchItem.setGroup groupID)).filter fun item =>
        item.transactionID ∈ ids).map (·.allocatedAmount) =
      (items.filter fun item => item.transactionID ∈ ids).map (·.allocatedAmount) := by
    intro ids items
    rw [List.filter_map, List.map_map]
    rfl
  unfold allocatedTo
  rw [hitems, hfilter, hfilter, List.filter_append, List.filter_append]
  constructor
  · rw [List.filter_eq_self.mpr (by simpa using hleft),
      List.filter_eq_nil_iff.mpr ?_, List.append_nil]
    intro item hitem
    simpa using fun hmem => hdisjoint hmem (hright item hitem)
  · rw [List.filter_eq_nil_iff.mpr ?_, List.nil_append,
      List.filter_eq_self.mpr (by simpa using hright)]
    intro item hitem
    simpa using fun hmem => hdisjoint (hleft item hitem) hmem

theorem buildAllocationMatchProposal_target (h : cfg.direction ≠ .rightToLeft) :
    buildAllocationMatchProposal cfg rule target allocations total score =
      { ruleID := rule.id
        leftIDs := [target.id]
        rightIDs := allocations.map (·.transactionID)
        leftAllocations := [⟨target.id, total, relevantCurrency cfg target, cfg.useBaseAmount⟩]
        rightAllocations := allocations
        score := score
        mode := .oneToMany } := by
  unfold buildAllocationMatchProposal
  rw [if_neg h]
  rfl

section Groups

variable {rules : List RuleDefinition} {left right : List Transaction}
  {leftCandidates rightCandidates : List CandidateTransaction}
  {proposal : MatchProposal} {group : MatchGroup}
  {groupID contextID runID : UUID}

theorem BuiltFrom.not_swapped (hdisjoint : (left.map (·.id)).Disjoint (right.map (·.id)))
    (hrightIDs : rightCandidates.map (·.id) = right.map (·.id))
    (hsplit : CompleteSplit cfg target (sortTransactions rightCandidates) used allocations total)
    (h : BuiltFrom groupID contextID runID (sidesOf left right)
      (buildAllocationMatchProposal cfg rule target allocations total score)
      group) : cfg.direction ≠ .rightToLeft := by
  intro hdirection
  have hleftIDs : (buildAllocationMatchProposal cfg rule target allocations
      total score).leftIDs = allocations.map (·.transactionID) := by
    unfold buildAllocationMatchProposal
    rw [if_pos hdirection]
  obtain ⟨allocation, hallocation⟩ := List.exists_mem_of_ne_nil _ hsplit.nonempty
  have hid := List.mem_map_of_mem (f := Allocation.transactionID) hallocation
  have honLeft := (h.ids rfl).2.left _ (by rw [hleftIDs]; exact hid)
  have honRight := (hsplit.ids_free _ hid).2
  rw [mem_sortTransactions_ids, hrightIDs] at honRight
  exact hdisjoint honLeft honRight

theorem WithinStored.mono {others : List Transaction} (hsubset : transactions ⊆ others)
    (h : WithinStored cfg transactions item) : WithinStored cfg others item := by
  obtain ⟨tx, htx, hstored⟩ := h
  exact ⟨tx, hsubset htx, hstored⟩

theorem WithinStored.setGroup (h : WithinStored cfg transactions item) (groupID : UUID) :
    WithinStored cfg transactions (MatchItem.setGroup groupID item) :=
  ⟨h.stored⟩

theorem completeSplit_items_withinStored
    (hmirror : List.Forall₂ Mirrors right rightCandidates) (hids : (right.map (·.id)).Nodup)
    (hsplit : CompleteSplit cfg target (sortTransactions rightCandidates) used allocations total)
    (hitems : List.Forall₂ (ItemOfAllocation right) allocations items) :
    ∀ item ∈ items, WithinStored cfg right item ∧
      item.allocatedCurrency = relevantCurrency cfg target := by
  intro item hitem
  obtain ⟨allocation, hallocation, hof⟩ := exists_left_of_forall₂ hitems hitem
  obtain ⟨candidate, hcandidate, -, htaken⟩ := hsplit.taken allocation hallocation
  have hwithin := hof.withinStored hmirror hids (mem_stableSort.mp hcandidate)
    htaken.id htaken.useBaseAmount
    (htaken.currency.trans htaken.candidateCurrency.symm)
  exact ⟨hwithin.1, hwithin.2.trans htaken.currency⟩

theorem group_items_withinStored
    (hleft : ∀ item ∈ leftItems, WithinStored cfg left item ∧ item.allocatedCurrency = currency)
    (hright : ∀ item ∈ rightItems, WithinStored cfg right item ∧ item.allocatedCurrency = currency)
    (hitems : group.items = (leftItems ++ rightItems).map (MatchItem.setGroup groupID)) :
    ∀ item ∈ group.items, WithinStored cfg (left ++ right) item ∧
      item.allocatedCurrency = currency := by
  intro item hitem
  rw [hitems] at hitem
  obtain ⟨source, hsource, rfl⟩ := List.mem_map.mp hitem
  rcases List.mem_append.mp hsource with hl | hr
  · obtain ⟨hwithin, hcurrency⟩ := hleft source hl
    exact ⟨(hwithin.mono (List.subset_append_left _ _)).setGroup _, hcurrency⟩
  · obtain ⟨hwithin, hcurrency⟩ := hright source hr
    exact ⟨(hwithin.mono (List.subset_append_right _ _)).setGroup _, hcurrency⟩

theorem BuiltFrom.balanced (hids : ((left ++ right).map (·.id)).Nodup)
    (hleftMirror : List.Forall₂ Mirrors left leftCandidates)
    (hrightMirror : List.Forall₂ Mirrors right rightCandidates)
    (hsplit : SplitProposal (sortRules rules) (sortTransactions leftCandidates)
      (sortTransactions rightCandidates) proposal)
    (hbuilt : BuiltFrom groupID contextID runID (sidesOf left right) proposal group) :
    BalancedGroup rules left right group := by
  rw [List.map_append] at hids
  have hdisjoint := List.disjoint_of_nodup_append hids
  obtain ⟨rule, hrule, cfg, target, used, allocations, total, score, hcfg,
    htarget, hcomplete, rfl⟩ := hsplit
  have hdirection := hbuilt.not_swapped hdisjoint (ids_eq_of_mirrors hrightMirror) hcomplete
  rw [buildAllocationMatchProposal_target hdirection] at hbuilt
  obtain ⟨leftItems, rightItems, hleftItems, hrightItems, hitems⟩ := hbuilt.items
  obtain ⟨hleftIDs, hleftMem⟩ := ids_of_items hleftItems
  obtain ⟨hrightIDs, hrightMem⟩ := ids_of_items hrightItems
  have hleftOf : List.Forall₂ (ItemOfAllocation left)
      [⟨target.id, total, relevantCurrency cfg target, cfg.useBaseAmount⟩]
      leftItems :=
    items_of_allocations (by simp) hleftItems
  have hrightOf := items_of_allocations hcomplete.nodup hrightItems
  have hleftWithin : ∀ item ∈ leftItems, WithinStored cfg left item ∧
      item.allocatedCurrency = relevantCurrency cfg target := by
    intro item hitem
    obtain ⟨allocation, hallocation, hof⟩ := exists_left_of_forall₂ hleftOf hitem
    cases List.mem_singleton.mp hallocation
    exact hof.withinStored hleftMirror hids.of_append_left (mem_stableSort.mp htarget) rfl rfl rfl
  obtain ⟨hleftSum, hrightSum⟩ := allocatedTo_sides hdisjoint
    (fun item hitem => hleftMem _ (by rw [← hleftIDs]; exact List.mem_map_of_mem hitem))
    (fun item hitem => hrightMem _ (by rw [← hrightIDs]; exact List.mem_map_of_mem hitem)) hitems
  have hgroupItem := group_items_withinStored hleftWithin
    (completeSplit_items_withinStored hrightMirror hids.of_append_right hcomplete hrightOf)
    hitems
  refine ⟨?_, ⟨_, fun item hitem => (hgroupItem item hitem).2⟩, rule,
    mem_stableSort.mp hrule, hbuilt.ruleID.symm, cfg, hcfg,
    fun item hitem => (hgroupItem item hitem).1⟩
  rw [hleftSum, hrightSum, allocatedAmounts_eq hleftOf,
    allocatedAmounts_eq hrightOf, ← hcomplete.total_eq]
  simp

end Groups

/--
Every group that a one-to-many execution of decoded rules builds is balanced,
whatever fee normalisation the candidates went through.
-/
theorem oneToMany_groups_balanced {sources : List (Option MatchRule)}
    {definitions : List RuleDefinition} {engine : Option Engine} {input : ExecuteRulesInput}
    {rulesResult : EngineResult} {environment : ProposalEnvironment}
    {output : ProposalProcessingResult} (hdecoded : decodeRules sources = .ok definitions)
    (hids : ((input.left ++ input.right).map (·.id)).Nodup)
    (hrules : executeByContextTypeDetailed engine definitions
      input.candidates.1 input.candidates.2 .oneToMany = .ok rulesResult)
    (hsides : environment.sides = sidesOf input.left input.right)
    (houtput : processProposals environment rulesResult.proposals = .ok output) :
    ∀ group ∈ output.groups, BalancedGroup definitions input.left input.right group := by
  obtain ⟨hleftMirror, hrightMirror⟩ := input.candidates_mirror
  have hrightIDs : (input.candidates.2.map (·.id)).Nodup := by
    rw [ids_eq_of_mirrors hrightMirror]
    rw [List.map_append] at hids
    exact hids.of_append_right
  rcases executeByContextTypeDetailed_eq_ok hrules with ⟨-, hrules⟩ | ⟨hother, -⟩
  · have hsplits := execute1vNDetailed_splitProposals hrightIDs
      (decodeRules_allocates hdecoded) hrules
    intro group hgroup
    obtain ⟨earlier, proposal, hreached, hbuild⟩ := processProposals_built houtput hgroup
    unfold ProposalEnvironment.Builds at hbuild
    rw [hsides] at hbuild
    exact hbuild.balanced hids hleftMirror hrightMirror
      (hsplits proposal (hreached.subset (by simp)))
  · exact absurd rfl hother

def splitInput : ExecuteRulesInput where
  contextID := ⟨7⟩
  contextType := .oneToMany
  left := [plainTransaction ⟨1⟩ 100]
  right := [plainTransaction ⟨2⟩ 60, plainTransaction ⟨3⟩ 40]
  leftRules := []
  rightRules := []
  allSchedules := fun _ => none
  feeNormalization := .none

def processingEnvironment (left right : List Transaction) : ProposalEnvironment where
  contextID := ⟨7⟩
  runID := ⟨6⟩
  ctxErr := fun _ => none
  newGroupID := fun index => ⟨BitVec.ofNat 128 (100 + index)⟩
  sides := sidesOf left right

def splitEnvironment : ProposalEnvironment :=
  processingEnvironment splitInput.left splitInput.right

theorem oneToMany_groups_balanced_split :
    ∃ definitions rulesResult output,
      decodeRules [some ⟨⟨9⟩, 1, .exact, [("matchAmount", .boolean false)]⟩] = .ok definitions ∧
        executeByContextTypeDetailed (some newEngine) definitions
          splitInput.candidates.1 splitInput.candidates.2 .oneToMany = .ok rulesResult ∧
        processProposals splitEnvironment rulesResult.proposals = .ok output ∧
        output.groups.map (·.transactionIDs) = [[⟨1⟩, ⟨3⟩, ⟨2⟩]] ∧
        ∀ group ∈ output.groups,
          BalancedGroup definitions splitInput.left splitInput.right group := by
  have hrun : (do
      let definitions ← decodeRules [some ⟨⟨9⟩, 1, .exact, [("matchAmount", .boolean false)]⟩]
      let rulesResult ← executeByContextTypeDetailed (some newEngine)
        definitions splitInput.candidates.1 splitInput.candidates.2 .oneToMany
      let output ← processProposals splitEnvironment rulesResult.proposals
      return output.groups.map (·.transactionIDs)) =
        Except.ok [[⟨1⟩, ⟨3⟩, ⟨2⟩]] := by decide +kernel
  obtain ⟨definitions, hdecoded, hrun⟩ := bind_eq_ok.mp hrun
  obtain ⟨rulesResult, hrules, hrun⟩ := bind_eq_ok.mp hrun
  obtain ⟨output, houtput, hgroups⟩ := bind_eq_ok.mp hrun
  exact ⟨definitions, rulesResult, output, hdecoded, hrules, houtput,
    Except.ok.inj hgroups, oneToMany_groups_balanced hdecoded (by decide) hrules
      rfl houtput⟩

end Matcher.Command
