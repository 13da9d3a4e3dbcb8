import Matcher.Command.RuleExecution
import Matcher.Foundation.IndexedMap

/-!
# Proposal processing

A proposal becomes a match group when every id is found on its side and passes
the checks of its item.  Groups are recorded with the ids of their transactions,
by confirmation and by side; a proposal that fails a check is dropped.
-/

namespace Matcher.Command

open Foundation
open Matching

variable {proposals : List MatchProposal}

/-! ## Items of a proposal -/

abbrev TransactionMap := UUID → Option Transaction

abbrev Reasons := UUID → Option String

def indexTransactions (transactions : List Transaction) : TransactionMap :=
  indexBy (·.id) id transactions

def allocationMap (allocations : List Allocation) : UUID → Option Decimal :=
  indexBy (·.transactionID) (·.allocatedAmount) allocations

def allocationCurrencyMap (allocations : List Allocation) : UUID → Option String :=
  indexBy (·.transactionID) (·.currency) allocations

def allocationUseBaseMap (allocations : List Allocation) : UUID → Option Bool :=
  indexBy (·.transactionID) (·.useBaseAmount) allocations

structure AllocationErrorInfo where
  logMessage : String
  reason : String
  spanErr : GoError
deriving DecidableEq, Repr

def missingBaseAmount : AllocationErrorInfo where
  logMessage := "allocation missing base amount"
  reason := "MISSING_BASE_AMOUNT"
  spanErr := .sentinel ⟨"ErrMissingBaseAmountForAllocation", "missing base amount for allocation"⟩

def missingBaseCurrency : AllocationErrorInfo where
  logMessage := "allocation missing base currency"
  reason := "MISSING_BASE_CURRENCY"
  spanErr := .sentinel ⟨"ErrMissingBaseCurrencyForAllocation",
    "missing base currency for allocation"⟩

structure ProposalItemsContext where
  txByID : TransactionMap
  allocations : UUID → Option Decimal
  allocationCurrencies : UUID → Option String
  allocationUseBase : UUID → Option Bool

structure AllocationFields where
  allocated : Decimal
  currency : String
  expected : Decimal
deriving DecidableEq, Repr

def baseFields (tx : Transaction) (allocated : Decimal) :
    Except AllocationErrorInfo AllocationFields :=
  match tx.amountBase with
  | none => .error missingBaseAmount
  | some amountBase =>
    match tx.baseCurrency with
    | none => .error missingBaseCurrency
    | some baseCurrency =>
      if trimSpace baseCurrency = "" then .error missingBaseCurrency
      else .ok ⟨allocated, baseCurrency, amountBase⟩

def allocationFields (tx : Transaction) (pic : ProposalItemsContext) :
    Except AllocationErrorInfo AllocationFields :=
  match pic.allocations tx.id with
  | none => .ok ⟨tx.amount, tx.currency, tx.amount⟩
  | some allocated =>
    let currency :=
      match pic.allocationCurrencies tx.id with
      | none => tx.currency
      | some allocationCurrency =>
        if allocationCurrency ≠ "" then allocationCurrency
        else tx.currency
    if (pic.allocationUseBase tx.id).getD false then baseFields tx allocated
    else .ok ⟨allocated, currency, tx.amount⟩

/-- The items of the ids, or nothing; a missing base field is recorded. -/
def buildProposalItems (pic : ProposalItemsContext) :
    List UUID → Reasons → Option (List MatchItem) × Reasons
  | [], unmatchedReasons => (some [], unmatchedReasons)
  | id :: rest, unmatchedReasons =>
    match pic.txByID id with
    | none => (none, unmatchedReasons)
    | some tx =>
      match allocationFields tx pic with
      | .error baseErr => (none, Function.update unmatchedReasons tx.id (some baseErr.reason))
      | .ok fields =>
        match newMatchItem tx.id fields.allocated fields.currency
          fields.expected (fields.allocated < fields.expected) with
        | .error _ => (none, unmatchedReasons)
        | .ok item =>
          match buildProposalItems pic rest unmatchedReasons with
          | (none, unmatchedReasons) => (none, unmatchedReasons)
          | (some items, unmatchedReasons) => (some (item :: items), unmatchedReasons)

def sideContext (txByID : TransactionMap) (allocations : List Allocation) :
    ProposalItemsContext where
  txByID := txByID
  allocations := allocationMap allocations
  allocationCurrencies := allocationCurrencyMap allocations
  allocationUseBase := allocationUseBaseMap allocations

/-! ## Groups -/

def minMatchedItemsCount : ℕ := 2

structure Sides where
  leftByID : TransactionMap
  rightByID : TransactionMap

def confirmWhenSure (group : MatchGroup) : MatchGroup :=
  if group.canAutoConfirm then
    match group.confirm with
    | .error _ => group
    | .ok confirmed => confirmed
  else group

def groupOfItems (groupID contextID runID : UUID) (proposal : MatchProposal)
    (confidence : ConfidenceScore) (proposalItems : List MatchItem) : Option MatchGroup :=
  if proposalItems.length < minMatchedItemsCount then none
  else
    match newMatchGroup groupID contextID runID proposal.ruleID confidence proposalItems with
    | .error _ => none
    | .ok group => some (confirmWhenSure group)

/-- An empty side and an invalid one drop the proposal alike. -/
def nonemptyItems (items : Option (List MatchItem)) : Option (List MatchItem) :=
  items.filter fun items => items.length ≠ 0

def processSingleProposal (groupID contextID runID : UUID) (proposal : MatchProposal)
    (sides : Sides) (unmatchedReasons : Reasons) : Except GoError (Option MatchGroup × Reasons) :=
  match parseConfidenceScore proposal.score with
  | .error cause => .error (.wrap "invalid proposal score %d: %w" [Int.repr proposal.score] cause)
  | .ok confidence =>
    let (left, unmatchedReasons) := buildProposalItems
      (sideContext sides.leftByID proposal.leftAllocations) proposal.leftIDs
      unmatchedReasons
    match nonemptyItems left with
    | none => .ok (none, unmatchedReasons)
    | some leftItems =>
      let (right, unmatchedReasons) := buildProposalItems
        (sideContext sides.rightByID proposal.rightAllocations)
        proposal.rightIDs unmatchedReasons
      match nonemptyItems right with
      | none => .ok (none, unmatchedReasons)
      | some rightItems =>
        .ok (groupOfItems groupID contextID runID proposal confidence
          (leftItems ++ rightItems), unmatchedReasons)

/-! ## Records -/

structure ProposalProcessingResult where
  groups : List MatchGroup
  items : List MatchItem
  autoMatchedIDs : List UUID
  pendingReviewIDs : List UUID
  leftMatched : Finset UUID
  rightMatched : Finset UUID
  leftConfirmed : Finset UUID
  rightConfirmed : Finset UUID
  leftPending : Finset UUID
  rightPending : Finset UUID
  unmatchedReasons : Reasons

def emptyProcessingResult : ProposalProcessingResult :=
  ⟨[], [], [], [], ∅, ∅, ∅, ∅, ∅, ∅, fun _ => none⟩

def recordItem (sides : Sides) (canAutoConfirm : Bool) (result : ProposalProcessingResult)
    (item : MatchItem) : ProposalProcessingResult :=
  let id := item.transactionID
  let result :=
    if canAutoConfirm then
      { result with autoMatchedIDs := result.autoMatchedIDs ++ [id] }
    else { result with pendingReviewIDs := result.pendingReviewIDs ++ [id] }
  if (sides.leftByID id).isSome then
    let result := { result with leftMatched := insert id result.leftMatched }
    if canAutoConfirm then
      { result with leftConfirmed := insert id result.leftConfirmed }
    else { result with leftPending := insert id result.leftPending }
  else if (sides.rightByID id).isSome then
    let result := { result with rightMatched := insert id result.rightMatched }
    if canAutoConfirm then
      { result with rightConfirmed := insert id result.rightConfirmed }
    else { result with rightPending := insert id result.rightPending }
  else result

def recordGroupResults (sides : Sides) (result : ProposalProcessingResult) (group : MatchGroup) :
    ProposalProcessingResult :=
  group.items.foldl (recordItem sides group.canAutoConfirm)
    { result with groups := result.groups ++ [group], items := result.items ++ group.items }

/--
What the loop reads from its surroundings: the cancellation of the call as it is
seen at each proposal, and the identifiers of new groups.
-/
structure ProposalEnvironment where
  contextID : UUID
  runID : UUID
  ctxErr : ℕ → Option GoError
  newGroupID : ℕ → UUID
  sides : Sides

variable {reasons reasons' : Reasons} {items : List MatchItem}
  {groupID contextID runID : UUID} {group : MatchGroup}
  {proposal : MatchProposal} {sides : Sides} {transactions : List Transaction}
  {result result' : ProposalProcessingResult}
  {environment : ProposalEnvironment} {entry : MatchProposal × ℕ} {confidence : ConfidenceScore}

def processProposal (environment : ProposalEnvironment) (result : ProposalProcessingResult)
    (entry : MatchProposal × ℕ) : Except GoError ProposalProcessingResult :=
  match environment.ctxErr entry.2 with
  | some cause => .error (.wrap "process proposals: %w" [] cause)
  | none =>
    match processSingleProposal (environment.newGroupID entry.2)
      environment.contextID environment.runID entry.1 environment.sides
      result.unmatchedReasons with
    | .error cause => .error (.wrap "process proposal: %w" [] cause)
    | .ok (none, unmatchedReasons) => .ok { result with unmatchedReasons := unmatchedReasons }
    | .ok (some group, unmatchedReasons) =>
      .ok (recordGroupResults environment.sides
        { result with unmatchedReasons := unmatchedReasons } group)

def processProposals (environment : ProposalEnvironment) (proposals : List MatchProposal) :
    Except GoError ProposalProcessingResult :=
  proposals.zipIdx.foldlM (processProposal environment) emptyProcessingResult

/-! ## What a built group is made of -/

structure ItemOf (pic : ProposalItemsContext) (id : UUID) (item : MatchItem) : Prop where
  found : ∃ tx, pic.txByID id = some tx ∧ item.transactionID = tx.id ∧
    ∃ fields, allocationFields tx pic = .ok fields ∧
      item.allocatedAmount = fields.allocated ∧
        item.allocatedCurrency = fields.currency ∧ item.expectedAmount = fields.expected

theorem buildProposalItems_eq_some {pic : ProposalItemsContext} {ids : List UUID}
    (h : buildProposalItems pic ids reasons = (some items, reasons')) :
    List.Forall₂ (ItemOf pic) ids items := by
  induction ids generalizing items reasons' with
  | nil =>
    cases h
    exact .nil
  | cons id _ ih =>
    rw [buildProposalItems] at h
    cases htx : pic.txByID id with
    | none =>
      rw [htx] at h
      cases h
    | some tx =>
      rw [htx] at h
      dsimp only at h
      split at h
      · cases h
      · next fields hfields =>
        split at h
        · cases h
        · next item hitem =>
          obtain ⟨hid, hallocated, hcurrency, hexpected⟩ := newMatchItem_eq_ok hitem
          split at h
          · cases h
          · next tail _ hrest =>
            cases h
            exact .cons ⟨tx, htx, hid, fields, hfields, hallocated, hcurrency, hexpected⟩ (ih hrest)

structure BuiltFrom (groupID contextID runID : UUID) (sides : Sides)
    (proposal : MatchProposal) (group : MatchGroup) : Prop where
  id : group.id = groupID
  contextID : group.contextID = contextID
  runID : group.runID = runID
  ruleID : group.ruleID = proposal.ruleID
  score : group.confidence.value = proposal.score
  status : group.status =
    if group.canAutoConfirm then .confirmed else .proposed
  leftNonempty : proposal.leftIDs ≠ []
  items : ∃ leftItems rightItems,
    List.Forall₂ (ItemOf (sideContext sides.leftByID proposal.leftAllocations))
        proposal.leftIDs leftItems ∧
      List.Forall₂
        (ItemOf (sideContext sides.rightByID proposal.rightAllocations))
        proposal.rightIDs rightItems ∧
      group.items = (leftItems ++ rightItems).map (MatchItem.setGroup groupID)

theorem newMatchGroup_eq_ok {ruleID : UUID}
    (h : newMatchGroup groupID contextID runID ruleID confidence items = .ok group) :
    group = ⟨groupID, contextID, runID, ruleID, confidence, .proposed,
      items.map (MatchItem.setGroup groupID), none⟩ := by
  unfold newMatchGroup at h
  split_ifs at h
  exact (Except.ok.inj h).symm

theorem confirmWhenSure_of_proposed (h : group.status = .proposed) :
    confirmWhenSure group = { group with
      status := if group.canAutoConfirm then .confirmed else .proposed } := by
  unfold confirmWhenSure MatchGroup.confirm
  cases group.canAutoConfirm with
  | true => simp [h]
  | false =>
    cases group
    cases h
    rfl

theorem nonemptyItems_eq_some {items : Option (List MatchItem)} {found : List MatchItem}
    (h : nonemptyItems items = some found) : items = some found ∧ found ≠ [] := by
  obtain ⟨hitems, hlength⟩ := Option.filter_eq_some_iff.mp h
  exact ⟨hitems, by simpa using hlength⟩

theorem processSingleProposal_group
    (h : processSingleProposal groupID contextID runID proposal sides reasons =
      .ok (some group, reasons')) :
    ∃ confidence leftItems rightItems,
      parseConfidenceScore proposal.score = .ok confidence ∧
        leftItems ≠ [] ∧
        List.Forall₂
          (ItemOf (sideContext sides.leftByID proposal.leftAllocations))
          proposal.leftIDs leftItems ∧
        List.Forall₂
          (ItemOf (sideContext sides.rightByID proposal.rightAllocations))
          proposal.rightIDs rightItems ∧
        groupOfItems groupID contextID runID proposal confidence
          (leftItems ++ rightItems) = some group := by
  unfold processSingleProposal at h
  cases hconfidence : parseConfidenceScore proposal.score with
  | error =>
    rw [hconfidence] at h
    cases h
  | ok confidence =>
    rw [hconfidence] at h
    dsimp only at h
    split at h
    · cases h
    next leftItems hleft =>
    split at h
    · cases h
    next rightItems hright =>
    obtain ⟨hleft, hleftNonempty⟩ := nonemptyItems_eq_some hleft
    obtain ⟨hright, -⟩ := nonemptyItems_eq_some hright
    exact ⟨confidence, leftItems, rightItems, rfl, hleftNonempty,
      buildProposalItems_eq_some (Prod.ext hleft rfl),
      buildProposalItems_eq_some (Prod.ext hright rfl),
      (Prod.ext_iff.mp (Except.ok.inj h)).1⟩

theorem groupOfItems_eq_some
    (h : groupOfItems groupID contextID runID proposal confidence items = some group) :
    group = ⟨groupID, contextID, runID, proposal.ruleID, confidence,
      if autoConfirmConfidence ≤ confidence.value then .confirmed
      else .proposed,
      items.map (MatchItem.setGroup groupID), none⟩ := by
  unfold groupOfItems at h
  split at h
  case isTrue => cases h
  case isFalse =>
    split at h
    · cases h
    next created hcreated =>
    have hcreated := newMatchGroup_eq_ok hcreated
    have hproposed : created.status = .proposed := by rw [hcreated]
    rw [confirmWhenSure_of_proposed hproposed, hcreated] at h
    simpa [MatchGroup.canAutoConfirm] using (Option.some.inj h).symm

theorem processSingleProposal_eq_ok
    (h : processSingleProposal groupID contextID runID proposal sides reasons =
      .ok (some group, reasons')) : BuiltFrom groupID contextID runID sides proposal group := by
  obtain ⟨confidence, leftItems, rightItems, hconfidence, hleftNonempty, hleftItems,
    hrightItems, hgroup⟩ := processSingleProposal_group h
  rw [groupOfItems_eq_some hgroup]
  refine ⟨rfl, rfl, rfl, rfl, parseConfidenceScore_value hconfidence, ?_, ?_, leftItems,
    rightItems, hleftItems, hrightItems, rfl⟩
  · simp [MatchGroup.canAutoConfirm]
  · intro hnil
    rw [hnil] at hleftItems
    exact hleftNonempty (List.forall₂_nil_left_iff.mp hleftItems)

/-! ## Ids of a built group -/

def sidesOf (left right : List Transaction) : Sides :=
  ⟨indexTransactions left, indexTransactions right⟩

def MatchGroup.transactionIDs (group : MatchGroup) : List UUID :=
  group.items.map (·.transactionID)

theorem indexTransactions_eq_some {id : UUID} {tx : Transaction}
    (h : indexTransactions transactions id = some tx) : tx ∈ transactions ∧ tx.id = id := by
  obtain ⟨found, hfound, hid, rfl⟩ := indexBy_eq_some h
  exact ⟨hfound, hid⟩

theorem indexTransactions_isSome_iff {id : UUID} :
    (indexTransactions transactions id).isSome ↔ id ∈ transactions.map (·.id) :=
  indexBy_isSome_iff

theorem ids_of_items {allocations : List Allocation} {ids : List UUID}
    (h : List.Forall₂ (ItemOf (sideContext (indexTransactions transactions) allocations))
      ids items) :
    items.map (·.transactionID) = ids ∧ ∀ id ∈ ids, id ∈ transactions.map (·.id) := by
  induction h with
  | nil => exact ⟨rfl, by simp⟩
  | cons hfirst _ ih =>
    obtain ⟨tx, hfound, hitem, -⟩ := hfirst
    obtain ⟨htx, rfl⟩ := indexTransactions_eq_some hfound
    refine ⟨by rw [List.map_cons, hitem, ih.1], ?_⟩
    intro id hid
    rcases List.mem_cons.mp hid with rfl | hrest
    · exact List.mem_map_of_mem htx
    · exact ih.2 id hrest

theorem BuiltFrom.ids {left right : List Transaction} (hsides : sides = sidesOf left right)
    (h : BuiltFrom groupID contextID runID sides proposal group) :
    group.transactionIDs = proposal.leftIDs ++ proposal.rightIDs ∧
      Placed (left.map (·.id)) (right.map (·.id)) proposal := by
  subst hsides
  obtain ⟨leftItems, rightItems, hleft, hright, hitems⟩ := h.items
  obtain ⟨hleftIDs, hleftMem⟩ := ids_of_items hleft
  obtain ⟨hrightIDs, hrightMem⟩ := ids_of_items hright
  refine ⟨?_, hleftMem, h.leftNonempty, hrightMem⟩
  rw [MatchGroup.transactionIDs, hitems, List.map_map]
  change (leftItems ++ rightItems).map (·.transactionID) = _
  rw [List.map_append, hleftIDs, hrightIDs]

/-! ## Bookkeeping -/

def Sides.OnLeft (sides : Sides) (id : UUID) : Prop :=
  (sides.leftByID id).isSome

def Sides.OnRight (sides : Sides) (id : UUID) : Prop :=
  ¬ sides.OnLeft id ∧ (sides.rightByID id).isSome

structure Records (sides : Sides) (canAutoConfirm : Bool) (ids : List UUID)
    (before after : ProposalProcessingResult) : Prop where
  groups : after.groups = before.groups
  items : after.items = before.items
  autoMatchedIDs : after.autoMatchedIDs =
    before.autoMatchedIDs ++ if canAutoConfirm then ids else []
  pendingReviewIDs : after.pendingReviewIDs =
    before.pendingReviewIDs ++ if canAutoConfirm then [] else ids
  leftMatched : ∀ id, id ∈ after.leftMatched ↔ id ∈ before.leftMatched ∨ id ∈ ids ∧ sides.OnLeft id
  rightMatched : ∀ id, id ∈ after.rightMatched ↔
    id ∈ before.rightMatched ∨ id ∈ ids ∧ sides.OnRight id
  leftConfirmed : ∀ id, id ∈ after.leftConfirmed ↔
    id ∈ before.leftConfirmed ∨ id ∈ (if canAutoConfirm then ids else []) ∧ sides.OnLeft id
  rightConfirmed : ∀ id, id ∈ after.rightConfirmed ↔
    id ∈ before.rightConfirmed ∨ id ∈ (if canAutoConfirm then ids else []) ∧ sides.OnRight id
  leftPending : ∀ id, id ∈ after.leftPending ↔
    id ∈ before.leftPending ∨ id ∈ (if canAutoConfirm then [] else ids) ∧ sides.OnLeft id
  rightPending : ∀ id, id ∈ after.rightPending ↔
    id ∈ before.rightPending ∨ id ∈ (if canAutoConfirm then [] else ids) ∧ sides.OnRight id

theorem Records.nil (sides : Sides) (canAutoConfirm : Bool) (result : ProposalProcessingResult) :
    Records sides canAutoConfirm [] result result := by
  constructor <;> simp

theorem recordItem_records (sides : Sides) (canAutoConfirm : Bool)
    (result : ProposalProcessingResult) (item : MatchItem) :
    Records sides canAutoConfirm [item.transactionID] result
      (recordItem sides canAutoConfirm result item) := by
  cases canAutoConfirm <;>
    constructor <;>
    grind [recordItem, Sides.OnLeft, Sides.OnRight]

theorem Records.append {canAutoConfirm : Bool} {first second : List UUID}
    {before middle after : ProposalProcessingResult}
    (hfirst : Records sides canAutoConfirm first before middle)
    (hsecond : Records sides canAutoConfirm second middle after) :
    Records sides canAutoConfirm (first ++ second) before after := by
  obtain ⟨hgroups, hitems, hauto, hpending, hleft, hright, hleftConfirmed,
    hrightConfirmed, hleftPending, hrightPending⟩ := hfirst
  cases canAutoConfirm <;>
    constructor <;>
    grind [Records]

theorem recordItems_records (sides : Sides) (canAutoConfirm : Bool)
    (items : List MatchItem) (result : ProposalProcessingResult) :
    Records sides canAutoConfirm (items.map (·.transactionID)) result
      (items.foldl (recordItem sides canAutoConfirm) result) := by
  induction items generalizing result with
  | nil => exact Records.nil sides canAutoConfirm result
  | cons item _ ih =>
    exact (recordItem_records sides canAutoConfirm result item).append
      (ih (recordItem sides canAutoConfirm result item))

structure Bookkeeping (sides : Sides) (result : ProposalProcessingResult) : Prop where
  items : result.items = result.groups.flatMap (·.items)
  autoMatchedIDs : result.autoMatchedIDs =
    (result.groups.filter (·.canAutoConfirm)).flatMap (·.transactionIDs)
  pendingReviewIDs : result.pendingReviewIDs =
    (result.groups.filter (!·.canAutoConfirm)).flatMap (·.transactionIDs)
  leftMatched : ∀ id, id ∈ result.leftMatched ↔
    id ∈ result.groups.flatMap (·.transactionIDs) ∧ sides.OnLeft id
  rightMatched : ∀ id, id ∈ result.rightMatched ↔
    id ∈ result.groups.flatMap (·.transactionIDs) ∧ sides.OnRight id
  leftConfirmed : ∀ id, id ∈ result.leftConfirmed ↔ id ∈ result.autoMatchedIDs ∧ sides.OnLeft id
  rightConfirmed : ∀ id, id ∈ result.rightConfirmed ↔ id ∈ result.autoMatchedIDs ∧ sides.OnRight id
  leftPending : ∀ id, id ∈ result.leftPending ↔ id ∈ result.pendingReviewIDs ∧ sides.OnLeft id
  rightPending : ∀ id, id ∈ result.rightPending ↔ id ∈ result.pendingReviewIDs ∧ sides.OnRight id

theorem Bookkeeping.empty (sides : Sides) : Bookkeeping sides emptyProcessingResult := by
  constructor <;> simp [emptyProcessingResult]

theorem Bookkeeping.setReasons (h : Bookkeeping sides result) (unmatchedReasons : Reasons) :
    Bookkeeping sides { result with unmatchedReasons := unmatchedReasons } :=
  ⟨h.items, h.autoMatchedIDs, h.pendingReviewIDs, h.leftMatched,
    h.rightMatched, h.leftConfirmed, h.rightConfirmed, h.leftPending,
    h.rightPending⟩

theorem recordGroupResults_groups (sides : Sides)
    (result : ProposalProcessingResult) (group : MatchGroup) :
    (recordGroupResults sides result group).groups = result.groups ++ [group] :=
  (recordItems_records sides group.canAutoConfirm group.items _).groups

theorem Bookkeeping.record (h : Bookkeeping sides result) (group : MatchGroup) :
    Bookkeeping sides (recordGroupResults sides result group) := by
  have hrecords := recordItems_records sides group.canAutoConfirm group.items
    { result with groups := result.groups ++ [group], items := result.items ++ group.items }
  change Records sides group.canAutoConfirm group.transactionIDs _
    (recordGroupResults sides result group) at hrecords
  have hconfirmed : ([group].filter (·.canAutoConfirm)).flatMap
      (·.transactionIDs) =
        if group.canAutoConfirm then group.transactionIDs else [] := by
    cases hsure : group.canAutoConfirm <;> simp [hsure]
  have hpending : ([group].filter (!·.canAutoConfirm)).flatMap
      (·.transactionIDs) =
        if group.canAutoConfirm then [] else group.transactionIDs := by
    cases hsure : group.canAutoConfirm <;> simp [hsure]
  constructor
  · rw [hrecords.items, hrecords.groups, List.flatMap_append, ← h.items]
    simp
  · rw [hrecords.autoMatchedIDs, hrecords.groups, List.filter_append,
      List.flatMap_append, ← h.autoMatchedIDs, hconfirmed]
  · rw [hrecords.pendingReviewIDs, hrecords.groups, List.filter_append,
      List.flatMap_append, ← h.pendingReviewIDs, hpending]
  · intro id
    rw [hrecords.leftMatched, hrecords.groups, h.leftMatched]
    simp [or_and_right]
  · intro id
    rw [hrecords.rightMatched, hrecords.groups, h.rightMatched]
    simp [or_and_right]
  · intro id
    rw [hrecords.leftConfirmed, hrecords.autoMatchedIDs, h.leftConfirmed,
      List.mem_append, or_and_right]
  · intro id
    rw [hrecords.rightConfirmed, hrecords.autoMatchedIDs, h.rightConfirmed,
      List.mem_append, or_and_right]
  · intro id
    rw [hrecords.leftPending, hrecords.pendingReviewIDs, h.leftPending,
      List.mem_append, or_and_right]
  · intro id
    rw [hrecords.rightPending, hrecords.pendingReviewIDs, h.rightPending,
      List.mem_append, or_and_right]

/-! ## The loop over the proposals -/

/-- The group of `built.2` was built from the proposal and index in `built.1`. -/
def ProposalEnvironment.Builds (environment : ProposalEnvironment)
    (built : (MatchProposal × ℕ) × MatchGroup) : Prop :=
  BuiltFrom (environment.newGroupID built.1.2) environment.contextID
    environment.runID environment.sides built.1.1 built.2

structure Processed (environment : ProposalEnvironment)
    (done : List (MatchProposal × ℕ)) (result : ProposalProcessingResult) :
    Prop where
  bookkeeping : Bookkeeping environment.sides result
  built : ∃ pairs : List ((MatchProposal × ℕ) × MatchGroup),
    (pairs.map (·.1)).Sublist done ∧ pairs.map (·.2) = result.groups ∧
      ∀ pair ∈ pairs, environment.Builds pair

theorem processProposal_eq_ok (h : processProposal environment result entry = .ok result') :
    ∃ built reasons,
      processSingleProposal (environment.newGroupID entry.2)
          environment.contextID environment.runID entry.1 environment.sides
          result.unmatchedReasons = .ok (built, reasons) ∧
        result'.groups = result.groups ++ built.toList ∧
        result' = built.elim { result with unmatchedReasons := reasons }
          (recordGroupResults environment.sides { result with unmatchedReasons := reasons }) := by
  unfold processProposal at h
  split at h
  · cases h
  split at h
  · cases h
  next reasons hsingle =>
    cases h
    exact ⟨none, reasons, hsingle, (List.append_nil _).symm, rfl⟩
  next group reasons hsingle =>
    cases h
    exact ⟨some group, reasons, hsingle, recordGroupResults_groups _ _ group, rfl⟩

theorem processProposal_processed {done : List (MatchProposal × ℕ)}
    (hdone : Processed environment done result)
    (h : processProposal environment result entry = .ok result') :
    Processed environment (done ++ [entry]) result' := by
  obtain ⟨hbookkeeping, pairs, hsublist, hgroups, hpairs⟩ := hdone
  obtain ⟨built, reasons, hsingle, -, rfl⟩ := processProposal_eq_ok h
  cases built with
  | none =>
    exact ⟨hbookkeeping.setReasons _, pairs,
      hsublist.trans (List.sublist_append_left _ _), hgroups, hpairs⟩
  | some group =>
    refine ⟨(hbookkeeping.setReasons reasons).record group, pairs ++ [(entry, group)], ?_, ?_, ?_⟩
    · rw [List.map_append]
      exact hsublist.append (List.Sublist.refl _)
    · rw [Option.elim_some, recordGroupResults_groups, List.map_append, hgroups]
      rfl
    · intro pair hpair
      rcases List.mem_append.mp hpair with hold | hnew
      · exact hpairs pair hold
      · rw [List.mem_singleton.mp hnew]
        exact processSingleProposal_eq_ok hsingle

theorem processProposals_processed (h : processProposals environment proposals = .ok result) :
    Processed environment proposals.zipIdx result :=
  foldlM_invariant (Processed environment) ⟨Bookkeeping.empty _, [], by simp, rfl, by simp⟩
    (fun _ _ _ _ _ hdone hstep => processProposal_processed hdone hstep) h

/-- Every group is built from a proposal, under the id for its position. -/
theorem processProposals_built (h : processProposals environment proposals = .ok result)
    (hgroup : group ∈ result.groups) :
    ∃ earlier proposal, earlier ++ [proposal] <+: proposals ∧
      environment.Builds ((proposal, earlier.length), group) := by
  obtain ⟨-, pairs, hsublist, hgroups, hbuilt⟩ := processProposals_processed h
  rw [← hgroups] at hgroup
  obtain ⟨⟨⟨proposal, index⟩, group⟩, hpair, rfl⟩ := List.mem_map.mp hgroup
  have hentry : (proposal, index) ∈ proposals.zipIdx :=
    hsublist.subset (List.mem_map_of_mem hpair)
  obtain ⟨hindex, hproposal⟩ := List.mem_zipIdx' hentry
  refine ⟨proposals.take index, proposal, ?_, ?_⟩
  · rw [hproposal, List.take_append_getElem]
    exact List.take_prefix _ _
  · rw [List.length_take_of_le hindex.le]
    exact hbuilt _ hpair

end Matcher.Command
