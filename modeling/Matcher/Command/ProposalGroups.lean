import Mathlib.Data.List.Pairwise
import Matcher.Command.Balance
import Matcher.Matching.AllocationFailures

/-!
# Proposals that become groups

The engine accepts a proposal on the amounts of the candidates; its items are
checked against the stored transactions, and a proposal with an item that fails a
check is dropped.  A pair becomes a group exactly when neither stored amount is
negative, and a split exactly when the stored amounts cover what was allocated.
-/

namespace Matcher.Command

open Foundation
open Fee (FeeRule FeeSchedule NormalizationMode)
open Matching

variable {tx : Transaction} {contextID runID : UUID} {proposal : MatchProposal} {ids : List UUID}
  {candidate : CandidateTransaction} {groupID : UUID} {transactions : List Transaction}
  {rules : List RuleDefinition} {fields : AllocationFields} {allocation : Allocation}
  {engine : Option Engine} {cfg : AllocationConfig} {rightTx leftTx : Transaction}
  {reasons : Reasons} {amount : Decimal} {sides : Sides}

/-! ## Items that can be built -/

structure AllocationFields.Fit (fields : AllocationFields) (transactionID : UUID) : Prop where
  id : transactionID ≠ UUID.zero
  nonneg : 0 ≤ fields.allocated
  bound : fields.allocated ≤ fields.expected
  currency : fields.currency ≠ ""

theorem newMatchItem_returns_iff {transactionID : UUID} :
    (∃ item, newMatchItem transactionID fields.allocated fields.currency
        fields.expected (fields.allocated < fields.expected) = .ok item) ↔
      fields.Fit transactionID := by
  constructor
  · rintro ⟨item, hitem⟩
    unfold newMatchItem at hitem
    split_ifs at hitem with hid hnegative hexpected hbound hpart hcurrency
    exact ⟨hid, not_lt.mp hnegative, not_lt.mp hbound, hcurrency⟩
  · rintro ⟨hid, hnonneg, hbound, hcurrency⟩
    have hpart : ¬ (decide (fields.allocated < fields.expected) = false ∧
        fields.allocated ≠ fields.expected) := by
      rintro ⟨hfull, hdifferent⟩
      exact hdifferent (le_antisymm hbound (not_lt.mp (of_decide_eq_false hfull)))
    unfold newMatchItem
    rw [if_neg hid, dif_neg (not_lt.mpr hnonneg), if_neg (not_lt.mpr (hnonneg.trans hbound)),
      dif_neg (not_lt.mpr hbound), if_neg hpart, if_neg hcurrency]
    exact ⟨_, rfl⟩

def Itemized (pic : ProposalItemsContext) (id : UUID) : Prop :=
  ∃ tx fields, pic.txByID id = some tx ∧ allocationFields tx pic = .ok fields ∧ fields.Fit tx.id

theorem itemized_iff {pic : ProposalItemsContext} {id : UUID} (htx : pic.txByID id = some tx)
    (hfields : allocationFields tx pic = .ok fields) : Itemized pic id ↔ fields.Fit tx.id := by
  constructor
  · rintro ⟨found, others, hfound, hothers, hfit⟩
    rw [htx] at hfound
    cases hfound
    rw [hfields] at hothers
    cases hothers
    exact hfit
  · intro hfit
    exact ⟨tx, fields, htx, hfields, hfit⟩

theorem buildProposalItems_isSome_iff (pic : ProposalItemsContext)
    (ids : List UUID) (reasons : Reasons) :
    (buildProposalItems pic ids reasons).1.isSome ↔ ∀ id ∈ ids, Itemized pic id := by
  induction ids with
  | nil => simp [buildProposalItems]
  | cons id rest ih =>
    rw [List.forall_mem_cons, ← ih, buildProposalItems]
    cases htx : pic.txByID id with
    | none => simp [Itemized, htx]
    | some tx =>
      dsimp only
      cases hfields : allocationFields tx pic with
      | error => simp [Itemized, htx, hfields]
      | ok =>
        rw [itemized_iff htx hfields, ← newMatchItem_returns_iff]
        dsimp only
        split
        next failure hitem => simp [hitem]
        next item hitem =>
          rcases buildProposalItems pic rest reasons with ⟨_ | items, _⟩
          · simp
          · simp [hitem]

theorem nonemptyItems_isSome_iff (pic : ProposalItemsContext) (ids : List UUID)
    (reasons : Reasons) :
    (nonemptyItems (buildProposalItems pic ids reasons).1).isSome ↔
      ids ≠ [] ∧ ∀ id ∈ ids, Itemized pic id := by
  rw [← buildProposalItems_isSome_iff pic ids reasons]
  rcases hbuilt : buildProposalItems pic ids reasons with ⟨_ | items, rest⟩
  · simp [nonemptyItems]
  · have hlength := (buildProposalItems_eq_some hbuilt).length_eq
    have hempty : items = [] ↔ ids = [] := by
      rw [← List.length_eq_zero_iff, ← hlength, List.length_eq_zero_iff]
    simp [nonemptyItems, Option.filter, hempty]

/-! ## Proposals that can be grouped -/

structure Groupable (contextID runID : UUID) (sides : Sides) (proposal : MatchProposal) : Prop where
  contextID : contextID ≠ UUID.zero
  runID : runID ≠ UUID.zero
  confidence : minMatchConfidence ≤ proposal.score
  leftNonempty : proposal.leftIDs ≠ []
  rightNonempty : proposal.rightIDs ≠ []
  left : ∀ id ∈ proposal.leftIDs, Itemized (sideContext sides.leftByID proposal.leftAllocations) id
  right : ∀ id ∈ proposal.rightIDs,
    Itemized (sideContext sides.rightByID proposal.rightAllocations) id
  size : proposal.leftIDs.length + proposal.rightIDs.length ≤ maxMatchItems

theorem groupOfItems_isSome_iff {confidence : ConfidenceScore} {items : List MatchItem} :
    (groupOfItems groupID contextID runID proposal confidence items).isSome ↔
      minMatchItems ≤ items.length ∧ contextID ≠ UUID.zero ∧
        runID ≠ UUID.zero ∧ minMatchConfidence ≤ confidence.value ∧
        items.length ≤ maxMatchItems := by
  unfold groupOfItems newMatchGroup
  simp only [minMatchedItemsCount, minMatchItems]
  split_ifs <;> grind

theorem processSingleProposal_isSome_iff {reasons' : Reasons} {built : Option MatchGroup}
    (h : processSingleProposal groupID contextID runID proposal sides reasons =
      .ok (built, reasons')) : built.isSome ↔ Groupable contextID runID sides proposal := by
  unfold processSingleProposal at h
  split at h
  · cases h
  next confidence hconfidence =>
  dsimp only at h
  have hleft := nonemptyItems_isSome_iff
    (sideContext sides.leftByID proposal.leftAllocations) proposal.leftIDs
    reasons
  split at h
  next hnone =>
    cases h
    rw [hnone] at hleft
    simp only [Option.isSome_none, Bool.false_eq_true, false_iff] at hleft ⊢
    exact fun hgroup => hleft ⟨hgroup.leftNonempty, hgroup.left⟩
  next leftItems hleftItems =>
  rw [hleftItems] at hleft
  obtain ⟨hleftNonempty, hleftFit⟩ := hleft.mp rfl
  have hright := nonemptyItems_isSome_iff
    (sideContext sides.rightByID proposal.rightAllocations) proposal.rightIDs
    (buildProposalItems (sideContext sides.leftByID proposal.leftAllocations)
      proposal.leftIDs reasons).2
  split at h
  next hnone =>
    cases h
    rw [hnone] at hright
    simp only [Option.isSome_none, Bool.false_eq_true, false_iff] at hright ⊢
    exact fun hgroup => hright ⟨hgroup.rightNonempty, hgroup.right⟩
  next rightItems hrightItems =>
  rw [hrightItems] at hright
  obtain ⟨hrightNonempty, hrightFit⟩ := hright.mp rfl
  -- both sides have items, so what is left are the checks of the group
  have hleftLength : leftItems.length = proposal.leftIDs.length :=
    (buildProposalItems_eq_some (Prod.ext (nonemptyItems_eq_some hleftItems).1 rfl)).length_eq.symm
  have hrightLength : rightItems.length = proposal.rightIDs.length :=
    (buildProposalItems_eq_some (Prod.ext (nonemptyItems_eq_some hrightItems).1 rfl)).length_eq.symm
  have hpair : minMatchItems ≤ proposal.leftIDs.length + proposal.rightIDs.length :=
    Nat.add_le_add (List.length_pos_iff.mpr hleftNonempty) (List.length_pos_iff.mpr hrightNonempty)
  obtain ⟨rfl, -⟩ := Prod.mk.inj (Except.ok.inj h)
  rw [groupOfItems_isSome_iff, List.length_append, hleftLength, hrightLength,
    parseConfidenceScore_value hconfidence]
  constructor
  · rintro ⟨-, hcontext, hrun, hscore, hsize⟩
    exact ⟨hcontext, hrun, hscore, hleftNonempty, hrightNonempty, hleftFit, hrightFit, hsize⟩
  · intro hgroup
    exact ⟨hpair, hgroup.contextID, hgroup.runID, hgroup.confidence, hgroup.size⟩

theorem processSingleProposal_returns (hscore : 0 ≤ proposal.score ∧ proposal.score ≤ 100) :
    ∃ built reasons', processSingleProposal groupID contextID runID proposal
      sides reasons = .ok (built, reasons') := by
  obtain ⟨confidence, hconfidence⟩ := parseConfidenceScore_returns hscore.1 hscore.2
  unfold processSingleProposal
  rw [hconfidence]
  dsimp only
  split
  · exact ⟨_, _, rfl⟩
  · split <;> exact ⟨_, _, rfl⟩

/-! ## Runs over the proposals -/

section Processing

variable {environment : ProposalEnvironment} {proposals : List MatchProposal}
  {result : ProposalProcessingResult}

theorem nonneg_of_floor {score : ℤ} (h : minMatchScore ≤ score) : 0 ≤ score :=
  le_trans (by decide) h

theorem processProposals_returns (hactive : ∀ index, environment.ctxErr index = none)
    (hscores : ∀ proposal ∈ proposals, 0 ≤ proposal.score ∧ proposal.score ≤ 100) :
    ∃ result, processProposals environment proposals = .ok result := by
  apply FailsOnly.exists_ok
  apply FailsOnly.foldlM
  rintro state ⟨proposal, index⟩ hentry failure hfailure
  have hproposal : proposal ∈ proposals := List.fst_mem_of_mem_zipIdx hentry
  obtain ⟨built, reasons, hsingle⟩ := processSingleProposal_returns (hscores proposal hproposal)
  unfold processProposal at hfailure
  rw [hactive, hsingle] at hfailure
  cases built with
  | none | some => cases hfailure

structure Grouped (environment : ProposalEnvironment)
    (done : List (MatchProposal × ℕ)) (result : ProposalProcessingResult) :
    Prop where
  kept : ∀ entry ∈ done, Groupable environment.contextID environment.runID
      environment.sides entry.1 →
    ∃ group ∈ result.groups, environment.Builds (entry, group)
  origin : ∀ group ∈ result.groups, ∃ entry ∈ done,
    Groupable environment.contextID environment.runID environment.sides
      entry.1 ∧ environment.Builds (entry, group)

theorem processProposal_grouped {done : List (MatchProposal × ℕ)} {entry : MatchProposal × ℕ}
    {result' : ProposalProcessingResult} (hdone : Grouped environment done result)
    (h : processProposal environment result entry = .ok result') :
    Grouped environment (done ++ [entry]) result' := by
  obtain ⟨built, reasons, hsingle, hgroups, -⟩ := processProposal_eq_ok h
  have hsome := processSingleProposal_isSome_iff hsingle
  constructor
  · intro other hother hgroupable
    rw [hgroups]
    rcases List.mem_append.mp hother with hold | hnew
    · obtain ⟨group, hgroup, hbuilds⟩ := hdone.kept other hold hgroupable
      exact ⟨group, List.mem_append_left _ hgroup, hbuilds⟩
    · rw [List.mem_singleton.mp hnew] at hgroupable ⊢
      obtain ⟨group, rfl⟩ := Option.isSome_iff_exists.mp (hsome.mpr hgroupable)
      exact ⟨group, by simp, processSingleProposal_eq_ok hsingle⟩
  · intro group hgroup
    rw [hgroups] at hgroup
    rcases List.mem_append.mp hgroup with hold | hnew
    · obtain ⟨other, hother, hfrom⟩ := hdone.origin group hold
      exact ⟨other, List.mem_append_left _ hother, hfrom⟩
    · rw [Option.mem_toList.mp hnew] at hsingle hsome
      exact ⟨entry, by simp, hsome.mp rfl, processSingleProposal_eq_ok hsingle⟩

theorem processProposals_grouped (h : processProposals environment proposals = .ok result) :
    Grouped environment proposals.zipIdx result :=
  foldlM_invariant (Grouped environment) ⟨by simp, by simp [emptyProcessingResult]⟩
    (fun _ _ _ _ _ hdone hstep => processProposal_grouped hdone hstep) h

theorem eq_of_same_ids {leftIDs rightIDs : List UUID}
    (hplaced : ∀ proposal ∈ proposals, Placed leftIDs rightIDs proposal)
    (hapart : PlacedApart leftIDs rightIDs proposals) {first second : MatchProposal}
    (hfirst : first ∈ proposals) (hsecond : second ∈ proposals)
    (hids : first.leftIDs ++ first.rightIDs = second.leftIDs ++ second.rightIDs) :
    first = second := by
  by_contra hdifferent
  have hsymm : Std.Symm Apart := ⟨fun _ _ h => ⟨h.1.symm, h.2.symm⟩⟩
  have hpairwise : proposals.Pairwise Apart :=
    hapart.apart.imp_of_mem fun hone hother h =>
      h (hplaced _ hone) (hplaced _ hother)
  obtain ⟨hdisjoint, -⟩ := hpairwise.forall hfirst hsecond hdifferent
  cases hleft : first.leftIDs with
  | nil => exact (hplaced first hfirst).leftNonempty hleft
  | cons id =>
    cases hother : second.leftIDs with
    | nil => exact (hplaced second hsecond).leftNonempty hother
    | cons other =>
      rw [hleft, hother] at hids hdisjoint
      have hsame : id = other := (List.cons.inj hids).1
      exact hdisjoint List.mem_cons_self (hsame ▸ List.mem_cons_self)

theorem becomes_group_iff {left right : List Transaction}
    (hsides : environment.sides = sidesOf left right)
    (hplaced : ∀ proposal ∈ proposals, Placed (left.map (·.id)) (right.map (·.id)) proposal)
    (hapart : PlacedApart (left.map (·.id)) (right.map (·.id)) proposals)
    (h : processProposals environment proposals = .ok result) (hproposal : proposal ∈ proposals) :
    (∃ group ∈ result.groups, group.transactionIDs = proposal.leftIDs ++ proposal.rightIDs) ↔
      Groupable environment.contextID environment.runID (sidesOf left right)
        proposal := by
  obtain ⟨hkept, horigin⟩ := processProposals_grouped h
  have hids : ∀ {entry : MatchProposal × ℕ} {group : MatchGroup},
      environment.Builds (entry, group) →
        group.transactionIDs = entry.1.leftIDs ++ entry.1.rightIDs :=
    fun hbuilds => (BuiltFrom.ids hsides hbuilds).1
  rw [← hsides]
  constructor
  · rintro ⟨group, hgroup, hsame⟩
    obtain ⟨entry, hentry, hgroupable, hbuilds⟩ := horigin group hgroup
    have hfound : entry.1 = proposal :=
      eq_of_same_ids hplaced hapart (List.fst_mem_of_mem_zipIdx hentry)
        hproposal ((hids hbuilds).symm.trans hsame)
    rw [← hfound]
    exact hgroupable
  · intro hgroupable
    have hzip : proposal ∈ proposals.zipIdx.map Prod.fst := by rwa [List.zipIdx_map_fst]
    obtain ⟨entry, hentry, rfl⟩ := List.mem_map.mp hzip
    obtain ⟨group, hgroup, hbuilds⟩ := hkept entry hentry hgroupable
    exact ⟨group, hgroup, hids hbuilds⟩

end Processing

/-! ## Pairs -/

theorem indexTransactions_of_mem (hids : (transactions.map (·.id)).Nodup)
    (htx : tx ∈ transactions) : indexTransactions transactions tx.id = some tx :=
  indexBy_of_mem hids htx

theorem itemized_of_unallocated (hids : (transactions.map (·.id)).Nodup) (htx : tx ∈ transactions)
    (hcurrency : tx.currency ≠ "") :
    Itemized (sideContext (indexTransactions transactions) []) tx.id ↔
      tx.id ≠ UUID.zero ∧ 0 ≤ tx.amount := by
  have hfields : allocationFields tx
      (sideContext (indexTransactions transactions) []) =
        .ok ⟨tx.amount, tx.currency, tx.amount⟩ := rfl
  rw [itemized_iff (indexTransactions_of_mem hids htx) hfields]
  constructor
  · intro hfit
    exact ⟨hfit.id, hfit.nonneg⟩
  · rintro ⟨hid, hnonneg⟩
    exact ⟨hid, hnonneg, le_rfl, hcurrency⟩

structure StoredPair (leftTx rightTx : Transaction) (proposal : MatchProposal) : Prop where
  leftIDs : proposal.leftIDs = [leftTx.id]
  rightIDs : proposal.rightIDs = [rightTx.id]
  leftAllocations : proposal.leftAllocations = []
  rightAllocations : proposal.rightAllocations = []
  floor : minMatchScore ≤ proposal.score
  le : proposal.score ≤ 100

section Pairs

variable {left right : List Transaction}
  {leftCandidates rightCandidates : List CandidateTransaction}

theorem execute1v1_storedPairs
    {proposals : List MatchProposal} (hleftMirror : List.Forall₂ Mirrors left leftCandidates)
    (hrightMirror : List.Forall₂ Mirrors right rightCandidates)
    (h : execute1v1 engine rules leftCandidates rightCandidates = .ok proposals) :
    ∀ proposal ∈ proposals, ∃ leftTx ∈ left, ∃ rightTx ∈ right,
      StoredPair leftTx rightTx proposal := by
  intro proposal hproposal
  obtain ⟨rule, -, leftTxn, hleft, rightTxn, hright, score, rfl,
    ⟨heval, hfloor⟩, -⟩ := (execute1v1_matching h).sound proposal hproposal
  obtain ⟨leftTx, hleftTx, hleftMirrors⟩ :=
    exists_left_of_forall₂ hleftMirror (mem_stableSort.mp hleft)
  obtain ⟨rightTx, hrightTx, hrightMirrors⟩ :=
    exists_left_of_forall₂ hrightMirror (mem_stableSort.mp hright)
  refine ⟨leftTx, hleftTx, rightTx, hrightTx, ?_, ?_, rfl, rfl, hfloor, evalByType_score_le heval⟩
  · rw [← hleftMirrors.id]
    rfl
  · rw [← hrightMirrors.id]
    rfl

theorem StoredPair.placed (h : StoredPair leftTx rightTx proposal) (hleft : leftTx ∈ left)
    (hright : rightTx ∈ right) : Placed (left.map (·.id)) (right.map (·.id)) proposal := by
  refine ⟨?_, by simp [h.leftIDs], ?_⟩
  · rw [h.leftIDs]
    simpa using ⟨leftTx, hleft, rfl⟩
  · rw [h.rightIDs]
    simpa using ⟨rightTx, hright, rfl⟩

theorem StoredPair.groupable_iff (h : StoredPair leftTx rightTx proposal)
    (hids : ((left ++ right).map (·.id)).Nodup) (hcurrency : ∀ tx ∈ left ++ right, tx.currency ≠ "")
    (hleft : leftTx ∈ left) (hright : rightTx ∈ right) :
    Groupable contextID runID (sidesOf left right) proposal ↔
      contextID ≠ UUID.zero ∧ runID ≠ UUID.zero ∧
        (leftTx.id ≠ UUID.zero ∧ 0 ≤ leftTx.amount) ∧
        (rightTx.id ≠ UUID.zero ∧ 0 ≤ rightTx.amount) := by
  rw [List.map_append] at hids
  rw [
      ← itemized_of_unallocated hids.of_append_left hleft
        (hcurrency leftTx (List.mem_append_left _ hleft)),
      ← itemized_of_unallocated hids.of_append_right hright
        (hcurrency rightTx (List.mem_append_right _ hright))]
  constructor
  · intro hgroup
    have hleftItem := hgroup.left leftTx.id (by simp [h.leftIDs])
    have hrightItem := hgroup.right rightTx.id (by simp [h.rightIDs])
    rw [h.leftAllocations] at hleftItem
    rw [h.rightAllocations] at hrightItem
    exact ⟨hgroup.contextID, hgroup.runID, hleftItem, hrightItem⟩
  · rintro ⟨hcontext, hrun, hleftItem, hrightItem⟩
    refine ⟨hcontext, hrun, h.floor, by simp [h.leftIDs], by simp [h.rightIDs], ?_, ?_, ?_⟩
    · rw [h.leftIDs, h.leftAllocations]
      simpa [sidesOf] using hleftItem
    · rw [h.rightIDs, h.rightAllocations]
      simpa [sidesOf] using hrightItem
    · have htwo : 1 + 1 ≤ maxMatchItems := by decide
      rw [h.leftIDs, h.rightIDs]
      exact htwo

end Pairs

/--
Each proposal of a one-to-one execution pairs two stored transactions, and it
becomes their group exactly if their ids are set and neither amount is negative.
The loop returns unless the call is cancelled.
-/
theorem pairs_become_groups_iff {input : ExecuteRulesInput} {engine : Option Engine}
    {rules : List RuleDefinition} {environment : ProposalEnvironment}
    {proposals : List MatchProposal} (hids : ((input.left ++ input.right).map (·.id)).Nodup)
    (hcurrency : ∀ tx ∈ input.left ++ input.right, tx.currency ≠ "")
    (hsides : environment.sides = sidesOf input.left input.right)
    (hexecute : execute1v1 engine rules input.candidates.1 input.candidates.2 = .ok proposals) :
    ((∀ index, environment.ctxErr index = none) →
        ∃ result, processProposals environment proposals = .ok result) ∧
      ∀ result, processProposals environment proposals = .ok result →
        ∀ proposal ∈ proposals, ∃ leftTx ∈ input.left,
          ∃ rightTx ∈ input.right, proposal.leftIDs = [leftTx.id] ∧
            proposal.rightIDs = [rightTx.id] ∧
            ((∃ group ∈ result.groups, group.transactionIDs = [leftTx.id, rightTx.id]) ↔
              environment.contextID ≠ UUID.zero ∧ environment.runID ≠ UUID.zero ∧
                (leftTx.id ≠ UUID.zero ∧ 0 ≤ leftTx.amount) ∧
                (rightTx.id ≠ UUID.zero ∧ 0 ≤ rightTx.amount)) := by
  obtain ⟨hleftMirror, hrightMirror⟩ := input.candidates_mirror
  have hpairs := execute1v1_storedPairs hleftMirror hrightMirror hexecute
  have hapart := execute1v1_placedApart hexecute
  rw [ids_eq_of_mirrors hleftMirror, ids_eq_of_mirrors hrightMirror] at hapart
  have hplaced : ∀ proposal ∈ proposals, Placed (input.left.map (·.id))
      (input.right.map (·.id)) proposal := by
    intro proposal hproposal
    obtain ⟨leftTx, hleft, rightTx, hright, hpair⟩ := hpairs proposal hproposal
    exact hpair.placed hleft hright
  constructor
  · intro hactive
    apply processProposals_returns hactive
    intro proposal hproposal
    obtain ⟨leftTx, -, rightTx, -, hpair⟩ := hpairs proposal hproposal
    exact ⟨nonneg_of_floor hpair.floor, hpair.le⟩
  · intro result hresult proposal hproposal
    obtain ⟨leftTx, hleft, rightTx, hright, hpair⟩ := hpairs proposal hproposal
    refine ⟨leftTx, hleft, rightTx, hright, hpair.leftIDs, hpair.rightIDs, ?_⟩
    have hbecomes := becomes_group_iff hsides hplaced hapart hresult hproposal
    rw [hpair.groupable_iff hids hcurrency hleft hright, hpair.leftIDs, hpair.rightIDs] at hbecomes
    exact hbecomes

def pairInput (leftAmount rightAmount : Decimal) : ExecuteRulesInput :=
  { splitInput with
    contextType := .oneToOne
    left := [plainTransaction ⟨1⟩ leftAmount]
    right := [plainTransaction ⟨2⟩ rightAmount] }

def pairProposal : MatchProposal where
  ruleID := ⟨9⟩
  leftIDs := [⟨1⟩]
  rightIDs := [⟨2⟩]
  leftAllocations := []
  rightAllocations := []
  score := 100
  mode := .oneToOne

theorem pairs_become_groups_iff_hundred :
    execute1v1 (some newEngine) [amountMatchDefinition]
        (pairInput 100 100).candidates.1 (pairInput 100 100).candidates.2 = .ok [pairProposal] ∧
      ∃ result, processProposals (processingEnvironment
          (pairInput 100 100).left (pairInput 100 100).right) [pairProposal] = .ok result ∧
        ∃ group ∈ result.groups, group.transactionIDs = [⟨1⟩, ⟨2⟩] := by
  refine (and_iff_left_of_imp fun hexecute => ?_).mpr (by decide +kernel)
  obtain ⟨hreturns, hgroups⟩ := pairs_become_groups_iff (by decide) (by decide)
    (rfl : (processingEnvironment (pairInput 100 100).left (pairInput 100 100).right).sides = _)
    hexecute
  obtain ⟨result, hresult⟩ := hreturns fun _ => rfl
  obtain ⟨leftTx, hleft, rightTx, hright, -, -, hiff⟩ :=
    hgroups result hresult pairProposal List.mem_cons_self
  rw [List.mem_singleton.mp hleft, List.mem_singleton.mp hright] at hiff
  exact ⟨result, hresult, hiff.mpr (by decide)⟩

/-- Two equal negative amounts are proposed as a pair and dropped, with nothing
recorded about either transaction. -/
theorem negative_pair_dropped :
    amountMatchDefinition.Decoded ∧
      execute1v1 (some newEngine) [amountMatchDefinition] (pairInput (-100) (-100)).candidates.1
          (pairInput (-100) (-100)).candidates.2 = .ok [pairProposal] ∧
      (fun result : ProposalProcessingResult =>
          (result.groups, result.unmatchedReasons ⟨1⟩, result.unmatchedReasons ⟨2⟩)) <$>
        processProposals (processingEnvironment (pairInput (-100) (-100)).left
          (pairInput (-100) (-100)).right) [pairProposal] =
          .ok ([], none, none) :=
  ⟨amountMatchDefinition_decoded, by decide +kernel, by decide +kernel⟩

/-! ## Splits -/

/-- The stored transaction of the allocation has what the allocation takes. -/
def Covered (transactions : List Transaction) (allocation : Allocation) : Prop :=
  ∀ tx ∈ transactions, tx.id = allocation.transactionID →
    tx.id ≠ UUID.zero ∧
      if allocation.useBaseAmount then trimSpace (tx.baseCurrency.getD "") ≠ ""
      else allocation.allocatedAmount ≤ tx.amount

theorem baseFields_of_some {allocated : Decimal} {currency : String}
    (hamount : tx.amountBase = some amount) (hcurrency : tx.baseCurrency = some currency) :
    baseFields tx allocated =
      if trimSpace currency = "" then .error missingBaseCurrency
      else .ok ⟨allocated, currency, amount⟩ := by
  simp only [baseFields, hamount, hcurrency]

theorem Mirrors.relevantAmount_base (h : Mirrors tx candidate) (hbase : cfg.useBaseAmount = true)
    (hamount : relevantAmount cfg candidate = some amount) :
    tx.amountBase = some amount ∧ ∃ currency, tx.baseCurrency = some currency ∧ currency ≠ "" := by
  rw [relevantAmount, hbase, if_pos rfl] at hamount
  split at hamount
  case isTrue => cases hamount
  case isFalse hcurrency =>
    rw [h.amountBase] at hamount
    rw [h.currencyBase] at hcurrency
    cases hstored : tx.baseCurrency with
    | none =>
      rw [hstored] at hcurrency
      exact absurd rfl hcurrency
    | some currency =>
      rw [hstored] at hcurrency
      exact ⟨hamount, currency, rfl, hcurrency⟩

section Splits

variable {transactions : List Transaction}
  {candidates : List CandidateTransaction} {allocations : List Allocation}

theorem covered_iff (hids : (transactions.map (·.id)).Nodup) (htx : tx ∈ transactions)
    (hid : tx.id = allocation.transactionID) :
    Covered transactions allocation ↔ tx.id ≠ UUID.zero ∧
      if allocation.useBaseAmount then trimSpace (tx.baseCurrency.getD "") ≠ ""
      else allocation.allocatedAmount ≤ tx.amount := by
  constructor
  · intro hcovered
    exact hcovered tx htx hid
  · intro hstored other hother hsame
    have hfound : other = tx := List.inj_on_of_nodup_map hids hother htx (hsame.trans hid.symm)
    rw [hfound]
    exact hstored

theorem itemized_of_drawn (hmirror : List.Forall₂ Mirrors transactions candidates)
    (hids : (transactions.map (·.id)).Nodup) (hcurrency : ∀ tx ∈ transactions, tx.currency ≠ "")
    (hnodup : (allocations.map (·.transactionID)).Nodup) (hallocation : allocation ∈ allocations)
    (hcandidate : candidate ∈ candidates) (hdrawn : DrawnFrom cfg candidate allocation) :
    Itemized (sideContext (indexTransactions transactions) allocations) allocation.transactionID ↔
      Covered transactions allocation := by
  obtain ⟨tx, htx, hmirrors⟩ := exists_left_of_forall₂ hmirror hcandidate
  have hid : tx.id = allocation.transactionID := hmirrors.id.symm.trans hdrawn.id.symm
  have hindex : (sideContext (indexTransactions transactions)
      allocations).txByID allocation.transactionID = some tx := by
    rw [← hid]
    exact indexTransactions_of_mem hids htx
  have hfields := allocationFields_of_mem (indexTransactions transactions) hnodup hallocation hid
  obtain ⟨amount, hamount, hle⟩ := hdrawn.within
  rw [covered_iff hids htx hid]
  cases hbase : allocation.useBaseAmount with
  | true =>
    rw [hdrawn.useBaseAmount] at hbase
    obtain ⟨hstored, currency, hfound, hset⟩ := hmirrors.relevantAmount_base hbase hamount
    rw [hdrawn.useBaseAmount, hbase, if_pos rfl, baseFields_of_some hstored hfound] at hfields
    rw [if_pos rfl, hfound, Option.getD_some]
    by_cases hblank : trimSpace currency = ""
    · rw [if_pos hblank] at hfields
      simp [Itemized, hindex, hfields, hblank]
    · rw [if_neg hblank] at hfields
      rw [itemized_iff hindex hfields]
      constructor
      · intro hfit
        exact ⟨hfit.id, hblank⟩
      · rintro ⟨hzero, -⟩
        exact ⟨hzero, hdrawn.nonneg, hle, hset⟩
  | false =>
    rw [hbase, if_neg Bool.false_ne_true] at hfields
    rw [if_neg Bool.false_ne_true, itemized_iff hindex hfields]
    constructor
    · intro hfit
      exact ⟨hfit.id, hfit.bound⟩
    · rintro ⟨hzero, hbound⟩
      refine ⟨hzero, hdrawn.nonneg, hbound, ?_⟩
      dsimp only
      split
      next hset => exact hset
      next => exact hcurrency tx htx

structure AllocatedSide (candidates : List CandidateTransaction)
    (ids : List UUID) (allocations : List Allocation) : Prop where
  ids : ids = allocations.map (·.transactionID)
  nonempty : allocations ≠ []
  nodup : (allocations.map (·.transactionID)).Nodup
  drawn : ∀ allocation ∈ allocations, ∃ candidate ∈ candidates,
    ∃ cfg, DrawnFrom cfg candidate allocation

theorem AllocatedSide.ids_mem (h : AllocatedSide candidates ids allocations) :
    ids ≠ [] ∧ ∀ id ∈ ids, id ∈ candidates.map (·.id) := by
  rw [h.ids]
  refine ⟨by simpa using h.nonempty, ?_⟩
  intro id hid
  obtain ⟨allocation, hallocation, rfl⟩ := List.mem_map.mp hid
  obtain ⟨candidate, hcandidate, cfg, hdrawn⟩ := h.drawn allocation hallocation
  rw [hdrawn.id]
  exact List.mem_map_of_mem hcandidate

theorem AllocatedSide.itemized_iff (h : AllocatedSide candidates ids allocations)
    (hmirror : List.Forall₂ Mirrors transactions candidates)
    (hids : (transactions.map (·.id)).Nodup) (hcurrency : ∀ tx ∈ transactions, tx.currency ≠ "") :
    (∀ id ∈ ids, Itemized (sideContext (indexTransactions transactions) allocations) id) ↔
      ∀ allocation ∈ allocations, Covered transactions allocation := by
  rw [h.ids, List.forall_mem_map]
  refine forall₂_congr fun allocation hallocation => ?_
  obtain ⟨candidate, hcandidate, cfg, hdrawn⟩ := h.drawn allocation hallocation
  exact itemized_of_drawn hmirror hids hcurrency h.nodup hallocation hcandidate hdrawn

/-- Its candidate asks no more of the transaction than the transaction stores. -/
structure StoresEnough (build : Transaction → CandidateTransaction) (tx : Transaction) : Prop where
  id : tx.id ≠ UUID.zero
  amount : (build tx).amount ≤ tx.amount
  baseCurrency : ∀ currency, tx.baseCurrency = some currency →
    currency ≠ "" → trimSpace currency ≠ ""

theorem AllocatedSide.covered {build : Transaction → CandidateTransaction}
    (h : AllocatedSide (transactions.map build) ids allocations)
    (hbuild : ∀ tx, Mirrors tx (build tx)) (hids : (transactions.map (·.id)).Nodup)
    (hstores : ∀ tx ∈ transactions, StoresEnough build tx) :
    ∀ allocation ∈ allocations, Covered transactions allocation := by
  intro allocation hallocation
  obtain ⟨candidate, hcandidate, cfg, hdrawn⟩ := h.drawn allocation hallocation
  obtain ⟨tx, htx, rfl⟩ := List.mem_map.mp hcandidate
  obtain ⟨hzero, hamount, hblank⟩ := hstores tx htx
  obtain ⟨amount, hrelevant, hle⟩ := hdrawn.within
  refine (covered_iff hids htx ((hbuild tx).id.symm.trans hdrawn.id.symm)).mpr ⟨hzero, ?_⟩
  rw [hdrawn.useBaseAmount]
  cases hbase : cfg.useBaseAmount with
  | true =>
    obtain ⟨-, currency, hfound, hset⟩ := (hbuild tx).relevantAmount_base hbase hrelevant
    rw [if_pos rfl, hfound, Option.getD_some]
    exact hblank currency hfound hset
  | false =>
    rw [relevantAmount, hbase, if_neg Bool.false_ne_true] at hrelevant
    rw [if_neg Bool.false_ne_true]
    exact (hle.trans (Option.some.inj hrelevant).ge).trans hamount

structure SplitSides (left right : List CandidateTransaction) (proposal : MatchProposal) :
    Prop where
  left : AllocatedSide left proposal.leftIDs proposal.leftAllocations
  right : AllocatedSide right proposal.rightIDs proposal.rightAllocations
  floor : minMatchScore ≤ proposal.score
  le : proposal.score ≤ 100

theorem execute1vNDetailed_splitSides
    {left right : List CandidateTransaction} {result : EngineResult}
    (hids : (right.map (·.id)).Nodup) (hrules : ∀ rule ∈ rules, rule.Decoded)
    (hdirection : ∀ rule ∈ rules, ∀ cfg, rule.allocation = some cfg → cfg.direction = .leftToRight)
    (h : execute1vNDetailed engine rules left right = .ok result) :
    ∀ proposal ∈ result.proposals, SplitSides left right proposal := by
  have hallocates : ∀ rule ∈ rules, rule.allocation ≠ none := by
    intro rule hrule hnone
    obtain ⟨cfg, hcfg, -⟩ := (hrules rule hrule).allocation
    rw [hnone] at hcfg
    cases hcfg
  intro proposal hproposal
  obtain ⟨earlier, later, hsplit⟩ := List.append_of_mem hproposal
  obtain ⟨rule, hrule, target, htarget, cfg, used, collected, split, hcfg, -,
    hcollect, hcompletes, rfl⟩ :=
    execute1vNDetailed_fromSplit hallocates h earlier proposal ⟨later, by simp [hsplit]⟩
  have hleftToRight := hdirection rule (mem_stableSort.mp hrule) cfg hcfg
  have hcollects := collectMatches_collects hcollect
  have hcomplete := allocateOneToManyDetailed_completeSplit
    (sortTransactions_ids_nodup hids) hcollects hcompletes.1 hcompletes.2
  have hscore := collectMatches_scoreInRange hcollect
  rw [buildAllocationMatchProposal_target (by rw [hleftToRight]; decide)]
  refine ⟨⟨rfl, by simp, by simp, ?_⟩, ⟨rfl, hcomplete.nonempty, hcomplete.nodup, ?_⟩,
    hscore.floor hcompletes.nonempty, hscore.le⟩
  · intro allocation hallocation
    rw [List.mem_singleton.mp hallocation]
    exact ⟨target, mem_stableSort.mp htarget, cfg, hcompletes.target_drawn⟩
  · intro allocation hallocation
    obtain ⟨candidate, hcandidate, hdrawn⟩ := hcompletes.drawn allocation hallocation
    exact ⟨candidate, mem_stableSort.mp (hcollects.sublist.subset hcandidate), cfg, hdrawn⟩

end Splits

section SplitGroups

variable {left right : List Transaction}
  {leftCandidates rightCandidates : List CandidateTransaction}
  {proposal : MatchProposal}

theorem SplitSides.groupable_iff (h : SplitSides leftCandidates rightCandidates proposal)
    (hleftMirror : List.Forall₂ Mirrors left leftCandidates)
    (hrightMirror : List.Forall₂ Mirrors right rightCandidates)
    (hids : ((left ++ right).map (·.id)).Nodup) (hcurrency : ∀ tx ∈ left ++ right, tx.currency ≠ "")
    (hsize : proposal.leftIDs.length + proposal.rightIDs.length ≤ maxMatchItems) :
    Groupable contextID runID (sidesOf left right) proposal ↔
      contextID ≠ UUID.zero ∧ runID ≠ UUID.zero ∧
        (∀ allocation ∈ proposal.leftAllocations, Covered left allocation) ∧
        ∀ allocation ∈ proposal.rightAllocations, Covered right allocation := by
  rw [List.map_append] at hids
  rw [← h.left.itemized_iff hleftMirror hids.of_append_left
      fun tx htx => hcurrency tx (List.mem_append_left _ htx),
    ← h.right.itemized_iff hrightMirror hids.of_append_right
      fun tx htx => hcurrency tx (List.mem_append_right _ htx)]
  constructor
  · intro hgroup
    exact ⟨hgroup.contextID, hgroup.runID, hgroup.left, hgroup.right⟩
  · rintro ⟨hcontext, hrun, hleft, hright⟩
    exact ⟨hcontext, hrun, h.floor, h.left.ids_mem.1, h.right.ids_mem.1, hleft, hright, hsize⟩

theorem SplitSides.placed (h : SplitSides leftCandidates rightCandidates proposal)
    (hleftMirror : List.Forall₂ Mirrors left leftCandidates)
    (hrightMirror : List.Forall₂ Mirrors right rightCandidates) :
    Placed (left.map (·.id)) (right.map (·.id)) proposal := by
  rw [← ids_eq_of_mirrors hleftMirror, ← ids_eq_of_mirrors hrightMirror]
  exact ⟨h.left.ids_mem.2, h.left.ids_mem.1, h.right.ids_mem.2⟩

end SplitGroups

theorem mapTransactionsWithFeeRules_mirror (transactions : List Transaction) (rules : List FeeRule)
    (schedules : UUID → Option FeeSchedule) (mode : NormalizationMode) :
    List.Forall₂ Mirrors transactions
      (mapTransactionsWithFeeRules transactions rules schedules mode) := by
  rw [mapTransactionsWithFeeRules, List.forall₂_map_right_iff, List.forall₂_same]
  exact fun tx _ => candidateWithFeeRules_mirrors rules schedules mode tx

/--
A one-to-many proposal of decoded left-to-right rules, within the size of a
group, becomes a group exactly if the stored transactions cover its allocations.
They do when fee normalisation never raises an amount.  The loop returns unless
the call is cancelled.
-/
theorem splits_become_groups_iff {left right : List Transaction}
    {leftRules rightRules : List FeeRule} {schedules : UUID → Option FeeSchedule}
    {mode : NormalizationMode} {engine : Option Engine} {rules : List RuleDefinition}
    {executed : EngineResult} {environment : ProposalEnvironment}
    (hids : ((left ++ right).map (·.id)).Nodup) (hcurrency : ∀ tx ∈ left ++ right, tx.currency ≠ "")
    (hrules : ∀ rule ∈ rules, rule.Decoded)
    (hdirection : ∀ rule ∈ rules, ∀ cfg, rule.allocation = some cfg → cfg.direction = .leftToRight)
    (hsides : environment.sides = sidesOf left right) (hexecute : execute1vNDetailed engine rules
      (mapTransactionsWithFeeRules left leftRules schedules mode)
      (mapTransactionsWithFeeRules right rightRules schedules mode) = .ok executed) :
    ((∀ index, environment.ctxErr index = none) → ∃ result,
        processProposals environment executed.proposals = .ok result) ∧
      ∀ result, processProposals environment executed.proposals = .ok result →
        ∀ proposal ∈ executed.proposals,
          proposal.leftIDs.length + proposal.rightIDs.length ≤ maxMatchItems →
          ((∃ group ∈ result.groups, group.transactionIDs = proposal.leftIDs ++ proposal.rightIDs) ↔
              environment.contextID ≠ UUID.zero ∧ environment.runID ≠ UUID.zero ∧
                (∀ allocation ∈ proposal.leftAllocations, Covered left allocation) ∧
                ∀ allocation ∈ proposal.rightAllocations, Covered right allocation) ∧
            (environment.contextID ≠ UUID.zero → environment.runID ≠ UUID.zero →
              (∀ tx ∈ left, StoresEnough (candidateWithFeeRules leftRules schedules mode) tx) →
              (∀ tx ∈ right, StoresEnough (candidateWithFeeRules rightRules schedules mode) tx) →
              ∃ group ∈ result.groups, group.transactionIDs =
                proposal.leftIDs ++ proposal.rightIDs) := by
  have hleftMirror := mapTransactionsWithFeeRules_mirror left leftRules schedules mode
  have hrightMirror := mapTransactionsWithFeeRules_mirror right rightRules schedules mode
  have hleftIDs := ids_eq_of_mirrors hleftMirror
  have hrightIDs := ids_eq_of_mirrors hrightMirror
  have hparts := hids
  rw [List.map_append] at hparts
  have hsplits := execute1vNDetailed_splitSides
    (by rw [hrightIDs]; exact hparts.of_append_right) hrules hdirection hexecute
  have hapart := execute1vNDetailed_placedApart
    (by rwa [List.map_append, hleftIDs, hrightIDs, ← List.map_append]) hexecute
  rw [hleftIDs, hrightIDs] at hapart
  constructor
  · intro hactive
    apply processProposals_returns hactive
    intro proposal hproposal
    exact ⟨nonneg_of_floor (hsplits proposal hproposal).floor, (hsplits proposal hproposal).le⟩
  · intro result hresult proposal hproposal hsize
    have hsplit := hsplits proposal hproposal
    have hbecomes := becomes_group_iff hsides
      (fun proposal hproposal =>
        (hsplits proposal hproposal).placed hleftMirror hrightMirror)
      hapart hresult hproposal
    rw [hsplit.groupable_iff hleftMirror hrightMirror hids hcurrency hsize] at hbecomes
    refine ⟨hbecomes, ?_⟩
    intro hcontext hrun hleft hright
    exact hbecomes.mpr ⟨hcontext, hrun,
      hsplit.left.covered (candidateWithFeeRules_mirrors _ _ _) hparts.of_append_left hleft,
      hsplit.right.covered (candidateWithFeeRules_mirrors _ _ _) hparts.of_append_right hright⟩

def splitProposal : MatchProposal where
  ruleID := ⟨9⟩
  leftIDs := [⟨1⟩]
  rightIDs := [⟨2⟩]
  leftAllocations := [⟨⟨1⟩, 100, "USD", false⟩]
  rightAllocations := [⟨⟨2⟩, 100, "USD", false⟩]
  score := 100
  mode := .oneToMany

theorem splits_become_groups_iff_hundred :
    ∃ executed result,
      execute1vNDetailed (some newEngine) [amountMatchDefinition]
          (mapTransactionsWithFeeRules [plainTransaction ⟨1⟩ 100] [] (fun _ => none) .none)
          (mapTransactionsWithFeeRules [plainTransaction ⟨2⟩ 100] []
            (fun _ => none) .none) = .ok executed ∧
        executed.proposals = [splitProposal] ∧
        processProposals (processingEnvironment [plainTransaction ⟨1⟩ 100]
          [plainTransaction ⟨2⟩ 100]) executed.proposals = .ok result ∧
        ∃ group ∈ result.groups, group.transactionIDs = [⟨1⟩, ⟨2⟩] := by
  simp only [exists_and_left]
  refine exists_ok_of_map (f := (·.proposals)) [splitProposal] (by decide +kernel) ?_
  intro executed hexecute hproposals
  have hdirection : ∀ rule ∈ [amountMatchDefinition], ∀ cfg,
      rule.allocation = some cfg → cfg.direction = .leftToRight := by
    intro rule hrule cfg hcfg
    rw [List.mem_singleton.mp hrule] at hcfg
    cases hcfg
    rfl
  obtain ⟨hreturns, hgroups⟩ := splits_become_groups_iff (by decide) (by decide)
    (List.forall_mem_singleton.mpr amountMatchDefinition_decoded) hdirection
    (rfl : (processingEnvironment [plainTransaction ⟨1⟩ 100] [plainTransaction ⟨2⟩ 100]).sides = _)
    hexecute
  obtain ⟨result, hresult⟩ := hreturns fun _ => rfl
  have hproposal : splitProposal ∈ executed.proposals := by
    rw [hproposals]
    exact List.mem_cons_self
  have hstores : ∀ id : UUID, id ≠ UUID.zero →
      ∀ tx ∈ [plainTransaction id 100], StoresEnough
        (candidateWithFeeRules [] (fun _ => none) .none) tx := by
    intro id hid tx htx
    rw [List.mem_singleton.mp htx]
    refine ⟨hid, le_rfl, ?_⟩
    intro currency hcurrency
    cases hcurrency
  exact ⟨hproposals, result, hresult,
    (hgroups result hresult splitProposal hproposal (by decide)).2 (by decide)
      (by decide) (hstores ⟨1⟩ (by decide)) (hstores ⟨2⟩ (by decide))⟩

def flatFeeSchedule : FeeSchedule where
  id := ⟨5⟩
  name := "flat"
  currency := "USD"
  applicationOrder := .parallel
  roundingScale := 2
  roundingMode := .halfUp
  items := [⟨⟨0⟩, "fee", 1, some (.flat 10)⟩]

def flatFeeRule : FeeRule where
  id := ⟨4⟩
  side := .left
  feeScheduleID := ⟨5⟩
  priority := 1
  predicates := []

/--
A stored amount of 90 is grossed up by its fee to 100 and matched with 100 in
full; the allocation exceeds what is stored, so the proposal is dropped with
nothing recorded about either transaction.
-/
theorem grossed_up_split_dropped :
    amountMatchDefinition.Decoded ∧ ∃ executed result,
      execute1vNDetailed (some newEngine) [amountMatchDefinition]
          (mapTransactionsWithFeeRules [plainTransaction ⟨1⟩ 90] [flatFeeRule]
            (fun _ => some flatFeeSchedule) .gross)
          (mapTransactionsWithFeeRules [plainTransaction ⟨2⟩ 100] []
            (fun _ => some flatFeeSchedule) .gross) = .ok executed ∧
        executed.proposals = [splitProposal] ∧
        processProposals (processingEnvironment [plainTransaction ⟨1⟩ 90]
          [plainTransaction ⟨2⟩ 100]) executed.proposals = .ok result ∧
        result.groups = [] ∧ result.unmatchedReasons ⟨1⟩ = none ∧
        result.unmatchedReasons ⟨2⟩ = none := by
  refine ⟨amountMatchDefinition_decoded, ?_⟩
  simp only [exists_and_left]
  refine exists_ok_of_map (f := (·.proposals)) [splitProposal] (by decide +kernel) ?_
  intro executed hexecute hproposals
  rw [hproposals]
  refine ⟨rfl, exists_ok_of_map (f := fun result => (result.groups, result.unmatchedReasons ⟨1⟩,
    result.unmatchedReasons ⟨2⟩)) ([], none, none) (by decide +kernel) ?_⟩
  intro result hresult hvalue
  simpa only [Prod.mk.injEq] using hvalue

end Matcher.Command
