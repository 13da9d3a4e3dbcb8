import Matcher.Command.Entities
import Matcher.Matching.Orientation
import Matcher.Matching.RuleConfigDecode

/-!
# Rule execution

Stored transactions become candidates, with their amounts normalised by the fee
schedules that apply to them, and the engine of the context type runs the decoded
rules over them.  Whatever the context type, the proposals that stay on their
own sides never share a transaction.
-/

namespace Matcher.Command

open Foundation
open Fee (FeeRule FeeSchedule NormalizationMode)
open Matching

variable {definitions : List RuleDefinition} {result : EngineResult}
  {stored : List (Option MatchRule)} {proposal : MatchProposal}

/-! ## Candidates -/

def candidateOf (txn : Transaction) : CandidateTransaction where
  id := txn.id
  sourceID := txn.sourceID
  amount := txn.amount
  originalAmount := txn.amount
  amountBase := txn.amountBase
  feeBreakdown := none
  currency := txn.currency
  currencyBase := txn.baseCurrency.getD ""
  reference := txn.externalID
  date := txn.date

def mapTransactions (transactions : List Transaction) : List CandidateTransaction :=
  transactions.map candidateOf

def validateFeeCurrencies (txn : Transaction) (schedule : FeeSchedule) : Bool :=
  match Fee.normalizeCurrency txn.currency, Fee.normalizeCurrency schedule.currency with
  | .ok normalizedCurrency, .ok scheduleCurrency => normalizedCurrency = scheduleCurrency
  | _, _ => false

/-- Errors of the fee calculation are logged and leave the candidate as it is. -/
def applyFeeMode (candidate : CandidateTransaction) (gross : Fee.Money)
    (schedule : FeeSchedule) (mode : NormalizationMode) : CandidateTransaction :=
  match mode with
  | .net =>
    match Fee.calculateSchedule gross (some schedule) with
    | .error _ => candidate
    | .ok breakdown =>
      { candidate with feeBreakdown := some breakdown, amount := breakdown.netAmount.amount }
  | .gross =>
    match Fee.calculateGrossFromNet gross (some schedule) with
    | .error _ => candidate
    | .ok (grossMoney, grossBreakdown) =>
      { candidate with feeBreakdown := some grossBreakdown, amount := grossMoney.amount }
  | .none | .other _ => candidate

def applyFeeNormalization (candidate : CandidateTransaction) (txn : Transaction)
    (schedule : FeeSchedule) (mode : NormalizationMode) : CandidateTransaction :=
  if mode = .none then candidate
  else if !validateFeeCurrencies txn schedule then candidate
  else
    match Fee.newMoney txn.amount txn.currency with
    | .error _ => candidate
    | .ok gross => applyFeeMode candidate gross schedule mode

def candidateWithFeeRules (rules : List FeeRule) (schedules : UUID → Option FeeSchedule)
    (mode : NormalizationMode) (txn : Transaction) : CandidateTransaction :=
  match Fee.resolveFeeSchedule txn.metadata rules schedules with
  | none => candidateOf txn
  | some schedule => applyFeeNormalization (candidateOf txn) txn schedule mode

def mapTransactionsWithFeeRules (transactions : List Transaction) (rules : List FeeRule)
    (schedules : UUID → Option FeeSchedule) (mode : NormalizationMode) :
    List CandidateTransaction :=
  transactions.map (candidateWithFeeRules rules schedules mode)

/-! ## Execution -/

inductive ContextType
  | oneToOne
  | oneToMany
  | manyToMany
  | other (value : String)
deriving DecidableEq, Repr

def ContextType.text : ContextType → String
  | .oneToOne => "1:1"
  | .oneToMany => "1:N"
  | .manyToMany => "N:M"
  | .other value => value

def errMatchRuleProviderRequired : GoError :=
  .sentinel ⟨"ErrMatchRuleProviderRequired", "match rule provider is required"⟩

def errContextIDRequired : GoError :=
  .sentinel ⟨"ErrContextIDRequired", "context id is required"⟩

def errEngineIsNil : GoError :=
  .sentinel ⟨"ErrEngineIsNil", "engine is nil"⟩

def errUnsupportedContextType : GoError :=
  .sentinel ⟨"ErrUnsupportedContextType", "unsupported context type"⟩

def executeByContextTypeDetailed (engine : Option Engine) (rules : List RuleDefinition)
    (left right : List CandidateTransaction) (contextType : ContextType) :
    Except GoError EngineResult :=
  if engine.isNone then .error errEngineIsNil
  else
    match contextType with
    | .oneToMany =>
      wrapError "engine execution failed: %w" (execute1vNDetailed engine rules left right)
    | .oneToOne | .other "" => do
        let proposals ← wrapError "engine execution failed: %w"
          (execute1v1 engine rules left right)
        return ⟨proposals, fun _ => none⟩
    | .manyToMany =>
      .error (.wrap "%w: %s (M:N matching is not yet implemented)"
        [contextType.text] errUnsupportedContextType)
    | .other value => .error (.wrap "%w: %s" [value] errUnsupportedContextType)

abbrev MatchRuleProvider := UUID → Except GoError (List (Option MatchRule))

def decodeRules : List (Option MatchRule) → Except GoError (List RuleDefinition)
  | [] => .ok []
  | rule :: rest => do
      let definition ← wrapError "failed to decode match rule: %w" (decodeRuleDefinition rule)
      let definitions ← decodeRules rest
      return definition :: definitions

def loadRuleDefinitions (provider : MatchRuleProvider) (contextID : UUID) :
    Except GoError (List RuleDefinition) := do
  let rules ← wrapError "failed to load match rules: %w" (provider contextID)
  decodeRules rules

structure ExecuteRulesInput where
  contextID : UUID
  contextType : ContextType
  left : List Transaction
  right : List Transaction
  leftRules : List FeeRule
  rightRules : List FeeRule
  allSchedules : UUID → Option FeeSchedule
  feeNormalization : NormalizationMode

def ExecuteRulesInput.normalizes (input : ExecuteRulesInput) : Bool :=
  input.feeNormalization ≠ .none ∧ (0 < input.leftRules.length ∨ 0 < input.rightRules.length)

def ExecuteRulesInput.candidates (input : ExecuteRulesInput) :
    List CandidateTransaction × List CandidateTransaction :=
  if input.normalizes then
    (mapTransactionsWithFeeRules input.left input.leftRules input.allSchedules
        input.feeNormalization,
      mapTransactionsWithFeeRules input.right input.rightRules
        input.allSchedules input.feeNormalization)
  else (mapTransactions input.left, mapTransactions input.right)

def executeRulesDetailed (ruleProvider : Option MatchRuleProvider) (input : ExecuteRulesInput) :
    Except GoError EngineResult :=
  match ruleProvider with
  | none => .error errMatchRuleProviderRequired
  | some provider =>
    if input.contextID = UUID.zero then .error errContextIDRequired
    else do
      let definitions ← loadRuleDefinitions provider input.contextID
      executeByContextTypeDetailed (some newEngine) definitions
        input.candidates.1 input.candidates.2 input.contextType

/-! ## Decoded rules -/

theorem decodeRules_decoded (h : decodeRules stored = .ok definitions) :
    ∀ rule ∈ definitions, ∃ source, decodeRuleDefinition source = .ok rule := by
  induction stored generalizing definitions with
  | nil =>
    cases h
    simp
  | cons source _ ih =>
    obtain ⟨first, hfirst, h⟩ := bind_eq_ok.mp h
    obtain ⟨others, hothers, h⟩ := bind_eq_ok.mp h
    cases h
    intro rule hrule
    rcases List.mem_cons.mp hrule with rfl | hrule
    · exact ⟨source, wrapError_eq_ok.mp hfirst⟩
    · exact ih hothers rule hrule

theorem loadRuleDefinitions_decoded {provider : MatchRuleProvider} {contextID : UUID}
    (h : loadRuleDefinitions provider contextID = .ok definitions) :
    ∀ rule ∈ definitions, ∃ source, decodeRuleDefinition source = .ok rule := by
  obtain ⟨stored, -, h⟩ := bind_eq_ok.mp h
  exact decodeRules_decoded h

theorem decodeRules_allocates (h : decodeRules stored = .ok definitions) :
    ∀ rule ∈ definitions, rule.allocation ≠ none := by
  intro rule hrule hnone
  obtain ⟨source, hdecode⟩ := decodeRules_decoded h rule hrule
  obtain ⟨cfg, hcfg, -⟩ := decodeRuleDefinition_allocation hdecode
  rw [hnone] at hcfg
  cases hcfg

/-! ## What the candidates keep -/

/-- The candidate differs from the stored transaction in its amount at most. -/
structure Mirrors (txn : Transaction) (candidate : CandidateTransaction) : Prop where
  id : candidate.id = txn.id
  currency : candidate.currency = txn.currency
  amountBase : candidate.amountBase = txn.amountBase
  currencyBase : candidate.currencyBase = txn.baseCurrency.getD ""

theorem candidateOf_mirrors (txn : Transaction) : Mirrors txn (candidateOf txn) :=
  ⟨rfl, rfl, rfl, rfl⟩

theorem applyFeeMode_mirrors {txn : Transaction} {candidate : CandidateTransaction}
    (h : Mirrors txn candidate) (gross : Fee.Money) (schedule : FeeSchedule)
    (mode : NormalizationMode) : Mirrors txn (applyFeeMode candidate gross schedule mode) := by
  obtain ⟨hid, hcurrency, hamountBase, hcurrencyBase⟩ := h
  unfold applyFeeMode
  cases mode with
  | none => exact ⟨hid, hcurrency, hamountBase, hcurrencyBase⟩
  | net | gross =>
    dsimp only
    split <;> exact ⟨hid, hcurrency, hamountBase, hcurrencyBase⟩
  | other => exact ⟨hid, hcurrency, hamountBase, hcurrencyBase⟩

theorem candidateWithFeeRules_mirrors (rules : List FeeRule) (schedules : UUID → Option FeeSchedule)
    (mode : NormalizationMode) (txn : Transaction) :
    Mirrors txn (candidateWithFeeRules rules schedules mode txn) := by
  have hcandidate := candidateOf_mirrors txn
  unfold candidateWithFeeRules applyFeeNormalization
  split
  · exact hcandidate
  · split_ifs
    · exact hcandidate
    · exact hcandidate
    split
    · exact hcandidate
    · exact applyFeeMode_mirrors hcandidate _ _ _

theorem ExecuteRulesInput.candidates_mirror (input : ExecuteRulesInput) :
    List.Forall₂ Mirrors input.left input.candidates.1 ∧
      List.Forall₂ Mirrors input.right input.candidates.2 := by
  have hmap : ∀ (build : Transaction → CandidateTransaction)
      (transactions : List Transaction), (∀ txn, Mirrors txn (build txn)) →
      List.Forall₂ Mirrors transactions (transactions.map build) := by
    intro build transactions hbuild
    rw [List.forall₂_map_right_iff, List.forall₂_same]
    exact fun txn _ => hbuild txn
  unfold ExecuteRulesInput.candidates
  split
  · exact ⟨hmap _ _ (candidateWithFeeRules_mirrors _ _ _),
      hmap _ _ (candidateWithFeeRules_mirrors _ _ _)⟩
  · exact ⟨hmap _ _ candidateOf_mirrors, hmap _ _ candidateOf_mirrors⟩

theorem ids_eq_of_mirrors {transactions : List Transaction} {candidates : List CandidateTransaction}
    (h : List.Forall₂ Mirrors transactions candidates) :
    candidates.map (·.id) = transactions.map (·.id) := by
  induction h with
  | nil => rfl
  | cons hfirst _ ih => rw [List.map_cons, List.map_cons, hfirst.id, ih]

/-! ## Proposals on their own sides -/

section Placement

variable (leftIDs rightIDs : List UUID)

/-- The proposal takes its left ids from the left side, its right from the right. -/
structure Placed (proposal : MatchProposal) : Prop where
  left : ∀ id ∈ proposal.leftIDs, id ∈ leftIDs
  leftNonempty : proposal.leftIDs ≠ []
  right : ∀ id ∈ proposal.rightIDs, id ∈ rightIDs

structure PlacedApart (proposals : List MatchProposal) : Prop where
  nodup : ∀ proposal ∈ proposals, Placed leftIDs rightIDs proposal →
    proposal.leftIDs.Nodup ∧ proposal.rightIDs.Nodup
  apart : proposals.Pairwise fun first second =>
    Placed leftIDs rightIDs first → Placed leftIDs rightIDs second → Apart first second

end Placement

section PlacementOfExecutions

variable {engine : Option Engine} {rules : List RuleDefinition}
  {left right : List CandidateTransaction}

theorem execute1v1_placedApart {proposals : List MatchProposal}
    (h : execute1v1 engine rules left right = .ok proposals) :
    PlacedApart (left.map (·.id)) (right.map (·.id)) proposals := by
  have hmatching := execute1v1_matching h
  constructor
  · intro proposal hproposal _
    obtain ⟨_, _, _, _, _, _, _, rfl, _⟩ := hmatching.sound proposal hproposal
    exact ⟨List.nodup_singleton _, List.nodup_singleton _⟩
  · have hleft := (List.nodup_flatMap.mp hmatching.leftNodup).2
    have hright := (List.nodup_flatMap.mp hmatching.rightNodup).2
    exact (hleft.and hright).imp fun hapart _ _ => hapart

theorem Placed.oriented {leftSorted rightSorted : List CandidateTransaction}
    (hdisjoint : (leftSorted.map (·.id)).Disjoint (rightSorted.map (·.id)))
    (hplaced : Placed (leftSorted.map (·.id)) (rightSorted.map (·.id)) proposal)
    (hshape : Oriented true leftSorted rightSorted proposal ∨ Swapped true rightSorted proposal) :
    Oriented true leftSorted rightSorted proposal := by
  refine hshape.resolve_right fun hswapped => ?_
  obtain ⟨id, hid⟩ := List.exists_mem_of_ne_nil _ hswapped.nonempty
  exact hdisjoint (hplaced.left id hid) (hswapped.primary id hid)

theorem Placed.of_sorted (h : Placed (left.map (·.id)) (right.map (·.id)) proposal) :
    Placed ((sortTransactions left).map (·.id)) ((sortTransactions right).map (·.id)) proposal :=
  ⟨fun id hid => mem_sortTransactions_ids.mpr (h.left id hid), h.leftNonempty,
    fun id hid => mem_sortTransactions_ids.mpr (h.right id hid)⟩

theorem execute1vNDetailed_placedApart (hids : ((left ++ right).map (·.id)).Nodup)
    (h : execute1vNDetailed engine rules left right = .ok result) :
    PlacedApart (left.map (·.id)) (right.map (·.id)) result.proposals := by
  rw [List.map_append] at hids
  have hright := sortTransactions_ids_nodup hids.of_append_right
  have hdisjoint := sortTransactions_ids_disjoint (List.disjoint_of_nodup_append hids)
  obtain ⟨⟨⟩, -, h⟩ := bind_eq_ok.mp h
  obtain ⟨mctx, hrun, rfl⟩ := matchWithDirectionDetailed_eq_ok h
  have hexclusive := runVisits_exclusive hright hdisjoint hrun
  have horiented : ∀ proposal ∈ mctx.proposals,
      Placed (left.map (·.id)) (right.map (·.id)) proposal →
        Oriented true (sortTransactions left) (sortTransactions right)
          proposal := by
    intro proposal hproposal hplaced
    exact hplaced.of_sorted.oriented hdisjoint (hexclusive.shape proposal hproposal)
  constructor
  · intro proposal hproposal hplaced
    have hnodup := hexclusive.nodup proposal hproposal (horiented proposal hproposal hplaced)
    obtain ⟨⟨candidate, -, hone⟩, -⟩ := horiented proposal hproposal hplaced
    refine ⟨?_, hnodup⟩
    change proposal.leftIDs = [candidate.id] at hone
    rw [hone]
    exact List.nodup_singleton _
  · apply hexclusive.apart.imp_of_mem
    intro first second hfirst hsecond hapart hfirstPlaced hsecondPlaced
    exact hapart (horiented first hfirst hfirstPlaced) (horiented second hsecond hsecondPlaced)

theorem executeByContextTypeDetailed_eq_ok {contextType : ContextType}
    (h : executeByContextTypeDetailed engine rules left right contextType = .ok result) :
    contextType = .oneToMany ∧ execute1vNDetailed engine rules left right = .ok result ∨
      contextType ≠ .oneToMany ∧ execute1v1 engine rules left right = .ok result.proposals := by
  unfold executeByContextTypeDetailed at h
  split at h
  case isTrue => cases h
  case isFalse =>
    split at h
    case h_1 => exact .inl ⟨rfl, wrapError_eq_ok.mp h⟩
    case h_2 | h_3 =>
      obtain ⟨proposals, hproposals, hresult⟩ := bind_eq_ok.mp h
      cases hresult
      exact .inr ⟨nofun, wrapError_eq_ok.mp hproposals⟩
    all_goals cases h

theorem executeByContextTypeDetailed_placedApart {contextType : ContextType}
    (hids : ((left ++ right).map (·.id)).Nodup)
    (h : executeByContextTypeDetailed engine rules left right contextType = .ok result) :
    PlacedApart (left.map (·.id)) (right.map (·.id)) result.proposals := by
  rcases executeByContextTypeDetailed_eq_ok h with ⟨-, h⟩ | ⟨-, h⟩
  · exact execute1vNDetailed_placedApart hids h
  · exact execute1v1_placedApart h

end PlacementOfExecutions

theorem executeRulesDetailed_placedApart {ruleProvider : Option MatchRuleProvider}
    {input : ExecuteRulesInput} (hids : ((input.left ++ input.right).map (·.id)).Nodup)
    (h : executeRulesDetailed ruleProvider input = .ok result) :
    PlacedApart (input.left.map (·.id)) (input.right.map (·.id)) result.proposals := by
  obtain ⟨hleft, hright⟩ := input.candidates_mirror
  unfold executeRulesDetailed at h
  split at h
  · cases h
  · split at h
    case isTrue => cases h
    case isFalse =>
      obtain ⟨definitions, -, h⟩ := bind_eq_ok.mp h
      rw [← ids_eq_of_mirrors hleft, ← ids_eq_of_mirrors hright]
      refine executeByContextTypeDetailed_placedApart ?_ h
      rw [List.map_append, ids_eq_of_mirrors hleft, ids_eq_of_mirrors hright, ← List.map_append]
      exact hids

end Matcher.Command
