import Mathlib.Data.List.Nodup
import Matcher.Matching.DirectedEngine

/-!
# Sides and exclusivity of directed proposals

A proposal is oriented when its primary side is one primary candidate and its
other side consists of secondary candidates.  An allocation whose direction is
opposite to the engine's mode yields the proposal with its sides swapped.  The
oriented proposals of a run never share a candidate; the run is free of swapped
ones exactly when no visit completes an allocation in the opposite direction.
-/

namespace Matcher.Matching

open Foundation

variable {primary secondary transactions : List CandidateTransaction}
  {rule : RuleDefinition} {candidate : CandidateTransaction}
  {visits : List (RuleDefinition × CandidateTransaction)} {proposal second first : MatchProposal}
  {finish start : MatchContext} {primaryIsLeft : Bool}

/-- The allocation puts its target on the engine's primary side. -/
def AllocationDirection.fits (direction : AllocationDirection) (primaryIsLeft : Bool) : Bool :=
  if primaryIsLeft then direction ≠ .rightToLeft else direction = .rightToLeft

def primaryIDs (primaryIsLeft : Bool) (proposal : MatchProposal) : List UUID :=
  if primaryIsLeft then proposal.leftIDs else proposal.rightIDs

def secondaryIDs (primaryIsLeft : Bool) (proposal : MatchProposal) : List UUID :=
  if primaryIsLeft then proposal.rightIDs else proposal.leftIDs

theorem buildAllocationMatchProposal_sides (cfg : AllocationConfig) (rule : RuleDefinition)
    (target : CandidateTransaction) (allocations : List Allocation) (total : Decimal) (score : ℤ)
    (primaryIsLeft : Bool) :
    primaryIDs primaryIsLeft (buildAllocationMatchProposal cfg rule target allocations total
        score) = (if cfg.direction.fits primaryIsLeft then [target.id]
          else allocations.map (·.transactionID)) ∧
      secondaryIDs primaryIsLeft (buildAllocationMatchProposal cfg rule target allocations total
        score) = if cfg.direction.fits primaryIsLeft then allocations.map (·.transactionID)
          else [target.id] := by
  unfold primaryIDs secondaryIDs AllocationDirection.fits buildAllocationMatchProposal
  by_cases hdirection : cfg.direction = .rightToLeft
  · cases primaryIsLeft <;> simp [hdirection]
  · cases primaryIsLeft <;> simp [hdirection]

theorem buildAllocationMatchProposal_origin (cfg : AllocationConfig) (rule : RuleDefinition)
    (target : CandidateTransaction) (allocations : List Allocation) (total : Decimal) (score : ℤ)
    (h : buildAllocationMatchProposal cfg rule target allocations total score = proposal) :
    proposal.ruleID = rule.id ∧ proposal.score = score ∧ ∀ id,
      id ∈ proposal.leftIDs ∨ id ∈ proposal.rightIDs ↔
        id = target.id ∨ id ∈ allocations.map (·.transactionID) := by
  subst h
  by_cases hdirection : cfg.direction = .rightToLeft
  · simp [buildAllocationMatchProposal, hdirection, or_comm]
  · simp [buildAllocationMatchProposal, hdirection]

/-! ## Effect of a visit on the engine state -/

structure Untouched (mctx mctx' : MatchContext) : Prop where
  proposals : mctx'.proposals = mctx.proposals
  usedPrimary : mctx'.usedPrimary = mctx.usedPrimary
  usedSecondary : mctx'.usedSecondary = mctx.usedSecondary
  primaryIsLeft : mctx'.primaryIsLeft = mctx.primaryIsLeft

structure Appends (proposal : MatchProposal) (mctx mctx' : MatchContext) : Prop where
  proposals : mctx'.proposals = mctx.proposals ++ [proposal]
  usedPrimary : ∀ id, id ∈ mctx'.usedPrimary ↔
    id ∈ primaryIDs mctx.primaryIsLeft proposal ∨ id ∈ mctx.usedPrimary
  usedSecondary : ∀ id, id ∈ mctx'.usedSecondary ↔
    id ∈ secondaryIDs mctx.primaryIsLeft proposal ∨ id ∈ mctx.usedSecondary
  primaryIsLeft : mctx'.primaryIsLeft = mctx.primaryIsLeft

theorem addAllocatedProposal_appends (proposal : MatchProposal) (mctx : MatchContext) :
    Appends proposal mctx (addAllocatedProposal proposal mctx) := by
  cases hside : mctx.primaryIsLeft with
  | true | false =>
    constructor <;>
      simp [addAllocatedProposal, resolveUsedMaps, MatchContext.setUsedMaps,
        primaryIDs, secondaryIDs, hside]

theorem directProposal_sides (rule : RuleDefinition) (primaryID : UUID)
    (matchedIDs : List UUID) (maxScore : ℤ) (mctx : MatchContext) :
    primaryIDs mctx.primaryIsLeft
        (directProposal rule primaryID matchedIDs maxScore mctx) = [primaryID] ∧
      secondaryIDs mctx.primaryIsLeft
        (directProposal rule primaryID matchedIDs maxScore mctx) =
          matchedIDs := by
  unfold primaryIDs secondaryIDs directProposal resolveProposalIDs
  cases mctx.primaryIsLeft with
  | true | false => simp

theorem addDirectProposal_appends (rule : RuleDefinition) (primaryID : UUID)
    (matchedIDs : List UUID) (maxScore : ℤ) (mctx : MatchContext) :
    Appends (directProposal rule primaryID matchedIDs maxScore mctx) mctx
      (addDirectProposal rule primaryID matchedIDs maxScore mctx) := by
  have hsides := directProposal_sides rule primaryID matchedIDs maxScore mctx
  refine ⟨rfl, ?_, ?_, rfl⟩
  · intro id
    rw [hsides.1, List.mem_singleton]
    exact Finset.mem_insert
  · intro id
    rw [hsides.2]
    exact mem_markUsed

/-! ## Oriented and swapped proposals -/

section Orientation

variable (primaryIsLeft : Bool) (primary secondary : List CandidateTransaction)

structure Oriented (proposal : MatchProposal) : Prop where
  primary : ∃ candidate ∈ primary, primaryIDs primaryIsLeft proposal = [candidate.id]
  secondary : ∀ id ∈ secondaryIDs primaryIsLeft proposal, id ∈ secondary.map (·.id)

structure Swapped (proposal : MatchProposal) : Prop where
  nonempty : primaryIDs primaryIsLeft proposal ≠ []
  primary : ∀ id ∈ primaryIDs primaryIsLeft proposal, id ∈ secondary.map (·.id)

structure Fresh (mctx : MatchContext) (proposal : MatchProposal) : Prop where
  primary : ∀ id ∈ primaryIDs mctx.primaryIsLeft proposal, id ∉ mctx.usedPrimary
  secondary : ∀ id ∈ secondaryIDs mctx.primaryIsLeft proposal, id ∉ mctx.usedSecondary
  nodup : (secondaryIDs mctx.primaryIsLeft proposal).Nodup

/--
The visit completes an allocation whose direction is opposite to the side that
is primary.
-/
def Swaps (mctx : MatchContext) (visit : RuleDefinition × CandidateTransaction) : Prop :=
  visit.2.id ∉ mctx.usedPrimary ∧
    ∃ cfg collected result, visit.1.allocation = some cfg ∧
      cfg.direction.fits mctx.primaryIsLeft = false ∧
      findMatches visit.1 visit.2 secondary mctx = .ok collected ∧
      Completes cfg visit.2 collected.candidates result

end Orientation

theorem Swapped.not_oriented (hdisjoint : (primary.map (·.id)).Disjoint (secondary.map (·.id)))
    (h : Swapped primaryIsLeft secondary proposal) :
    ¬ Oriented primaryIsLeft primary secondary proposal := by
  rintro ⟨⟨candidate, hcandidate, hids⟩, -⟩
  have hmem : candidate.id ∈ primaryIDs primaryIsLeft proposal := by
    rw [hids]
    exact List.mem_singleton_self _
  exact hdisjoint (List.mem_map_of_mem hcandidate) (h.primary _ hmem)

theorem visitPrimary_effect {mctx mctx' : MatchContext} (hids : (secondary.map (·.id)).Nodup)
    (hmem : candidate ∈ primary) (h : visitPrimary secondary rule mctx candidate = .ok mctx') :
    Untouched mctx mctx' ∨ ∃ proposal, Appends proposal mctx mctx' ∧
      (Fresh mctx proposal ∧ Oriented mctx.primaryIsLeft primary secondary proposal ∨
        Swapped mctx.primaryIsLeft secondary proposal ∧
          Swaps secondary mctx (rule, candidate)) := by
  cases visitPrimary_outcome h with
  | idle | failed => exact Or.inl ⟨rfl, rfl, rfl, rfl⟩
  | direct collected hfree _ hcollected =>
    have hsides := directProposal_sides rule candidate.id collected.ids collected.maxScore mctx
    refine Or.inr ⟨_, addDirectProposal_appends _ _ _ _ _, Or.inl ⟨?_, ?_⟩⟩
    · refine ⟨?_, ?_, ?_⟩
      · rw [hsides.1]
        simpa using hfree
      · rw [hsides.2, hcollected.ids]
        intro id hid
        obtain ⟨other, hother, rfl⟩ := List.mem_map.mp hid
        exact hcollected.free other hother
      · rw [hsides.2, hcollected.ids]
        exact hids.sublist (hcollected.sublist.map _)
    · refine ⟨⟨candidate, hmem, hsides.1⟩, ?_⟩
      rw [hsides.2, hcollected.ids]
      exact (hcollected.sublist.map _).subset
  | allocated cfg collected result hfree hallocation hfind hcompletes =>
    have hsplit := allocateOneToManyDetailed_completeSplit hids
      (collectMatches_collects hfind) hcompletes.1 hcompletes.2
    have hsides := buildAllocationMatchProposal_sides cfg rule candidate result.allocations
      result.total collected.maxScore mctx.primaryIsLeft
    refine Or.inr ⟨_, addAllocatedProposal_appends _ _, ?_⟩
    cases hfits : cfg.direction.fits mctx.primaryIsLeft with
    | true =>
      simp only [hfits, ↓reduceIte] at hsides
      refine Or.inl ⟨⟨?_, ?_, ?_⟩, ⟨candidate, hmem, hsides.1⟩, ?_⟩
      · rw [hsides.1]
        simpa using hfree
      · rw [hsides.2]
        exact fun id hid => (hsplit.ids_free id hid).1
      · rw [hsides.2]
        exact hsplit.nodup
      · rw [hsides.2]
        exact fun id hid => (hsplit.ids_free id hid).2
    | false =>
      simp only [hfits, Bool.false_eq_true, ↓reduceIte] at hsides
      refine Or.inr ⟨⟨?_, ?_⟩, hfree, cfg, collected, result, hallocation, hfits, hfind, hcompletes⟩
      · rw [hsides.1]
        simpa using hsplit.nonempty
      · rw [hsides.1]
        exact fun id hid => (hsplit.ids_free id hid).2

/-! ## The invariant of a run -/

def Apart (first second : MatchProposal) : Prop :=
  first.leftIDs.Disjoint second.leftIDs ∧ first.rightIDs.Disjoint second.rightIDs

theorem apart_iff (primaryIsLeft : Bool) :
    Apart first second ↔
      (primaryIDs primaryIsLeft first).Disjoint (primaryIDs primaryIsLeft second) ∧
        (secondaryIDs primaryIsLeft first).Disjoint (secondaryIDs primaryIsLeft second) := by
  cases primaryIsLeft with
  | true => exact Iff.rfl
  | false => exact and_comm

structure Exclusive (primaryIsLeft : Bool)
    (primary secondary : List CandidateTransaction) (mctx : MatchContext) :
    Prop where
  side : mctx.primaryIsLeft = primaryIsLeft
  shape : ∀ proposal ∈ mctx.proposals,
    Oriented primaryIsLeft primary secondary proposal ∨ Swapped primaryIsLeft secondary proposal
  usedPrimary : ∀ proposal ∈ mctx.proposals,
    ∀ id ∈ primaryIDs primaryIsLeft proposal, id ∈ mctx.usedPrimary
  usedSecondary : ∀ proposal ∈ mctx.proposals,
    ∀ id ∈ secondaryIDs primaryIsLeft proposal, id ∈ mctx.usedSecondary
  nodup : ∀ proposal ∈ mctx.proposals,
    Oriented primaryIsLeft primary secondary proposal → (secondaryIDs primaryIsLeft proposal).Nodup
  apart : mctx.proposals.Pairwise fun first second =>
    Oriented primaryIsLeft primary secondary first →
      Oriented primaryIsLeft primary secondary second → Apart first second

namespace Exclusive

variable {primaryIsLeft : Bool} {primary secondary : List CandidateTransaction}
  {mctx mctx' : MatchContext}

theorem initial (mode : MatchMode) (primaryIsLeft : Bool)
    (primary secondary : List CandidateTransaction) :
    Exclusive primaryIsLeft primary secondary (initialContext mode primaryIsLeft) := by
  constructor <;> simp [initialContext]

section

variable (h : Exclusive primaryIsLeft primary secondary mctx)

include h

theorem untouched (heffect : Untouched mctx mctx') :
    Exclusive primaryIsLeft primary secondary mctx' := by
  obtain ⟨hproposals, hprimary, hsecondary, hside⟩ := heffect
  constructor
  · rw [hside]
    exact h.side
  · rw [hproposals]
    exact h.shape
  · rw [hproposals, hprimary]
    exact h.usedPrimary
  · rw [hproposals, hsecondary]
    exact h.usedSecondary
  · rw [hproposals]
    exact h.nodup
  · rw [hproposals]
    exact h.apart

theorem appends (heffect : Appends proposal mctx mctx')
    (hshape : Oriented primaryIsLeft primary secondary proposal ∨
      Swapped primaryIsLeft secondary proposal)
    (hfresh : Oriented primaryIsLeft primary secondary proposal → Fresh mctx proposal) :
    Exclusive primaryIsLeft primary secondary mctx' := by
  obtain ⟨hproposals, hprimary, hsecondary, hside⟩ := heffect
  rw [h.side] at hprimary hsecondary hside
  constructor
  · exact hside
  · rw [hproposals]
    intro other hother
    rcases List.mem_append.mp hother with hold | hnew
    · exact h.shape other hold
    · rw [List.mem_singleton.mp hnew]
      exact hshape
  · rw [hproposals]
    intro other hother id hid
    rw [hprimary]
    rcases List.mem_append.mp hother with hold | hnew
    · exact Or.inr (h.usedPrimary other hold id hid)
    · rw [List.mem_singleton.mp hnew] at hid
      exact Or.inl hid
  · rw [hproposals]
    intro other hother id hid
    rw [hsecondary]
    rcases List.mem_append.mp hother with hold | hnew
    · exact Or.inr (h.usedSecondary other hold id hid)
    · rw [List.mem_singleton.mp hnew] at hid
      exact Or.inl hid
  · rw [hproposals]
    intro other hother horiented
    rcases List.mem_append.mp hother with hold | hnew
    · exact h.nodup other hold horiented
    · rw [List.mem_singleton.mp hnew] at horiented ⊢
      have hnodup := (hfresh horiented).nodup
      rwa [h.side] at hnodup
  · rw [hproposals]
    refine List.pairwise_append.mpr ⟨h.apart, List.pairwise_singleton _ _, ?_⟩
    intro first hfirst second hsecond _ horiented
    rw [List.mem_singleton.mp hsecond] at horiented ⊢
    obtain ⟨hfreshPrimary, hfreshSecondary, -⟩ := hfresh horiented
    rw [h.side] at hfreshPrimary hfreshSecondary
    refine (apart_iff primaryIsLeft).mpr ⟨?_, ?_⟩
    · intro id hold hnew
      exact hfreshPrimary id hnew (h.usedPrimary first hfirst id hold)
    · intro id hold hnew
      exact hfreshSecondary id hnew (h.usedSecondary first hfirst id hold)

theorem visit (hids : (secondary.map (·.id)).Nodup)
    (hdisjoint : (primary.map (·.id)).Disjoint (secondary.map (·.id))) (hmem : candidate ∈ primary)
    (hvisit : visitPrimary secondary rule mctx candidate = .ok mctx') :
    Exclusive primaryIsLeft primary secondary mctx' := by
  rcases visitPrimary_effect hids hmem hvisit with
    huntouched | ⟨proposal, happends, heffect⟩
  · exact h.untouched huntouched
  · rw [h.side] at heffect
    rcases heffect with ⟨hfresh, horiented⟩ | ⟨hswapped, -⟩
    · exact h.appends happends (Or.inl horiented) fun _ => hfresh
    · exact h.appends happends (Or.inr hswapped) fun horiented =>
        absurd horiented (hswapped.not_oriented hdisjoint)

end

end Exclusive

/-! ## Runs -/

def runVisits (secondary : List CandidateTransaction)
    (visits : List (RuleDefinition × CandidateTransaction)) (mctx : MatchContext) :
    Except GoError MatchContext :=
  visits.foldlM (fun mctx visit => visitPrimary secondary visit.1 mctx visit.2) mctx

theorem matchWithDirectionDetailed_eq_ok {rules : List RuleDefinition} {mode : MatchMode}
    {result : EngineResult}
    (h : matchWithDirectionDetailed rules primary secondary mode primaryIsLeft = .ok result) :
    ∃ mctx, runVisits secondary (rules ×ˢ primary) (initialContext mode primaryIsLeft) = .ok mctx ∧
      result = ⟨mctx.proposals, mctx.allocFailures⟩ := by
  obtain ⟨mctx, hloop, hresult⟩ := bind_eq_ok.mp h
  refine ⟨mctx, ?_, (Except.ok.inj hresult).symm⟩
  rw [← hloop]
  exact foldlM_product rules primary (initialContext mode primaryIsLeft)

section Runs

variable {rules : List RuleDefinition}
  {primary secondary : List CandidateTransaction} {mode : MatchMode}
  {primaryIsLeft : Bool} {mctx : MatchContext}

/-- A run keeps the primary side and its proposals. -/
theorem runVisits_keeps (h : runVisits secondary visits start = .ok finish) :
    finish.primaryIsLeft = start.primaryIsLeft ∧ start.proposals ⊆ finish.proposals := by
  refine foldlM_preserves (fun (state : MatchContext) =>
    state.primaryIsLeft = start.primaryIsLeft ∧ start.proposals ⊆ state.proposals)
    ⟨rfl, List.Subset.refl _⟩ ?_ h
  intro visit state state' _ hstate hstep
  cases visitPrimary_outcome hstep with
  | idle | failed => exact hstate
  | direct => exact ⟨hstate.1, List.Subset.trans hstate.2 (List.subset_append_left _ _)⟩
  | allocated =>
    rw [(addAllocatedProposal_appends _ state).primaryIsLeft,
      (addAllocatedProposal_appends _ state).proposals]
    exact ⟨hstate.1, List.Subset.trans hstate.2 (List.subset_append_left _ _)⟩

theorem visit_mem {done rest : List (RuleDefinition × CandidateTransaction)}
    {visit : RuleDefinition × CandidateTransaction} (h : rules ×ˢ primary = done ++ visit :: rest) :
    visit.1 ∈ rules ∧ visit.2 ∈ primary := by
  apply List.mem_product.mp
  rw [h]
  simp

/-- No visit of the run completes an allocation in the opposite direction. -/
def NeverSwaps (rules : List RuleDefinition) (primary secondary : List CandidateTransaction)
    (mode : MatchMode) (primaryIsLeft : Bool) : Prop :=
  ∀ done visit rest state, rules ×ˢ primary = done ++ visit :: rest →
    runVisits secondary done (initialContext mode primaryIsLeft) = .ok state →
      ¬ Swaps secondary state visit

theorem neverSwaps_of_fits (h : ∀ rule ∈ rules, ∀ cfg, rule.allocation = some cfg →
      cfg.direction.fits primaryIsLeft = true) :
    NeverSwaps rules primary secondary mode primaryIsLeft := by
  rintro done visit rest state hvisits hdone ⟨-, cfg, -, -, hallocation, hopposes, -⟩
  have hfits := h visit.1 (visit_mem hvisits).1 cfg hallocation
  rw [(runVisits_keeps hdone).1] at hopposes
  rw [show (initialContext mode primaryIsLeft).primaryIsLeft = primaryIsLeft from rfl,
    hfits] at hopposes
  cases hopposes

theorem runVisits_oriented (hids : (secondary.map (·.id)).Nodup)
    (hswaps : NeverSwaps rules primary secondary mode primaryIsLeft)
    (h : runVisits secondary (rules ×ˢ primary) (initialContext mode primaryIsLeft) = .ok mctx) :
    ∀ proposal ∈ mctx.proposals, Oriented primaryIsLeft primary secondary proposal := by
  refine (foldlM_trace_invariant (fun _ (state : MatchContext) =>
    state.primaryIsLeft = primaryIsLeft ∧ ∀ proposal ∈ state.proposals,
      Oriented primaryIsLeft primary secondary proposal) ?_ ?_ h).2
  · exact ⟨rfl, by simp [initialContext]⟩
  · rintro done visit rest state state' hvisits hdone ⟨hside, horiented⟩ hstep
    rcases visitPrimary_effect hids (visit_mem hvisits).2 hstep with
      huntouched | ⟨proposal, happends, ⟨-, hnew⟩ | ⟨-, hswap⟩⟩
    · rw [huntouched.proposals, huntouched.primaryIsLeft]
      exact ⟨hside, horiented⟩
    · rw [hside] at hnew
      rw [happends.proposals, happends.primaryIsLeft]
      refine ⟨hside, ?_⟩
      intro other hother
      rcases List.mem_append.mp hother with hold | hadded
      · exact horiented other hold
      · rw [List.mem_singleton.mp hadded]
        exact hnew
    · exact absurd hswap (hswaps done visit rest state hvisits hdone)

theorem visitPrimary_of_swaps {state state' : MatchContext} (hids : (secondary.map (·.id)).Nodup)
    (hswaps : Swaps secondary state (rule, candidate))
    (h : visitPrimary secondary rule state candidate = .ok state') :
    ∃ proposal ∈ state'.proposals, Swapped state.primaryIsLeft secondary proposal := by
  obtain ⟨hfree, cfg, collected, result, hallocation, hopposes, hfind, hcompletes⟩ := hswaps
  have hsplit := allocateOneToManyDetailed_completeSplit hids
    (collectMatches_collects hfind) hcompletes.1 hcompletes.2
  rw [visitPrimary_of_completes hfree hallocation hfind hcompletes] at h
  cases h
  have hsides := buildAllocationMatchProposal_sides cfg rule candidate result.allocations
    result.total collected.maxScore state.primaryIsLeft
  simp only [hopposes, Bool.false_eq_true, ↓reduceIte] at hsides
  refine ⟨buildAllocationMatchProposal cfg rule candidate result.allocations
    result.total collected.maxScore, ?_, ?_, ?_⟩
  · rw [(addAllocatedProposal_appends _ state).proposals]
    simp
  · rw [hsides.1]
    simpa using hsplit.nonempty
  · rw [hsides.1]
    exact fun id hid => (hsplit.ids_free id hid).2

/--
Every proposal pairs one candidate of one side with candidates of the other, and
no candidate occurs in two proposals.
-/
structure ExclusiveProposals (ones manys : List CandidateTransaction)
    (oneIDs manyIDs : MatchProposal → List UUID) (proposals : List MatchProposal) : Prop where
  one : ∀ proposal ∈ proposals, ∃ candidate ∈ ones, oneIDs proposal = [candidate.id]
  many : ∀ proposal ∈ proposals, ∀ id ∈ manyIDs proposal, ∃ candidate ∈ manys, candidate.id = id
  exclusive : proposals.Pairwise fun first second =>
    ∀ id, id ∈ first.leftIDs ∨ id ∈ first.rightIDs → id ∉ second.leftIDs ∧ id ∉ second.rightIDs

theorem Oriented.apart_ids (hdisjoint : (primary.map (·.id)).Disjoint (secondary.map (·.id)))
    (hfirst : Oriented primaryIsLeft primary secondary first)
    (hsecond : Oriented primaryIsLeft primary secondary second) (hapart : Apart first second) :
    ∀ id, id ∈ first.leftIDs ∨ id ∈ first.rightIDs →
      id ∉ second.leftIDs ∧ id ∉ second.rightIDs := by
  have hprimary : ∀ proposal, Oriented primaryIsLeft primary secondary
      proposal → ∀ id ∈ primaryIDs primaryIsLeft proposal, id ∈ primary.map (·.id) := by
    rintro proposal ⟨⟨candidate, hcandidate, hone⟩, -⟩ id hid
    rw [hone, List.mem_singleton] at hid
    rw [hid]
    exact List.mem_map_of_mem hcandidate
  have hcross : ∀ id, id ∈ primaryIDs primaryIsLeft first ∨
      id ∈ secondaryIDs primaryIsLeft first →
      id ∉ primaryIDs primaryIsLeft second ∧ id ∉ secondaryIDs primaryIsLeft second := by
    obtain ⟨hprimaryApart, hsecondaryApart⟩ := (apart_iff primaryIsLeft).mp hapart
    rintro id (hid | hid)
    · exact ⟨fun hother => hprimaryApart hid hother, fun hother =>
        hdisjoint (hprimary first hfirst id hid) (hsecond.secondary id hother)⟩
    · exact ⟨fun hother => hdisjoint (hprimary second hsecond id hother)
        (hfirst.secondary id hid), fun hother => hsecondaryApart hid hother⟩
  cases primaryIsLeft with
  | true => exact hcross
  | false =>
    intro id hid
    exact (hcross id hid.symm).symm

variable (hids : (secondary.map (·.id)).Nodup)
  (hdisjoint : (primary.map (·.id)).Disjoint (secondary.map (·.id)))
  (h : runVisits secondary (rules ×ˢ primary) (initialContext mode primaryIsLeft) = .ok mctx)

include hids hdisjoint h

theorem runVisits_exclusive : Exclusive primaryIsLeft primary secondary mctx := by
  refine foldlM_preserves _ (Exclusive.initial mode primaryIsLeft _ _) ?_ h
  intro visit state state' hvisit hstate hstep
  exact hstate.visit hids hdisjoint (List.mem_product.mp hvisit).2 hstep

theorem neverSwaps_of_oriented
    (horiented : ∀ proposal ∈ mctx.proposals, Oriented primaryIsLeft primary secondary proposal) :
    NeverSwaps rules primary secondary mode primaryIsLeft := by
  intro done visit rest state hvisits hdone hswaps
  rw [hvisits] at h
  obtain ⟨next, hstep, hrest⟩ := foldlM_step hdone h
  have hside : state.primaryIsLeft = primaryIsLeft := (runVisits_keeps hdone).1
  obtain ⟨proposal, hproposal, hswapped⟩ := visitPrimary_of_swaps hids hswaps hstep
  rw [hside] at hswapped
  exact hswapped.not_oriented hdisjoint
    (horiented proposal ((runVisits_keeps hrest).2 hproposal))

theorem runVisits_exclusiveProposals_iff :
    ExclusiveProposals primary secondary (primaryIDs primaryIsLeft)
        (secondaryIDs primaryIsLeft) mctx.proposals ↔
      NeverSwaps rules primary secondary mode primaryIsLeft := by
  constructor
  · intro hexclusive
    apply neverSwaps_of_oriented hids hdisjoint h
    intro proposal hproposal
    refine ⟨hexclusive.one proposal hproposal, ?_⟩
    intro id hid
    obtain ⟨candidate, hcandidate, rfl⟩ := hexclusive.many proposal hproposal id hid
    exact List.mem_map_of_mem hcandidate
  · intro hswaps
    have horiented := runVisits_oriented hids hswaps h
    refine ⟨fun proposal hproposal => (horiented proposal hproposal).primary, ?_, ?_⟩
    · intro proposal hproposal id hid
      exact List.mem_map.mp ((horiented proposal hproposal).secondary id hid)
    · apply (runVisits_exclusive hids hdisjoint h).apart.imp_of_mem
      intro first second hfirst hsecond hapart
      exact Oriented.apart_ids hdisjoint (horiented first hfirst) (horiented second hsecond)
        (hapart (horiented first hfirst) (horiented second hsecond))

end Runs

theorem ExclusiveProposals.of_mem {ones ones' manys manys' : List CandidateTransaction}
    {oneIDs manyIDs : MatchProposal → List UUID} {proposals : List MatchProposal}
    (hones : ∀ c, c ∈ ones ↔ c ∈ ones') (hmanys : ∀ c, c ∈ manys ↔ c ∈ manys') :
    ExclusiveProposals ones manys oneIDs manyIDs proposals ↔
      ExclusiveProposals ones' manys' oneIDs manyIDs proposals := by
  constructor
  · rintro ⟨hone, hmany, hexclusive⟩
    simp only [hones, hmanys] at hone hmany
    exact ⟨hone, hmany, hexclusive⟩
  · rintro ⟨hone, hmany, hexclusive⟩
    simp only [← hones, ← hmanys] at hone hmany
    exact ⟨hone, hmany, hexclusive⟩

theorem mem_sortTransactions_ids {id : UUID} :
    id ∈ (sortTransactions transactions).map (·.id) ↔ id ∈ transactions.map (·.id) :=
  ((stableSort_perm transactionLess transactions).map _).mem_iff

theorem sortTransactions_ids_nodup (h : (transactions.map (·.id)).Nodup) :
    ((sortTransactions transactions).map (·.id)).Nodup :=
  ((stableSort_perm transactionLess transactions).map _).nodup_iff.mpr h

theorem sortTransactions_ids_disjoint {left right : List CandidateTransaction}
    (h : (left.map (·.id)).Disjoint (right.map (·.id))) :
    ((sortTransactions left).map (·.id)).Disjoint ((sortTransactions right).map (·.id)) := by
  intro id hleft hright
  exact h (mem_sortTransactions_ids.mp hleft) (mem_sortTransactions_ids.mp hright)

/--
The proposals of a directed execution have one candidate on the primary side, the
others on the opposite side and no candidate in two proposals exactly when no
visit of the run completes an allocation in the opposite direction.
-/
theorem directed_proposals_exclusive_iff {engine : Option Engine} {rules : List RuleDefinition}
    {left right : List CandidateTransaction} (hids : ((left ++ right).map (·.id)).Nodup) :
    (∀ result, execute1vNDetailed engine rules left right = .ok result →
      (ExclusiveProposals left right (·.leftIDs) (·.rightIDs) result.proposals ↔
        NeverSwaps (sortRules rules) (sortTransactions left)
          (sortTransactions right) .oneToMany true)) ∧
    (∀ result, executeNv1Detailed engine rules left right = .ok result →
      (ExclusiveProposals right left (·.rightIDs) (·.leftIDs) result.proposals ↔
        NeverSwaps (sortRules rules) (sortTransactions right)
          (sortTransactions left) .manyToOne false)) := by
  rw [List.map_append] at hids
  have hleft := sortTransactions_ids_nodup hids.of_append_left
  have hright := sortTransactions_ids_nodup hids.of_append_right
  have hdisjoint := sortTransactions_ids_disjoint (List.disjoint_of_nodup_append hids)
  constructor
  · intro result h
    obtain ⟨⟨⟩, -, h⟩ := bind_eq_ok.mp h
    obtain ⟨mctx, hrun, rfl⟩ := matchWithDirectionDetailed_eq_ok h
    rw [← runVisits_exclusiveProposals_iff hright hdisjoint hrun]
    exact ExclusiveProposals.of_mem (fun _ => mem_stableSort.symm) (fun _ => mem_stableSort.symm)
  · intro result h
    obtain ⟨⟨⟩, -, h⟩ := bind_eq_ok.mp h
    obtain ⟨mctx, hrun, rfl⟩ := matchWithDirectionDetailed_eq_ok h
    rw [← runVisits_exclusiveProposals_iff hleft hdisjoint.symm hrun]
    exact ExclusiveProposals.of_mem (fun _ => mem_stableSort.symm) (fun _ => mem_stableSort.symm)

theorem directed_proposals_exclusive_iff_pair :
    ∃ result, execute1vNDetailed (some newEngine)
        [amountRule ⟨9⟩ (some exactSplitConfig)] [plainCandidate ⟨1⟩ 100]
        [plainCandidate ⟨2⟩ 100] = .ok result ∧
      ExclusiveProposals [plainCandidate ⟨1⟩ 100] [plainCandidate ⟨2⟩ 100]
        (·.leftIDs) (·.rightIDs) result.proposals := by
  refine exists_ok_of_map (f := (·.proposals.length)) 1 (by decide +kernel) ?_
  intro result h _
  refine ((directed_proposals_exclusive_iff (by decide)).1 result h).mpr ?_
  apply neverSwaps_of_fits
  intro rule hrule cfg hcfg
  rw [sortRules, mem_stableSort, List.mem_singleton] at hrule
  rw [hrule] at hcfg
  cases hcfg
  rfl

def reversedSplitConfig : AllocationConfig :=
  { exactSplitConfig with direction := .rightToLeft }

/--
A right-to-left allocation in a one-to-many execution: both rules propose the
right candidate as the left side, and each of the two candidates occurs in both
proposals.
-/
theorem execute1vNDetailed_right_to_left_not_exclusive :
    ∃ result, execute1vNDetailed (some newEngine)
        [amountRule ⟨8⟩ (some reversedSplitConfig), amountRule ⟨9⟩ (some reversedSplitConfig)]
        [plainCandidate ⟨1⟩ 100] [plainCandidate ⟨2⟩ 100] = .ok result ∧
      result.proposals.map (fun p => (p.ruleID, p.leftIDs, p.rightIDs)) =
        [(⟨8⟩, [⟨2⟩], [⟨1⟩]), (⟨9⟩, [⟨2⟩], [⟨1⟩])] ∧
      ¬ ExclusiveProposals [plainCandidate ⟨1⟩ 100] [plainCandidate ⟨2⟩ 100]
        (·.leftIDs) (·.rightIDs) result.proposals := by
  refine exists_ok_of_map (f := (·.proposals.map fun p => (p.ruleID, p.leftIDs, p.rightIDs)))
    [(⟨8⟩, [⟨2⟩], [⟨1⟩]), (⟨9⟩, [⟨2⟩], [⟨1⟩])] (by decide +kernel) ?_
  intro result h hsides
  refine ⟨hsides, ?_⟩
  intro hexclusive
  have hfirst : ((⟨8⟩, [⟨2⟩], [⟨1⟩]) : UUID × List UUID × List UUID) ∈
      result.proposals.map fun p => (p.ruleID, p.leftIDs, p.rightIDs) := by
    rw [hsides]
    exact List.mem_cons_self
  obtain ⟨proposal, hproposal, heq⟩ := List.mem_map.mp hfirst
  obtain ⟨candidate, hcandidate, hone⟩ := hexclusive.one proposal hproposal
  simp only [Prod.mk.injEq] at heq
  rw [heq.2.1, List.mem_singleton.mp hcandidate] at hone
  exact absurd hone (by decide)

end Matcher.Matching
