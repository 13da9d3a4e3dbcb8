import Matcher.Command.Execution
import Matcher.Matching.ProposalOrigins

/-!
# Date lag matches and human review

The score of a proposal is the best score among the pairs that its rule accepted
for it.  A pair of a date lag rule scores sixty, and ninety when both candidates
carry one currency.  Ninety is also the confidence from which a group is
confirmed without review.
-/

namespace Matcher.Command

open Foundation
open Matching

variable {engine : Option Engine} {primary : CandidateTransaction} {used : Finset UUID}
  {source : Option MatchRule} {proposal : MatchProposal} {proposals earlier : List MatchProposal}
  {collected : Collected} {result : EngineResult} {group : MatchGroup} {contextType : ContextType}
  {rules : List RuleDefinition} {rule : RuleDefinition} {left right : List CandidateTransaction}

/-! ## The pairs behind a proposal -/

/--
The rule accepts the pair for the transactions with these ids.  A one to many
proposal takes the best score of its left candidate with any right candidate
outside the earlier proposals, also with one that its split leaves out.
-/
structure Weighed (contextType : ContextType) (rule : RuleDefinition)
    (left right : List CandidateTransaction) (earlier : List MatchProposal) (ids : List UUID)
    (first second : CandidateTransaction) (score : ℤ) : Prop where
  left : first ∈ left ∧ first.id ∈ ids
  right : second ∈ right ∧
    if contextType = .oneToMany then ∀ other ∈ earlier, second.id ∉ other.rightIDs
    else second.id ∈ ids
  accepts : Accepts rule first second score

structure ScoredBy (contextType : ContextType) (rule : RuleDefinition)
    (left right : List CandidateTransaction) (earlier : List MatchProposal)
    (proposal : MatchProposal) : Prop where
  ruleID : proposal.ruleID = rule.id
  bound : ∀ first second score, Weighed contextType rule left right earlier
    (proposal.leftIDs ++ proposal.rightIDs) first second score → score ≤ proposal.score
  best : ∃ first second, Weighed contextType rule left right earlier
    (proposal.leftIDs ++ proposal.rightIDs) first second proposal.score

theorem eq_of_id_mem {first : CandidateTransaction} {others : List UUID}
    (hids : (left.map (·.id)).Nodup) (hdisjoint : (left.map (·.id)).Disjoint others)
    (hprimary : primary ∈ left) (hfirst : first ∈ left)
    (hid : first.id = primary.id ∨ first.id ∈ others) : first = primary := by
  rcases hid with hsame | hother
  · exact List.inj_on_of_nodup_map hids hfirst hprimary hsame
  · exact absurd hother (hdisjoint (List.mem_map_of_mem hfirst))

theorem execute1v1_scoredBy (hids : ((left ++ right).map (·.id)).Nodup)
    (hcontext : contextType ≠ .oneToMany) (h : execute1v1 engine rules left right = .ok proposals)
    (hproposal : proposal ∈ proposals) :
    ∃ rule ∈ rules, ScoredBy contextType rule left right earlier proposal := by
  rw [List.map_append] at hids
  have hdisjoint := List.disjoint_of_nodup_append hids
  obtain ⟨rule, hrule, leftTxn, hleft, rightTxn, hright, score, rfl, haccepts, -⟩ :=
    (execute1v1_matching h).sound proposal hproposal
  have hleft := mem_stableSort.mp hleft
  have hright := mem_stableSort.mp hright
  refine ⟨rule, mem_stableSort.mp hrule, rfl, ?_, leftTxn, rightTxn, ⟨hleft, by simp [directPair]⟩,
    ⟨hright, ?_⟩, haccepts⟩
  · rintro first second found ⟨⟨hfirst, hfirstID⟩, ⟨hsecond, hsecondID⟩, hfound⟩
    rw [if_neg hcontext] at hsecondID
    have hfirst : first = leftTxn := eq_of_id_mem hids.of_append_left
      (List.disjoint_singleton.mpr fun hmem => hdisjoint hmem (List.mem_map_of_mem hright))
      hleft hfirst (List.mem_cons.mp hfirstID)
    have hsecond : second = rightTxn := eq_of_id_mem hids.of_append_right
      (List.disjoint_singleton.mpr fun hmem => hdisjoint (List.mem_map_of_mem hleft) hmem)
      hright hsecond (List.mem_cons.mp (List.mem_reverse.mpr hsecondID))
    rw [hfirst, hsecond, Accepts, haccepts.1] at hfound
    cases hfound.1
    exact le_rfl
  · rw [if_neg hcontext]
    simp [directPair]

/-- The best score is that of a free candidate, and no free candidate scores more. -/
structure KeepsBest (rule : RuleDefinition) (primary : CandidateTransaction) (used : Finset UUID)
    (done : List CandidateTransaction) (state : Collected) : Prop where
  bound : ∀ candidate ∈ done, candidate.id ∉ used → ∀ score,
    Accepts rule primary candidate score → score ≤ state.maxScore
  best : state.candidates = [] ∧ state.maxScore = 0 ∨ ∃ candidate ∈ done, candidate.id ∉ used ∧
    Accepts rule primary candidate state.maxScore

theorem collectStep_keepsBest {candidate : CandidateTransaction} {done : List CandidateTransaction}
    {state state' : Collected} (hstate : KeepsBest rule primary used done state)
    (h : collectStep rule primary used true state candidate = .ok state') :
    KeepsBest rule primary used (done ++ [candidate]) state' := by
  rcases collectStep_eq_ok h with ⟨rfl, hrejected⟩ | ⟨score, hfree, heval, hfloor, rfl⟩
  · refine ⟨?_, hstate.best.imp_right fun ⟨other, hother, hfound⟩ =>
      ⟨other, List.mem_append_left _ hother, hfound⟩⟩
    intro other hother hfree score haccepts
    rcases List.mem_append.mp hother with hold | hlast
    · exact hstate.bound other hold hfree score haccepts
    · rw [List.mem_singleton.mp hlast] at hfree haccepts
      exact absurd haccepts.2 (not_le.mpr (hrejected hfree score haccepts.1))
  change evalByType rule primary candidate = .ok (true, score) at heval
  constructor
  · intro other hother hfree found haccepts
    change found ≤ if state.maxScore < score then score else state.maxScore
    rcases List.mem_append.mp hother with hold | hlast
    · have hle := hstate.bound other hold hfree found haccepts
      split <;> omega
    · rw [List.mem_singleton.mp hlast, Accepts, heval] at haccepts
      cases haccepts.1
      split <;> omega
  · right
    dsimp only
    split
    next => exact ⟨candidate, by simp, hfree, heval, hfloor⟩
    next hworse =>
      rcases hstate.best with ⟨-, hzero⟩ | ⟨other, hother, hfound⟩
      · rw [hzero, not_lt] at hworse
        exact absurd (hfloor.trans hworse) (by decide)
      · exact ⟨other, List.mem_append_left _ hother, hfound⟩

theorem collectMatches_keepsBest {secondary : List CandidateTransaction}
    (h : collectMatches rule primary secondary used true = .ok collected) :
    KeepsBest rule primary used secondary collected :=
  foldlM_invariant (KeepsBest rule primary used) ⟨by simp, .inl ⟨rfl, rfl⟩⟩
    (fun _ _ _ _ _ hstate hstep => collectStep_keepsBest hstate hstep) h

theorem execute1vNDetailed_scoredBy (hids : ((left ++ right).map (·.id)).Nodup)
    (hallocates : ∀ rule ∈ rules, rule.allocation ≠ none)
    (h : execute1vNDetailed engine rules left right = .ok result)
    (hreached : earlier ++ [proposal] <+: result.proposals) :
    ∃ rule ∈ rules, ScoredBy .oneToMany rule left right earlier proposal := by
  rw [List.map_append] at hids
  have hdisjoint := List.disjoint_of_nodup_append hids
  obtain ⟨rule, hrule, primary, hprimary, cfg, used, collected, split, -, hused,
    hcollect, hcompletes, hproposal⟩ := execute1vNDetailed_fromSplit hallocates h earlier _ hreached
  obtain ⟨hruleID, hscore, hmem⟩ := buildAllocationMatchProposal_origin _ _ _ _ _ _ hproposal.symm
  have hprimary := mem_stableSort.mp hprimary
  have hbest := collectMatches_keepsBest hcollect
  have hfree : ∀ id, id ∉ used ↔ ∀ other ∈ earlier, id ∉ other.rightIDs := by
    simp [hused, secondaryIDs]
  have hallocated : (left.map (·.id)).Disjoint (split.allocations.map (·.transactionID)) := by
    intro id hleft hid
    obtain ⟨allocation, hallocation, rfl⟩ := List.mem_map.mp hid
    obtain ⟨candidate, hcandidate, hdrawn⟩ := hcompletes.drawn allocation hallocation
    have hright := (collectMatches_collects hcollect).sublist.subset hcandidate
    rw [hdrawn.id] at hleft
    exact hdisjoint hleft (List.mem_map_of_mem (mem_stableSort.mp hright))
  refine ⟨rule, mem_stableSort.mp hrule, hruleID, ?_, ?_⟩
  · rintro first second score ⟨⟨hfirst, hfirstID⟩, ⟨hsecond, hunused⟩, haccepts⟩
    rw [if_pos rfl] at hunused
    rw [eq_of_id_mem hids.of_append_left hallocated hprimary hfirst
      ((hmem _).mp (List.mem_append.mp hfirstID))] at haccepts
    rw [hscore]
    exact hbest.bound second (mem_stableSort.mpr hsecond) ((hfree _).mpr hunused) score haccepts
  · rcases hbest.best with ⟨hnil, -⟩ | ⟨second, hsecond, hunused, haccepts⟩
    · exact absurd hnil hcompletes.nonempty
    · rw [hscore]
      exact ⟨primary, second, ⟨hprimary, List.mem_append.mpr ((hmem _).mpr (.inl rfl))⟩,
        ⟨mem_stableSort.mp hsecond, (if_pos rfl).mpr ((hfree _).mp hunused)⟩, haccepts⟩

theorem executeByContextTypeDetailed_scoredBy (hids : ((left ++ right).map (·.id)).Nodup)
    (hallocates : ∀ rule ∈ rules, rule.allocation ≠ none)
    (h : executeByContextTypeDetailed engine rules left right contextType = .ok result)
    (hreached : earlier ++ [proposal] <+: result.proposals) :
    ∃ rule ∈ rules, ScoredBy contextType rule left right earlier proposal := by
  rcases executeByContextTypeDetailed_eq_ok h with ⟨rfl, hrun⟩ | ⟨hcontext, hrun⟩
  · exact execute1vNDetailed_scoredBy hids hallocates hrun hreached
  · exact execute1v1_scoredBy hids hcontext hrun (hreached.subset (by simp))

/-! ## Groups of date lag rules -/

theorem dateLag_accepted (hdecode : decodeRuleDefinition source = .ok rule)
    (htype : rule.type = .dateLag) {first second : CandidateTransaction} {score : ℤ}
    (h : Accepts rule first second score) : score = 60 + points (sameCurrency first second) 30 := by
  cases decodeRuleDefinition_configured hdecode with
  | exact _ hkind | tolerance _ hkind =>
    rw [htype] at hkind
    cases hkind
  | dateLag _ _ hexact htolerance hdateLag =>
    exact (evalByType_dateLag hexact htolerance hdateLag h.1).2

theorem ScoredBy.dateLag_score (h : ScoredBy contextType rule left right earlier proposal)
    (hdecode : decodeRuleDefinition source = .ok rule) (htype : rule.type = .dateLag) :
    proposal.score < autoConfirmConfidence ↔ ∀ first second score,
      Weighed contextType rule left right earlier (proposal.leftIDs ++ proposal.rightIDs)
        first second score → sameCurrency first second = false := by
  constructor
  · intro hbelow first second score hweighed
    have hle := h.bound first second score hweighed
    have hscore := dateLag_accepted hdecode htype hweighed.accepts
    cases hsame : sameCurrency first second with
    | false => rfl
    | true =>
      rw [hsame, points_true] at hscore
      simp only [autoConfirmConfidence] at hbelow
      omega
  · intro hdiffer
    obtain ⟨first, second, hweighed⟩ := h.best
    rw [dateLag_accepted hdecode htype hweighed.accepts, hdiffer first second _ hweighed]
    decide

theorem BuiltFrom.proposed_iff {groupID contextID runID : UUID} {sides : Sides}
    (h : BuiltFrom groupID contextID runID sides proposal group) :
    group.status = .proposed ↔ proposal.score < autoConfirmConfidence := by
  rw [h.status, ← h.score, ← not_le]
  by_cases hsure : autoConfirmConfidence ≤ group.confidence.value <;>
    simp [MatchGroup.canAutoConfirm, hsure]

variable {environment : RunEnvironment} {mrc : MatchRunContext}
  {provider : MatchRuleProvider} {definitions : List RuleDefinition}
  {result : MatchExecutionResult} {rulesResult : EngineResult}

/-- The group comes from a date lag rule of the run. -/
def OfDateLag (definitions : List RuleDefinition) (group : MatchGroup) : Prop :=
  ∀ rule ∈ definitions, rule.id = group.ruleID → rule.type = .dateLag

/-- The group is built from one of the proposals, and the pair is weighed for it. -/
def Behind (environment : RunEnvironment) (mrc : MatchRunContext)
    (definitions : List RuleDefinition) (proposals : List MatchProposal) (group : MatchGroup)
    (first second : CandidateTransaction) : Prop :=
  ∃ earlier proposal, earlier ++ [proposal] <+: proposals ∧
    (environment.proposals mrc).Builds ((proposal, earlier.length), group) ∧
      ∃ rule ∈ definitions, rule.id = group.ruleID ∧ ∃ score,
        Weighed mrc.contextType rule mrc.rulesInput.candidates.1 mrc.rulesInput.candidates.2
          earlier group.transactionIDs first second score

section Run

variable (hids : (mrc.leftIDs ++ mrc.rightIDs).Nodup)
  (hprovider : environment.ruleProvider = some provider)
  (hrules : loadRuleDefinitions provider mrc.contextID = .ok definitions)
  (hdefinitions : (definitions.map (·.id)).Nodup)

include hids hprovider hrules

theorem executeRulesDetailed_scoredBy
    (h : executeRulesDetailed environment.ruleProvider mrc.rulesInput = .ok rulesResult)
    (hreached : earlier ++ [proposal] <+: rulesResult.proposals) :
    ∃ rule ∈ definitions, ScoredBy mrc.contextType rule mrc.rulesInput.candidates.1
      mrc.rulesInput.candidates.2 earlier proposal := by
  obtain ⟨hleft, hright⟩ := mrc.rulesInput.candidates_mirror
  rw [hprovider] at h
  obtain ⟨-, h⟩ := guard_eq_ok.mp h
  obtain ⟨loaded, hloaded, h⟩ := bind_eq_ok.mp h
  change loadRuleDefinitions provider mrc.contextID = .ok loaded at hloaded
  rw [hrules] at hloaded
  cases hloaded
  obtain ⟨stored, -, hdecode⟩ := bind_eq_ok.mp hrules
  refine executeByContextTypeDetailed_scoredBy ?_ (decodeRules_allocates hdecode) h hreached
  rw [List.map_append, ids_eq_of_mirrors hleft, ids_eq_of_mirrors hright]
  exact hids

include hdefinitions

theorem Builds.proposed_iff
    (h : executeRulesDetailed environment.ruleProvider mrc.rulesInput = .ok rulesResult)
    (hreached : earlier ++ [proposal] <+: rulesResult.proposals)
    (hbuilds : (environment.proposals mrc).Builds ((proposal, earlier.length), group))
    (hdateLag : OfDateLag definitions group) :
    group.status = .proposed ↔ ∀ rule ∈ definitions, rule.id = group.ruleID →
      ∀ first second score, Weighed mrc.contextType rule mrc.rulesInput.candidates.1
        mrc.rulesInput.candidates.2 earlier group.transactionIDs first second score →
          sameCurrency first second = false := by
  obtain ⟨rule, hrule, hscored⟩ := executeRulesDetailed_scoredBy hids hprovider hrules h hreached
  have hid : rule.id = group.ruleID := hscored.ruleID.symm.trans hbuilds.ruleID.symm
  obtain ⟨source, hdecode⟩ := loadRuleDefinitions_decoded hrules rule hrule
  have hsame : ∀ other ∈ definitions, other.id = group.ruleID → other = rule :=
    fun other hother hotherID =>
      List.inj_on_of_nodup_map hdefinitions hother hrule (hotherID.trans hid.symm)
  rw [BuiltFrom.proposed_iff hbuilds, hscored.dateLag_score hdecode (hdateLag rule hrule hid),
    (BuiltFrom.ids rfl hbuilds).1]
  constructor
  · intro hdiffer other hother hotherID
    rw [hsame other hother hotherID]
    exact hdiffer
  · exact fun hdiffer => hdiffer rule hrule hid

theorem proposed_iff_behind {output : ProposalProcessingResult}
    (h : executeRulesDetailed environment.ruleProvider mrc.rulesInput = .ok rulesResult)
    (houtput : processProposals (environment.proposals mrc) rulesResult.proposals = .ok output)
    (hgroup : group ∈ output.groups) (hdateLag : OfDateLag definitions group) :
    group.status = .proposed ↔ ∀ first second,
      Behind environment mrc definitions rulesResult.proposals group first second →
        sameCurrency first second = false := by
  constructor
  · rintro hstatus first second
      ⟨earlier, proposal, hreached, hbuilds, rule, hrule, hid, score, hweighed⟩
    exact (Builds.proposed_iff hids hprovider hrules hdefinitions h hreached hbuilds
      hdateLag).mp hstatus rule hrule hid first second score hweighed
  · intro hdiffer
    obtain ⟨earlier, proposal, hreached, hbuilds⟩ := processProposals_built houtput hgroup
    refine (Builds.proposed_iff hids hprovider hrules hdefinitions h hreached hbuilds
      hdateLag).mpr ?_
    intro rule hrule hid first second score hweighed
    exact hdiffer first second
      ⟨earlier, proposal, hreached, hbuilds, rule, hrule, hid, score, hweighed⟩

/--
A group of a date lag rule waits for review exactly when no pair that was weighed for
it is in one currency.  So do all of them exactly when this holds of each.
-/
theorem dateLag_groups_reviewed (hrun : executeMatchRules environment mrc = .ok result) :
    ∃ rulesResult,
      executeRulesDetailed environment.ruleProvider mrc.rulesInput = .ok rulesResult ∧
        (∀ group ∈ result.groups, OfDateLag definitions group →
          (group.status = .proposed ↔ ∀ first second,
            Behind environment mrc definitions rulesResult.proposals group first second →
              sameCurrency first second = false)) ∧
        ((∀ group ∈ result.groups, OfDateLag definitions group → group.status = .proposed) ↔
          ∀ group ∈ result.groups, OfDateLag definitions group → ∀ first second,
            Behind environment mrc definitions rulesResult.proposals group first second →
              sameCurrency first second = false) := by
  obtain ⟨rulesResult, output, h, houtput, rfl⟩ := executeMatchRules_eq_ok hrun
  have hgroups : ∀ group ∈ output.groups, OfDateLag definitions group → _ := fun _ =>
    proposed_iff_behind hids hprovider hrules hdefinitions h houtput
  exact ⟨rulesResult, h, hgroups, forall₃_congr hgroups⟩

end Run

def lagRules (matchCurrency : Bool) : MatchRuleProvider := fun _ =>
  .ok [some ⟨⟨9⟩, 1, .dateLag, [("maxDays", .float 3), ("matchCurrency", .boolean matchCurrency)]⟩]

def dateLagEnvironment (matchCurrency : Bool) : RunEnvironment :=
  { exactEnvironment with ruleProvider := some (lagRules matchCurrency) }

def lagContext (currency : String) : MatchRunContext :=
  { pairContext .oneToOne with
    rightCandidates := [{ plainTransaction ⟨2⟩ 100 with
      currency := currency
      date := 2 * nanosecondsPerDay }] }

def lagDefinition (matchCurrency : Bool) : RuleDefinition where
  id := ⟨9⟩
  priority := 1
  type := .dateLag
  exact := none
  tolerance := none
  dateLag := some ⟨0, 3, true, .abs, 0, 80, matchCurrency⟩
  allocation := some ⟨false, .leftToRight, .absolute, 0, false⟩

theorem dateLag_groups_reviewed_euro :
    ∃ result,
      executeMatchRules (dateLagEnvironment false) (lagContext "EUR") = .ok result ∧
        result.groups.map (·.ruleID) = [⟨9⟩] ∧
        ∀ group ∈ result.groups, OfDateLag [lagDefinition false] group →
          group.status = .proposed := by
  refine exists_ok_of_map (f := (·.groups.map (·.ruleID))) [⟨9⟩] (by decide +kernel) ?_
  intro result hrun hgroups
  have hrules : loadRuleDefinitions (lagRules false) (lagContext "EUR").contextID =
      .ok [lagDefinition false] := by
    decide +kernel
  have hdiffer : ∀ first ∈ (lagContext "EUR").rulesInput.candidates.1,
      ∀ second ∈ (lagContext "EUR").rulesInput.candidates.2,
        sameCurrency first second = false := by
    decide +kernel
  obtain ⟨rulesResult, -, -, hreviewed⟩ :=
    dateLag_groups_reviewed (by decide) rfl hrules (by decide) hrun
  refine ⟨hgroups, hreviewed.mpr ?_⟩
  rintro group - - first second ⟨earlier, proposal, -, -, rule, -, -, score, hweighed⟩
  exact hdiffer first hweighed.left.1 second hweighed.right.1

/-- In one currency the pair scores ninety, and nobody reviews the group. -/
theorem dateLag_group_confirmed :
    loadRuleDefinitions (lagRules true) (lagContext "USD").contextID = .ok [lagDefinition true] ∧
      (fun result => result.groups.map fun group =>
          (group.ruleID, group.status)) <$>
        executeMatchRules (dateLagEnvironment true) (lagContext "USD") =
          .ok [(⟨9⟩, .confirmed)] := by
  decide +kernel

end Matcher.Command
