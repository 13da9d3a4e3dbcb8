import Matcher.Command.Commits

/-!
# Dry runs

A dry run writes its own row and nothing else, and its groups are those of a
committing run on the same tables: what a group is made of depends on the proposal
and the candidates, not on the identifiers of the run.
-/

namespace Matcher.Command

open Foundation
open Matching (MatchProposal)

/-! ## Groups without their identifiers -/

/-- A group without the identifiers that each run makes anew. -/
def MatchGroup.content (group : MatchGroup) : MatchGroup :=
  { group with id := .zero, runID := .zero, items := group.items.map (MatchItem.setGroup .zero) }

section Content

variable {groupID groupID' contextID runID runID' : UUID} {sides : Sides}
  {proposal : MatchProposal} {reasons reasons' : Reasons}

theorem groupOfItems_content (hrun : runID ≠ .zero) (hrun' : runID' ≠ .zero)
    (confidence : ConfidenceScore) (items : List MatchItem) :
    (groupOfItems groupID contextID runID proposal confidence items).map MatchGroup.content =
      (groupOfItems groupID' contextID runID' proposal confidence items).map
        MatchGroup.content := by
  unfold groupOfItems newMatchGroup
  rw [if_neg hrun, if_neg hrun']
  split_ifs <;> try rfl
  simp [confirmWhenSure, MatchGroup.canAutoConfirm, MatchGroup.confirm]
  split <;> simp [MatchGroup.content, MatchItem.setGroup]

theorem buildProposalItems_fst (pic : ProposalItemsContext) (ids : List UUID)
    (reasons reasons' : Reasons) :
    (buildProposalItems pic ids reasons).1 = (buildProposalItems pic ids reasons').1 := by
  induction ids generalizing reasons reasons' with
  | nil => rfl
  | cons _ rest ih =>
    simp only [buildProposalItems]
    split
    · rfl
    split
    · rfl
    split
    · rfl
    have hrest := ih reasons reasons'
    cases hfirst : buildProposalItems pic rest reasons with
    | mk items =>
      cases hsecond : buildProposalItems pic rest reasons' with
      | mk =>
        rw [hfirst, hsecond] at hrest
        cases hrest
        cases items <;> rfl

theorem processSingleProposal_content (hrun : runID ≠ .zero) (hrun' : runID' ≠ .zero) :
    (·.1.map MatchGroup.content) <$>
        processSingleProposal groupID contextID runID proposal sides reasons =
      (·.1.map MatchGroup.content) <$>
        processSingleProposal groupID' contextID runID' proposal sides reasons' := by
  unfold processSingleProposal
  cases parseConfidenceScore proposal.score with
  | error => rfl
  | ok =>
    have hleft := buildProposalItems_fst
      (sideContext sides.leftByID proposal.leftAllocations) proposal.leftIDs reasons reasons'
    generalize buildProposalItems _ _ reasons = left at hleft ⊢
    generalize buildProposalItems _ _ reasons' = left' at hleft ⊢
    obtain ⟨items, leftReasons⟩ := left
    obtain ⟨_, leftReasons'⟩ := left'
    cases hleft
    dsimp only
    cases nonemptyItems items with
    | none => rfl
    | some =>
      have hright := buildProposalItems_fst
        (sideContext sides.rightByID proposal.rightAllocations) proposal.rightIDs
        leftReasons leftReasons'
      dsimp only
      generalize buildProposalItems _ _ leftReasons = right at hright ⊢
      generalize buildProposalItems _ _ leftReasons' = right' at hright ⊢
      obtain ⟨items, rightReasons⟩ := right
      obtain ⟨_, rightReasons'⟩ := right'
      cases hright
      dsimp only
      cases nonemptyItems items with
      | none => rfl
      | some => exact congrArg Except.ok (groupOfItems_content hrun hrun' _ _)

def proposedContent (contextID : UUID) (sides : Sides) (proposal : MatchProposal) :
    Option MatchGroup :=
  match processSingleProposal .zero contextID ⟨1⟩ proposal sides fun _ => none with
  | .error _ => none
  | .ok (built, _) => built.map MatchGroup.content

theorem processSingleProposal_eq_ok_content (hrun : runID ≠ .zero) {built : Option MatchGroup}
    (h : processSingleProposal groupID contextID runID proposal sides reasons =
      .ok (built, reasons')) :
    built.map MatchGroup.content = proposedContent contextID sides proposal := by
  have hsame : (·.1.map MatchGroup.content) <$>
        processSingleProposal groupID contextID runID proposal sides reasons =
      (·.1.map MatchGroup.content) <$>
        processSingleProposal .zero contextID ⟨1⟩ proposal sides fun _ => none :=
    processSingleProposal_content hrun (by decide)
  rw [h] at hsame
  unfold proposedContent
  split
  next cause herror =>
    rw [herror] at hsame
    cases hsame
  next other _ hother =>
    rw [hother] at hsame
    exact Except.ok.inj hsame

theorem processProposals_content {environment : ProposalEnvironment}
    {proposals : List MatchProposal} {result : ProposalProcessingResult}
    (hrun : environment.runID ≠ .zero) (h : processProposals environment proposals = .ok result) :
    result.groups.map MatchGroup.content =
      proposals.filterMap (proposedContent environment.contextID environment.sides) := by
  have hloop := foldlM_invariant (fun done (result : ProposalProcessingResult) =>
    result.groups.map MatchGroup.content = (done.map (·.1)).filterMap
      (proposedContent environment.contextID environment.sides)) rfl ?_ h
  · rwa [List.zipIdx_map_fst] at hloop
  · intro done entry state state' _ hdone hstep
    obtain ⟨built, reasons, hsingle, hgroups, -⟩ := processProposal_eq_ok hstep
    simp only [hgroups, hdone, List.map_append, List.filterMap_append, List.map_cons, List.map_nil,
      List.filterMap_cons, List.filterMap_nil, ← processSingleProposal_eq_ok_content hrun hsingle]
    cases built <;> rfl

end Content

/-! ## The two modes -/

def PrepareEnvironment.committing (environment : PrepareEnvironment) : PrepareEnvironment :=
  { environment with input := { environment.input with mode := .commit } }

def findingCalls : List RunCall := [.createGroups, .createItems, .markMatched,
  .markPendingReview, .createExceptions, .feeVerification, .enqueueEvents]

section Runs

variable {environment dry commit : RunMatchEnvironment} {db db' : Db} {completed : MatchRun}
  {groups : List MatchGroup} {mrc : MatchRunContext}

theorem finishRun_eq_ok {run : MatchRun}
    (h : finishRun environment mrc run db = (.ok (completed, groups), db')) :
    ∃ result, executeMatchRules environment.execution mrc = .ok result ∧
      groups = result.groups ∧ concludeRun environment run result db = .ok (completed, db') := by
  unfold finishRun at h
  split at h
  next outcome _ hrun =>
    cases h
    obtain ⟨result, _, hresult, hconclude, heq⟩ := executeRun_eq_ok hrun
    cases heq
    exact ⟨result, hresult, rfl, hconclude⟩
  next failure _ =>
    unfold finalizeRunFailure at h
    repeat' split at h
    all_goals cases h

theorem runMatch_eq_ok (h : runMatch environment db = (.ok (completed, groups), db')) :
    ∃ mrc, openRun environment db = .ok mrc ∧
      if mrc.leftCandidates.length = 0 ∨ mrc.rightCandidates.length = 0 then
        groups = [] ∧ db.SameBesidesRuns db'
      else ∃ run db₁, db.SameBesidesRuns db₁ ∧
        finishRun environment mrc run db₁ = (.ok (completed, groups), db') := by
  have hsame := beginRun_sameBesidesRuns environment db
  cases hbegin : beginRun environment db with
  | mk =>
    rw [hbegin] at hsame
    unfold runMatch at h
    rw [hbegin] at h
    unfold beginRun at hbegin
    split at hbegin
    · cases hbegin
      cases h
    next mrc hopen =>
    refine ⟨mrc, hopen, ?_⟩
    -- a run that ends here without an error had an empty side
    repeat' split at hbegin
    all_goals cases hbegin
    all_goals try cases h
    · rw [if_pos ‹_›]
      exact ⟨rfl, hsame⟩
    · rw [if_neg ‹_›]
      exact ⟨_, _, hsame, h⟩

theorem openRun_committing (hsame : commit.toPrepareEnvironment = dry.committing)
    {mrc' : MatchRunContext} (h : openRun dry db = .ok mrc)
    (h' : openRun commit db = .ok mrc') : mrc = mrc' := by
  obtain ⟨⟨⟩, -, h⟩ := bind_eq_ok.mp h
  obtain ⟨⟨⟩, -, h⟩ := bind_eq_ok.mp h
  obtain ⟨⟨⟩, -, h'⟩ := bind_eq_ok.mp h'
  obtain ⟨⟨⟩, -, h'⟩ := bind_eq_ok.mp h'
  -- the mode is read by the validation alone
  rw [hsame] at h'
  obtain ⟨⟨⟩, -, h⟩ := bind_eq_ok.mp h
  obtain ⟨⟨⟩, -, h'⟩ := bind_eq_ok.mp h'
  exact Except.ok.inj (h.symm.trans h')

theorem executeMatchRules_content {result result' : MatchExecutionResult}
    (hprovider : dry.configuration = commit.configuration) (hrun : dry.runID ≠ .zero)
    (hrun' : commit.runID ≠ .zero) (h : executeMatchRules dry.execution mrc = .ok result)
    (h' : executeMatchRules commit.execution mrc = .ok result') :
    result.groups.map MatchGroup.content = result'.groups.map MatchGroup.content := by
  obtain ⟨rulesResult, output, hrules, houtput, rfl⟩ := executeMatchRules_eq_ok h
  obtain ⟨rulesResult', output', hrules', houtput', rfl⟩ := executeMatchRules_eq_ok h'
  have hsame : rulesResult = rulesResult' := by
    simp only [RunMatchEnvironment.execution, hprovider] at hrules hrules'
    exact Except.ok.inj (hrules.symm.trans hrules')
  subst hsame
  exact (processProposals_content hrun houtput).trans (processProposals_content hrun' houtput').symm

theorem runMatch_sameBesidesRuns (hmode : environment.input.mode = .dryRun) (db : Db) :
    db.SameBesidesRuns (runMatch environment db).2 := by
  have hbegin := beginRun_sameBesidesRuns environment db
  unfold runMatch
  split
  next hended =>
    rw [hended] at hbegin
    exact hbegin
  next mrc run db' hcreated =>
    rw [hcreated] at hbegin
    rcases finishRun_effect (beginRun_candidates hcreated).1 run db' with hsame | ⟨_, _, _, hother⟩
    · exact hbegin.trans hsame
    · exact absurd hmode hother

theorem runMatch_faults (hmode : environment.input.mode = .dryRun) {faults : RunCall → Fault}
    (hfaults : ∀ call ∉ findingCalls, faults call = environment.faults call) (db : Db) :
    runMatch { environment with faults := faults } db = runMatch environment db := by
  simp [runMatch, beginRun, openRun, completeEmptyRun, createEmptyRunExceptions, finishRun,
    executeRun, concludeRun, completeDryRun, finalizeRunFailure, RunMatchEnvironment.execution,
    hmode, hfaults .acquireLock (by decide), hfaults .createRun (by decide),
    hfaults .beginTx (by decide), hfaults .updateRun (by decide), hfaults .commitTx (by decide),
    hfaults .updateDryRun (by decide), hfaults .updateFailedRun (by decide)]

theorem runMatch_stores (hmode : environment.input.mode = .commit)
    (h : runMatch environment db = (.ok (completed, groups), db')) :
    db'.groups.rows = db.groups.rows ++ groups.map MatchGroup.row ∧
      db'.items = db.items ++ groups.flatMap (·.items) := by
  obtain ⟨mrc, hopen, hend⟩ := runMatch_eq_ok h
  split at hend
  · obtain ⟨rfl, runs, rfl⟩ := hend
    simp
  · obtain ⟨run, db₁, hbefore, hfinish⟩ := hend
    obtain ⟨result, hresult, rfl, hconclude⟩ := finishRun_eq_ok hfinish
    obtain ⟨⟨⟩, -, hopen⟩ := bind_eq_ok.mp hopen
    obtain ⟨⟨⟩, -, hopen⟩ := bind_eq_ok.mp hopen
    have hexecuted := executeMatchRules_executed (prepareMatchRun_candidates hopen).1 hresult
    rcases concludeRun_eq_ok hconclude with ⟨hdry, -⟩ | ⟨-, db₂, hpersist, hafter⟩
    · rw [hmode] at hdry
      cases hdry
    · have hstores := Stores.of_sameBesidesRuns hbefore
        (persistMatchArtifacts_stores hexecuted hpersist) hafter
      exact ⟨hstores.rows, hstores.items⟩

end Runs

end Matcher.Command
