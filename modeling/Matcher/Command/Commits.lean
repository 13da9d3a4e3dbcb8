import Matcher.Command.Consistency
import Matcher.Command.RunMatch

/-!
# What the commands write

Each command has a half that reads and a half that writes.  The reading half
changes at most the runs.  The writing half of RunMatch and of ManualMatch stores
groups with the statuses of their transactions, that of Unmatch withdraws a
group, and that of IgnoreTransaction marks one row.  While the rows that were
read are as they were, each writing half is a step of the groups that hold
transactions.
-/

namespace Matcher.Command

open Foundation

variable {holding : Holding UUID UUID} {groups : List MatchGroup} {completed : MatchRun}
  {db db' : Db} {group : MatchGroup} {id groupID : UUID} {run : MatchRun} {format : String}
  {call : RunCall} {table : Table MatchGroup.id}

def Follows (holding : Holding UUID UUID) (db' : Db) : Prop :=
  ∃ holding', Holding.Step holding holding' ∧ Represents db' holding'

def Db.SameBesidesRuns (db db' : Db) : Prop :=
  ∃ runs, db' = { db with runs := runs }

theorem Db.SameBesidesRuns.refl (db : Db) : db.SameBesidesRuns db :=
  ⟨db.runs, rfl⟩

theorem Db.SameBesidesRuns.trans {first second third : Db} (hfirst : first.SameBesidesRuns second)
    (hsecond : second.SameBesidesRuns third) : first.SameBesidesRuns third := by
  obtain ⟨_, rfl⟩ := hfirst
  obtain ⟨runs, rfl⟩ := hsecond
  exact ⟨runs, rfl⟩

theorem Db.createRun_sameBesidesRuns (h : db.createRun run = .ok db') : db.SameBesidesRuns db' := by
  obtain ⟨table, -, rfl⟩ := Db.createRun_eq_ok h
  exact ⟨table, rfl⟩

theorem Db.updateRun_sameBesidesRuns (h : db.updateRun run = .ok db') : db.SameBesidesRuns db' :=
  ⟨_, Db.updateRun_eq_ok h⟩

theorem Represents.sameBesidesRuns (h : Represents db holding) (hsame : db.SameBesidesRuns db') :
    Represents db' holding := by
  obtain ⟨runs, rfl⟩ := hsame
  exact h.setRuns runs

theorem Represents.follows_idle (h : Represents db holding) (hsame : db.SameBesidesRuns db') :
    Follows holding db' :=
  ⟨holding, .idle holding, h.sameBesidesRuns hsame⟩

theorem Represents.follows_take (h : Represents db holding) (hstores : Stores db db' groups)
    (hfree : ∀ id ∈ groups.flatMap (·.transactionIDs), holding id = none) : Follows holding db' :=
  ⟨_, .take holding _ (hstores.takable h hfree), h.take hstores hfree⟩

theorem Stores.of_sameBesidesRuns {db₁ db₂ : Db} (hbefore : db.SameBesidesRuns db₁)
    (h : Stores db₁ db₂ groups) (hafter : db₂.SameBesidesRuns db') : Stores db db' groups := by
  obtain ⟨_, rfl⟩ := hbefore
  obtain ⟨_, rfl⟩ := hafter
  exact ⟨h.rows, h.fresh, h.items, h.owned, h.live, h.exclusive, h.statuses, h.outbox⟩

/-! ## RunMatch -/

structure Executed (mrc : MatchRunContext) (result : MatchExecutionResult) : Prop where
  items : result.items = result.groups.flatMap (·.items)
  owned : ∀ group ∈ result.groups, ∀ item ∈ group.items, item.matchGroupID = group.id
  status : ∀ group ∈ result.groups, group.status =
    if group.canAutoConfirm then .confirmed else .proposed
  autoMatchedIDs : result.autoMatchedIDs =
    (result.groups.filter (·.canAutoConfirm)).flatMap (·.transactionIDs)
  pendingReviewIDs : result.pendingReviewIDs =
    (result.groups.filter (!·.canAutoConfirm)).flatMap (·.transactionIDs)
  exclusive : (result.groups.flatMap (·.transactionIDs)).Nodup
  candidates : ∀ id ∈ result.groups.flatMap (·.transactionIDs), id ∈ mrc.candidateIDs

theorem BuiltFrom.owned {contextID runID : UUID} {sides : Sides} {proposal : Matching.MatchProposal}
    (h : BuiltFrom groupID contextID runID sides proposal group) :
    ∀ item ∈ group.items, item.matchGroupID = group.id := by
  obtain ⟨leftItems, rightItems, -, -, hitems⟩ := h.items
  intro item hitem
  rw [hitems] at hitem
  obtain ⟨plain, -, rfl⟩ := List.mem_map.mp hitem
  exact h.id.symm

theorem executeMatchRules_executed {environment : RunEnvironment} {mrc : MatchRunContext}
    {result : MatchExecutionResult} (hids : mrc.candidateIDs.Nodup)
    (h : executeMatchRules environment mrc = .ok result) : Executed mrc result := by
  have hinput : ((mrc.leftCandidates ++ mrc.rightCandidates).map (·.id)).Nodup := by
    rw [List.map_append]
    exact hids.of_append_left
  obtain ⟨rulesResult, output, hrules, houtput, rfl⟩ := executeMatchRules_eq_ok h
  have hapart := executeRulesDetailed_placedApart hinput hrules
  have hbook := (processProposals_processed houtput).bookkeeping
  refine ⟨hbook.items, ?_, ?_, hbook.autoMatchedIDs, hbook.pendingReviewIDs,
    processProposals_ids_nodup hinput rfl hapart houtput, ?_⟩
  · intro group hgroup
    obtain ⟨_, _, -, hbuilt⟩ := processProposals_built houtput hgroup
    exact BuiltFrom.owned hbuilt
  · intro group hgroup
    obtain ⟨_, _, -, hbuilt⟩ := processProposals_built houtput hgroup
    exact BuiltFrom.status hbuilt
  · intro id hid
    refine List.mem_append_left _ (List.mem_append.mpr ?_)
    exact processProposals_ids_subset rfl houtput id hid

section RunCommit

variable {environment : RunMatchEnvironment} {run : MatchRun}
  {mrc : MatchRunContext} {result : MatchExecutionResult} {db db' : Db}

theorem RunMatchEnvironment.call_eq_ok {α : Type} {outcome : Except GoError α} {value : α}
    (h : environment.call call run outcome = .ok value) : outcome = .ok value :=
  (attempt_eq_ok.mp (mapError_eq_ok.mp h)).2

theorem createGroupsAndItems_eq_ok (hitems : result.items = result.groups.flatMap (·.items))
    (h : createGroupsAndItems environment run result db = .ok db') :
    ∃ table, db.groups.insertAll (result.groups.map MatchGroup.row) = some table ∧
      db' = { db with groups := table, items := db.items ++ result.items } := by
  unfold createGroupsAndItems at h
  split at h
  case isTrue =>
    obtain ⟨db₁, hgroups, h⟩ := bind_eq_ok.mp h
    obtain ⟨table, htable, rfl⟩ := Db.createGroups_eq_ok (RunMatchEnvironment.call_eq_ok hgroups)
    cases RunMatchEnvironment.call_eq_ok h
    exact ⟨table, htable, rfl⟩
  case isFalse hempty =>
    cases h
    have hnone : result.groups = [] := by
      rw [List.length_pos_iff] at hempty
      exact not_not.mp hempty
    rw [hitems, hnone]
    exact ⟨db.groups, Table.insertAll_nil _, by simp⟩

theorem markTransactions_eq_ok {status : TransactionStatus} {transactionIDs : List UUID}
    (h : markTransactions environment call status transactionIDs run db = .ok db') :
    db' = db.markStatus transactionIDs status := by
  unfold markTransactions at h
  split at h
  case isTrue => exact (Except.ok.inj (RunMatchEnvironment.call_eq_ok h)).symm
  case isFalse hempty =>
    cases h
    rw [List.length_pos_iff, not_not] at hempty
    rw [hempty, Db.markStatus_nil]

theorem persistMatchArtifacts_eq_ok (hitems : result.items = result.groups.flatMap (·.items))
    (h : persistMatchArtifacts environment run result db = .ok db') :
    ∃ table, db.groups.insertAll (result.groups.map MatchGroup.row) = some table ∧
      db' = ((({ db with groups := table, items := db.items ++ result.items } : Db).markStatus
        result.autoMatchedIDs .matched).markStatus result.pendingReviewIDs .pendingReview).enqueue
          (confirmedEvents result.groups) := by
  obtain ⟨db₁, hcreate, h⟩ := bind_eq_ok.mp h
  obtain ⟨table, htable, rfl⟩ := createGroupsAndItems_eq_ok hitems hcreate
  obtain ⟨db₂, hmatched, h⟩ := bind_eq_ok.mp h
  obtain ⟨db₃, hpending, h⟩ := bind_eq_ok.mp h
  obtain ⟨⟨⟩, -, h⟩ := bind_eq_ok.mp h
  obtain ⟨⟨⟩, -, h⟩ := bind_eq_ok.mp h
  cases markTransactions_eq_ok hmatched
  cases markTransactions_eq_ok hpending
  exact ⟨table, htable, (Except.ok.inj (RunMatchEnvironment.call_eq_ok h)).symm⟩

theorem Executed.heldStatus (h : Executed mrc result) (hgroup : group ∈ result.groups)
    (hid : id ∈ group.transactionIDs) (status : TransactionStatus) :
    group.status.heldStatus =
      some (if id ∈ result.pendingReviewIDs then .pendingReview
        else if id ∈ result.autoMatchedIDs then .matched else status) := by
  have hstatus := h.status group hgroup
  cases hauto : group.canAutoConfirm with
  | false =>
    have hpending : id ∈ result.pendingReviewIDs := by
      rw [h.pendingReviewIDs]
      exact List.mem_flatMap.mpr ⟨group, List.mem_filter.mpr ⟨hgroup, by simp [hauto]⟩, hid⟩
    rw [hstatus, hauto, if_pos hpending]
    rfl
  | true =>
    have hmatched : id ∈ result.autoMatchedIDs := by
      rw [h.autoMatchedIDs]
      exact List.mem_flatMap.mpr ⟨group, List.mem_filter.mpr ⟨hgroup, hauto⟩, hid⟩
    -- no id is in both lists, as no two groups share one
    have hnodup : (result.autoMatchedIDs ++ result.pendingReviewIDs).Nodup := by
      rw [h.autoMatchedIDs, h.pendingReviewIDs, ← List.flatMap_append]
      exact ((List.filter_append_perm _ _).flatMap_right _).nodup_iff.mpr h.exclusive
    have hpending : id ∉ result.pendingReviewIDs := fun hmem =>
      List.disjoint_of_nodup_append hnodup hmatched hmem
    rw [hstatus, hauto, if_neg hpending, if_pos hmatched]
    rfl

theorem Executed.live (h : Executed mrc result) (hgroup : group ∈ result.groups) : group.Live := by
  unfold MatchGroup.Live
  rw [h.status group hgroup]
  cases group.canAutoConfirm with
  | false => exact Or.inl rfl
  | true => exact Or.inr rfl

theorem Executed.mem_of_listed (h : Executed mrc result)
    (hid : id ∈ result.autoMatchedIDs ∨ id ∈ result.pendingReviewIDs) :
    id ∈ result.groups.flatMap (·.transactionIDs) := by
  rw [h.autoMatchedIDs, h.pendingReviewIDs] at hid
  simp only [List.mem_flatMap, List.mem_filter] at hid ⊢
  rcases hid with ⟨group, hgroup, hmem⟩ | ⟨group, hgroup, hmem⟩ <;> exact ⟨group, hgroup.1, hmem⟩

theorem Stores.fresh_of_insertAll
    (h : db.groups.insertAll (groups.map MatchGroup.row) = some table) :
    table.rows = db.groups.rows ++ groups.map MatchGroup.row ∧
      ∀ group ∈ groups, ∀ old ∈ db.groups.rows, old.id ≠ group.id := by
  obtain ⟨hrows, -, hfresh⟩ := Table.insertAll_eq_some h
  refine ⟨hrows, ?_⟩
  intro group hgroup old hold
  exact hfresh group.row (List.mem_map_of_mem hgroup) old hold

theorem persistMatchArtifacts_stores (hexecuted : Executed mrc result)
    (h : persistMatchArtifacts environment run result db = .ok db') :
    Stores db db' result.groups := by
  obtain ⟨table, htable, rfl⟩ := persistMatchArtifacts_eq_ok hexecuted.items h
  obtain ⟨hrows, hfresh⟩ := Stores.fresh_of_insertAll htable
  refine ⟨hrows, hfresh, ?_, hexecuted.owned,
    fun group hgroup => hexecuted.live hgroup, hexecuted.exclusive, ?_, rfl⟩
  · rw [← hexecuted.items]
    rfl
  · intro tx' htx'
    obtain ⟨tx₁, htx₁, hid₁, hstatus₁⟩ := Db.mem_markStatus htx'
    obtain ⟨tx, htx, hid, hstatus⟩ := Db.mem_markStatus htx₁
    have hfinal : tx'.status = if tx.id ∈ result.pendingReviewIDs then
        .pendingReview else if tx.id ∈ result.autoMatchedIDs then .matched
          else tx.status := by
      rw [hstatus₁, hstatus, hid]
    refine ⟨tx, htx, hid₁.trans hid, ?_, ?_⟩
    · intro hclaim
      have hfree : tx.id ∉ result.groups.flatMap (·.transactionIDs) :=
        claimsOfGroups_eq_none.mp hclaim
      rw [hfinal, if_neg fun hmem => hfree (hexecuted.mem_of_listed (Or.inr hmem)),
          if_neg fun hmem => hfree (hexecuted.mem_of_listed (Or.inl hmem))]
    · intro group hgroup hmem
      rw [hfinal]
      exact hexecuted.heldStatus hgroup hmem tx.status

theorem commitBody_eq_ok (h : commitBody environment run result db = .ok (completed, db')) :
    ∃ db₁, persistMatchArtifacts environment run result db = .ok db₁ ∧ db₁.SameBesidesRuns db' := by
  obtain ⟨⟨⟩, -, h⟩ := bind_eq_ok.mp h
  split at h
  · cases h
  obtain ⟨db₁, hpersist, h⟩ := bind_eq_ok.mp h
  split at h
  · cases h
  obtain ⟨db₂, hupdate, h⟩ := bind_eq_ok.mp h
  obtain ⟨⟨⟩, -, h⟩ := bind_eq_ok.mp h
  cases h
  exact ⟨db₁, hpersist, Db.updateRun_sameBesidesRuns (RunMatchEnvironment.call_eq_ok hupdate)⟩

theorem completeDryRun_sameBesidesRuns
    (h : completeDryRun environment run result db = .ok (completed, db')) :
    db.SameBesidesRuns db' := by
  unfold completeDryRun at h
  split at h
  · cases h
  split at h
  · cases h
  split at h
  · cases h
  next hupdate =>
  cases h
  exact Db.updateRun_sameBesidesRuns (attempt_eq_ok.mp hupdate).2

theorem concludeRun_eq_ok (h : concludeRun environment run result db = .ok (completed, db')) :
    environment.input.mode = .dryRun ∧ db.SameBesidesRuns db' ∨
      environment.input.mode ≠ .dryRun ∧
        ∃ db₁, persistMatchArtifacts environment run result db = .ok db₁ ∧
          db₁.SameBesidesRuns db' := by
  unfold concludeRun at h
  split at h
  next hmode => exact Or.inl ⟨hmode, completeDryRun_sameBesidesRuns h⟩
  next hmode =>
  split at h
  · cases h
  unfold commitMatchResults at h
  split at h
  · cases h
  exact Or.inr ⟨hmode, commitBody_eq_ok (mapError_eq_ok.mp h)⟩

theorem executeRun_eq_ok {outcome : MatchRun × List MatchGroup}
    (h : executeRun environment mrc run db = .ok (outcome, db')) :
    ∃ result completed,
      executeMatchRules environment.execution mrc = .ok result ∧
        concludeRun environment run result db = .ok (completed, db') ∧
        outcome = (completed, result.groups) := by
  unfold executeRun at h
  split at h
  · cases h
  split at h
  · cases h
  next result hresult =>
  split at h
  · cases h
  obtain ⟨⟨completed, db₁⟩, hconclude, h⟩ := bind_eq_ok.mp h
  cases h
  exact ⟨result, completed, hresult, hconclude, rfl⟩

theorem finalizeRunFailure_sameBesidesRuns (environment : RunMatchEnvironment)
    (run : MatchRun) (cause : GoError) (db : Db) :
    db.SameBesidesRuns
      (finalizeRunFailure (α := MatchRun × List MatchGroup) environment run cause db).2 := by
  unfold finalizeRunFailure
  split
  · exact .refl db
  split
  · exact .refl db
  next hupdate =>
  exact Db.updateRun_sameBesidesRuns (attempt_eq_ok.mp hupdate).2

def RunMatchEnvironment.groupedIDs (environment : RunMatchEnvironment) (mrc : MatchRunContext) :
    List UUID :=
  if environment.input.mode = .dryRun then []
  else
    match executeMatchRules environment.execution mrc with
    | .error _ => []
    | .ok result => result.groups.flatMap (·.transactionIDs)

theorem groupedIDs_subset (hids : mrc.candidateIDs.Nodup)
    (hid : id ∈ environment.groupedIDs mrc) : id ∈ mrc.candidateIDs := by
  unfold RunMatchEnvironment.groupedIDs at hid
  split at hid
  · cases hid
  split at hid
  · cases hid
  next result hresult =>
  exact (executeMatchRules_executed hids hresult).candidates id hid

/-- A run stores its groups, or it leaves everything but the runs alone. -/
theorem finishRun_effect (hids : mrc.candidateIDs.Nodup) (run : MatchRun) (db : Db) :
    db.SameBesidesRuns (finishRun environment mrc run db).2 ∨
      ∃ groups, Stores db (finishRun environment mrc run db).2 groups ∧
        groups.flatMap (·.transactionIDs) = environment.groupedIDs mrc ∧
        environment.input.mode ≠ .dryRun := by
  unfold finishRun
  split
  next outcome db' hrun =>
    obtain ⟨result, completed, hresult, hconclude, -⟩ := executeRun_eq_ok hrun
    rcases concludeRun_eq_ok hconclude with ⟨-, hsame⟩ | ⟨hmode, db₁, hpersist, hsame⟩
    · exact Or.inl hsame
    · refine Or.inr ⟨result.groups, ?_, ?_, hmode⟩
      · exact .of_sameBesidesRuns (.refl db) (persistMatchArtifacts_stores
          (executeMatchRules_executed hids hresult) hpersist) hsame
      · unfold RunMatchEnvironment.groupedIDs
        rw [if_neg hmode, hresult]
  next failure hrun =>
    split
    · exact Or.inl (finalizeRunFailure_sameBesidesRuns _ _ _ _)
    · exact Or.inl (.refl db)

theorem finishRun_follows (hids : mrc.candidateIDs.Nodup) (run : MatchRun)
    (h : Represents db holding) (hfree : ∀ id ∈ environment.groupedIDs mrc, holding id = none) :
    Follows holding (finishRun environment mrc run db).2 := by
  rcases finishRun_effect hids run db with hsame | ⟨groups, hstores, hgrouped, -⟩
  · exact h.follows_idle hsame
  · rw [← hgrouped] at hfree
    exact h.follows_take hstores hfree

theorem completeEmptyRun_sameBesidesRuns
    (h : completeEmptyRun environment mrc db = .ok (completed, db')) : db.SameBesidesRuns db' := by
  obtain ⟨run, -, h⟩ := bind_eq_ok.mp h
  obtain ⟨⟨⟩, -, h⟩ := bind_eq_ok.mp (wrapError_eq_ok.mp h)
  obtain ⟨db₁, hcreate, h⟩ := bind_eq_ok.mp h
  obtain ⟨finished, -, h⟩ := bind_eq_ok.mp h
  obtain ⟨db₂, hupdate, h⟩ := bind_eq_ok.mp h
  obtain ⟨⟨⟩, -, h⟩ := bind_eq_ok.mp h
  obtain ⟨⟨⟩, -, h⟩ := bind_eq_ok.mp h
  cases h
  exact (Db.createRun_sameBesidesRuns (attempt_eq_ok.mp hcreate).2).trans
    (Db.updateRun_sameBesidesRuns (attempt_eq_ok.mp hupdate).2)

theorem beginRun_sameBesidesRuns (environment : RunMatchEnvironment) (db : Db) :
    db.SameBesidesRuns (beginRun environment db).2 := by
  have houtcome := beginRun_outcome environment db
  generalize beginRun environment db = outcome at houtcome
  cases houtcome with
  | refused => exact .refl db
  | empty _ _ _ hempty => exact completeEmptyRun_sameBesidesRuns hempty
  | created _ _ _ _ _ hcreate => exact Db.createRun_sameBesidesRuns hcreate

theorem beginRun_candidates (h : beginRun environment db = (.created mrc run, db')) :
    mrc.candidateIDs.Nodup ∧ db'.AllUnmatched mrc.candidateIDs := by
  have houtcome := beginRun_outcome environment db
  rw [h] at houtcome
  cases houtcome with
  | created _ _ _ hopen _ hcreate =>
    obtain ⟨_, rfl⟩ := Db.createRun_sameBesidesRuns hcreate
    obtain ⟨⟨⟩, -, hopen⟩ := bind_eq_ok.mp hopen
    obtain ⟨⟨⟩, -, hopen⟩ := bind_eq_ok.mp hopen
    exact prepareMatchRun_candidates hopen

end RunCommit

/-! ## ManualMatch -/

section ManualCommit

variable {environment : ManualEnvironment} {prepared : ManualPreparation}
  {db db' : Db} {group : MatchGroup}

theorem manualItem_transactionID {tx : Transaction} {item : MatchItem}
    (h : manualItem tx = .ok item) : item.transactionID = tx.id :=
  (newMatchItem_eq_ok (mapError_eq_ok.mp h)).1

structure ManuallyMatched (transactions : List Transaction) (group : MatchGroup) : Prop where
  status : group.status = .confirmed
  ids : group.transactionIDs = transactions.map (·.id)
  owned : ∀ item ∈ group.items, item.matchGroupID = group.id

theorem manualGroup_eq_ok {transactions : List Transaction}
    (h : manualGroup environment run transactions = .ok group) :
    ManuallyMatched transactions group := by
  obtain ⟨items, hitems, h⟩ := bind_eq_ok.mp h
  obtain ⟨confidence, -, h⟩ := bind_eq_ok.mp h
  obtain ⟨created, hcreated, h⟩ := bind_eq_ok.mp h
  have hcreated := newMatchGroup_eq_ok (wrapError_eq_ok.mp hcreated)
  have hconfirm := wrapError_eq_ok.mp h
  unfold MatchGroup.confirm at hconfirm
  split at hconfirm
  · cases hconfirm
  cases hconfirm
  have hids : transactions.map (·.id) = items.map (·.transactionID) := by
    rw [← List.forall₂_eq_eq_eq, List.forall₂_map_left_iff, List.forall₂_map_right_iff]
    exact (mapM_eq_ok hitems).imp fun _ _ hitem =>
      (manualItem_transactionID hitem).symm
  rw [hcreated]
  refine ⟨rfl, ?_, ?_⟩
  · change (items.map (MatchItem.setGroup _)).map (·.transactionID) = _
    rw [List.map_map, hids]
    rfl
  · intro item hitem
    obtain ⟨plain, -, rfl⟩ := List.mem_map.mp hitem
    rfl

theorem ManualEnvironment.call_eq_ok {α : Type} {call : ManualCall} {outcome : Except GoError α}
    {value : α} (h : environment.call call format outcome = .ok value) : outcome = .ok value :=
  (attempt_eq_ok.mp (wrapError_eq_ok.mp h)).2

theorem persistManualItems_eq_ok {items : List MatchItem}
    (h : persistManualItems environment items db = .ok db') : db' = db.createItems items := by
  unfold persistManualItems at h
  split at h
  case isTrue => exact (Except.ok.inj (ManualEnvironment.call_eq_ok h)).symm
  case isFalse hempty =>
    cases h
    rw [List.length_pos_iff, not_not] at hempty
    rw [hempty, Db.createItems, List.append_nil]

theorem ManuallyMatched.stores (h : ManuallyMatched prepared.transactions group)
    (hselects : prepared.Selects environment.input)
    (htable : db.groups.insertAll ([group].map MatchGroup.row) = some table) :
    Stores db (((({ db with groups := table } : Db).createItems
      group.items).markStatus environment.input.transactionIDs .matched).enqueue
        (confirmedEvents [group])) [group] := by
  obtain ⟨hrows, hfresh⟩ := Stores.fresh_of_insertAll htable
  have hids : ∀ id, id ∈ group.transactionIDs ↔ id ∈ environment.input.transactionIDs := by
    intro id
    rw [h.ids]
    exact hselects.ids.mem_iff
  refine ⟨hrows, hfresh, ?_, ?_, ?_, ?_, ?_, rfl⟩
  · rw [List.flatMap_singleton]
    rfl
  · intro member hmember
    rw [List.mem_singleton.mp hmember]
    exact h.owned
  · intro member hmember
    rw [List.mem_singleton.mp hmember]
    exact Or.inr h.status
  · rw [List.flatMap_singleton, h.ids]
    exact hselects.ids.nodup_iff.mpr hselects.nodup
  · intro tx' htx'
    obtain ⟨tx, htx, hid, hstatus⟩ := Db.mem_markStatus htx'
    refine ⟨tx, htx, hid, ?_, ?_⟩
    · intro hclaim
      rw [claimsOfGroups_eq_none, List.flatMap_singleton, hids] at hclaim
      rw [hstatus, if_neg hclaim]
    · intro member hmember hmem
      rw [List.mem_singleton.mp hmember] at hmem ⊢
      rw [hstatus, if_pos ((hids tx.id).mp hmem), h.status]
      rfl

theorem commitManualMatch_stores (hselects : prepared.Selects environment.input)
    (h : commitManualMatch environment prepared db = .ok (group, db')) :
    Stores db db' [group] ∧ group.transactionIDs.Perm environment.input.transactionIDs := by
  have h := inTransaction_eq_ok (wrapError_eq_ok.mp h)
  obtain ⟨db₁, hrun, h⟩ := bind_eq_ok.mp h
  obtain ⟨created, hcreated, h⟩ := bind_eq_ok.mp h
  obtain ⟨db₂, hgroups, h⟩ := bind_eq_ok.mp h
  obtain ⟨db₃, hitems, h⟩ := bind_eq_ok.mp h
  obtain ⟨db₄, hmark, h⟩ := bind_eq_ok.mp h
  obtain ⟨completed, -, h⟩ := bind_eq_ok.mp h
  obtain ⟨db₅, hupdate, h⟩ := bind_eq_ok.mp h
  obtain ⟨db₆, hevents, h⟩ := bind_eq_ok.mp h
  cases h
  have hmatched := manualGroup_eq_ok hcreated
  obtain ⟨table, htable, rfl⟩ := Db.createGroups_eq_ok (ManualEnvironment.call_eq_ok hgroups)
  cases persistManualItems_eq_ok hitems
  cases ManualEnvironment.call_eq_ok hmark
  -- the run is completed before the event is enqueued
  obtain ⟨runs, rfl⟩ := Db.updateRun_sameBesidesRuns (ManualEnvironment.call_eq_ok hupdate)
  cases ManualEnvironment.call_eq_ok hevents
  refine ⟨.of_sameBesidesRuns (Db.createRun_sameBesidesRuns (ManualEnvironment.call_eq_ok hrun))
    (hmatched.stores hselects htable) ⟨runs, rfl⟩, ?_⟩
  rw [hmatched.ids]
  exact hselects.ids

theorem finishManualMatch_follows (hselects : prepared.Selects environment.input)
    (h : Represents db holding)
    (hfree : ∀ id ∈ environment.input.transactionIDs, holding id = none) :
    Follows holding (finishManualMatch environment prepared db).2 := by
  unfold finishManualMatch
  split
  · exact h.follows_idle (.refl db)
  next group db' hcommit =>
  obtain ⟨hstores, hids⟩ := commitManualMatch_stores hselects hcommit
  apply h.follows_take hstores
  rw [List.flatMap_singleton]
  intro id hid
  exact hfree id (hids.mem_iff.mp hid)

end ManualCommit

/-! ## Unmatch and IgnoreTransaction -/

section UnmatchCommit

variable {environment : UnmatchEnvironment} {group updated row : MatchGroup}
  {db db' : Db}

theorem UnmatchEnvironment.call_eq_ok {α : Type} {call : UnmatchCall} {outcome : Except GoError α}
    {value : α} (h : environment.call call format outcome = .ok value) : outcome = .ok value :=
  (attempt_eq_ok.mp (wrapError_eq_ok.mp h)).2

/-- Only a live group can be withdrawn: a confirmed one is revoked. -/
def MatchGroup.WithdrawnAs (group updated : MatchGroup) : Prop :=
  group.status = .confirmed ∧ updated.status = .revoked ∨
    group.status = .proposed ∧ updated.status = .rejected

theorem MatchGroup.WithdrawnAs.not_live (h : group.WithdrawnAs updated) : ¬ updated.Live := by
  unfold MatchGroup.Live
  rcases h with ⟨-, hrevoked⟩ | ⟨-, hrejected⟩
  · rw [hrevoked]
    decide
  · rw [hrejected]
    decide

theorem rejectOrRevoke_eq_ok {reason : String} (h : group.rejectOrRevoke reason = .ok updated) :
    updated.id = group.id ∧ group.WithdrawnAs updated := by
  unfold MatchGroup.rejectOrRevoke at h
  split at h
  case isTrue hconfirmed =>
    have h := mapError_eq_ok.mp h
    unfold MatchGroup.revoke at h
    dsimp only at h
    split_ifs at h
    cases h
    exact ⟨rfl, Or.inl ⟨of_decide_eq_true hconfirmed, rfl⟩⟩
  case isFalse =>
    have h := mapError_eq_ok.mp h
    unfold MatchGroup.reject at h
    dsimp only at h
    split_ifs at h with hproposed
    cases h
    exact ⟨rfl, Or.inr ⟨not_not.mp hproposed, rfl⟩⟩

theorem Db.mem_listItems_ids :
    id ∈ (db.listItems groupID).map (·.transactionID) ↔ db.HasItem groupID id := by
  simp only [Db.listItems, Db.HasItem, List.mem_map, List.mem_filter, decide_eq_true_eq, and_assoc]

theorem revertTransactionStatuses_eq_ok (h : revertTransactionStatuses environment db = .ok db') :
    db' = db.markStatus ((db.listItems environment.input.matchGroupID).map
      (·.transactionID)) .unmatched := by
  obtain ⟨items, hitems, h⟩ := bind_eq_ok.mp h
  cases UnmatchEnvironment.call_eq_ok hitems
  unfold markItemsUnmatched at h
  split at h
  case isTrue hempty =>
    cases h
    rw [List.length_eq_zero_iff.mp hempty, List.map_nil, Db.markStatus_nil]
  case isFalse => exact (Except.ok.inj (UnmatchEnvironment.call_eq_ok h)).symm

theorem announceUnmatch_eq_ok (h : announceUnmatch environment group updated db = .ok db') :
    db' = db.enqueue (if group.wasConfirmed then [.matchUnmatched updated.id] else []) := by
  unfold announceUnmatch at h
  split at h
  case isTrue hconfirmed =>
    obtain ⟨items, -, h⟩ := bind_eq_ok.mp h
    obtain ⟨event, hevent, h⟩ := bind_eq_ok.mp h
    have hevent := wrapError_eq_ok.mp hevent
    unfold newMatchUnmatchedEvent at hevent
    split_ifs at hevent
    cases hevent
    rw [if_pos hconfirmed]
    exact (Except.ok.inj (UnmatchEnvironment.call_eq_ok h)).symm
  case isFalse hconfirmed =>
    cases h
    rw [if_neg hconfirmed, Db.enqueue, List.append_nil]

/-- What the commit writes, whatever has become of the group since it was
loaded. -/
theorem commitUnmatch_eq_ok (h : commitUnmatch environment group db = .ok db') :
    ∃ updated, updated.id = group.id ∧ group.WithdrawnAs updated ∧
      db' = (Db.markStatus
        { db with groups := db.groups.modify (updateGroupRow updated) (updateGroupRow_id updated) }
        ((db.listItems environment.input.matchGroupID).map (·.transactionID))
        .unmatched).enqueue (if group.wasConfirmed then [.matchUnmatched updated.id] else []) := by
  have h := inTransaction_eq_ok h
  obtain ⟨updated, hupdated, h⟩ := bind_eq_ok.mp h
  obtain ⟨db₁, hupdate, h⟩ := bind_eq_ok.mp h
  obtain ⟨db₂, hrevert, h⟩ := bind_eq_ok.mp h
  obtain ⟨hupdatedID, hcases⟩ := rejectOrRevoke_eq_ok hupdated
  cases Db.updateGroup_eq_ok (UnmatchEnvironment.call_eq_ok hupdate)
  cases revertTransactionStatuses_eq_ok hrevert
  exact ⟨updated, hupdatedID, hcases, announceUnmatch_eq_ok h⟩

theorem commitUnmatch_withdraws (hid : group.id = environment.input.matchGroupID)
    (hrow : row ∈ db.groups.rows) (hrowID : row.id = group.id) (hstatus : row.status = group.status)
    (h : commitUnmatch environment group db = .ok db') :
    ∃ updated, Withdraws db db' row updated := by
  obtain ⟨updated, hupdatedID, hcases, rfl⟩ := commitUnmatch_eq_ok h
  refine ⟨updated, hrow, ?_, hupdatedID.trans hrowID.symm, hcases.not_live, rfl, rfl, ?_, ?_⟩
  · unfold MatchGroup.Live
    rw [hstatus]
    rcases hcases with ⟨hconfirmed, -⟩ | ⟨hproposed, -⟩
    · exact Or.inr hconfirmed
    · exact Or.inl hproposed
  · intro tx' htx'
    obtain ⟨tx, htx, htxID, htxStatus⟩ := Db.mem_markStatus htx'
    refine ⟨tx, htx, htxID, ?_⟩
    rw [htxStatus]
    refine if_congr ?_ rfl rfl
    rw [hrowID, hid]
    exact Db.mem_listItems_ids
  · unfold MatchGroup.wasConfirmed
    change db.outbox ++ _ = _
    rw [hupdatedID, hrowID]
    rcases hcases with ⟨hconfirmed, hrevoked⟩ | ⟨hproposed, hrejected⟩
    · rw [hconfirmed, hrevoked]
      rfl
    · rw [hproposed, hrejected]
      rfl

def Db.KeepsStatus (db : Db) (group : MatchGroup) : Prop :=
  ∃ row ∈ db.groups.rows, row.id = group.id ∧ row.status = group.status

instance (db : Db) (group : MatchGroup) : Decidable (db.KeepsStatus group) :=
  inferInstanceAs (Decidable (∃ row ∈ db.groups.rows, _))

theorem finishUnmatch_effect (hid : group.id = environment.input.matchGroupID)
    (h : Represents db holding) (hkeeps : db.KeepsStatus group) :
    Represents (finishUnmatch environment group db).2 holding ∨
      Represents (finishUnmatch environment group db).2 (holding.release group.id) := by
  unfold finishUnmatch
  split
  · exact Or.inl h
  next db' hcommit =>
  obtain ⟨row, hrow, hrowID, hstatus⟩ := hkeeps
  obtain ⟨updated, hwithdraws⟩ := commitUnmatch_withdraws hid hrow hrowID hstatus hcommit
  exact Or.inr (hrowID ▸ h.release hwithdraws)

theorem finishUnmatch_follows (hid : group.id = environment.input.matchGroupID)
    (h : Represents db holding) (hkeeps : db.KeepsStatus group) :
    Follows holding (finishUnmatch environment group db).2 := by
  rcases finishUnmatch_effect hid h hkeeps with hsame | hreleased
  · exact ⟨holding, .idle holding, hsame⟩
  · exact ⟨_, .release holding group.id, hreleased⟩

end UnmatchCommit

theorem finishIgnore_follows {environment : IgnoreEnvironment} (h : Represents db holding)
    (hfree : holding environment.input.transactionID = none) :
    Follows holding (finishIgnore environment db).2 := by
  unfold finishIgnore
  split
  · exact h.follows_idle (.refl db)
  next updated db' hupdate =>
  have hupdate := (attempt_eq_ok.mp (mapError_eq_ok.mp hupdate)).2
  obtain ⟨tx, -, hupdate⟩ := bind_eq_ok.mp hupdate
  cases hupdate
  exact ⟨holding, .idle holding, h.ignore hfree⟩

end Matcher.Command
