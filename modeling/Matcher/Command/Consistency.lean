import Matcher.Command.UserCommands
import Matcher.Foundation.Holding

/-!
# Groups hold transactions

What the tables are for: a live group, one that was neither rejected nor revoked,
holds its transactions exclusively, and the status of a transaction says whether
and how it is held.  Creating groups of free transactions takes them, and
withdrawing a live group releases them.  The outbox announces a revoked group
once.
-/

namespace Matcher.Command

open Foundation

variable {group : MatchGroup} {status : TransactionStatus}

def MatchGroupStatus.heldStatus : MatchGroupStatus → Option TransactionStatus
  | .confirmed => some .matched
  | .proposed => some .pendingReview
  | .rejected | .revoked => none

def MatchGroup.Live (group : MatchGroup) : Prop :=
  group.status = .proposed ∨ group.status = .confirmed

instance (group : MatchGroup) : Decidable group.Live :=
  inferInstanceAs (Decidable (_ ∨ _))

theorem MatchGroup.live_of_heldStatus (h : group.status.heldStatus = some status) : group.Live := by
  unfold MatchGroup.Live
  cases hstatus : group.status with
  | proposed => exact Or.inl rfl
  | confirmed => exact Or.inr rfl
  | rejected | revoked =>
    rw [hstatus] at h
    cases h

theorem MatchGroupStatus.not_free_of_held {groupStatus : MatchGroupStatus}
    (h : groupStatus.heldStatus = some status) :
    ¬ (status = .unmatched ∨ status = .ignored) := by
  cases groupStatus with
  | proposed | confirmed =>
    cases h
    decide
  | rejected | revoked => cases h

def Db.HasItem (db : Db) (groupID id : UUID) : Prop :=
  ∃ item ∈ db.items, item.matchGroupID = groupID ∧ item.transactionID = id

instance (db : Db) (groupID id : UUID) : Decidable (db.HasItem groupID id) :=
  inferInstanceAs (Decidable (∃ item ∈ db.items, _))

structure Represents (db : Db) (holding : Holding UUID UUID) : Prop where
  references : ∀ item ∈ db.items, ∃ group ∈ db.groups.rows, group.id = item.matchGroupID
  holder : ∀ id groupID, holding id = some groupID →
    ∃ group ∈ db.groups.rows, group.id = groupID ∧ group.Live
  held : ∀ group ∈ db.groups.rows, group.Live →
    ∀ id, holding id = some group.id ↔ db.HasItem group.id id
  free : ∀ tx ∈ db.transactions.rows, holding tx.id = none →
    tx.status = .unmatched ∨ tx.status = .ignored
  taken : ∀ tx ∈ db.transactions.rows, ∀ group ∈ db.groups.rows,
    holding tx.id = some group.id → group.status.heldStatus = some tx.status
  revocations : ∀ groupID, .matchUnmatched groupID ∈ db.outbox →
    ∃ group ∈ db.groups.rows, group.id = groupID ∧ group.status = .revoked
  announcedOnce : ∀ groupID, db.outbox.count (.matchUnmatched groupID) ≤ 1

/-- Freshly ingested transactions: all unmatched, and nothing created yet. -/
structure Fresh (db : Db) : Prop where
  unmatched : ∀ tx ∈ db.transactions.rows, tx.status = .unmatched
  groups : db.groups.rows = []
  items : db.items = []
  outbox : db.outbox = []

theorem Fresh.represents {db : Db} (h : Fresh db) : Represents db Holding.allFree := by
  constructor
  · simp [h.items]
  · intro id groupID hheld
    cases hheld
  · simp [h.groups]
  · intro tx htx _
    exact Or.inl (h.unmatched tx htx)
  · intro tx _ group _ hheld
    cases hheld
  · simp [h.outbox]
  · simp [h.outbox]

def Consistent (db : Db) : Prop :=
  ∃ holding, Represents db holding

theorem Fresh.consistent {db : Db} (h : Fresh db) : Consistent db :=
  ⟨_, h.represents⟩

section Facts

variable {db : Db} {holding : Holding UUID UUID}

section

variable (h : Represents db holding)

include h

theorem Represents.not_free_of_held {tx : Transaction}
    (htx : tx ∈ db.transactions.rows) {groupID : UUID} (hheld : holding tx.id = some groupID) :
    ¬ (tx.status = .unmatched ∨ tx.status = .ignored) := by
  obtain ⟨group, hgroup, rfl, -⟩ := h.holder tx.id groupID hheld
  exact MatchGroupStatus.not_free_of_held (h.taken tx htx group hgroup hheld)

theorem Represents.free_of_allUnmatched {transactionIDs : List UUID}
    (hall : db.AllUnmatched transactionIDs) {id : UUID} (hid : id ∈ transactionIDs) :
    holding id = none := by
  obtain ⟨tx, htx, rfl, hstatus⟩ := hall id hid
  cases hheld : holding tx.id with
  | none => rfl
  | some => exact absurd (Or.inl hstatus) (h.not_free_of_held htx hheld)

theorem Represents.setRuns (runs : Table MatchRun.id) :
    Represents { db with runs := runs } holding :=
  ⟨h.references, h.holder, h.held, h.free, h.taken, h.revocations, h.announcedOnce⟩

theorem Represents.live_unique {first second : MatchGroup}
    (hfirst : first ∈ db.groups.rows) (hsecond : second ∈ db.groups.rows) (hfirstLive : first.Live)
    (hsecondLive : second.Live) {id : UUID} (hfirstItem : db.HasItem first.id id)
    (hsecondItem : db.HasItem second.id id) : first = second := by
  have hheld := (h.held first hfirst hfirstLive id).mpr hfirstItem
  rw [(h.held second hsecond hsecondLive id).mpr hsecondItem] at hheld
  exact (db.groups.eq_of_key hsecond hfirst (Option.some.inj hheld)).symm

end

end Facts

/-! ## Creating groups -/

def claimsOfGroups (groups : List MatchGroup) : UUID → Option UUID :=
  Holding.claimsOf MatchGroup.id MatchGroup.transactionIDs groups

theorem claimsOfGroups_eq_none {groups : List MatchGroup} {id : UUID} :
    claimsOfGroups groups id = none ↔ id ∉ groups.flatMap (·.transactionIDs) := by
  rw [← Option.not_isSome_iff_eq_none, claimsOfGroups, Holding.claimsOf_isSome, List.mem_flatMap]

structure Stores (db db' : Db) (groups : List MatchGroup) : Prop where
  rows : db'.groups.rows = db.groups.rows ++ groups.map MatchGroup.row
  fresh : ∀ group ∈ groups, ∀ old ∈ db.groups.rows, old.id ≠ group.id
  items : db'.items = db.items ++ groups.flatMap (·.items)
  owned : ∀ group ∈ groups, ∀ item ∈ group.items, item.matchGroupID = group.id
  live : ∀ group ∈ groups, group.Live
  exclusive : (groups.flatMap (·.transactionIDs)).Nodup
  statuses : ∀ tx' ∈ db'.transactions.rows, ∃ tx ∈ db.transactions.rows,
    tx'.id = tx.id ∧
      (claimsOfGroups groups tx.id = none → tx'.status = tx.status) ∧
      ∀ group ∈ groups, tx.id ∈ group.transactionIDs → group.status.heldStatus = some tx'.status
  outbox : db'.outbox = db.outbox ++ confirmedEvents groups

section Stores

variable {db db' : Db} {groups : List MatchGroup} {holding : Holding UUID UUID} {row : MatchGroup}
  {groupID : UUID}

section

variable (h : Stores db db' groups)

include h

theorem Stores.hasItem_iff {id : UUID} :
    db'.HasItem groupID id ↔ db.HasItem groupID id ∨ claimsOfGroups groups id = some groupID := by
  unfold claimsOfGroups
  rw [Holding.claimsOf_eq_some h.exclusive]
  unfold Db.HasItem
  rw [h.items]
  constructor
  · rintro ⟨item, hitem, hgroupID, hid⟩
    rcases List.mem_append.mp hitem with hold | hnew
    · exact Or.inl ⟨item, hold, hgroupID, hid⟩
    · obtain ⟨group, hgroup, hmem⟩ := List.mem_flatMap.mp hnew
      refine Or.inr ⟨group, hgroup, ?_, List.mem_map.mpr ⟨item, hmem, hid⟩⟩
      rw [← h.owned group hgroup item hmem, hgroupID]
  · rintro (⟨item, hitem, hitemFacts⟩ | ⟨group, hgroup, rfl, hid⟩)
    · exact ⟨item, List.mem_append_left _ hitem, hitemFacts⟩
    · obtain ⟨item, hitem, hid⟩ := List.mem_map.mp hid
      exact ⟨item, List.mem_append_right _ (List.mem_flatMap.mpr ⟨group, hgroup, hitem⟩),
        h.owned group hgroup item hitem, hid⟩

theorem Stores.claimant {id : UUID} (hclaim : claimsOfGroups groups id = some groupID) :
    ∃ group ∈ groups, group.id = groupID ∧ id ∈ group.transactionIDs :=
  (Holding.claimsOf_eq_some h.exclusive).mp hclaim

theorem Stores.not_claimed_old {old : MatchGroup} (hold : old ∈ db.groups.rows) (id : UUID) :
    claimsOfGroups groups id ≠ some old.id := by
  intro hclaim
  obtain ⟨group, hgroup, hid, -⟩ := h.claimant hclaim
  exact h.fresh group hgroup old hold hid.symm

theorem Stores.takable (hrepresents : Represents db holding)
    (hfree : ∀ id ∈ groups.flatMap (·.transactionIDs), holding id = none) :
    holding.Takable (claimsOfGroups groups) := by
  apply Holding.Takable.claimsOf h.exclusive
  · intro group hgroup id hid
    exact hfree id (List.mem_flatMap.mpr ⟨group, hgroup, hid⟩)
  · intro group hgroup id hheld
    obtain ⟨old, hold, hid, -⟩ := hrepresents.holder id group.id hheld
    exact h.fresh group hgroup old hold hid

theorem Stores.mem_groups :
    row ∈ db'.groups.rows ↔ row ∈ db.groups.rows ∨ ∃ group ∈ groups, group.row = row := by
  rw [h.rows, List.mem_append, List.mem_map]

end

theorem confirmedEvents_count_matchUnmatched (groups : List MatchGroup) (groupID : UUID) :
    (confirmedEvents groups).count (.matchUnmatched groupID) = 0 := by
  apply List.count_eq_zero.mpr
  intro hmem
  obtain ⟨group, -, hevent⟩ := List.mem_map.mp hmem
  cases hevent

theorem Stores.references (hstores : Stores db db' groups)
    (h : ∀ item ∈ db.items, ∃ group ∈ db.groups.rows, group.id = item.matchGroupID) :
    ∀ item ∈ db'.items, ∃ group ∈ db'.groups.rows, group.id = item.matchGroupID := by
  intro item hitem
  rw [hstores.items] at hitem
  rcases List.mem_append.mp hitem with hold | hnew
  · obtain ⟨group, hgroup, hid⟩ := h item hold
    exact ⟨group, hstores.mem_groups.mpr (Or.inl hgroup), hid⟩
  · obtain ⟨group, hgroup, hmem⟩ := List.mem_flatMap.mp hnew
    exact ⟨group.row, hstores.mem_groups.mpr (Or.inr ⟨group, hgroup, rfl⟩),
      (hstores.owned group hgroup item hmem).symm⟩

section

variable (h : Represents db holding)

include h

theorem Stores.holder (hstores : Stores db db' groups)
    (htakable : holding.Takable (claimsOfGroups groups)) (id groupID : UUID)
    (hheld : holding.take (claimsOfGroups groups) id = some groupID) :
    ∃ group ∈ db'.groups.rows, group.id = groupID ∧ group.Live := by
  rcases (Holding.take_eq_some htakable).mp hheld with hclaim | hold
  · obtain ⟨group, hgroup, hid, -⟩ := hstores.claimant hclaim
    exact ⟨group.row, hstores.mem_groups.mpr (Or.inr ⟨group, hgroup, rfl⟩),
      hid, hstores.live group hgroup⟩
  · obtain ⟨group, hgroup, hfacts⟩ := h.holder id groupID hold
    exact ⟨group, hstores.mem_groups.mpr (Or.inl hgroup), hfacts⟩

theorem Stores.held (hstores : Stores db db' groups)
    (htakable : holding.Takable (claimsOfGroups groups))
    (hrow : row ∈ db'.groups.rows) (hlive : row.Live) (id : UUID) :
    holding.take (claimsOfGroups groups) id = some row.id ↔ db'.HasItem row.id id := by
  rw [Holding.take_eq_some htakable, hstores.hasItem_iff]
  rcases hstores.mem_groups.mp hrow with hold | ⟨group, hgroup, rfl⟩
  · have hclaim := hstores.not_claimed_old hold id
    rw [h.held row hold hlive id]
    simp only [hclaim, false_or, or_false]
  · -- a new group has no old items and held nothing
    have hitem : ¬ db.HasItem group.row.id id := by
      rintro ⟨item, hitem, hid, -⟩
      obtain ⟨old, hold, holdID⟩ := h.references item hitem
      exact hstores.fresh group hgroup old hold (holdID.trans hid)
    have hheld : holding id ≠ some group.row.id := by
      intro hheld
      obtain ⟨old, hold, hid, -⟩ := h.holder id _ hheld
      exact hstores.fresh group hgroup old hold hid
    simp only [hitem, hheld, false_or, or_false]

theorem Stores.taken (hstores : Stores db db' groups)
    (htakable : holding.Takable (claimsOfGroups groups)) {tx' : Transaction}
    (htx' : tx' ∈ db'.transactions.rows) (hrow : row ∈ db'.groups.rows)
    (hheld : holding.take (claimsOfGroups groups) tx'.id = some row.id) :
    row.status.heldStatus = some tx'.status := by
  obtain ⟨tx, htx, hid, hsame, hnew⟩ := hstores.statuses tx' htx'
  rw [hid] at hheld
  rcases (Holding.take_eq_some htakable).mp hheld with hclaim | hold
  · obtain ⟨group, hgroup, hgroupID, hmem⟩ := hstores.claimant hclaim
    have hrowEq : group.row = row := db'.groups.eq_of_key
      (hstores.mem_groups.mpr (Or.inr ⟨group, hgroup, rfl⟩)) hrow hgroupID
    rw [← hrowEq]
    exact hnew group hgroup hmem
  · obtain ⟨old, holdRow, holdID, -⟩ := h.holder tx.id row.id hold
    have hrowEq : old = row := db'.groups.eq_of_key
      (hstores.mem_groups.mpr (Or.inl holdRow)) hrow holdID
    rw [hsame (htakable.not_claimed hold)]
    exact h.taken tx htx row (hrowEq ▸ holdRow) hold

theorem Represents.take (hstores : Stores db db' groups)
    (hfree : ∀ id ∈ groups.flatMap (·.transactionIDs), holding id = none) :
    Represents db' (holding.take (claimsOfGroups groups)) := by
  have htakable := hstores.takable h hfree
  refine ⟨hstores.references h.references, hstores.holder h htakable,
    fun _ => hstores.held h htakable, ?_, fun _ htx' _ => hstores.taken h htakable htx', ?_, ?_⟩
  · intro tx' htx' hnone
    obtain ⟨tx, htx, hid, hsame, -⟩ := hstores.statuses tx' htx'
    rw [hid] at hnone
    obtain ⟨hclaim, hfreeTx⟩ := Holding.take_eq_none.mp hnone
    rw [hsame hclaim]
    exact h.free tx htx hfreeTx
  · intro groupID hevent
    rw [hstores.outbox] at hevent
    rcases List.mem_append.mp hevent with hold | hnew
    · obtain ⟨group, hgroup, hfacts⟩ := h.revocations groupID hold
      exact ⟨group, hstores.mem_groups.mpr (Or.inl hgroup), hfacts⟩
    · exact absurd hnew (List.count_eq_zero.mp
        (confirmedEvents_count_matchUnmatched groups groupID))
  · intro groupID
    rw [hstores.outbox, List.count_append, confirmedEvents_count_matchUnmatched]
    exact h.announcedOnce groupID

end

end Stores

/-! ## Withdrawing a group -/

structure Withdraws (db db' : Db) (row updated : MatchGroup) : Prop where
  stored : row ∈ db.groups.rows
  live : row.Live
  id : updated.id = row.id
  withdrawn : ¬ updated.Live
  rows : db'.groups.rows = db.groups.rows.map (updateGroupRow updated)
  items : db'.items = db.items
  statuses : ∀ tx' ∈ db'.transactions.rows, ∃ tx ∈ db.transactions.rows,
    tx'.id = tx.id ∧ tx'.status =
      if db.HasItem row.id tx.id then .unmatched else tx.status
  outbox : db'.outbox = db.outbox ++
    if updated.status = .revoked then [.matchUnmatched row.id] else []

theorem updateGroupRow_of_ne {row : MatchGroup} (h : row.id ≠ group.id) :
    updateGroupRow group row = row :=
  if_neg h

theorem updateGroupRow_status_of_eq {row : MatchGroup} (h : row.id = group.id) :
    (updateGroupRow group row).status = group.status := by
  unfold updateGroupRow
  rw [if_pos h]

section Withdraws

variable {db db' : Db} {row updated : MatchGroup} {holding : Holding UUID UUID} {other : MatchGroup}

section

variable (h : Withdraws db db' row updated)

include h

theorem Withdraws.kept (hother : other ∈ db.groups.rows) (hne : other.id ≠ row.id) :
    other ∈ db'.groups.rows := by
  rw [h.rows]
  refine List.mem_map.mpr ⟨other, hother, updateGroupRow_of_ne ?_⟩
  rw [h.id]
  exact hne

theorem Withdraws.mem_groups (hother : other ∈ db'.groups.rows) :
    other.id = row.id ∧ other.status = updated.status ∨
      other ∈ db.groups.rows ∧ other.id ≠ row.id := by
  rw [h.rows] at hother
  obtain ⟨old, hold, rfl⟩ := List.mem_map.mp hother
  by_cases hid : old.id = updated.id
  · refine Or.inl ⟨?_, updateGroupRow_status_of_eq hid⟩
    rw [updateGroupRow_id, hid, h.id]
  · rw [updateGroupRow_of_ne hid]
    exact Or.inr ⟨hold, h.id ▸ hid⟩

theorem Withdraws.survivor (hother : other ∈ db'.groups.rows) (hlive : other.Live) :
    other ∈ db.groups.rows ∧ other.id ≠ row.id := by
  rcases h.mem_groups hother with ⟨-, hstatus⟩ | hold
  · unfold MatchGroup.Live at hlive
    rw [hstatus] at hlive
    exact absurd hlive h.withdrawn
  · exact hold

theorem Withdraws.hasItem_iff {groupID id : UUID} :
    db'.HasItem groupID id ↔ db.HasItem groupID id := by
  unfold Db.HasItem
  rw [h.items]

theorem Withdraws.not_announced (hrepresents : Represents db holding) :
    OutboxEvent.matchUnmatched row.id ∉ db.outbox := by
  intro hevent
  obtain ⟨other, hother, hid, hrevoked⟩ := hrepresents.revocations row.id hevent
  have hlive := h.live
  rw [← db.groups.eq_of_key hother h.stored hid, MatchGroup.Live, hrevoked] at hlive
  rcases hlive with hproposed | hconfirmed
  · cases hproposed
  · cases hconfirmed

end

section

variable (h : Represents db holding)

include h

theorem Withdraws.references (hwithdraws : Withdraws db db' row updated) :
    ∀ item ∈ db'.items, ∃ group ∈ db'.groups.rows, group.id = item.matchGroupID := by
  intro item hitem
  rw [hwithdraws.items] at hitem
  obtain ⟨group, hgroup, hid⟩ := h.references item hitem
  refine ⟨updateGroupRow updated group, ?_, ?_⟩
  · rw [hwithdraws.rows]
    exact List.mem_map_of_mem hgroup
  · rw [updateGroupRow_id, hid]

theorem Withdraws.status_eq (hwithdraws : Withdraws db db' row updated)
    {tx' : Transaction} (htx' : tx' ∈ db'.transactions.rows) :
    ∃ tx ∈ db.transactions.rows, tx'.id = tx.id ∧
      (holding tx.id = some row.id → tx'.status = .unmatched) ∧
      (holding tx.id ≠ some row.id → tx'.status = tx.status) := by
  obtain ⟨tx, htx, hid, hstatus⟩ := hwithdraws.statuses tx' htx'
  have hitems := h.held row hwithdraws.stored hwithdraws.live tx.id
  refine ⟨tx, htx, hid, ?_, ?_⟩
  · intro hheld
    rw [hstatus, if_pos (hitems.mp hheld)]
  · intro hheld
    rw [hstatus, if_neg fun hitem => hheld (hitems.mpr hitem)]

theorem Withdraws.revocations (hwithdraws : Withdraws db db' row updated) {groupID : UUID}
    (hevent : .matchUnmatched groupID ∈ db'.outbox) :
    ∃ group ∈ db'.groups.rows, group.id = groupID ∧ group.status = .revoked := by
  rw [hwithdraws.outbox] at hevent
  rcases List.mem_append.mp hevent with hold | hnew
  · -- an announced group was revoked before, so it is another one
    obtain ⟨group, hgroup, rfl, hrevoked⟩ := h.revocations groupID hold
    refine ⟨group, hwithdraws.kept hgroup ?_, rfl, hrevoked⟩
    intro hsame
    rw [hsame] at hold
    exact hwithdraws.not_announced h hold
  · split at hnew
    case isTrue hrevoked =>
      cases List.mem_singleton.mp hnew
      refine ⟨updateGroupRow updated row, ?_, updateGroupRow_id _ _, ?_⟩
      · rw [hwithdraws.rows]
        exact List.mem_map_of_mem hwithdraws.stored
      · rw [updateGroupRow_status_of_eq hwithdraws.id.symm, hrevoked]
    case isFalse => cases hnew

theorem Withdraws.announcedOnce (hwithdraws : Withdraws db db' row updated) (groupID : UUID) :
    db'.outbox.count (.matchUnmatched groupID) ≤ 1 := by
  have hbefore := h.announcedOnce groupID
  have hnone : groupID = row.id → db.outbox.count (.matchUnmatched groupID) = 0 := by
    intro hsame
    rw [hsame]
    exact List.count_eq_zero.mpr (hwithdraws.not_announced h)
  rw [hwithdraws.outbox, List.count_append]
  split
  · rw [List.count_singleton]
    by_cases hsame : groupID = row.id
    · rw [hnone hsame]
      simp [hsame]
    · simp [Ne.symm hsame, hbefore]
  · simpa using hbefore

theorem Represents.release (hwithdraws : Withdraws db db' row updated) :
    Represents db' (holding.release row.id) := by
  refine ⟨hwithdraws.references h, ?_, ?_, ?_, ?_,
    fun _ => hwithdraws.revocations h, hwithdraws.announcedOnce h⟩
  · intro id groupID hheld
    obtain ⟨hold, hne⟩ := Holding.release_eq_some.mp hheld
    obtain ⟨group, hgroup, rfl, hlive⟩ := h.holder id groupID hold
    exact ⟨group, hwithdraws.kept hgroup hne, rfl, hlive⟩
  · intro group hgroup hlive id
    obtain ⟨hold, hne⟩ := hwithdraws.survivor hgroup hlive
    rw [Holding.release_eq_some, hwithdraws.hasItem_iff, h.held group hold hlive id]
    exact and_iff_left hne
  · intro tx' htx' hnone
    obtain ⟨tx, htx, hid, hreleased, hkept⟩ := hwithdraws.status_eq h htx'
    rw [hid] at hnone
    rcases Holding.release_eq_none.mp hnone with hfree | hheld
    · rw [hkept (hfree ▸ (Option.some_ne_none row.id).symm)]
      exact h.free tx htx hfree
    · exact Or.inl (hreleased hheld)
  · intro tx' htx' group hgroup hheld
    obtain ⟨tx, htx, hid, -, hkept⟩ := hwithdraws.status_eq h htx'
    rw [hid] at hheld
    obtain ⟨hold, hne⟩ := Holding.release_eq_some.mp hheld
    rcases hwithdraws.mem_groups hgroup with ⟨hsame, -⟩ | ⟨hgroup, -⟩
    · exact absurd hsame hne
    · rw [hkept fun hsome => hne (Option.some.inj (hold.symm.trans hsome))]
      exact h.taken tx htx group hgroup hold

end

end Withdraws

/-! ## Ignoring a transaction -/

theorem Represents.ignore {db : Db} {holding : Holding UUID UUID} (h : Represents db holding)
    {id : UUID} (hfree : holding id = none) : Represents (db.markStatus [id] .ignored) holding := by
  refine ⟨h.references, h.holder, h.held, ?_, ?_, h.revocations, h.announcedOnce⟩
  · intro tx' htx' hnone
    obtain ⟨tx, htx, hid, hstatus⟩ := Db.mem_markStatus htx'
    rw [hstatus]
    split
    · exact Or.inr rfl
    · exact h.free tx htx (hid ▸ hnone)
  · intro tx' htx' group hgroup hheld
    obtain ⟨tx, htx, hid, hstatus⟩ := Db.mem_markStatus htx'
    rw [hid] at hheld
    rw [hstatus, if_neg]
    · exact h.taken tx htx group hgroup hheld
    · intro hmem
      rw [List.mem_singleton.mp hmem, hfree] at hheld
      cases hheld

end Matcher.Command
