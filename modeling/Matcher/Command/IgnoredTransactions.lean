import Matcher.Command.Interleaving

/-!
# Ignored transactions

IgnoreTransaction reads the status of its transaction and updates it later, without
asking for the status again.  A group that takes the transaction in between keeps
an item whose transaction is ignored.  Nothing else can bring this about.
-/

namespace Matcher.Command

open Foundation

def Db.Grouped (db : Db) (id : UUID) : Prop :=
  ∃ group ∈ db.groups.rows, group.Live ∧ db.HasItem group.id id

instance (db : Db) (id : UUID) : Decidable (db.Grouped id) :=
  inferInstanceAs (Decidable (∃ group ∈ db.groups.rows, _))

def IgnoredUngrouped (db : Db) : Prop :=
  ∀ tx ∈ db.transactions.rows, tx.status = .ignored → ¬ db.Grouped tx.id

/-- Every item is one of a stored group, as the foreign key requires. -/
def Db.ItemsStored (db : Db) : Prop :=
  ∀ item ∈ db.items, ∃ group ∈ db.groups.rows, group.id = item.matchGroupID

/-! ## What each write does to it -/

section Writes

variable {db db' : Db} {groups : List MatchGroup} {environment : UnmatchEnvironment}
  {group : MatchGroup}

theorem Represents.ignoredUngrouped {holding : Holding UUID UUID} (h : Represents db holding) :
    IgnoredUngrouped db := by
  rintro tx htx hignored ⟨group, hgroup, hlive, hitem⟩
  have hheld := (h.held group hgroup hlive tx.id).mpr hitem
  exact h.not_free_of_held htx hheld (Or.inr hignored)

theorem Stores.grouped_of_not_claimed (h : Stores db db' groups) (hitems : db.ItemsStored)
    {id : UUID} (hclaim : claimsOfGroups groups id = none) (hgrouped : db'.Grouped id) :
    db.Grouped id := by
  obtain ⟨row, hrow, hlive, hitem⟩ := hgrouped
  rcases h.hasItem_iff.mp hitem with hold | hclaimed
  · rcases h.mem_groups.mp hrow with hrow | ⟨group, hgroup, rfl⟩
    · exact ⟨row, hrow, hlive, hold⟩
    · -- the item would refer to a group that was not stored yet
      obtain ⟨item, hitem, hgroupID, -⟩ := hold
      obtain ⟨old, hold, hid⟩ := hitems item hitem
      exact absurd (hid.trans hgroupID) (h.fresh group hgroup old hold)
  · rw [hclaim] at hclaimed
    cases hclaimed

theorem Stores.ignoredUngrouped (h : Stores db db' groups) (hitems : db.ItemsStored)
    (hungrouped : IgnoredUngrouped db) : IgnoredUngrouped db' := by
  intro tx' htx' hignored hgrouped
  obtain ⟨tx, htx, hid, hkept, hheld⟩ := h.statuses tx' htx'
  rw [hid] at hgrouped
  cases hclaim : claimsOfGroups groups tx.id with
  | none =>
    rw [hkept hclaim] at hignored
    exact hungrouped tx htx hignored (h.grouped_of_not_claimed hitems hclaim hgrouped)
  | some =>
    obtain ⟨group, hgroup, -, hmem⟩ := h.claimant hclaim
    exact MatchGroupStatus.not_free_of_held (hheld group hgroup hmem) (Or.inr hignored)

theorem commitUnmatch_ignoredUngrouped (h : commitUnmatch environment group db = .ok db')
    (hungrouped : IgnoredUngrouped db) : IgnoredUngrouped db' := by
  obtain ⟨updated, -, hcases, rfl⟩ := commitUnmatch_eq_ok h
  rintro tx' htx' hignored ⟨row, hrow, hlive, hitem⟩
  obtain ⟨tx, htx, hid, hstatus⟩ := Db.mem_markStatus htx'
  obtain ⟨old, hold, rfl⟩ := List.mem_map.mp hrow
  have hother : old.id ≠ updated.id := by
    intro hsame
    unfold MatchGroup.Live at hlive
    rw [updateGroupRow_status_of_eq hsame] at hlive
    exact hcases.not_live hlive
  rw [updateGroupRow_of_ne hother] at hlive hitem
  rw [hid] at hitem
  rw [hstatus] at hignored
  split at hignored
  · cases hignored
  · exact hungrouped tx htx hignored ⟨old, hold, hlive, hitem⟩

theorem commitUnmatch_itemsStored (h : commitUnmatch environment group db = .ok db')
    (hitems : db.ItemsStored) : db'.ItemsStored := by
  obtain ⟨updated, -, -, rfl⟩ := commitUnmatch_eq_ok h
  intro item hitem
  obtain ⟨group, hgroup, hid⟩ := hitems item hitem
  exact ⟨updateGroupRow updated group, List.mem_map_of_mem hgroup,
    (updateGroupRow_id updated group).trans hid⟩

theorem finishIgnore_db (environment : IgnoreEnvironment) (db : Db) :
    (finishIgnore environment db).2 =
      if environment.faults .updateStatus = none ∧
          ∃ tx ∈ db.transactions.rows, tx.id = environment.input.transactionID
      then db.markStatus [environment.input.transactionID] .ignored
      else db := by
  unfold finishIgnore
  split
  next cause hrefused =>
    rw [if_neg]
    rintro ⟨hfault, tx, htx, hid⟩
    have hfound := Table.find?_eq_some.mpr ⟨htx, hid⟩
    rw [hfault] at hrefused
    simp only [attempt, Db.updateStatus, Db.findTransaction, hfound] at hrefused
    cases hrefused
  next updated db' hupdate =>
    obtain ⟨hfault, hupdate⟩ := attempt_eq_ok.mp (mapError_eq_ok.mp hupdate)
    obtain ⟨tx, hfind, hupdate⟩ := bind_eq_ok.mp hupdate
    cases hupdate
    unfold Db.findTransaction at hfind
    split at hfind
    · cases hfind
    next found hfound =>
    obtain ⟨hrow, hid⟩ := Table.find?_eq_some.mp hfound
    rw [if_pos ⟨hfault, found, hrow, hid⟩]

theorem markIgnored_ignoredUngrouped_iff (hungrouped : IgnoredUngrouped db) (id : UUID) :
    IgnoredUngrouped (db.markStatus [id] .ignored) ↔
      ∀ tx ∈ db.transactions.rows, tx.id = id → ¬ db.Grouped tx.id := by
  constructor
  · intro h tx htx hid hgrouped
    have hmarked : setStatus [id] .ignored tx ∈ (db.markStatus [id] .ignored).transactions.rows :=
      List.mem_map_of_mem htx
    apply h _ hmarked
    · rw [setStatus_status, if_pos (List.mem_singleton.mpr hid)]
    · rw [setStatus_id]
      exact hgrouped
  · intro h tx' htx' hignored hgrouped
    obtain ⟨tx, htx, hid, hstatus⟩ := Db.mem_markStatus htx'
    rw [hid] at hgrouped
    rw [hstatus] at hignored
    split at hignored
    next hmem => exact h tx htx (List.mem_singleton.mp hmem) hgrouped
    next => exact hungrouped tx htx hignored hgrouped

theorem finishIgnore_ignoredUngrouped_iff (environment : IgnoreEnvironment)
    (hungrouped : IgnoredUngrouped db) :
    IgnoredUngrouped (finishIgnore environment db).2 ↔
      (environment.faults .updateStatus = none →
        ∀ tx ∈ db.transactions.rows,
          tx.id = environment.input.transactionID → ¬ db.Grouped tx.id) := by
  rw [finishIgnore_db]
  split
  next hupdates =>
    rw [markIgnored_ignoredUngrouped_iff hungrouped]
    exact ⟨fun h _ => h, fun h => h hupdates.1⟩
  next hrefused =>
    refine ⟨fun _ hfault tx htx hid => ?_, fun _ => hungrouped⟩
    exact absurd ⟨hfault, tx, htx, hid⟩ hrefused

end Writes

/-! ## Interleavings -/

def PendingCall.FindsUngrouped (db : Db) : PendingCall → Prop
  | .ignoreTransaction environment =>
    environment.faults .updateStatus = none →
      ∀ tx ∈ db.transactions.rows, tx.id = environment.input.transactionID → ¬ db.Grouped tx.id
  | _ => True

instance (db : Db) : (call : PendingCall) → Decidable (call.FindsUngrouped db)
  | .ignoreTransaction _ => inferInstanceAs (Decidable (_ → ∀ tx ∈ db.transactions.rows, _))
  | .manualMatch .. | .unmatch .. => isTrue trivial

def IgnoresUngrouped (state : State) : Label → Prop
  | .finishCall index => ∀ call ∈ state.calls[index]?, call.FindsUngrouped state.db
  | _ => True

instance (state : State) : (label : Label) → Decidable (IgnoresUngrouped state label)
  | .finishCall index => inferInstanceAs (Decidable (∀ call ∈ state.calls[index]?, _))
  | .startRunMatch _ | .finishRunMatch | .startManualMatch _ | .startUnmatch _
  | .startIgnoreTransaction _ => isTrue trivial

/-- What holds in every state, and what holds as long as the updates find their
transactions ungrouped. -/
structure IgnoredInvariant (db : Db) : Prop where
  itemsStored : db.ItemsStored
  ignoredUngrouped : IgnoredUngrouped db

section Steps

variable {db db' : Db} {state : State}

theorem IgnoredInvariant.sameBesidesRuns (h : IgnoredInvariant db)
    (hsame : db.SameBesidesRuns db') : IgnoredInvariant db' := by
  obtain ⟨runs, rfl⟩ := hsame
  exact ⟨h.itemsStored, h.ignoredUngrouped⟩

theorem IgnoredInvariant.stores {groups : List MatchGroup} (h : IgnoredInvariant db)
    (hstores : Stores db db' groups) : IgnoredInvariant db' :=
  ⟨hstores.references h.itemsStored, hstores.ignoredUngrouped h.itemsStored h.ignoredUngrouped⟩

theorem IgnoredInvariant.finishRun (h : IgnoredInvariant state.db) :
    IgnoredInvariant state.finishRun.db := by
  unfold State.finishRun
  split
  · exact h
  next pending _ =>
  rcases finishRun_effect pending.candidates pending.run state.db with
    hsame | ⟨groups, hstores, -⟩
  · exact h.sameBesidesRuns hsame
  · exact h.stores hstores

theorem IgnoredInvariant.finish (h : IgnoredInvariant db) (call : PendingCall)
    (hcondition : call.FindsUngrouped db) : IgnoredInvariant (call.finish db) := by
  cases call with
  | manualMatch environment prepared selects =>
    change IgnoredInvariant (finishManualMatch environment prepared db).2
    unfold finishManualMatch
    split
    · exact h
    next group db' hcommit =>
    exact h.stores (commitManualMatch_stores selects hcommit).1
  | unmatch environment group =>
    change IgnoredInvariant (finishUnmatch environment group db).2
    unfold finishUnmatch
    split
    · exact h
    next db' hcommit =>
    exact ⟨commitUnmatch_itemsStored hcommit h.itemsStored,
      commitUnmatch_ignoredUngrouped hcommit h.ignoredUngrouped⟩
  | ignoreTransaction environment =>
    refine ⟨?_, (finishIgnore_ignoredUngrouped_iff environment h.ignoredUngrouped).mpr hcondition⟩
    change (finishIgnore environment db).2.ItemsStored
    rw [finishIgnore_db]
    split <;> exact h.itemsStored

theorem IgnoredInvariant.step (h : IgnoredInvariant state.db) (label : Label)
    (hcondition : IgnoresUngrouped state label) : IgnoredInvariant (state.step label).db := by
  cases label with
  | startRunMatch environment =>
    exact h.sameBesidesRuns (State.startRun_sameBesidesRuns environment)
  | finishRunMatch => exact h.finishRun
  | startManualMatch | startUnmatch | startIgnoreTransaction => exact h
  | finishCall index =>
    change IgnoredInvariant (state.finishCall index).db
    unfold State.finishCall
    split
    · exact h
    next call hcall => exact h.finish call (hcondition call hcall)

theorem ignoresUngrouped_of_step (h : IgnoredUngrouped state.db) (label : Label)
    (hnext : IgnoredUngrouped (state.step label).db) : IgnoresUngrouped state label := by
  cases label with
  | finishCall index =>
    change IgnoredUngrouped (state.finishCall index).db at hnext
    intro call hcall
    unfold State.finishCall at hnext
    rw [Option.mem_def.mp hcall] at hnext
    cases call with
    | manualMatch | unmatch => trivial
    | ignoreTransaction environment =>
      exact (finishIgnore_ignoredUngrouped_iff environment h).mp hnext
  | _ => trivial

end Steps

/--
Over any interleaving of the calls, an ignored transaction is in no live group in
every state reached exactly if each update of IgnoreTransaction that goes through
finds its transaction in no live group.
-/
theorem ignored_ungrouped_iff {start : Db} (hstart : Consistent start) (labels : List Label) :
    (∀ reached, reached <+: labels →
        IgnoredUngrouped (reached.foldl State.step (State.initial start)).db) ↔
      Meets State.step IgnoresUngrouped (State.initial start) labels := by
  obtain ⟨holding, hrepresents⟩ := hstart
  have hfirst : IgnoredInvariant (State.initial start).db :=
    ⟨hrepresents.references, hrepresents.ignoredUngrouped⟩
  exact Meets.iff_always (fun state : State => IgnoredInvariant state.db)
    (fun state => IgnoredUngrouped state.db) hfirst
    (fun _ h => h.ignoredUngrouped) (fun _ label h => h.step label)
    (fun _ label h => ignoresUngrouped_of_step h.ignoredUngrouped label) labels

def pairIgnore : IgnoreEnvironment := ⟨⟨⟨1⟩, "duplicate"⟩, fun _ => none⟩

def pairIgnoreFirst : List Label := [.startIgnoreTransaction pairIgnore, .finishCall 0,
  .startRunMatch (pairRun .commit fun _ => none),
  .finishRunMatch]

theorem ignored_ungrouped_iff_ignore_first :
    (pairIgnoreFirst.foldl State.step (State.initial pairDb)).db.transactions.rows.map (·.status) =
        [.ignored, .unmatched] ∧
      ∀ reached, reached <+: pairIgnoreFirst →
        IgnoredUngrouped (reached.foldl State.step (State.initial pairDb)).db :=
  ⟨by decide +kernel, (ignored_ungrouped_iff
    (Fresh.consistent ⟨by decide, rfl, rfl, rfl⟩) pairIgnoreFirst).mpr (by decide +kernel)⟩

def pairIgnoreLate : List Label := [.startIgnoreTransaction pairIgnore,
  .startRunMatch (pairRun .commit fun _ => none),
  .finishRunMatch,
  .finishCall 0]

theorem ignored_in_confirmed_group :
    Fresh pairDb ∧
      ∃ tx ∈ (pairIgnoreLate.foldl State.step (State.initial pairDb)).db.transactions.rows,
        tx.status = .ignored ∧
          ∃ group ∈ (pairIgnoreLate.foldl State.step (State.initial pairDb)).db.groups.rows,
            group.status = .confirmed ∧
              (pairIgnoreLate.foldl State.step (State.initial pairDb)).db.HasItem group.id tx.id :=
  ⟨⟨by decide, rfl, rfl, rfl⟩, by decide +kernel⟩

end Matcher.Command
