import Matcher.Command.Commits
import Matcher.Foundation.Transition

/-!
# Commands one after another

When every command starts after the previous one has ended, what a command read
is still as it was when the command writes.  The tables then go through the steps
of groups that hold transactions, and the status of every transaction agrees with
the groups that it is an item of.
-/

namespace Matcher.Command

open Foundation

inductive ContextCommand
  | runMatch (environment : RunMatchEnvironment)
  | manualMatch (environment : ManualEnvironment)
  | unmatch (environment : UnmatchEnvironment)
  | ignoreTransaction (environment : IgnoreEnvironment)

def execute (db : Db) : ContextCommand → Db
  | .runMatch environment => (runMatch environment db).2
  | .manualMatch environment => (manualMatch environment db).2
  | .unmatch environment => (unmatch environment db).2
  | .ignoreTransaction environment => (ignoreTransaction environment db).2

section Steps

variable {db : Db} {holding : Holding UUID UUID}

section

variable (h : Represents db holding)

include h

theorem runMatch_follows (environment : RunMatchEnvironment) :
    Follows holding (runMatch environment db).2 := by
  have hsame := beginRun_sameBesidesRuns environment db
  unfold runMatch
  split
  next outcome db' hbegin =>
    rw [hbegin] at hsame
    exact h.follows_idle hsame
  next mrc run db' hbegin =>
    rw [hbegin] at hsame
    obtain ⟨hids, hunmatched⟩ := beginRun_candidates hbegin
    have h' := h.sameBesidesRuns hsame
    apply finishRun_follows hids run h'
    intro id hid
    exact h'.free_of_allUnmatched hunmatched (groupedIDs_subset hids hid)

theorem manualMatch_follows (environment : ManualEnvironment) :
    Follows holding (manualMatch environment db).2 := by
  unfold manualMatch
  split
  · exact h.follows_idle (.refl db)
  next prepared hprepared =>
  obtain ⟨hselects, hunmatched⟩ := prepareManualMatch_eq_ok hprepared
  exact finishManualMatch_follows hselects h fun id hid =>
    h.free_of_allUnmatched hunmatched hid

theorem unmatch_follows (environment : UnmatchEnvironment) :
    Follows holding (unmatch environment db).2 := by
  unfold unmatch
  split
  · exact h.follows_idle (.refl db)
  next group hgroup =>
  obtain ⟨hrow, hid⟩ := prepareUnmatch_eq_ok hgroup
  exact finishUnmatch_follows hid h ⟨group, hrow, rfl, rfl⟩

theorem ignoreTransaction_follows (environment : IgnoreEnvironment) :
    Follows holding (ignoreTransaction environment db).2 := by
  unfold ignoreTransaction
  split
  · exact h.follows_idle (.refl db)
  next tx htx =>
  exact finishIgnore_follows h (h.free_of_allUnmatched
    (prepareIgnore_eq_ok htx) (List.mem_singleton_self _))

theorem execute_follows (command : ContextCommand) : Follows holding (execute db command) := by
  cases command with
  | runMatch environment => exact runMatch_follows h environment
  | manualMatch environment => exact manualMatch_follows h environment
  | unmatch environment => exact unmatch_follows h environment
  | ignoreTransaction environment => exact ignoreTransaction_follows h environment

end

end Steps

theorem execute_refines {start : Db} {holding : Holding UUID UUID}
    (h : Represents start holding) (commands : List ContextCommand) :
    ∃ holding', Relation.ReflTransGen Holding.Step holding holding' ∧
      Represents (commands.foldl execute start) holding' :=
  (Meets.of_forall (fun _ _ => trivial) start commands).simulation h
    fun _ command _ hrepresents _ => execute_follows hrepresents command

/-! ## Statuses and groups -/

/-- The status of a transaction says in which live groups it is. -/
structure StatusesAgree (db : Db) : Prop where
  matched : ∀ tx ∈ db.transactions.rows, tx.status = .matched ↔
    ∃! group, group ∈ db.groups.rows ∧ group.status = .confirmed ∧ db.HasItem group.id tx.id
  pendingReview : ∀ tx ∈ db.transactions.rows, tx.status = .pendingReview ↔
    ∃! group, group ∈ db.groups.rows ∧ group.status = .proposed ∧ db.HasItem group.id tx.id
  free : ∀ tx ∈ db.transactions.rows,
    tx.status = .unmatched ∨ tx.status = .ignored →
      ∀ group ∈ db.groups.rows, group.Live → ¬ db.HasItem group.id tx.id

section Statuses

variable {db : Db} {holding : Holding UUID UUID}

theorem Represents.status_iff (h : Represents db holding) {tx : Transaction}
    (htx : tx ∈ db.transactions.rows) {groupStatus : MatchGroupStatus} {status : TransactionStatus}
    (hheld : ∀ other : MatchGroupStatus, other.heldStatus = some status ↔ other = groupStatus) :
    tx.status = status ↔
      ∃! group, group ∈ db.groups.rows ∧ group.status = groupStatus ∧
        db.HasItem group.id tx.id := by
  have hlive : ∀ group : MatchGroup, group.status = groupStatus → group.Live := fun group hstatus =>
    MatchGroup.live_of_heldStatus ((hheld group.status).mpr hstatus)
  constructor
  · intro hstatus
    cases hholder : holding tx.id with
    | none =>
      have hnotFree := MatchGroupStatus.not_free_of_held ((hheld groupStatus).mpr rfl)
      rw [← hstatus] at hnotFree
      exact absurd (h.free tx htx hholder) hnotFree
    | some groupID =>
      obtain ⟨group, hgroup, rfl, hgroupLive⟩ := h.holder tx.id groupID hholder
      have hitem := (h.held group hgroup hgroupLive tx.id).mp hholder
      have htaken := h.taken tx htx group hgroup hholder
      rw [hstatus] at htaken
      refine ⟨group, ⟨hgroup, (hheld group.status).mp htaken, hitem⟩, ?_⟩
      rintro other ⟨hother, hotherStatus, hotherItem⟩
      exact h.live_unique hother hgroup (hlive other hotherStatus) hgroupLive hotherItem hitem
  · rintro ⟨group, ⟨hgroup, hstatus, hitem⟩, -⟩
    have hholder := (h.held group hgroup (hlive group hstatus) tx.id).mpr hitem
    have htaken := h.taken tx htx group hgroup hholder
    rw [(hheld group.status).mpr hstatus] at htaken
    exact (Option.some.inj htaken).symm

theorem Represents.statusesAgree (h : Represents db holding) : StatusesAgree db := by
  refine ⟨fun tx htx => h.status_iff htx ?_, fun tx htx => h.status_iff htx ?_,
    fun tx htx hfree group hgroup hlive hitem =>
      h.not_free_of_held htx ((h.held group hgroup hlive tx.id).mpr hitem) hfree⟩
  all_goals
    intro other
    cases other <;> simp [MatchGroupStatus.heldStatus]

end Statuses

/--
After any sequence of commands over freshly ingested transactions, every status
agrees with the live groups of its transaction.
-/
theorem sequential_statuses_agree {start : Db} (hfresh : Fresh start)
    (commands : List ContextCommand) : StatusesAgree (commands.foldl execute start) := by
  obtain ⟨holding, -, hrepresents⟩ := execute_refines hfresh.represents commands
  exact hrepresents.statusesAgree

def pairManualMatch (runID groupID : UUID) : ManualEnvironment where
  input := ⟨⟨7⟩, [⟨1⟩, ⟨2⟩]⟩
  context := pairConfiguration.context
  runID := runID
  groupID := groupID
  faults := fun _ => none

def pairUnmatch (groupID : UUID) : UnmatchEnvironment where
  input := ⟨⟨7⟩, groupID, "wrong pair"⟩
  faults := fun _ => none

def pairCommands : List ContextCommand := [.runMatch (pairRun .commit fun _ => none),
  .unmatch (pairUnmatch ⟨100⟩),
  .manualMatch (pairManualMatch ⟨61⟩ ⟨101⟩),
  .ignoreTransaction ⟨⟨⟨1⟩, "duplicate"⟩, fun _ => none⟩]

theorem sequential_statuses_agree_pair :
    (pairCommands.foldl execute pairDb).transactions.rows.map (·.status) = [.matched, .matched] ∧
      (pairCommands.foldl execute pairDb).groups.rows.map (·.status) = [.revoked, .confirmed] ∧
        StatusesAgree (pairCommands.foldl execute pairDb) :=
  ⟨by decide +kernel, by decide +kernel,
    sequential_statuses_agree ⟨by decide, rfl, rfl, rfl⟩ pairCommands⟩

end Matcher.Command
