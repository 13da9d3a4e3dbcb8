import Matcher.Foundation.Transition
import Matcher.Governance.ArchivalWorker

/-!
# Safety of the archival worker

Metadata that is past its verification, in the memory of a call or in any version
of the row, has a reference against which the verification has succeeded.  The
table is dropped by the commit that completes the metadata, so it is dropped only
then, and completed metadata has no table.
-/

namespace Matcher.Governance.Archival

open Foundation
open Command (Fault attempt attempt_eq_ok)
open Matching (Instant)

variable {outcome : WriteOutcome} {after : State} {now : Instant} {source target : ArchiveStatus}
  {operation : String} {phase : Phase} {tx : Tx} {err fault : Fault} {rowCount : ℤ}

/-! ## Metadata that a call may hold -/

def ArchiveStatus.rank : ArchiveStatus → ℕ
  | .pending => 0
  | .exporting => 1
  | .exported => 2
  | .uploading => 3
  | .uploaded => 4
  | .verifying => 5
  | .verified => 6
  | .detaching => 7
  | .complete => 8

def Checked (events : List Event) (reference : Reference) : Prop :=
  ∃ stored, Event.verified reference stored ∈ events

structure Good (partition : PartitionInfo) (events : List Event) (table : Table)
    (metadata : ArchiveMetadata) : Prop where
  name : metadata.partitionName = partition.name
  exported : 4 ≤ metadata.status.rank → IsPartitionName partition.name
  checked : 6 ≤ metadata.status.rank → Checked events metadata.reference
  complete : metadata.status = .complete → table = .absent

section

variable {partition : PartitionInfo} {events : List Event} {table : Table}
  {metadata next : ArchiveMetadata}

theorem Checked.append {reference : Reference} (h : Checked events reference) (more : List Event) :
    Checked (events ++ more) reference := by
  obtain ⟨stored, hmem⟩ := h
  exact ⟨stored, List.mem_append_left more hmem⟩

theorem Good.append (h : Good partition events table metadata) (more : List Event) :
    Good partition (events ++ more) table metadata :=
  ⟨h.name, h.exported, fun hrank => (h.checked hrank).append more, h.complete⟩

theorem Good.absent (h : Good partition events table metadata) :
    Good partition events .absent metadata :=
  ⟨h.name, h.exported, h.checked, fun _ => rfl⟩

theorem Good.of_rank (hname : metadata.partitionName = partition.name)
    (hrank : metadata.status.rank < 4) : Good partition events table metadata where
  name := hname
  exported h := by omega
  checked h := by omega
  complete h := by
    rw [h] at hrank
    exact absurd hrank (by decide)

theorem Good.markError (h : Good partition events table metadata) (message : String)
    (now : Instant) : Good partition events table (metadata.markError message now) :=
  ⟨h.name, h.exported, h.checked, h.complete⟩

theorem leaving_eq_ok :
    metadata.leaving source target now = .ok next ↔
      metadata.status = source ∧
        next = { metadata with status := target, updatedAt := now } := by
  rw [ArchiveMetadata.leaving, guard_eq_ok, not_not, Except.ok.injEq, eq_comm (b := next)]

theorem Good.leaving (h : Good partition events table metadata)
    (hnext : metadata.leaving source target now = .ok next)
    (hexported : 4 ≤ target.rank → 4 ≤ source.rank)
    (hchecked : 6 ≤ target.rank → 6 ≤ source.rank ∨ Checked events metadata.reference)
    (hcomplete : target ≠ .complete) : Good partition events table next := by
  obtain ⟨rfl, rfl⟩ := leaving_eq_ok.mp hnext
  refine ⟨h.name, fun hrank => h.exported (hexported hrank), ?_,
    fun htarget => absurd htarget hcomplete⟩
  intro hrank
  rcases hchecked hrank with hsource | hdone
  · exact h.checked hsource
  · exact hdone

theorem Good.updated {row : ArchiveMetadata} (hrow : Good partition events table row)
    (h : Good partition events table metadata) :
    Good partition events table (State.updated row metadata) :=
  ⟨hrow.name, h.exported, h.checked, h.complete⟩

theorem Good.markComplete (h : Good partition events table metadata)
    (hnext : metadata.markComplete now = .ok next) :
    Good partition events .absent next ∧ next.status = .complete := by
  unfold ArchiveMetadata.markComplete at hnext
  obtain ⟨left, hleft, hnext⟩ := bind_eq_ok.mp hnext
  obtain ⟨hstatus, rfl⟩ := leaving_eq_ok.mp hleft
  cases hnext
  refine ⟨⟨h.name, fun _ => h.exported ?_, fun _ => h.checked ?_, fun _ => rfl⟩, rfl⟩
  · rw [hstatus]
    decide
  · rw [hstatus]
    decide

theorem Good.markExported (h : Good partition events table metadata)
    (hnext : metadata.markExported rowCount now = .ok next) : Good partition events table next := by
  unfold ArchiveMetadata.markExported at hnext
  obtain ⟨left, hleft, hnext⟩ := bind_eq_ok.mp hnext
  obtain ⟨-, rfl⟩ := leaving_eq_ok.mp hleft
  have hrank : ArchiveStatus.exported.rank < 4 := by decide
  obtain ⟨-, hnext⟩ := guard_eq_ok.mp hnext
  cases hnext
  exact .of_rank h.name hrank

theorem Good.markUploaded {archiveKey checksum storageClass : String} {compressedSize : ℤ}
    (h : Good partition events table metadata) (hname : IsPartitionName partition.name)
    (hnext : metadata.markUploaded archiveKey checksum compressedSize storageClass now = .ok next) :
    Good partition events table next := by
  unfold ArchiveMetadata.markUploaded at hnext
  obtain ⟨left, hleft, hnext⟩ := bind_eq_ok.mp hnext
  obtain ⟨-, rfl⟩ := leaving_eq_ok.mp hleft
  have hlow : ¬ 6 ≤ ArchiveStatus.uploaded.rank := by decide
  simp only [guard_eq_ok] at hnext
  obtain ⟨-, -, -, -, hnext⟩ := hnext
  cases hnext
  refine ⟨h.name, fun _ => hname, fun hrank => absurd hrank hlow, ?_⟩
  intro hcomplete
  cases hcomplete

end

/-! ## States of the worker -/

/-- What the rows and the history have in every state.  The last part is about
runs in which every call reads the current row. -/
structure Kept (partition : PartitionInfo) (fresh : Prop) (state : State) : Prop where
  versions : ∀ version ∈ state.versions, Good partition state.events state.table version
  drops : ∀ before stored after,
    state.events = before ++ Event.dropped stored :: after → Checked before stored
  checks : ∀ checked stored, Event.verified checked stored ∈ state.events →
    fresh → stored = some checked

def PhaseGood (partition : PartitionInfo) (fresh : Prop) (state : State) : Phase → Prop
  | .idle => True
  | .running metadata =>
    Good partition state.events state.table metadata ∧
      (fresh → state.row.map ArchiveMetadata.reference = some metadata.reference)
  | .streamed metadata _ _ _ =>
    Good partition state.events state.table metadata ∧ IsPartitionName partition.name
  | .checked metadata =>
    Good partition state.events state.table metadata ∧ Checked state.events metadata.reference
  | .detaching metadata _ | .dropping metadata _ =>
    Good partition state.events state.table metadata ∧ metadata.status = .detaching
  | .completing metadata tx =>
    Good partition state.events state.table metadata ∧
      metadata.status = .detaching ∧
      (tx.aborted = true ∨ tx.table = .absent)
  | .emitting metadata row tx | .committing metadata row tx =>
    Good partition state.events state.table metadata ∧
      Good partition state.events .absent row ∧ row.status = .complete ∧
      tx.table = .absent
  | .failing metadata _ _ => Good partition state.events state.table metadata

structure Sound (partition : PartitionInfo) (fresh : Prop) (state : State) : Prop
    extends Kept partition fresh state where
  phase : PhaseGood partition fresh state state.phase

section

variable {partition : PartitionInfo} {fresh : Prop} {state : State}
  {metadata row : ArchiveMetadata}

theorem Kept.goto (h : Kept partition fresh state)
    (hphase : PhaseGood partition fresh state phase) :
    Sound partition fresh (state.goto phase) := by
  refine ⟨⟨h.versions, h.drops, h.checks⟩, ?_⟩
  cases phase <;> exact hphase

theorem Kept.store (h : Kept partition fresh state)
    (hrow : Good partition state.events state.table row) : Kept partition fresh (state.store row) :=
  ⟨List.forall_mem_cons.mpr ⟨hrow, h.versions⟩, h.drops, h.checks⟩

/-! ## The row -/

theorem executeUpdate_eq_ok (h : state.executeUpdate metadata = .ok row) :
    ∃ old ∈ state.versions, row = State.updated old metadata := by
  unfold State.executeUpdate at h
  split at h
  · cases h
  next old hold =>
    split at h
    · cases h
      exact ⟨old, List.mem_of_mem_head? hold, rfl⟩
    · cases h

theorem reference_of_update (hrow : state.executeUpdate metadata = .ok row) :
    row.reference = metadata.reference := by
  obtain ⟨old, -, rfl⟩ := executeUpdate_eq_ok hrow
  rfl

theorem update_cases (h : state.update metadata outcome = (after, err)) :
    (after = state ∧ err ≠ none) ∨
      ∃ row, state.executeUpdate metadata = .ok row ∧ after = state.store row := by
  unfold State.update at h
  split at h
  · cases h
    exact .inl ⟨rfl, Option.some_ne_none _⟩
  · cases h
    exact .inl ⟨rfl, Option.some_ne_none _⟩
  next row hrow =>
    cases h
    exact .inr ⟨row, hrow, rfl⟩
  next row hrow =>
    cases h
    exact .inr ⟨row, hrow, rfl⟩

namespace Kept

variable (h : Kept partition fresh state)
  (hmetadata : Good partition state.events state.table metadata)

include h hmetadata

theorem good_of_update (hrow : state.executeUpdate metadata = .ok row) :
    Good partition state.events state.table row := by
  obtain ⟨old, hold, rfl⟩ := executeUpdate_eq_ok hrow
  exact (h.versions old hold).updated hmetadata

theorem update_failing {held : ArchiveMetadata} {cause : GoError}
    (hheld : Good partition state.events state.table held)
    (hafter : state.update metadata outcome = (after, err)) :
    Sound partition fresh (after.goto (.failing held operation cause)) := by
  rcases update_cases hafter with ⟨rfl, -⟩ | ⟨row, hrow, rfl⟩
  · exact h.goto hheld
  · exact (h.store (h.good_of_update hmetadata hrow)).goto hheld

theorem update_running (hafter : state.update metadata outcome = (after, none)) :
    Sound partition fresh (after.goto (.running metadata)) := by
  rcases update_cases hafter with ⟨-, hnone⟩ | ⟨row, hrow, rfl⟩
  · exact absurd rfl hnone
  · refine (h.store (h.good_of_update hmetadata hrow)).goto ⟨hmetadata, ?_⟩
    intro _
    exact congrArg some (reference_of_update hrow)

/-! ## The steps of a call -/

theorem transitionTo {transition : Except GoError ArchiveMetadata}
    (htransition : ∀ next, transition = .ok next → Good partition state.events state.table next) :
    Sound partition fresh (state.transitionTo metadata operation transition outcome) := by
  unfold State.transitionTo
  split
  next => exact h.goto hmetadata
  next next =>
    have hnext := htransition next rfl
    split
    next after hafter => exact h.update_running hnext hafter
    next after cause hafter => exact h.update_failing hnext hmetadata hafter

theorem leaving (hexported : 4 ≤ target.rank → 4 ≤ source.rank)
    (hchecked : 6 ≤ target.rank → 6 ≤ source.rank) (hcomplete : target ≠ .complete) :
    Sound partition fresh (state.transitionTo metadata operation
      (metadata.leaving source target now) outcome) :=
  h.transitionTo hmetadata fun _ hnext =>
    hmetadata.leaving hnext hexported (fun hrank => .inl (hchecked hrank)) hcomplete

theorem transitionToExported :
    Sound partition fresh (state.transitionToExported metadata rowCount now outcome) := by
  unfold State.transitionToExported
  split
  next => exact h.goto hmetadata
  next next hmark =>
    have hnext := hmetadata.markExported hmark
    split
    next after hafter => exact h.update_running hnext hafter
    next after cause hafter => exact h.update_failing hnext hnext hafter

end Kept

section

variable (h : Sound partition fresh state)

include h

theorem Sound.of_phase (hphase : state.phase = phase) : PhaseGood partition fresh state phase := by
  rw [← hphase]
  exact h.phase

theorem Sound.advance (now : Instant) (outcome : WriteOutcome) :
    Sound partition fresh (state.advance now outcome) := by
  unfold State.advance
  split
  next metadata hphase =>
    obtain ⟨hgood, -⟩ := h.of_phase hphase
    split
    · exact h.toKept.leaving hgood (by decide) (by decide) (by decide)
    · exact h.toKept.transitionToExported hgood
    · exact h.toKept.leaving hgood (by decide) (by decide) (by decide)
    · exact h.toKept.leaving hgood (by decide) (by decide) (by decide)
    · exact h.toKept.leaving hgood (by decide) (by decide) (by decide)
    · exact h.toKept.goto trivial
    all_goals exact h
  next metadata hphase =>
    obtain ⟨hgood, hchecked⟩ := h.of_phase hphase
    exact h.toKept.transitionTo hgood fun next hnext =>
      hgood.leaving hnext (by decide) (fun _ => .inr hchecked) (by decide)
  next => exact h

theorem Sound.create (worker : ArchivalWorker)
    (id tenantID : UUID) (now : Instant) (outcome : WriteOutcome) :
    Sound partition fresh (state.create worker partition id tenantID now outcome) := by
  unfold State.create
  split
  next hphase =>
    split
    · exact h
    next metadata hnew =>
      have hgood : Good partition state.events state.table metadata := by
        have hrank : ArchiveStatus.pending.rank < 4 := by decide
        simp only [newArchiveMetadata, guard_eq_ok] at hnew
        obtain ⟨-, -, -, -, -, hnew⟩ := hnew
        cases hnew
        exact .of_rank rfl hrank
      split
      · exact h
      · split
        · exact h
        · exact (h.toKept.store hgood).goto ⟨hgood, fun _ => rfl⟩
        · have hidle : (state.store metadata).phase = .idle := hphase
          rw [show state.store metadata = (state.store metadata).goto .idle by rw [← hidle]; rfl]
          exact (h.toKept.store hgood).goto trivial
  next => exact h

theorem Sound.load {lag : ℕ} (hlag : fresh → lag = 0) : Sound partition fresh (state.load lag) := by
  unfold State.load
  split
  next metadata rest hphase hdrop =>
    have hmem : metadata ∈ state.versions := by
      apply List.mem_of_mem_drop
      rw [hdrop]
      exact List.mem_cons_self
    refine h.toKept.goto ⟨h.versions metadata hmem, ?_⟩
    intro hfresh
    rw [hlag hfresh, List.drop_zero] at hdrop
    rw [State.row, hdrop]
    rfl
  next => exact h

theorem Sound.stream (worker : ArchivalWorker) (faults : StreamFaults) (rows : List CursorRow) :
    Sound partition fresh (state.stream worker faults rows) := by
  unfold State.stream
  split
  next metadata hphase =>
    obtain ⟨hgood, -⟩ := h.of_phase hphase
    split
    next hstatus =>
      split
      · exact h.toKept.goto hgood
      · split
        · exact h.toKept.goto hgood
        next streamed hstreamed =>
          unfold streamPartitionUpload at hstreamed
          obtain ⟨-, -, hpipe⟩ := bind_eq_ok.mp hstreamed
          obtain ⟨hname, -⟩ := streamPartitionViaPipe_eq_ok hpipe
          rw [hgood.name] at hname
          refine h.toKept.goto ⟨.of_rank hgood.name ?_, hname⟩
          show metadata.status.rank < 4
          rw [hstatus]
          decide
    next => exact h
  next => exact h

theorem Sound.upload (worker : ArchivalWorker) (now : Instant) (faults : TxFaults) :
    Sound partition fresh (state.upload worker now faults) := by
  unfold State.upload
  split
  next metadata archiveKey checksum compressedSize hphase =>
    obtain ⟨hgood, hname⟩ := h.of_phase hphase
    unfold State.transitionToUploaded
    split
    · exact h.toKept.goto hgood
    next next hmark =>
      have hnext := hgood.markUploaded hname hmark
      split
      · exact h.toKept.goto hgood
      next row hwrite =>
        have hrow : state.executeUpdate next = .ok row := by
          unfold State.writeUploaded at hwrite
          split at hwrite
          · cases hwrite
          · simp only [bind_eq_ok, wrapError_eq_ok, mapError_eq_ok, attempt_eq_ok] at hwrite
            obtain ⟨-, -, written, hwritten, -, -, hsame⟩ := hwrite
            cases hsame
            exact hwritten.2
        have hstored := h.toKept.store (h.toKept.good_of_update hnext hrow)
        split
        · refine hstored.goto ⟨hnext, fun _ => ?_⟩
          exact congrArg some (reference_of_update hrow)
        · exact h.toKept.goto hgood
        · exact hstored.goto hgood
  next => exact h

end

theorem snoc_eq_append_cons {α : Type} {events before after : List α}
    {last event : α} (h : events ++ [last] = before ++ event :: after) :
    (events = before ∧ last = event ∧ after = []) ∨
      ∃ rest, events = before ++ event :: rest ∧ after = rest ++ [last] := by
  rcases List.eq_nil_or_concat after with rfl | ⟨rest, other, rfl⟩
  · obtain ⟨hevents, hlast⟩ := List.append_inj' h rfl
    exact .inl ⟨hevents, (List.cons.inj hlast).1, rfl⟩
  · rw [List.concat_eq_append, ← List.cons_append, ← List.append_assoc] at h
    obtain ⟨hevents, hlast⟩ := List.append_inj' h rfl
    cases hlast
    exact .inr ⟨rest, hevents, List.concat_eq_append⟩

theorem Sound.verify (h : Sound partition fresh state) (worker : ArchivalWorker)
    (download : Except GoError Bytes) : Sound partition fresh (state.verify worker download) := by
  unfold State.verify
  split
  next metadata hphase =>
    obtain ⟨hgood, hcurrent⟩ := h.of_phase hphase
    split
    next hstatus =>
      split
      · exact h.toKept.goto hgood
      · refine ⟨⟨?_, ?_, ?_⟩, hgood.append _, state.row.map ArchiveMetadata.reference, ?_⟩
        · exact fun version hversion => (h.versions version hversion).append _
        · intro before stored after hevents
          rcases snoc_eq_append_cons hevents with
            ⟨-, hlast, -⟩ | ⟨rest, hrest, -⟩
          · cases hlast
          · exact h.drops before stored rest hrest
        · intro checked stored hmem hfresh
          rcases List.mem_append.mp hmem with hmem | hmem
          · exact h.checks checked stored hmem hfresh
          · cases List.mem_singleton.mp hmem
            exact hcurrent hfresh
        · exact List.mem_append_right _ (List.mem_singleton_self _)
    next => exact h
  next => exact h

/-! ## The last transaction -/

theorem Sound.begin (h : Sound partition fresh state) (worker : ArchivalWorker) (fault : Fault) :
    Sound partition fresh (state.begin worker fault) := by
  unfold State.begin
  split
  next metadata hphase =>
    obtain ⟨hgood, -⟩ := h.of_phase hphase
    split
    next hstatus =>
      split
      · exact h.toKept.goto hgood
      · split
        · exact h.toKept.goto hgood
        · exact h.toKept.goto ⟨hgood, hstatus⟩
    next => exact h
  next => exact h

theorem Kept.passOver {format : String}
    (h : Kept partition fresh state) (hmetadata : Good partition state.events state.table metadata)
    (hphase : (∀ cause ∈ err, IsPartitionAlreadyDetachedOrAbsent cause) →
      PhaseGood partition fresh state phase) :
    Sound partition fresh (state.passOver metadata format err phase) := by
  unfold State.passOver
  split
  · exact h.goto (hphase (by simp))
  next cause =>
    split
    next hpassed => exact h.goto (hphase (by simpa using hpassed))
    next => exact h.goto hmetadata

theorem exec_absent {next : Tx} (hexec : tx.exec fault .ok = (next, none))
    (htx : tx.aborted = true ∨ tx.table = .absent) : next.table = .absent := by
  rcases Tx.exec_eq hexec with ⟨-, hopen, hsame⟩ | ⟨⟨cause, hcause⟩, -⟩
  · rcases htx with haborted | habsent
    · rw [hopen] at haborted
      cases haborted
    · rw [← Except.ok.inj hsame]
      exact habsent
  · cases hcause

theorem Kept.complete (h : Kept partition fresh state)
    (hmetadata : Good partition state.events state.table metadata)
    (htx : tx.aborted = true ∨ tx.table = .absent) :
    Sound partition fresh (state.complete metadata tx now fault) := by
  unfold State.complete
  split
  · exact h.goto hmetadata
  next next hmark =>
    split
    · exact h.goto hmetadata
    next tx' hexec =>
      split
      · exact h.goto hmetadata
      next row hrow =>
        obtain ⟨old, hold, rfl⟩ := executeUpdate_eq_ok hrow
        obtain ⟨hnext, hstatus⟩ := hmetadata.markComplete hmark
        exact h.goto ⟨hmetadata, (h.versions old hold).absent.updated hnext,
          hstatus, exec_absent hexec htx⟩

theorem Sound.statement (h : Sound partition fresh state) (now : Instant) (fault : Fault) :
    Sound partition fresh (state.statement now fault) := by
  unfold State.statement
  split
  next metadata tx hphase =>
    obtain ⟨hgood, hstatus⟩ := h.of_phase hphase
    exact h.toKept.passOver hgood fun _ => ⟨hgood, hstatus⟩
  next metadata tx hphase =>
    obtain ⟨hgood, hstatus⟩ := h.of_phase hphase
    refine h.toKept.passOver hgood fun hpassed => ⟨hgood, hstatus, ?_⟩
    have hname : IsPartitionName metadata.partitionName := by
      rw [hgood.name]
      apply hgood.exported
      rw [hstatus]
      decide
    rcases partitionStatement_eq hname rfl hpassed with haborted | htable
    · exact .inl haborted
    · exact .inr (Except.ok.inj htable).symm
  next metadata tx hphase =>
    obtain ⟨hgood, -, htx⟩ := h.of_phase hphase
    exact h.toKept.complete hgood htx
  next metadata row tx hphase =>
    obtain ⟨hgood, hrow, hstatus, habsent⟩ := h.of_phase hphase
    unfold State.emit
    split
    · exact h.toKept.goto hgood
    next tx' hexec => exact h.toKept.goto ⟨hgood, hrow, hstatus, exec_absent hexec (.inr habsent)⟩
  next => exact h

theorem apply_events (state : State) (row : ArchiveMetadata) (tx : Tx) :
    (state.apply row tx).events = state.events ∨
      (state.apply row tx).events = state.events ++ [.dropped row.reference] := by
  simp only [State.apply]
  split
  · exact .inr rfl
  · exact .inl rfl

theorem apply_good (htx : tx.table = .absent) (h : Good partition state.events .absent metadata) :
    Good partition (state.apply row tx).events (state.apply row tx).table
      metadata := by
  have htable : (state.apply row tx).table = .absent := htx
  rw [htable]
  rcases apply_events state row tx with hevents | hevents
  · rw [hevents]
    exact h
  · rw [hevents]
    exact h.append _

theorem Kept.apply (h : Kept partition fresh state) (hrow : Good partition state.events .absent row)
    (hstatus : row.status = .complete) (htx : tx.table = .absent) :
    Kept partition fresh (state.apply row tx) := by
  have hchecked : Checked state.events row.reference := by
    apply hrow.checked
    rw [hstatus]
    decide
  refine ⟨?_, ?_, ?_⟩
  · refine List.forall_mem_cons.mpr ⟨apply_good htx hrow, ?_⟩
    exact fun version hversion => apply_good htx (h.versions version hversion).absent
  · intro before stored after hsplit
    rcases apply_events state row tx with hevents | hevents
    · rw [hevents] at hsplit
      exact h.drops before stored after hsplit
    · rw [hevents] at hsplit
      rcases snoc_eq_append_cons hsplit with ⟨hbefore, hlast, -⟩ | ⟨rest, hrest, -⟩
      · cases hlast
        rw [← hbefore]
        exact hchecked
      · exact h.drops before stored rest hrest
  · intro checked stored hmem
    rcases apply_events state row tx with hevents | hevents
    · rw [hevents] at hmem
      exact h.checks checked stored hmem
    · rw [hevents, List.mem_append, List.mem_singleton] at hmem
      rcases hmem with hmem | hlast
      · exact h.checks checked stored hmem
      · cases hlast

theorem Sound.commit (h : Sound partition fresh state) (outcome : WriteOutcome) :
    Sound partition fresh (state.commit outcome) := by
  unfold State.commit
  split
  next metadata row tx hphase =>
    obtain ⟨hgood, hrow, hstatus, habsent⟩ := h.of_phase hphase
    have hkept := h.toKept.apply hrow hstatus habsent
    split
    · exact h.toKept.goto hgood
    · split
      · exact h.toKept.goto hgood
      · exact hkept.goto trivial
    · split
      · exact h.toKept.goto hgood
      · exact hkept.goto (apply_good habsent hgood.absent)
  next => exact h

theorem Sound.handlePartitionError (h : Sound partition fresh state) (now : Instant)
    (outcome : WriteOutcome) : Sound partition fresh (state.handlePartitionError now outcome) := by
  unfold State.handlePartitionError
  split
  next metadata operation cause hphase =>
    have hgood : Good partition state.events state.table metadata := h.of_phase hphase
    have hmarked := hgood.markError (GoError.wrap "%s: %w" [operation] cause).text now
    dsimp only
    generalize hupdate : state.update _ outcome = result
    obtain ⟨after, err⟩ := result
    rcases update_cases hupdate with ⟨rfl, -⟩ | ⟨row, hrow, rfl⟩
    · exact h.toKept.goto trivial
    · exact (h.toKept.store (h.toKept.good_of_update hmarked hrow)).goto trivial
  next => exact h

end

/-! ## Runs -/

theorem Sound.initial (partition : PartitionInfo) (fresh : Prop) :
    Sound partition fresh State.initial := by
  refine ⟨⟨?_, ?_, ?_⟩, trivial⟩
  · intro version hversion
    cases hversion
  · intro before stored after hevents
    exact absurd hevents.symm (List.append_ne_nil_of_right_ne_nil _ (by simp))
  · intro checked stored hmem
    cases hmem

theorem Sound.step {partition : PartitionInfo} {fresh : Prop} {state : State}
    (h : Sound partition fresh state) (worker : ArchivalWorker) {label : Label}
    (hload : ∀ lag, label = .load lag → fresh → lag = 0) :
    Sound partition fresh (state.step worker partition label) := by
  cases label with
  | create id tenantID now outcome => exact h.create worker id tenantID now outcome
  | load lag => exact h.load (hload lag rfl)
  | advance now outcome => exact h.advance now outcome
  | stream faults rows => exact h.stream worker faults rows
  | upload now faults => exact h.upload worker now faults
  | verify download => exact h.verify worker download
  | «begin» fault => exact h.begin worker fault
  | statement now fault => exact h.statement now fault
  | commit outcome => exact h.commit outcome
  | handle now outcome => exact h.handlePartitionError now outcome
  | crash => exact h.toKept.goto trivial

/-- Whatever fails or crashes, the table is dropped only by a commit that leaves
the row with a reference against which the verification has succeeded, and a
completed row has no table.  When every call reads the current row, the row had
this reference when it was verified. -/
theorem partition_dropped_only_after_verification (worker : ArchivalWorker)
    (partition : PartitionInfo) (labels : List Label) :
    (∀ before stored after,
      (State.run worker partition labels).events = before ++ Event.dropped stored :: after →
      ∃ storedThen, Event.verified stored storedThen ∈ before ∧
        ((∀ lag, Label.load lag ∈ labels → lag = 0) → storedThen = some stored)) ∧
    ∀ row, (State.run worker partition labels).row = some row →
      row.status = .complete →
      (State.run worker partition labels).table = .absent := by
  have hsound : Sound partition (∀ lag, Label.load lag ∈ labels → lag = 0)
      (State.run worker partition labels) := by
    have hlabels : ∀ label ∈ labels, ∀ lag, label = .load lag →
        (∀ lag, Label.load lag ∈ labels → lag = 0) → lag = 0 := by
      rintro label hlabel lag rfl hfresh
      exact hfresh lag hlabel
    refine (Meets.of_labels hlabels State.initial).invariant _ (Sound.initial partition _) ?_
    intro state label hstate hload
    exact hstate.step worker hload
  constructor
  · intro before stored after hevents
    obtain ⟨storedThen, hmem⟩ := hsound.drops before stored after hevents
    refine ⟨storedThen, hmem, ?_⟩
    apply hsound.checks stored storedThen
    rw [hevents]
    exact List.mem_append_left _ hmem
  · intro row hrow hstatus
    exact (hsound.versions row (List.mem_of_mem_head? hrow)).complete hstatus

end Matcher.Governance.Archival
