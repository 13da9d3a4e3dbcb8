import Matcher.Foundation.Transition
import Matcher.Ingestion.Retry

/-!
# Interleaved uploads

Several calls work on one store at the same time, each from the point where its
job was opened.  A call stops between the existence check, the marking and the
insert of a chunk, and between the writes of its completion or failure.  A call
that runs alone does what `startIngestion` does.
-/

namespace Matcher.Ingestion

open Foundation
open Command (Fault attempt)

/-! ## One call, step by step -/

structure Upload where
  environment : IngestionEnvironment
  before : Store
  started : Started environment before

inductive Phase
  | checking (rest : List StreamState)
  | marking (chunk : StreamState) (existsMap : ExternalIDKey → Bool) (rest : List StreamState)
  | inserting (chunk : StreamState) (selection : Selection) (rest : List StreamState)
  | completing
  | clearing (job : IngestionJob)
  | failing (cause : GoError)
  | recording (cause : GoError)
  | withdrawing (cause : GoError)
  | cleaning (failure : GoError)
  | returned (result : Except GoError IngestionJob)

structure Call where
  state : IngestionState
  index : ℕ
  phase : Phase

variable {outcome : ChunkOutcome} {call : Call} {chunk : StreamState}
  {rest : List StreamState}

def Call.goto (call : Call) (phase : Phase) : Call := { call with phase := phase }

def Upload.initial (upload : Upload) : Call :=
  ⟨.initial upload.started.job, 0, .checking upload.started.plan.chunks⟩

/-- The processing goes on with the next phase unless it has failed. -/
def Phase.follow (next : Phase) : Option GoError × Processing → Call × Store
  | (some cause, p) => (⟨p.state, p.index, .failing cause⟩, p.store)
  | (none, p) => (⟨p.state, p.index, next⟩, p.store)

section

variable (sha256Hex : String → String) (upload : Upload)

def Call.endChunk (call : Call) (chunk : StreamState) (rest : List StreamState)
    (outcome : ChunkOutcome) : Call × Store :=
  (Phase.checking rest).follow
    (Processing.note ⟨call.state, call.index, outcome.store⟩
      upload.started.plan.streaming chunk outcome)

def Call.check (call : Call) (chunk : StreamState) (rest : List StreamState) (store : Store) :
    Call × Store :=
  if chunk.chunk = [] then call.endChunk upload chunk rest ⟨0, [], none, store⟩
  else
    match attempt (upload.environment.faults (.chunk call.index .existsBulk))
        (.ok (store.existsBulk (chunk.chunk.map IngestedTransaction.key))) with
    | .error cause =>
      call.endChunk upload chunk rest ⟨0, [],
        some (.wrap "failed to check existing transactions: %w" [] cause),
        store⟩
    | .ok existsMap => (call.goto (.marking chunk existsMap rest), store)

def Call.mark (call : Call) (chunk : StreamState) (existsMap : ExternalIDKey → Bool)
    (rest : List StreamState) (store : Store) : Call × Store :=
  match markChunk sha256Hex
      (upload.environment.faults (.chunk call.index .markSeenBulk))
      call.state.job chunk.chunk store with
  | (.error cause, store) =>
    call.endChunk upload chunk rest ⟨0, [],
      some (.wrap "failed to mark transactions seen: %w" [] cause), store⟩
  | (.ok markedByHash, store) =>
    (call.goto (.inserting chunk
      (selectChunk sha256Hex chunk.chunk existsMap markedByHash) rest), store)

def Call.record (call : Call) (cause : GoError) (store : Store) : Call × Store :=
  match call.state.job.fail cause.text with
  | .error failure =>
    (call.goto (.cleaning (.wrap "failed to transition job to failed: %w" [] failure)), store)
  | .ok failed =>
    match store.persistJob (upload.environment.faults .failJob) failed
        (.failed failed.id failed.metadata.error) with
    | .error failure =>
      (call.goto (.cleaning (.wrap "failed to save failed job: %w" [] failure)), store)
    | .ok store => (call.goto (.withdrawing cause), store)

def Call.complete (call : Call) (store : Store) : Call × Store :=
  match completeIngestionJob upload.environment call.state store with
  | .error cause => (call.goto (.returned (.error cause)), store)
  | .ok (job, store) => (call.goto (.clearing job), store)

def Call.clear (call : Call) (fault : Fault) (next : Phase) (store : Store) : Call × Store :=
  (call.goto next, store.clearBestEffort fault call.state.job.contextID call.state.markedHashes)

def Call.step (call : Call) (store : Store) : Call × Store :=
  match call.phase with
  | .checking [] =>
    Phase.completing.follow
      (Processing.conclude ⟨call.state, call.index, store⟩ upload.started.plan.ending)
  | .checking (chunk :: rest) => call.check upload chunk rest store
  | .marking chunk existsMap rest => call.mark sha256Hex upload chunk existsMap rest store
  | .inserting chunk selection rest =>
    call.endChunk upload chunk rest
      (insertSelection (upload.environment.faults (.chunk call.index .createBatch)) selection store)
  | .completing => call.complete upload store
  | .clearing job =>
    call.clear (upload.environment.faults .clearDedupKeys) (.returned (.ok job)) store
  | .failing cause =>
    call.clear (upload.environment.faults .clearOnJobFailure) (.recording cause) store
  | .recording cause => call.record upload cause store
  | .withdrawing cause =>
    (call.goto (.cleaning cause),
      store.cleanupBestEffort (upload.environment.faults .cleanupTransactions) call.state.job.id)
  | .cleaning failure =>
    call.clear (upload.environment.faults .cleanupOnFailure) (.returned (.error failure)) store
  | .returned _ => (call, store)

end

/-! ## A call that runs alone -/

/-- Some number of steps of the call lead from one state to the other. -/
def Upload.Reaches (sha256Hex : String → String) (upload : Upload) :
    Call × Store → Call × Store → Prop :=
  Relation.ReflTransGen fun before after =>
    before.1.step sha256Hex upload before.2 = after

section

variable {sha256Hex : String → String} {upload : Upload}

theorem Upload.reaches_chunk (state : IngestionState) (index : ℕ)
    (chunk : StreamState) (rest : List StreamState) (store : Store) :
    upload.Reaches sha256Hex (⟨state, index, .checking (chunk :: rest)⟩, store)
      ((Phase.checking rest).follow
        (chunkCallback sha256Hex (fun index call => upload.environment.faults (.chunk index call))
          upload.started.plan.streaming chunk ⟨state, index, store⟩)) := by
  refine .head rfl ?_
  simp only [Call.step, Call.check, chunkCallback, filterAndInsertChunk]
  by_cases hchunk : chunk.chunk = []
  · rw [if_pos hchunk, if_pos hchunk]
    exact .refl
  rw [if_neg hchunk, if_neg hchunk]
  cases upload.environment.faults (.chunk index .existsBulk) with
  | some => exact .refl
  | none =>
    refine .head rfl ?_
    simp only [attempt, Call.goto, Call.mark]
    cases markChunk sha256Hex
      (upload.environment.faults (.chunk index .markSeenBulk)) state.job
      chunk.chunk store with
    | mk result store' =>
      cases result with
      | error => exact .refl
      | ok => exact .single rfl

theorem Upload.reaches_chunks (chunks : List StreamState)
    (state : IngestionState) (index : ℕ) (store : Store) :
    upload.Reaches sha256Hex (⟨state, index, .checking chunks⟩, store)
      ((Phase.checking []).follow
        (runAll (chunkCallback sha256Hex
          (fun index call => upload.environment.faults (.chunk index call))
          upload.started.plan.streaming) chunks ⟨state, index, store⟩)) := by
  induction chunks generalizing state index store with
  | nil => exact .refl
  | cons chunk rest ih =>
    refine (Upload.reaches_chunk state index chunk rest store).trans ?_
    rw [runAll]
    cases chunkCallback sha256Hex
      (fun index call => upload.environment.faults (.chunk index call))
      upload.started.plan.streaming chunk ⟨state, index, store⟩ with
    | mk failure p =>
      cases failure with
      | some => exact .refl
      | none => exact ih p.state p.index p.store

theorem Upload.reaches_process :
    upload.Reaches sha256Hex (upload.initial, upload.started.opened)
      (Phase.completing.follow (upload.started.process sha256Hex)) := by
  refine (Upload.reaches_chunks _ _ _ _).trans ?_
  rw [Started.process_eq, Plan.run]
  generalize runAll _ _ _ = outcome
  obtain ⟨failure, p⟩ := outcome
  cases failure with
  | some => exact .refl
  | none => exact .single rfl

theorem Upload.reaches_failIngestion (cause : GoError) (p : Processing) :
    upload.Reaches sha256Hex (⟨p.state, p.index, .failing cause⟩, p.store)
      (⟨p.state, p.index, .returned (.error (failIngestion upload.environment cause p).1)⟩,
        (failIngestion upload.environment cause p).2) := by
  refine .head rfl (.head rfl ?_)
  simp only [Call.step, Call.clear, Call.goto, Call.record, failIngestion, failJob]
  generalize p.store.clearBestEffort _ _ _ = cleared
  cases p.state.job.fail cause.text with
  | error => exact .single rfl
  | ok failed =>
    dsimp only
    cases cleared.persistJob (upload.environment.faults .failJob) failed
        (.failed failed.id failed.metadata.error) with
    | error failure => exact .single rfl
    | ok stored => exact .head rfl (.single rfl)

theorem Upload.reaches_finishIngestion (p : Processing) :
    upload.Reaches sha256Hex (⟨p.state, p.index, .completing⟩, p.store)
      (⟨p.state, p.index, .returned (finishIngestion upload.environment p).1⟩,
        (finishIngestion upload.environment p).2) := by
  refine .head rfl ?_
  simp only [Call.step, Call.complete, finishIngestion]
  cases completeIngestionJob upload.environment p.state p.store with
  | error => exact .refl
  | ok => exact .single rfl

/-- A call that runs alone returns what `startIngestion` returns. -/
theorem Upload.reaches_startIngestion :
    ∃ state index, upload.Reaches sha256Hex
      (upload.initial, upload.started.opened)
      (⟨state, index, .returned (startIngestion sha256Hex upload.environment upload.before).1⟩,
        (startIngestion sha256Hex upload.environment upload.before).2) := by
  rw [upload.started.startIngestion_eq]
  have hprocess : upload.Reaches sha256Hex _ _ := upload.reaches_process
  cases hresult : upload.started.process sha256Hex with
  | mk failure p =>
    rw [hresult] at hprocess
    cases failure with
    | some cause => exact ⟨p.state, p.index, hprocess.trans (Upload.reaches_failIngestion cause p)⟩
    | none => exact ⟨p.state, p.index, hprocess.trans (Upload.reaches_finishIngestion p)⟩

end

/-! ## What one step does -/

def Phase.todo : Phase → List IngestedTransaction
  | .checking rest => rest.flatMap StreamState.chunk
  | .marking chunk _ rest => chunk.chunk ++ rest.flatMap StreamState.chunk
  | .inserting _ selection rest => selection.filtered ++ rest.flatMap StreamState.chunk
  | _ => []

def Phase.Completed : Phase → Prop
  | .clearing _ | .returned (.ok _) => True
  | _ => False

def Phase.Ended : Phase → Prop
  | .completing | .clearing _ | .returned (.ok _) => True
  | _ => False

def Phase.OnTrack : Phase → Prop
  | .checking _ | .marking _ _ _ | .inserting _ _ _ => True
  | phase => phase.Ended

/-- Everything a step can do to the rows and to what is left to be done. -/
inductive StepEffect (sha256Hex : String → String) (upload : Upload) (call : Call) (store : Store) :
    Call → Store → Prop
  | advances (next : Call) (store' : Store)
      (htransactions : store'.transactions = store.transactions)
      (hjob : next.state.job.id = call.state.job.id)
      (htodo : next.phase.todo = call.phase.todo)
      (htrack : call.phase.OnTrack)
      (hcompleted : call.phase.Completed → next.phase.Completed)
      (hended : next.phase.Ended → call.phase.Ended ∨
        ∃ totals, upload.started.plan.ending = .ok totals) :
      StepEffect sha256Hex upload call store next store'
  | stops (next : Call) (store' : Store) (htransactions : store'.transactions = store.transactions)
      (hjob : next.state.job.id = call.state.job.id)
      (hcompleted : ¬ call.phase.Completed) (htrack : ¬ next.phase.OnTrack) :
      StepEffect sha256Hex upload call store next store'
  | marks (chunk : StreamState) (existsMap : ExternalIDKey → Bool)
      (rest : List StreamState) (selection : Selection) (store' : Store)
      (hphase : call.phase = .marking chunk existsMap rest)
      (hselected : ∀ tx ∈ chunk.chunk, tx ∈ selection.filtered ↔
        store.Marks sha256Hex call.state.job.contextID chunk.chunk tx.key ∧
          existsMap tx.key = false)
      (hfiltered : ∀ tx ∈ selection.filtered, tx ∈ chunk.chunk)
      (htransactions : store'.transactions = store.transactions) :
      StepEffect sha256Hex upload call store (call.goto (.inserting chunk selection rest)) store'
  | inserts (chunk : StreamState) (selection : Selection)
      (rest : List StreamState) (next : Call) (store' : Store)
      (hphase : call.phase = .inserting chunk selection rest)
      (hnext : next.phase = .checking rest)
      (hjob : next.state.job.id = call.state.job.id)
      (hrows : store'.transactions.rows = store.transactions.rows ++ selection.filtered) :
      StepEffect sha256Hex upload call store next store'
  | withdraws (cause : GoError) (hphase : call.phase = .withdrawing cause) :
      StepEffect sha256Hex upload call store (call.goto (.cleaning cause))
        (store.cleanupFailedJobTransactions call.state.job.id)

section

variable {sha256Hex : String → String} {upload : Upload}

variable (upload) in
theorem Call.endChunk_of_failure (call : Call) (chunk : StreamState)
    (rest : List StreamState) (h : outcome.failure ≠ none) :
    ∃ state cause, call.endChunk upload chunk rest outcome =
        (⟨state, call.index + 1, .failing cause⟩, outcome.store) ∧
      state.job = call.state.job := by
  obtain ⟨cause, hcause⟩ := Option.ne_none_iff_exists'.mp h
  unfold Call.endChunk Processing.note
  rw [hcause]
  exact ⟨_, _, rfl, rfl⟩

variable (upload) in
theorem Call.endChunk_of_success (call : Call) (chunk : StreamState)
    (rest : List StreamState) (h : outcome.failure = none) :
    ∃ state, call.endChunk upload chunk rest outcome =
        (⟨state, call.index + 1, .checking rest⟩, outcome.store) ∧
      state.job = call.state.job := by
  unfold Call.endChunk Processing.note
  rw [h]
  exact ⟨_, rfl, rfl⟩

theorem StepEffect.of_endChunk {store : Store}
    (hcompleted : ¬ call.phase.Completed) (hfailure : outcome.failure ≠ none)
    (htransactions : outcome.store.transactions = store.transactions)
    (chunk : StreamState) (rest : List StreamState) :
    StepEffect sha256Hex upload call store
      (call.endChunk upload chunk rest outcome).1
      (call.endChunk upload chunk rest outcome).2 := by
  obtain ⟨state, cause, hend, hjob⟩ := call.endChunk_of_failure upload chunk rest hfailure
  rw [hend]
  exact .stops _ _ htransactions (congrArg IngestionJob.id hjob) hcompleted id

theorem Call.check_effect (hphase : call.phase = .checking (chunk :: rest)) (store : Store) :
    StepEffect sha256Hex upload call store
      (call.check upload chunk rest store).1
      (call.check upload chunk rest store).2 := by
  have htrack : call.phase.OnTrack := by rw [hphase]; trivial
  have hcompleted : ¬ call.phase.Completed := by rw [hphase]; exact id
  unfold Call.check
  split
  case isTrue hnil =>
    obtain ⟨state, hend, hjob⟩ := call.endChunk_of_success upload chunk rest
      (show (⟨0, [], none, store⟩ : ChunkOutcome).failure = none from rfl)
    rw [hend]
    refine .advances _ _ rfl (congrArg IngestionJob.id hjob) ?_ htrack
      (fun h => absurd h hcompleted) (fun h => absurd h id)
    rw [hphase]
    simp [Phase.todo, hnil]
  case isFalse =>
    cases upload.environment.faults (.chunk call.index .existsBulk) with
    | some =>
      dsimp only [attempt]
      apply StepEffect.of_endChunk hcompleted
      · exact Option.some_ne_none _
      · rfl
    | none =>
      refine .advances _ _ rfl rfl ?_ htrack (fun h => absurd h hcompleted) (fun h => absurd h id)
      rw [hphase]
      rfl

theorem Call.mark_effect {existsMap : ExternalIDKey → Bool}
    (hphase : call.phase = .marking chunk existsMap rest) (store : Store) :
    StepEffect sha256Hex upload call store
      (call.mark sha256Hex upload chunk existsMap rest store).1
      (call.mark sha256Hex upload chunk existsMap rest store).2 := by
  have hcompleted : ¬ call.phase.Completed := by rw [hphase]; exact id
  unfold Call.mark
  cases upload.environment.faults (.chunk call.index .markSeenBulk) with
  | some =>
    dsimp only [markChunk]
    apply StepEffect.of_endChunk hcompleted
    · exact Option.some_ne_none _
    · rfl
  | none =>
    obtain ⟨markedByHash, hmark, hreport⟩ := store.markSeenBulk_eq
      call.state.job.contextID (chunkHashes sha256Hex chunk.chunk)
    change store.markSeenBulk call.state.job.contextID
      (chunk.chunk.map fun tx => tx.key.hash sha256Hex) = _ at hmark
    rw [markChunk, hmark]
    refine .marks chunk existsMap rest _ _ hphase ?_ ?_ rfl
    · intro tx htx
      simp [selectChunk, htx, hreport, Store.Marks, and_comm]
    · intro tx htx
      exact List.mem_of_mem_filter (List.mem_of_mem_filter htx)

theorem Call.insert_effect {selection : Selection}
    (hphase : call.phase = .inserting chunk selection rest) (fault : Fault) (store : Store) :
    StepEffect sha256Hex upload call store
      (call.endChunk upload chunk rest (insertSelection fault selection store)).1
      (call.endChunk upload chunk rest (insertSelection fault selection store)).2 := by
  rcases insertSelection_cases fault selection store with
    ⟨hfailure, hstore⟩ | ⟨hsuccess, hrows⟩
  · refine .of_endChunk ?_ hfailure (by rw [hstore]) chunk rest
    rw [hphase]
    exact id
  · obtain ⟨state, hend, hjob⟩ := call.endChunk_of_success upload chunk rest hsuccess
    rw [hend]
    exact .inserts chunk selection rest _ _ hphase rfl (congrArg IngestionJob.id hjob) hrows

theorem Call.conclude_effect (hphase : call.phase = .checking []) (store : Store) :
    StepEffect sha256Hex upload call store
      (Phase.completing.follow (Processing.conclude
        ⟨call.state, call.index, store⟩ upload.started.plan.ending)).1
      (Phase.completing.follow (Processing.conclude
        ⟨call.state, call.index, store⟩ upload.started.plan.ending)).2 := by
  obtain ⟨hstore, -, hid, -, -, hended⟩ := Processing.conclude_keeps
    ⟨call.state, call.index, store⟩ upload.started.plan.ending
  generalize Processing.conclude _ _ = result at hstore hid hended
  obtain ⟨failure, p⟩ := result
  have hcompleted : ¬ call.phase.Completed := by rw [hphase]; exact id
  cases failure with
  | some => exact .stops _ _ (congrArg Store.transactions hstore) hid hcompleted id
  | none =>
    refine .advances _ _ (congrArg Store.transactions hstore) hid ?_ ?_
      (fun h => absurd h hcompleted) fun _ => .inr (hended rfl)
    · rw [hphase]
      rfl
    · rw [hphase]
      trivial

theorem Call.complete_effect (hphase : call.phase = .completing) (store : Store) :
    StepEffect sha256Hex upload call store (call.complete upload store).1
      (call.complete upload store).2 := by
  have hcompleted : ¬ call.phase.Completed := by rw [hphase]; exact id
  unfold Call.complete
  cases hcomplete : completeIngestionJob upload.environment call.state store with
  | error => exact .stops _ _ rfl rfl hcompleted id
  | ok =>
    refine .advances _ _ (completeIngestionJob_eq_ok hcomplete).2.2 rfl ?_ ?_
      (fun h => absurd h hcompleted) fun _ => .inl ?_
    · rw [hphase]
      rfl
    · rw [hphase]
      trivial
    · rw [hphase]
      trivial

theorem Call.record_effect {cause : GoError}
    (hphase : call.phase = .recording cause) (store : Store) :
    StepEffect sha256Hex upload call store (call.record upload cause store).1
      (call.record upload cause store).2 := by
  have hcompleted : ¬ call.phase.Completed := by rw [hphase]; exact id
  unfold Call.record
  cases call.state.job.fail cause.text with
  | error => exact .stops _ _ rfl rfl hcompleted id
  | ok failed =>
    dsimp only
    cases hpersist : store.persistJob (upload.environment.faults .failJob)
        failed (.failed failed.id failed.metadata.error) with
    | error failure => exact .stops _ _ rfl rfl hcompleted id
    | ok stored =>
      refine .stops _ _ ?_ rfl hcompleted id
      rw [Store.persistJob_eq_ok hpersist]

variable (sha256Hex upload) in
theorem Call.step_effect (call : Call) (store : Store) :
    StepEffect sha256Hex upload call store
      (call.step sha256Hex upload store).1
      (call.step sha256Hex upload store).2 := by
  obtain ⟨state, index, phase⟩ := call
  cases phase with
  | checking rest =>
    cases rest with
    | nil => exact Call.conclude_effect rfl store
    | cons => exact Call.check_effect rfl store
  | marking => exact Call.mark_effect rfl store
  | inserting => exact Call.insert_effect rfl _ store
  | completing => exact Call.complete_effect rfl store
  | clearing =>
    exact .advances _ _ (Store.clearBestEffort_transactions _ _ _ _) rfl rfl
      trivial (fun _ => trivial) fun _ => .inl trivial
  | failing => exact .stops _ _ (Store.clearBestEffort_transactions _ _ _ _) rfl id id
  | recording => exact Call.record_effect rfl store
  | withdrawing cause =>
    cases hfault : upload.environment.faults .cleanupTransactions with
    | some =>
      refine .stops _ _ ?_ rfl id id
      simp only [Call.step, hfault]
      rfl
    | none =>
      simp only [Call.step, hfault]
      exact .withdraws cause rfl
  | cleaning => exact .stops _ _ (Store.clearBestEffort_transactions _ _ _ _) rfl id id
  | returned result =>
    cases result with
    | error => exact .stops _ _ rfl rfl id id
    | ok => exact .advances _ _ rfl rfl rfl trivial id .inl

end

end Matcher.Ingestion
