import Matcher.Ingestion.StartIngestion

/-!
# The run over the chunks of a file

Both paths of the processing run over a list of chunks and stop at the first one
that fails.  They differ in what becomes of the hashes of the chunk that fails:
the streaming path drops them.  What the processing does to the store is that of
the run.
-/

namespace Matcher.Ingestion

open Foundation
open Command (Fault)

variable {chunk : List IngestedTransaction} {cause : GoError} {store : Store}
  {chunkFaults : ChunkCall → Fault} {totals : StreamingParseResult} {outcome : ChunkOutcome}
  {newID : ℕ → UUID} {fieldMap : FieldMap} {job : IngestionJob} {parser : Parser} {index : ℕ}

/-- The hashes of the chunks that succeeded are kept apart from those that a
failing chunk returned. -/
structure ChunkRun where
  failure : Option GoError
  store : Store
  kept : List String
  dropped : List String

def ChunkRun.recorded (run : ChunkRun) (streaming : Bool) : List String :=
  run.kept ++ if streaming then [] else run.dropped

theorem ChunkRun.recorded_next (run : ChunkRun) (hashes : List String) (streaming : Bool) :
    ({ run with kept := hashes ++ run.kept } : ChunkRun).recorded streaming =
      hashes ++ run.recorded streaming :=
  List.append_assoc _ _ _

section

variable (sha256Hex : String → String) (faults : ℕ → ChunkCall → Fault) (job : IngestionJob)

def runChunks : List (List IngestedTransaction) → ℕ → Store → ChunkRun
  | [], _, store => ⟨none, store, [], []⟩
  | chunk :: rest, index, store =>
    let outcome := filterAndInsertChunk sha256Hex (faults index) job chunk store
    match outcome.failure with
    | some cause => ⟨some cause, outcome.store, [], outcome.markedHashes⟩
    | none =>
      let run := runChunks rest (index + 1) outcome.store
      { run with kept := outcome.markedHashes ++ run.kept }

/-- The same run, with what each chunk that it reaches does. -/
inductive ChunkRuns : List (List IngestedTransaction) → ℕ → Store → ChunkRun → Prop
  | nil {index : ℕ} {store : Store} : ChunkRuns [] index store ⟨none, store, [], []⟩
  | stop {chunk : List IngestedTransaction} {rest : List (List IngestedTransaction)} {index : ℕ}
      {store : Store} {outcome : ChunkOutcome} {cause : GoError}
      (houtcome : filterAndInsertChunk sha256Hex (faults index) job chunk store = outcome)
      (heffect : ChunkEffect sha256Hex (faults index) job chunk store outcome)
      (hfailure : outcome.failure = some cause) :
      ChunkRuns (chunk :: rest) index store ⟨some cause, outcome.store, [], outcome.markedHashes⟩
  | next {chunk : List IngestedTransaction} {rest : List (List IngestedTransaction)} {index : ℕ}
      {store : Store} {outcome : ChunkOutcome} {run : ChunkRun}
      (houtcome : filterAndInsertChunk sha256Hex (faults index) job chunk store = outcome)
      (heffect : ChunkEffect sha256Hex (faults index) job chunk store outcome)
      (hsuccess : outcome.failure = none) (hrest : ChunkRuns rest (index + 1) outcome.store run) :
      ChunkRuns (chunk :: rest) index store { run with kept := outcome.markedHashes ++ run.kept }

theorem runChunks_runs (chunks : List (List IngestedTransaction)) (index : ℕ) (store : Store) :
    ChunkRuns sha256Hex faults job chunks index store
      (runChunks sha256Hex faults job chunks index store) := by
  induction chunks generalizing index store with
  | nil => exact .nil
  | cons chunk rest ih =>
    have heffect := filterAndInsertChunk_effect sha256Hex (faults index) job chunk store
    unfold runChunks
    dsimp only
    split
    next hfailure => exact .stop rfl heffect hfailure
    next hsuccess => exact .next rfl heffect hsuccess (ih _ _)

variable {sha256Hex faults job}

/-! ## What a chunk leaves alone -/

theorem ChunkEffect.jobs (h : ChunkEffect sha256Hex chunkFaults job chunk store outcome) :
    outcome.store.jobs = store.jobs := by
  cases h with
  | empty | unmarked | refused | stored => rfl

theorem ChunkEffect.text_ne (h : ChunkEffect sha256Hex chunkFaults job chunk store outcome)
    (hcause : outcome.failure = some cause) : trimSpace cause.text ≠ "" := by
  cases h with
  | empty => cases hcause
  | unmarked _ htext | refused _ htext =>
    rw [← Option.some.inj hcause]
    exact htext
  | stored => cases hcause

theorem ChunkRuns.jobs {chunks : List (List IngestedTransaction)} {run : ChunkRun}
    (h : ChunkRuns sha256Hex faults job chunks index store run) : run.store.jobs = store.jobs := by
  induction h with
  | nil => rfl
  | stop _ heffect => exact heffect.jobs
  | next _ heffect _ _ ih => exact ih.trans heffect.jobs

end

/-! ## One plan for both paths -/

structure Plan where
  streaming : Bool
  chunks : List StreamState
  ending : Except GoError StreamingParseResult

def ParsedFile.ending (file : ParsedFile) (result : StreamingParseResult) :
    Except GoError StreamingParseResult :=
  match file.failure with
  | some cause => .error cause
  | none => .ok result

/-- A file that is not streamed is one chunk, unless the parser fails. -/
def Parser.plan (parser : Parser) (job : IngestionJob) (fieldMap : FieldMap) (newID : ℕ → UUID) :
    Plan :=
  let file := parser.parse fieldMap
  let whole := file.whole job newID
  if parser.streaming then
    ⟨true, file.chunks defaultChunkSize job newID,
      file.ending (file.result defaultChunkSize job newID)⟩
  else
    ⟨false, if file.failure = none then [whole] else [],
      file.ending ⟨whole.chunk.length, whole.chunkErrors.length,
        whole.result.dateRange, whole.chunkErrors⟩⟩

/-- The bookkeeping of a chunk; a stream drops the hashes of one that fails. -/
def Processing.note (p : Processing) (streaming : Bool) (chunk : StreamState)
    (outcome : ChunkOutcome) : Option GoError × Processing :=
  match outcome.failure with
  | some cause =>
    (some (if streaming then .wrap "chunk callback failed: %w" [] cause
      else cause), {
      index := p.index + 1
      store := outcome.store
      state := { p.state with
        markedHashes := p.state.markedHashes ++
          if streaming then [] else outcome.markedHashes } })
  | none =>
    (none, {
      index := p.index + 1
      store := outcome.store
      state := { p.state with
        markedHashes := p.state.markedHashes ++ outcome.markedHashes
        totalInserted := p.state.totalInserted + outcome.inserted
        totalErrors := p.state.totalErrors + chunk.chunkErrors.length } })

def Processing.conclude (p : Processing) :
    Except GoError StreamingParseResult → Option GoError × Processing
  | .error cause => (some cause, p)
  | .ok result =>
    Processing.finish
      { p with state := { p.state with
        totalRows := result.totalRecords + result.totalErrors
        dateRange := result.dateRange } }
      result.totalErrors result.firstBatchErrs

section

variable (sha256Hex : String → String) (faults : ℕ → ChunkCall → Fault)

def chunkCallback (streaming : Bool) (chunk : StreamState) (p : Processing) :
    Option GoError × Processing :=
  p.note streaming chunk
    (filterAndInsertChunk sha256Hex (faults p.index) p.state.job chunk.chunk p.store)

def Plan.run (plan : Plan) (p : Processing) : Option GoError × Processing :=
  match runAll (chunkCallback sha256Hex faults plan.streaming) plan.chunks p with
  | (some cause, p) => (some cause, p)
  | (none, p) => p.conclude plan.ending

theorem flushChunk_streamingCallback :
    flushChunk (streamingCallback sha256Hex faults) = chunkCallback sha256Hex faults true := by
  funext chunk p
  unfold flushChunk streamingCallback chunkCallback Processing.note
  dsimp only
  cases (filterAndInsertChunk sha256Hex (faults p.index) p.state.job
    chunk.chunk p.store).failure with
  | some cause => simp
  | none => rfl

theorem processIngestionFile_eq (parser : Parser) (fieldMap : FieldMap)
    (newID : ℕ → UUID) (job : IngestionJob) (store : Store) :
    processIngestionFile sha256Hex faults parser fieldMap newID ⟨.initial job, 0, store⟩ =
      (parser.plan job fieldMap newID).run sha256Hex faults ⟨.initial job, 0, store⟩ := by
  unfold processIngestionFile Parser.plan Plan.run
  dsimp only
  split
  case isTrue =>
    rw [processStreaming, parseStreaming_eq, flushChunk_streamingCallback]
    dsimp only [IngestionState.initial]
    generalize runAll (chunkCallback sha256Hex faults true) _ _ = outcome
    obtain ⟨failure, p⟩ := outcome
    cases failure with
    | some => rfl
    | none =>
      dsimp only [ParsedFile.ending]
      cases (parser.parse fieldMap).failure with
      | some | none => rfl
  case isFalse =>
    unfold processNonStreaming ParsedFile.ending
    cases (parser.parse fieldMap).failure with
    | some => rfl
    | none =>
      rw [if_pos rfl]
      dsimp only [runAll, chunkCallback, Processing.note, IngestionState.initial]
      cases (filterAndInsertChunk sha256Hex (faults 0) job
        ((parser.parse fieldMap).whole job newID).chunk store).failure with
      | some cause => rfl
      | none => simp [Processing.conclude]

/-! ## What the processing does -/

variable {sha256Hex faults}

theorem runAll_chunkCallback (streaming : Bool) (chunks : List StreamState) (p : Processing)
    {run : ChunkRun} {result : Option GoError × Processing}
    (hrun : runChunks sha256Hex faults p.state.job (chunks.map StreamState.chunk)
      p.index p.store = run)
    (hresult : runAll (chunkCallback sha256Hex faults streaming) chunks p = result) :
    (result.1 = none ↔ run.failure = none) ∧
      (∀ cause, result.1 = some cause → trimSpace cause.text ≠ "") ∧
      result.2.store = run.store ∧
      result.2.state.markedHashes = p.state.markedHashes ++ run.recorded streaming ∧
      result.2.state.job = p.state.job := by
  subst hrun hresult
  induction chunks generalizing p with
  | nil => simp [runAll, runChunks, ChunkRun.recorded]
  | cons chunk _ ih =>
    have hnext := ih (chunkCallback sha256Hex faults streaming chunk p).2
    have heffect := filterAndInsertChunk_effect sha256Hex (faults p.index) p.state.job
      chunk.chunk p.store
    rw [runAll, List.map_cons, runChunks]
    simp only [chunkCallback, Processing.note] at hnext ⊢
    generalize filterAndInsertChunk sha256Hex _ _ _ _ = outcome at hnext heffect ⊢
    cases hfailure : outcome.failure with
    | some cause =>
      refine ⟨by simp, ?_, rfl, rfl, rfl⟩
      rintro _ ⟨⟩
      split
      · exact trimSpace_text_wrap rfl (by decide) rfl _ _
      · exact heffect.text_ne hfailure
    | none =>
      simp only [hfailure] at hnext
      obtain ⟨hnone, htext, hstore, hmarked, hjob⟩ := hnext
      refine ⟨hnone, htext, hstore, ?_, hjob⟩
      simpa only [ChunkRun.recorded, List.append_assoc] using hmarked

structure Processed (plan : Plan) (job : IngestionJob) (run : ChunkRun)
    (result : Option GoError × Processing) : Prop where
  store : result.2.store = run.store
  markedHashes : result.2.state.markedHashes = run.recorded plan.streaming
  id : result.2.state.job.id = job.id
  contextID : result.2.state.job.contextID = job.contextID
  status : result.2.state.job.status = job.status
  text_ne : ∀ cause, result.1 = some cause → trimSpace cause.text ≠ ""
  succeeds : result.1 = none → run.failure = none ∧ ∃ totals, plan.ending = .ok totals

theorem IngestionState.noteErrors_job (state : IngestionState) (total : ℕ)
    (errs : List ParseError) :
    (state.noteErrors total errs).job.id = state.job.id ∧
      (state.noteErrors total errs).job.contextID = state.job.contextID ∧
      (state.noteErrors total errs).job.status = state.job.status ∧
      (state.noteErrors total errs).markedHashes = state.markedHashes := by
  unfold IngestionState.noteErrors
  split <;> exact ⟨rfl, rfl, rfl, rfl⟩

theorem Processing.conclude_keeps (p : Processing) (ending : Except GoError StreamingParseResult) :
    (p.conclude ending).2.store = p.store ∧
      (p.conclude ending).2.state.markedHashes = p.state.markedHashes ∧
      (p.conclude ending).2.state.job.id = p.state.job.id ∧
      (p.conclude ending).2.state.job.contextID = p.state.job.contextID ∧
      (p.conclude ending).2.state.job.status = p.state.job.status ∧
      ((p.conclude ending).1 = none → ∃ totals, ending = .ok totals) := by
  cases ending with
  | error => exact ⟨rfl, rfl, rfl, rfl, rfl, nofun⟩
  | ok totals =>
    unfold Processing.conclude Processing.finish
    dsimp only
    split
    · exact ⟨rfl, rfl, rfl, rfl, rfl, nofun⟩
    · generalize hstate : ({ p.state with
        totalRows := totals.totalRecords + totals.totalErrors
        dateRange := totals.dateRange } : IngestionState) = state
      obtain ⟨hid, hcontext, hstatus, hhashes⟩ :=
        state.noteErrors_job totals.totalErrors totals.firstBatchErrs
      subst hstate
      exact ⟨rfl, hhashes, hid, hcontext, hstatus, fun _ => ⟨totals, rfl⟩⟩

theorem Processing.conclude_text_ne {p : Processing} {ending : Except GoError StreamingParseResult}
    (htext : ∀ cause, ending = .error cause → trimSpace cause.text ≠ "")
    (h : (p.conclude ending).1 = some cause) : trimSpace cause.text ≠ "" := by
  cases ending with
  | error => exact htext cause (congrArg Except.error (Option.some.inj h))
  | ok =>
    unfold Processing.conclude Processing.finish at h
    dsimp only at h
    split at h
    · rw [← Option.some.inj h]
      decide +kernel
    · cases h

theorem Plan.run_processed {plan : Plan}
    (htext : ∀ cause, plan.ending = .error cause → trimSpace cause.text ≠ "")
    (job : IngestionJob) (store : Store) :
    Processed plan job
      (runChunks sha256Hex faults job (plan.chunks.map StreamState.chunk) 0 store)
      (plan.run sha256Hex faults ⟨.initial job, 0, store⟩) := by
  unfold Plan.run
  generalize hresult : runAll (chunkCallback sha256Hex faults plan.streaming) _ _ = outcome
  obtain ⟨hnone, hcause, hstore, hmarked, hjob⟩ := runAll_chunkCallback
    plan.streaming plan.chunks ⟨.initial job, 0, store⟩ rfl hresult
  obtain ⟨failure, p⟩ := outcome
  dsimp only at hnone hcause hstore hmarked hjob
  cases failure with
  | some =>
    exact ⟨hstore, hmarked, by rw [hjob]; rfl, by rw [hjob]; rfl, by rw [hjob]; rfl, hcause, nofun⟩
  | none =>
    obtain ⟨hsame, hhashes, hid, hcontext, hstatus, hended⟩ := p.conclude_keeps plan.ending
    rw [hjob] at hid hcontext hstatus
    exact ⟨hsame.trans hstore, hhashes.trans hmarked, hid, hcontext, hstatus,
      fun _ => Processing.conclude_text_ne htext,
      fun hsuccess => ⟨hnone.mp rfl, hended hsuccess⟩⟩

end

theorem Parser.plan_ending (parser : Parser) (job : IngestionJob)
    (fieldMap : FieldMap) (newID : ℕ → UUID) :
    ∃ totals, (parser.plan job fieldMap newID).ending = (parser.parse fieldMap).ending totals := by
  unfold Parser.plan
  dsimp only
  split <;> exact ⟨_, rfl⟩

theorem Parser.plan_text_ne (h : (parser.plan job fieldMap newID).ending = .error cause) :
    trimSpace cause.text ≠ "" := by
  obtain ⟨totals, hending⟩ := parser.plan_ending job fieldMap newID
  rw [hending, ParsedFile.ending] at h
  cases hfailure : (parser.parse fieldMap).failure with
  | none =>
    rw [hfailure] at h
    cases h
  | some =>
    rw [hfailure] at h
    exact (parser.parse fieldMap).text_ne cause
      (hfailure.trans (congrArg some (Except.error.inj h)))

theorem Parser.plan_builtFor (parser : Parser) (job : IngestionJob)
    (fieldMap : FieldMap) (newID : ℕ → UUID) :
    ∀ chunk ∈ (parser.plan job fieldMap newID).chunks, ∀ tx ∈ chunk.chunk, tx.BuiltFor job := by
  intro chunk hchunk
  unfold Parser.plan at hchunk
  dsimp only at hchunk
  split at hchunk
  · exact (parser.parse fieldMap).chunks_builtFor defaultChunkSize job newID chunk hchunk
  · dsimp only at hchunk
    split at hchunk
    · rw [List.mem_singleton.mp hchunk]
      exact ParsedFile.whole_builtFor _ _ _
    · cases hchunk

theorem Parser.failure_of_ending (h : (parser.plan job fieldMap newID).ending = .ok totals) :
    (parser.parse fieldMap).failure = none := by
  obtain ⟨totals, hending⟩ := parser.plan_ending job fieldMap newID
  rw [hending, ParsedFile.ending] at h
  cases hcause : (parser.parse fieldMap).failure with
  | none => rfl
  | some =>
    rw [hcause] at h
    cases h

theorem Parser.plan_externalIDs (h : (parser.plan job fieldMap newID).ending = .ok totals) :
    (parser.plan job fieldMap newID).chunks.flatMap StreamState.externalIDs =
      (parser.parse fieldMap).records.map Record.externalID := by
  have hfailure := Parser.failure_of_ending h
  unfold Parser.plan
  dsimp only
  rw [if_pos hfailure]
  split
  · exact ParsedFile.chunks_externalIDs defaultChunkSize job newID hfailure
  · dsimp only
    rw [List.flatMap_singleton]
    exact ParsedFile.whole_externalIDs _ job newID

/-! ## The whole call -/

structure Started (environment : IngestionEnvironment) (store : Store) where
  fieldMap : FieldMap
  job : IngestionJob
  opened : Store
  parser : Parser
  hopen : openJob environment store = .ok (fieldMap, job, opened)
  hparser : environment.parser = .ok parser

namespace Started

variable {environment : IngestionEnvironment} {store : Store}

def plan (started : Started environment store) : Plan :=
  started.parser.plan started.job started.fieldMap environment.newID

def chunks (started : Started environment store) : List (List IngestedTransaction) :=
  started.plan.chunks.map StreamState.chunk

def process (started : Started environment store) (sha256Hex : String → String) :
    Option GoError × Processing :=
  Ingestion.process sha256Hex environment
    ⟨.initial started.job, started.fieldMap, started.parser⟩ started.opened

variable (started : Started environment store)

def run (sha256Hex : String → String) : ChunkRun :=
  runChunks sha256Hex
    (fun index call => environment.faults (.chunk index call)) started.job
    started.chunks 0 started.opened

theorem runs (sha256Hex : String → String) :
    ChunkRuns sha256Hex (fun index call => environment.faults (.chunk index call)) started.job
      started.chunks 0 started.opened (started.run sha256Hex) :=
  runChunks_runs _ _ _ _ _ _

instance : Subsingleton (Started environment store) where
  allEq first second := by
    obtain ⟨fieldMap, job, opened, parser, hopen, hparser⟩ := first
    obtain ⟨fieldMap', job', opened', parser', hopen', hparser'⟩ := second
    cases hopen.symm.trans hopen'
    cases hparser.symm.trans hparser'
    rfl

variable (environment store) in
def start? : Option (Started environment store) :=
  match hopen : openJob environment store with
  | .error _ => none
  | .ok (fieldMap, job, opened) =>
    match hparser : environment.parser with
    | .error _ => none
    | .ok parser => some ⟨fieldMap, job, opened, parser, hopen, hparser⟩

theorem start?_ne_none (started : Started environment store) : start? environment store ≠ none := by
  unfold start?
  split
  next hopen => cases hopen.symm.trans started.hopen
  next =>
    split
    next hparser => cases hparser.symm.trans started.hparser
    next => exact Option.some_ne_none _

instance {property : Started environment store → Prop} [DecidablePred property] :
    Decidable (∀ started, property started) :=
  match hstart : start? environment store with
  | none => isTrue fun started => absurd hstart started.start?_ne_none
  | some found =>
    decidable_of_iff (property found)
      ⟨fun h other => Subsingleton.elim found other ▸ h, fun h => h found⟩

theorem opens : Opened environment store started.job started.opened :=
  openJob_opened started.hopen

theorem process_eq (sha256Hex : String → String) :
    started.process sha256Hex = started.plan.run sha256Hex
      (fun index call => environment.faults (.chunk index call))
      ⟨.initial started.job, 0, started.opened⟩ :=
  processIngestionFile_eq sha256Hex _ started.parser started.fieldMap
    environment.newID started.job started.opened

theorem processed (sha256Hex : String → String) :
    Processed started.plan started.job (started.run sha256Hex) (started.process sha256Hex) := by
  rw [process_eq]
  exact Plan.run_processed (fun _ => Parser.plan_text_ne) started.job started.opened

theorem builtFor : ∀ chunk ∈ started.chunks, ∀ tx ∈ chunk, tx.BuiltFor started.job := by
  intro chunk hchunk
  obtain ⟨state, hstate, rfl⟩ := List.mem_map.mp hchunk
  exact Parser.plan_builtFor _ _ _ _ state hstate

def records (started : Started environment store) : List Record :=
  (started.parser.parse started.fieldMap).records

theorem exists_transaction (h : started.plan.ending = .ok totals)
    {record : Record} (hrecord : record ∈ started.records) :
    ∃ chunk ∈ started.chunks, ∃ tx ∈ chunk, tx.key = ⟨environment.sourceID, record.externalID⟩ := by
  have hmem := List.mem_map_of_mem (f := Record.externalID) hrecord
  rw [records, ← Parser.plan_externalIDs h] at hmem
  obtain ⟨state, hstate, hmem⟩ := List.mem_flatMap.mp hmem
  obtain ⟨tx, htx, hexternal⟩ := List.mem_map.mp hmem
  have hchunk : state.chunk ∈ started.chunks := List.mem_map_of_mem hstate
  refine ⟨state.chunk, hchunk, tx, htx, ?_⟩
  rw [IngestedTransaction.key, hexternal,
    (started.builtFor state.chunk hchunk tx htx).1, started.opens.sourceID]

theorem startIngestion_eq (sha256Hex : String → String) :
    startIngestion sha256Hex environment store =
      match started.process sha256Hex with
      | (some cause, p) =>
        (.error (failIngestion environment cause p).1, (failIngestion environment cause p).2)
      | (none, p) => finishIngestion environment p := by
  unfold startIngestion prepareIngestion
  rw [started.hopen, started.hparser]
  rfl

end Started

/-- The ends of a call, in the order of its early returns. -/
inductive IngestionEffect (sha256Hex : String → String)
    (environment : IngestionEnvironment) (store : Store) :
    Except GoError IngestionJob → Store → Prop
  | unopened (cause : GoError) (hopen : openJob environment store = .error cause) :
      IngestionEffect sha256Hex environment store (.error cause) store
  | parserless (fieldMap : FieldMap) (job : IngestionJob) (opened : Store) (cause : GoError)
      (hopen : openJob environment store = .ok (fieldMap, job, opened))
      (hparser : environment.parser = .error cause) :
      IngestionEffect sha256Hex environment store
        (.error (.wrap "failed to get parser: %w" [] cause)) opened
  | failed (started : Started environment store) (cause : GoError)
      (p : Processing) (hprocess : started.process sha256Hex = (some cause, p)) :
      IngestionEffect sha256Hex environment store
        (.error (failIngestion environment cause p).1)
        (failIngestion environment cause p).2
  | uncompleted (started : Started environment store) (cause : GoError)
      (p : Processing) (hprocess : started.process sha256Hex = (none, p))
      (hcomplete : completeIngestionJob environment p.state p.store = .error cause) :
      IngestionEffect sha256Hex environment store (.error cause) p.store
  | completed (started : Started environment store) (job : IngestionJob)
      (p : Processing) (final : Store)
      (hprocess : started.process sha256Hex = (none, p))
      (hcomplete : completeIngestionJob environment p.state p.store = .ok (job, final)) :
      IngestionEffect sha256Hex environment store (.ok job)
        (final.clearBestEffort (environment.faults .clearDedupKeys)
          p.state.job.contextID p.state.markedHashes)

theorem startIngestion_effect (sha256Hex : String → String)
    (environment : IngestionEnvironment) (store : Store) :
    IngestionEffect sha256Hex environment store
      (startIngestion sha256Hex environment store).1
      (startIngestion sha256Hex environment store).2 := by
  cases hopen : openJob environment store with
  | error cause =>
    have hresult : startIngestion sha256Hex environment store = (.error cause, store) := by
      unfold startIngestion prepareIngestion
      rw [hopen]
    rw [hresult]
    exact .unopened cause hopen
  | ok result =>
    obtain ⟨fieldMap, job, opened⟩ := result
    cases hparser : environment.parser with
    | error cause =>
      have hresult : startIngestion sha256Hex environment store =
          (.error (.wrap "failed to get parser: %w" [] cause), opened) := by
        unfold startIngestion prepareIngestion
        rw [hopen, hparser]
      rw [hresult]
      exact .parserless fieldMap job opened cause hopen hparser
    | ok parser =>
      let started : Started environment store := ⟨fieldMap, job, opened, parser, hopen, hparser⟩
      rw [started.startIngestion_eq sha256Hex]
      cases hprocess : started.process sha256Hex with
      | mk failure p =>
        cases failure with
        | some cause => exact .failed started cause p hprocess
        | none =>
          dsimp only [finishIngestion]
          cases hcomplete : completeIngestionJob environment p.state p.store with
          | error cause => exact .uncompleted started cause p hprocess hcomplete
          | ok result => exact .completed started result.1 p result.2 hprocess hcomplete

end Matcher.Ingestion
