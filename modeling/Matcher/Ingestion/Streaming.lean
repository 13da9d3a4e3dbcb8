import Matcher.Foundation.Chunking
import Matcher.Ingestion.Dedupe

/-!
# Processing of a parsed file

What a parser makes of a file is a list of rows, each with its errors and, where
it could be normalised, a record, and possibly an error that ends the reading.
The three parsers share one loop over the rows; the streaming path inserts chunk
by chunk inside it, and the other path inserts all records at once.
-/

namespace Matcher.Ingestion

open Foundation
open Command (Fault)
open Matching (Instant)

/-! ## Parsed files -/

structure ParseError where
  row : ℕ
  field : String
  message : String
deriving DecidableEq, Repr

structure Record where
  externalID : String
  amount : Decimal
  currency : String
  date : Instant
  metadata : Option Fee.Metadata
deriving DecidableEq, Repr

/-- A row with too many columns has an error and may have a record. -/
structure ParsedRow where
  errors : List ParseError
  record : Option Record
deriving DecidableEq, Repr

/-- The texts of the parsers' errors are not blank. -/
structure ParsedFile where
  rows : List ParsedRow
  failure : Option GoError
  text_ne : ∀ cause, failure = some cause → trimSpace cause.text ≠ ""

def ParsedFile.records (file : ParsedFile) : List Record :=
  file.rows.filterMap ParsedRow.record

def buildTransaction (job : IngestionJob) (id : UUID) (record : Record) : IngestedTransaction where
  id := id
  sourceID := job.sourceID
  externalID := record.externalID
  amount := record.amount
  currency := record.currency
  amountBase := none
  baseCurrency := none
  extractionStatus := .complete
  status := .unmatched
  date := record.date
  metadata := record.metadata
  ingestionJobID := job.id

structure DateRange where
  first : Instant
  last : Instant
deriving DecidableEq, Repr

def updateDateRange (dateRange : Option DateRange) (date : Instant) : DateRange :=
  match dateRange with
  | none => ⟨date, date⟩
  | some range =>
    ⟨if date < range.first then date else range.first,
      if range.last < date then date else range.last⟩

/-! ## The loop over the rows -/

structure StreamingParseResult where
  totalRecords : ℕ
  totalErrors : ℕ
  dateRange : Option DateRange
  firstBatchErrs : List ParseError
deriving DecidableEq, Repr

structure StreamState where
  result : StreamingParseResult
  chunk : List IngestedTransaction
  chunkErrors : List ParseError

def StreamState.initial : StreamState := ⟨⟨0, 0, none, []⟩, [], []⟩

@[simp] theorem StreamState.initial_chunk : initial.chunk = [] := rfl

def StreamState.addRecord (job : IngestionJob) (id : UUID) (state : StreamState) :
    Option Record → StreamState
  | none => state
  | some record =>
    { state with
      chunk := state.chunk ++ [buildTransaction job id record]
      result := { state.result with
        totalRecords := state.result.totalRecords + 1
        dateRange := updateDateRange state.result.dateRange record.date } }

def StreamState.addRow (job : IngestionJob) (newID : ℕ → UUID)
    (state : StreamState) (row : ParsedRow × ℕ) : StreamState :=
  StreamState.addRecord job (newID row.2)
    { state with chunkErrors := state.chunkErrors ++ row.1.errors }
    row.1.record

def StreamState.flushed (state : StreamState) : StreamState where
  chunk := []
  chunkErrors := []
  result := { state.result with
    totalErrors := state.result.totalErrors + state.chunkErrors.length
    firstBatchErrs :=
      if state.result.firstBatchErrs = [] then state.chunkErrors
      else state.result.firstBatchErrs }

def rowChunker (chunkSize : ℕ) (job : IngestionJob) (newID : ℕ → UUID) :
    Chunker (ParsedRow × ℕ) StreamState where
  add := StreamState.addRow job newID
  full state := chunkSize ≤ state.chunk.length
  reset := StreamState.flushed

def defaultChunkSize : ℕ := 1000

def flushChunk {σ : Type} (callback : StreamState → σ → Option GoError × σ)
    (state : StreamState) (s : σ) : Option GoError × σ :=
  match callback state s with
  | (some cause, s) => (some (.wrap "chunk callback failed: %w" [] cause), s)
  | (none, s) => (none, s)

/-- The last chunk is handed over when it has a record or an error. -/
def flushLast {σ : Type} (callback : StreamState → σ → Option GoError × σ)
    (state : StreamState) (s : σ) : Except GoError StreamingParseResult × σ :=
  if state.chunk ≠ [] ∨ state.chunkErrors ≠ [] then
    match flushChunk callback state s with
    | (some cause, s) => (.error cause, s)
    | (none, s) => (.ok state.flushed.result, s)
  else (.ok state.result, s)

def parseStreaming {σ : Type} (chunkSize : ℕ) (job : IngestionJob) (newID : ℕ → UUID)
    (callback : StreamState → σ → Option GoError × σ) (file : ParsedFile) (s : σ) :
    Except GoError StreamingParseResult × σ :=
  match (rowChunker chunkSize job newID).stream (flushChunk callback)
      file.rows.zipIdx .initial s with
  | (.error cause, s) => (.error cause, s)
  | (.ok state, s) =>
    match file.failure with
    | some cause => (.error cause, s)
    | none => flushLast callback state s

variable (file : ParsedFile) (chunkSize : ℕ) (job : IngestionJob) (newID : ℕ → UUID)

/-- The chunks that the callback is given, unless it stops the stream. -/
def ParsedFile.chunks : List StreamState :=
  let (full, last) := (rowChunker chunkSize job newID).split file.rows.zipIdx .initial
  if file.failure = none ∧ (last.chunk ≠ [] ∨ last.chunkErrors ≠ []) then
    full ++ [last]
  else full

/-- The totals of a file that is read to its end. -/
def ParsedFile.result :
    StreamingParseResult :=
  let (_, last) := (rowChunker chunkSize job newID).split file.rows.zipIdx .initial
  if last.chunk ≠ [] ∨ last.chunkErrors ≠ [] then last.flushed.result
  else last.result

theorem parseStreaming_eq {σ : Type} (chunkSize : ℕ) (job : IngestionJob) (newID : ℕ → UUID)
    (callback : StreamState → σ → Option GoError × σ) (file : ParsedFile) (s : σ) :
    parseStreaming chunkSize job newID callback file s =
      match runAll (flushChunk callback) (file.chunks chunkSize job newID) s with
      | (some cause, s) => (.error cause, s)
      | (none, s) =>
        match file.failure with
        | some cause => (.error cause, s)
        | none => (.ok (file.result chunkSize job newID), s) := by
  unfold parseStreaming ParsedFile.chunks ParsedFile.result
  rw [Chunker.stream_eq]
  generalize (rowChunker chunkSize job newID).split file.rows.zipIdx .initial = split
  obtain ⟨full, last⟩ := split
  dsimp only
  cases hfailure : file.failure with
  | some cause =>
    rw [if_neg (by simp)]
    cases runAll (flushChunk callback) full s with
    | mk failure =>
      cases failure with
      | none | some => rfl
  | none =>
    by_cases hlast : last.chunk ≠ [] ∨ last.chunkErrors ≠ []
    · rw [if_pos ⟨rfl, hlast⟩, if_pos hlast, runAll_append]
      cases runAll (flushChunk callback) full s with
      | mk failure s' =>
        cases failure with
        | some => rfl
        | none =>
          simp only [flushLast, if_pos hlast, runAll]
          cases flushChunk callback last s' with
          | mk failure =>
            cases failure with
            | none | some => rfl
    · rw [if_neg (fun h => hlast h.2), if_neg hlast]
      cases runAll (flushChunk callback) full s with
      | mk failure =>
        cases failure with
        | none => simp only [flushLast, if_neg hlast]
        | some => rfl

/-! ## What the chunks hold -/

def IngestedTransaction.BuiltFor (job : IngestionJob) (tx : IngestedTransaction) : Prop :=
  tx.sourceID = job.sourceID ∧ tx.ingestionJobID = job.id ∧ tx.status = .unmatched

theorem StreamState.addRow_builtFor {job : IngestionJob} {newID : ℕ → UUID} {state : StreamState}
    (hstate : ∀ tx ∈ state.chunk, tx.BuiltFor job) (row : ParsedRow × ℕ) :
    ∀ tx ∈ (state.addRow job newID row).chunk, tx.BuiltFor job := by
  intro tx htx
  unfold StreamState.addRow at htx
  cases hrecord : row.1.record with
  | none =>
    rw [hrecord] at htx
    exact hstate tx htx
  | some =>
    rw [hrecord] at htx
    rcases List.mem_append.mp htx with htx | htx
    · exact hstate tx htx
    · rw [List.mem_singleton.mp htx]
      exact ⟨rfl, rfl, rfl⟩

theorem ParsedFile.mem_chunks {file : ParsedFile} {chunkSize : ℕ} {job : IngestionJob}
    {newID : ℕ → UUID} {chunk : StreamState} (h : chunk ∈ file.chunks chunkSize job newID) :
    chunk ∈ ((rowChunker chunkSize job newID).split file.rows.zipIdx .initial).1 ∨
      chunk = ((rowChunker chunkSize job newID).split file.rows.zipIdx .initial).2 := by
  unfold ParsedFile.chunks at h
  dsimp only at h
  split at h
  · rcases List.mem_append.mp h with hfull | hlast
    · exact .inl hfull
    · exact .inr (List.mem_singleton.mp hlast)
  · exact .inl h

theorem ParsedFile.chunks_builtFor :
    ∀ chunk ∈ file.chunks chunkSize job newID, ∀ tx ∈ chunk.chunk, tx.BuiltFor job := by
  obtain ⟨hfull, hlast⟩ := (rowChunker chunkSize job newID).split_forall
    (fun state => ∀ tx ∈ state.chunk, tx.BuiltFor job)
    (fun _ row hstate => StreamState.addRow_builtFor hstate row)
    (fun _ _ _ h => absurd h List.not_mem_nil) file.rows.zipIdx .initial
    (fun _ h => absurd h List.not_mem_nil)
  intro chunk hchunk
  rcases ParsedFile.mem_chunks hchunk with hchunk | rfl
  · exact hfull chunk hchunk
  · exact hlast

def StreamState.externalIDs (state : StreamState) : List String :=
  state.chunk.map fun tx => tx.externalID

def ParsedRow.externalID (row : ParsedRow × ℕ) : List String :=
  (row.1.record.map Record.externalID).toList

section

variable {α : Type} {job : IngestionJob} {read : IngestedTransaction → α}
  {field : Record → α}
  (hread : ∀ id record, read (buildTransaction job id record) = field record)

include hread

theorem StreamState.addRow_map (newID : ℕ → UUID) (state : StreamState) (row : ParsedRow × ℕ) :
    (state.addRow job newID row).chunk.map read =
      state.chunk.map read ++ (row.1.record.map field).toList := by
  unfold StreamState.addRow
  cases row.1.record with
  | none => simp [StreamState.addRecord]
  | some => simp [StreamState.addRecord, hread]

omit hread in
theorem ParsedFile.flatMap_record (file : ParsedFile) (field : Record → α) :
    (file.rows.zipIdx.flatMap fun row => (row.1.record.map field).toList) =
      file.records.map field := by
  rw [ParsedFile.records, List.map_filterMap, List.filterMap_eq_flatMap_toList,
    ← List.zipIdx_map_fst 0 file.rows, List.flatMap_map, List.zipIdx_map_fst]

theorem ParsedFile.chunks_map (file : ParsedFile) (chunkSize : ℕ) (newID : ℕ → UUID) :
    ((file.chunks chunkSize job newID).flatMap fun state =>
        state.chunk.map read) ++
      (if file.failure = none then []
        else ((rowChunker chunkSize job newID).split file.rows.zipIdx .initial).2.chunk.map read) =
      file.records.map field := by
  have hsplit := (rowChunker chunkSize job newID).split_flatMap
    (fun state => state.chunk.map read)
    (fun row => (row.1.record.map field).toList)
    (StreamState.addRow_map hread newID) (fun _ => rfl) file.rows.zipIdx
    .initial
  rw [file.flatMap_record] at hsplit
  unfold ParsedFile.chunks
  dsimp only
  by_cases hfailure : file.failure = none
  · rw [if_pos hfailure, List.append_nil]
    split_ifs with hlast
    · simpa [List.flatMap_append] using hsplit
    · have hnil : ((rowChunker chunkSize job newID).split file.rows.zipIdx
          .initial).2.chunk = [] := by
        by_contra hchunk
        exact hlast ⟨hfailure, .inl hchunk⟩
      simpa [hnil] using hsplit
  · rw [if_neg hfailure, if_neg fun h => hfailure h.1]
    simpa using hsplit

end

theorem StreamState.addRow_externalIDs (state : StreamState) (row : ParsedRow × ℕ) :
    (state.addRow job newID row).externalIDs = state.externalIDs ++ ParsedRow.externalID row :=
  StreamState.addRow_map (fun _ _ => rfl) newID state row

theorem ParsedFile.chunks_externalIDs {file : ParsedFile} (chunkSize : ℕ)
    (job : IngestionJob) (newID : ℕ → UUID) (hfailure : file.failure = none) :
    (file.chunks chunkSize job newID).flatMap StreamState.externalIDs =
      file.records.map Record.externalID := by
  have hchunks : (file.chunks chunkSize job newID).flatMap
      StreamState.externalIDs ++ _ = file.records.map Record.externalID :=
    ParsedFile.chunks_map (fun _ _ => rfl) file chunkSize newID
  rwa [if_pos hfailure, List.append_nil] at hchunks

/-! ## The two paths -/

structure IngestionState where
  job : IngestionJob
  markedHashes : List String
  totalInserted : ℕ
  totalRows : ℕ
  totalErrors : ℕ
  dateRange : Option DateRange

def IngestionState.initial (job : IngestionJob) : IngestionState where
  job := job
  markedHashes := []
  totalInserted := 0
  totalRows := 0
  totalErrors := 0
  dateRange := none

structure Processing where
  state : IngestionState
  index : ℕ
  store : Store

def maxErrorDetails : ℕ := 50

def convertParseErrors (errs : List ParseError) : List RowError :=
  (errs.take maxErrorDetails).map fun err => ⟨err.row, err.field, err.message⟩

def errEmptyFile : GoError :=
  .sentinel ⟨"ErrEmptyFile", "file contains no data rows"⟩

def IngestionState.noteErrors (state : IngestionState) (total : ℕ) (errs : List ParseError) :
    IngestionState :=
  if 0 < total then
    { state with
      job := { state.job with
        metadata := { state.job.metadata with
          error := toString total ++ " rows failed validation"
          errorDetails := convertParseErrors errs } } }
  else state

/-- The end of both paths, when the totals are known. -/
def Processing.finish (p : Processing) (totalErrors : ℕ) (firstErrors : List ParseError) :
    Option GoError × Processing :=
  if p.state.totalRows = 0 then (some errEmptyFile, p)
  else (none, { p with state := p.state.noteErrors totalErrors firstErrors })

section

variable (sha256Hex : String → String) (faults : ℕ → ChunkCall → Fault)

/-- The hashes of a chunk that fails are not added to those of the call. -/
def streamingCallback (chunk : StreamState) (p : Processing) : Option GoError × Processing :=
  let outcome := filterAndInsertChunk sha256Hex (faults p.index) p.state.job chunk.chunk p.store
  match outcome.failure with
  | some cause => (some cause, { p with index := p.index + 1, store := outcome.store })
  | none =>
    (none, {
      index := p.index + 1
      store := outcome.store
      state := { p.state with
        markedHashes := p.state.markedHashes ++ outcome.markedHashes
        totalInserted := p.state.totalInserted + outcome.inserted
        totalErrors := p.state.totalErrors + chunk.chunkErrors.length } })

def processStreaming (newID : ℕ → UUID) (file : ParsedFile) (p : Processing) :
    Option GoError × Processing :=
  match parseStreaming defaultChunkSize p.state.job newID
      (streamingCallback sha256Hex faults) file p with
  | (.error cause, p) => (some cause, p)
  | (.ok result, p) =>
    Processing.finish
      { p with state := { p.state with
        totalRows := result.totalRecords + result.totalErrors
        dateRange := result.dateRange } }
      result.totalErrors result.firstBatchErrs

def ParsedFile.whole : StreamState :=
  file.rows.zipIdx.foldl (StreamState.addRow job newID) .initial

theorem ParsedFile.whole_builtFor : ∀ tx ∈ (file.whole job newID).chunk, tx.BuiltFor job :=
  List.foldlRecOn file.rows.zipIdx (StreamState.addRow job newID)
    (motive := fun state => ∀ tx ∈ state.chunk, tx.BuiltFor job)
    (fun _ h => absurd h List.not_mem_nil)
    (fun _ hstate row _ => StreamState.addRow_builtFor hstate row)

theorem ParsedFile.whole_externalIDs :
    (file.whole job newID).externalIDs = file.records.map Record.externalID := by
  have hfold : ∀ (rows : List (ParsedRow × ℕ)) (state : StreamState),
      (rows.foldl (StreamState.addRow job newID) state).externalIDs =
        state.externalIDs ++ rows.flatMap ParsedRow.externalID := by
    intro rows
    induction rows with
    | nil => simp
    | cons _ _ ih =>
      intro state
      rw [List.foldl_cons, ih, StreamState.addRow_externalIDs, List.flatMap_cons, List.append_assoc]
  rw [ParsedFile.whole, hfold]
  exact file.flatMap_record Record.externalID

/-- The hashes are kept whether or not the chunk fails. -/
def processNonStreaming (newID : ℕ → UUID) (file : ParsedFile) (p : Processing) :
    Option GoError × Processing :=
  match file.failure with
  | some cause => (some cause, p)
  | none =>
    let result := file.whole p.state.job newID
    let outcome := filterAndInsertChunk sha256Hex (faults p.index) p.state.job result.chunk p.store
    match outcome.failure with
    | some cause =>
      (some cause, {
        index := p.index + 1
        store := outcome.store
        state := { p.state with markedHashes := outcome.markedHashes } })
    | none =>
      Processing.finish {
          index := p.index + 1
          store := outcome.store
          state := { p.state with
            markedHashes := outcome.markedHashes
            totalInserted := outcome.inserted
            totalRows := result.chunk.length + result.chunkErrors.length
            totalErrors := result.chunkErrors.length
            dateRange := result.result.dateRange } }
        result.chunkErrors.length result.chunkErrors

end

abbrev FieldMap := List (String × String)

structure Parser where
  streaming : Bool
  parse : FieldMap → ParsedFile

def processIngestionFile (sha256Hex : String → String) (faults : ℕ → ChunkCall → Fault)
    (parser : Parser) (fieldMap : FieldMap) (newID : ℕ → UUID) (p : Processing) :
    Option GoError × Processing :=
  if parser.streaming then
    processStreaming sha256Hex faults newID (parser.parse fieldMap) p
  else processNonStreaming sha256Hex faults newID (parser.parse fieldMap) p

end Matcher.Ingestion
