import Matcher.Ingestion.FieldMapping

/-!
# The parser of CSV files

The loop asks `encoding/csv` for one record after the other.  It takes every error
but the end of the input for a bad row and goes on, so it comes to an end only with
the input, or with an error of the callback.
-/

namespace Matcher.Ingestion

open Foundation

inductive CsvRead
  | record (fields : List String)
  | failed (cause : GoError)
  | eof
deriving DecidableEq, Repr

/-- An input: whether its first bytes can be read, and the answers of the calls, of
which the first one reads the headers. -/
structure CsvSource where
  bom : Option GoError
  read : ℕ → CsvRead

def errEOF : GoError := .sentinel ⟨"io.EOF", "EOF"⟩

structure CsvState (σ : Type) where
  reads : ℕ
  rowNumber : ℕ
  stream : StreamState
  store : σ

section Parser

variable {υ σ : Type} (normalizer : Normalizer υ) (mapping : Mapping) (headers : List String)

/-- Of two columns with the same header the later one counts. -/
def csvRow (fields : List String) : Row υ :=
  headers.zipIdx.foldl
    (fun row (header, i) =>
      Function.update row header
        (some (normalizer.text (match fields[i]? with
          | some value => trimSpace value
          | none => ""))))
    fun _ => none

def extraColumns (fields : List String) (rowNumber : ℕ) : List ParseError :=
  if headers.length < fields.length then
    [⟨rowNumber, "", "extra columns ignored"⟩]
  else []

def failedRead (rowNumber : ℕ) : ParseError :=
  ⟨rowNumber + 1, "", "failed to read csv row"⟩

variable (source : CsvSource) (chunkSize : ℕ) (job : IngestionJob)
  (newID : ℕ → UUID) (callback : StreamState → σ → Option GoError × σ)

def csvStep (state : CsvState σ) : Turn (CsvState σ) (ParseOutcome σ) :=
  match source.read state.reads with
  | .eof => .done (flushLast callback state.stream state.store)
  | .failed _ =>
    .next ⟨state.reads + 1, state.rowNumber + 1,
      state.stream.addErrors [failedRead state.rowNumber], state.store⟩
  | .record fields =>
    let rowNumber := state.rowNumber + 1
    let stream := state.stream.addErrors (extraColumns headers fields rowNumber)
    match normalizer.normalizeTransaction mapping (csvRow normalizer headers fields) rowNumber with
    | .error parseErr =>
      .next ⟨state.reads + 1, rowNumber, stream.addErrors [parseErr], state.store⟩
    | .ok record =>
      flushIfFull chunkSize callback
        (stream.addRecord job (newID rowNumber) (some record)) state.store
        fun stream store => ⟨state.reads + 1, rowNumber, stream, store⟩

end Parser

def parseCSV {υ σ : Type} (normalizer : Normalizer υ) (job : IngestionJob)
    (fieldMap : Option FieldMapEntries) (chunkSize : ℤ) (newID : ℕ → UUID)
    (callback : StreamState → σ → Option GoError × σ) (fuel : ℕ) (source : CsvSource) (store : σ) :
    Option (ParseOutcome σ) :=
  match mappingFromFieldMap fieldMap with
  | .error cause => some (.error cause, store)
  | .ok mapping =>
    match source.bom with
    | some cause =>
      some (.error (.wrap "failed to strip BOM from csv input: %w" []
        (.wrap "reading BOM prefix: %w" [] cause)), store)
    | none =>
      match source.read 0 with
      | .eof => some (.error (.wrap "failed to read csv headers: %w" [] errEOF), store)
      | .failed cause => some (.error (.wrap "failed to read csv headers: %w" [] cause), store)
      | .record headers =>
        repeatStep
          (csvStep normalizer mapping (headers.map trimSpace) source
            (effectiveChunkSize chunkSize) job newID callback)
          fuel ⟨1, 1, .initial, store⟩

/-! ## The rows of an input -/

section Rows

variable {υ σ : Type} (normalizer : Normalizer υ) (mapping : Mapping)
  (headers : List String) (source : CsvSource) {count : ℕ}

def csvParsedRow (reads : ℕ) : CsvRead → ParsedRow
  | .record fields =>
    parsedRow (extraColumns headers fields (reads + 1))
      (normalizer.normalizeTransaction mapping (csvRow normalizer headers fields) (reads + 1))
  | _ => ⟨[failedRead reads], none⟩

def csvNext (reads : ℕ) : Reading ℕ :=
  match source.read reads with
  | .eof => .stop none
  | read => .row (csvParsedRow normalizer mapping headers reads read) (reads + 1)

/-- The two loops are in step, and the pending chunk is not full. -/
structure CsvInStep (chunkSize : ℕ) (state : CsvState σ) (loop : LoopState ℕ σ) : Prop where
  source : loop.source = state.reads
  rowNumber : state.rowNumber = state.reads
  index : loop.index + 1 = state.reads
  stream : loop.stream = state.stream
  store : loop.store = state.store
  notFull : state.stream.chunk.length < chunkSize

variable {normalizer mapping headers source} {chunkSize : ℕ}
  {job : IngestionJob} {newID : ℕ → UUID}
  {callback : StreamState → σ → Option GoError × σ}

theorem csvStep_inStep (hsize : 0 < chunkSize) (state : CsvState σ)
    (loop : LoopState ℕ σ) (h : CsvInStep chunkSize state loop) :
    Turn.Related (CsvInStep chunkSize)
      (csvStep normalizer mapping headers source chunkSize job newID callback state)
      (streamStep chunkSize job (fun index => newID (index + 2)) callback
        (csvNext normalizer mapping headers source) loop) := by
  obtain ⟨reads, rowNumber, stream, store⟩ := state
  obtain ⟨position, index, stream', store'⟩ := loop
  obtain ⟨rfl, hrow, hindex, rfl, rfl, hnotFull⟩ := h
  dsimp only at hrow hindex hnotFull
  subst hrow hindex
  cases hread : source.read (index + 1) with
  | eof =>
    simp only [csvStep, streamStep, csvNext, hread]
    exact .done _
  | failed =>
    -- an error fills no chunk, so the other loop does not hand one over
    simp only [csvStep, streamStep, csvNext, hread, csvParsedRow]
    rw [flushIfFull_of_lt (by exact hnotFull)]
    exact .next ⟨rfl, rfl, rfl, rfl, rfl, hnotFull⟩
  | record fields =>
    simp only [csvStep, streamStep, csvNext, hread, csvParsedRow]
    cases hrecord : normalizer.normalizeTransaction mapping
        (csvRow normalizer headers fields) (index + 1 + 1) with
    | error parseErr =>
      dsimp only [parsedRow]
      rw [flushIfFull_of_lt (by exact hnotFull)]
      refine .next ⟨rfl, rfl, rfl, ?_, rfl, hnotFull⟩
      simp only [StreamState.addRow, StreamState.addRecord,
        StreamState.addErrors, List.append_assoc]
    | ok record =>
      exact flushIfFull_related hsize fun stream store hlt =>
        ⟨rfl, rfl, rfl, rfl, rfl, hlt⟩

variable (normalizer mapping headers source) in
def csvRows (count : ℕ) : List ParsedRow :=
  (List.range count).map fun index =>
    csvParsedRow normalizer mapping headers (index + 1) (source.read (index + 1))

variable (normalizer mapping headers source) in
def csvFile (count : ℕ) : ParsedFile where
  rows := csvRows normalizer mapping headers source count
  failure := none
  text_ne := visible_of_none

theorem csvRows_succ (count : ℕ) :
    csvRows normalizer mapping headers source (count + 1) =
      csvRows normalizer mapping headers source count ++
        [csvParsedRow normalizer mapping headers (count + 1) (source.read (count + 1))] := by
  simp [csvRows, List.range_succ]

theorem csvNext_of_ne {reads : ℕ} (h : source.read reads ≠ .eof) :
    csvNext normalizer mapping headers source reads =
      .row (csvParsedRow normalizer mapping headers reads (source.read reads)) (reads + 1) := by
  unfold csvNext
  cases hread : source.read reads with
  | eof => exact absurd hread h
  | failed | record => rfl

theorem csv_emits (h : ∀ index < count, source.read (index + 1) ≠ .eof) :
    Emits (csvNext normalizer mapping headers source) 1
      (csvRows normalizer mapping headers source count) (count + 1) := by
  induction count with
  | zero => exact .refl 1
  | succ count ih =>
    rw [csvRows_succ]
    exact (ih fun index hindex => h index (Nat.lt_succ_of_lt hindex)).concat
      (csvNext_of_ne (h count (Nat.lt_succ_self count)))

theorem csvStep_returns_iff (hsize : 0 < chunkSize) (store : σ) (result : ParseOutcome σ) :
    Returns (csvStep normalizer mapping headers source chunkSize job newID
        callback) ⟨1, 1, .initial, store⟩ result ↔
      Returns (streamStep chunkSize job (fun index => newID (index + 2))
        callback (csvNext normalizer mapping headers source))
        ⟨1, 0, .initial, store⟩ result := by
  have hstart : CsvInStep chunkSize (⟨1, 1, .initial, store⟩ : CsvState σ)
      ⟨1, 0, .initial, store⟩ :=
    ⟨rfl, rfl, rfl, rfl, rfl, hsize⟩
  exact returns_iff_of_simulation (csvStep_inStep hsize) hstart

theorem csvStep_returns (hsize : 0 < chunkSize)
    (hrows : ∀ index < count, source.read (index + 1) ≠ .eof)
    (hend : source.read (count + 1) = .eof) (store : σ) :
    Returns (csvStep normalizer mapping headers source chunkSize job newID
        callback) ⟨1, 1, .initial, store⟩
      (parseStreaming chunkSize job (fun index => newID (index + 2)) callback
        (csvFile normalizer mapping headers source count) store) := by
  rw [csvStep_returns_iff hsize]
  refine Emits.returns (csv_emits hrows) ?_ store
  simp only [csvNext, hend]
  rfl

end Rows

theorem parseCSV_readsAs {υ σ : Type} (normalizer : Normalizer υ)
    (job : IngestionJob) (fieldMap : Option FieldMapEntries)
    {source : CsvSource} (hend : ∃ reads, source.read reads = .eof) :
    ∃ file, ReadsAs (fun chunkSize newID callback fuel (store : σ) =>
      parseCSV normalizer job fieldMap chunkSize newID callback fuel source store) job file := by
  unfold parseCSV
  cases hmapping : mappingFromFieldMap fieldMap with
  | error cause =>
    exact readsAs_failed job
      (mappingFromFieldMap_visible fieldMap cause hmapping)
      fun _ _ _ _ _ => rfl
  | ok mapping =>
    cases source.bom with
    | some cause =>
      have htext : trimSpace
          (GoError.wrap "failed to strip BOM from csv input: %w" []
            (.wrap "reading BOM prefix: %w" [] cause)).text ≠ "" :=
        trimSpace_text_wrap rfl (by decide) rfl _ _
      exact readsAs_failed job htext fun _ _ _ _ _ => rfl
    | none =>
      have htext : ∀ cause, trimSpace
          (GoError.wrap "failed to read csv headers: %w" [] cause).text ≠ "" :=
        fun _ => trimSpace_text_wrap rfl (by decide) rfl _ _
      cases hread : source.read 0 with
      | eof | failed => exact readsAs_failed job (htext _) fun _ _ _ _ _ => rfl
      | record headers =>
        have hlater : ∃ count, source.read (count + 1) = .eof := by
          obtain ⟨reads, hreads⟩ := hend
          cases reads with
          | zero => rw [hread] at hreads; cases hreads
          | succ count => exact ⟨count, hreads⟩
        refine ⟨csvFile normalizer mapping (headers.map trimSpace) source
          (Nat.find hlater), fun chunkSize newID callback store => ?_⟩
        obtain ⟨fuel, hfuel⟩ := csvStep_returns
          (effectiveChunkSize_pos chunkSize)
          (fun index hindex => Nat.find_min hlater hindex)
          (Nat.find_spec hlater) store
        exact ⟨fuel, fun index => newID (index + 2), hfuel⟩

/-! ## Inputs without an end -/

section Endless

variable {υ σ : Type} {normalizer : Normalizer υ} {mapping : Mapping}
  {headers : List String} {source : CsvSource} {chunkSize : ℕ}
  {job : IngestionJob} {newID : ℕ → UUID}
  {callback : StreamState → σ → Option GoError × σ} {store : σ}

variable (normalizer mapping headers source chunkSize job newID callback) in
def csvStream (store : σ) (count : ℕ) : Except GoError StreamState × σ :=
  (rowChunker chunkSize job fun index => newID (index + 2)).stream
    (flushChunk callback)
    (csvRows normalizer mapping headers source count).zipIdx .initial store

variable (normalizer mapping headers source chunkSize job newID) in
def csvChunks (count : ℕ) : List StreamState :=
  ((rowChunker chunkSize job fun index => newID (index + 2)).split
    (csvRows normalizer mapping headers source count).zipIdx .initial).1

theorem csvStream_error_iff {count : ℕ} :
    (∃ cause after, csvStream normalizer mapping headers source chunkSize job
        newID callback store count = (.error cause, after)) ↔
      (runAll callback (csvChunks normalizer mapping headers source chunkSize
        job newID count) store).1 ≠ none := by
  unfold csvStream csvChunks
  rw [Chunker.stream_eq, runAll_flushChunk]
  cases runAll callback _ store with
  | mk failure =>
    cases failure with
    | some | none => simp

theorem csvStream_succ {after : σ} {count : ℕ} {stream : StreamState}
    (h : csvStream normalizer mapping headers source chunkSize job newID
      callback store count = (.ok stream, after)) :
    csvStream normalizer mapping headers source chunkSize job newID callback store (count + 1) =
      (rowChunker chunkSize job fun index => newID (index + 2)).stream
        (flushChunk callback)
        [(csvParsedRow normalizer mapping headers (count + 1)
          (source.read (count + 1)), count)] stream after := by
  unfold csvStream at h ⊢
  rw [csvRows_succ, List.zipIdx_append, Chunker.stream_append, h]
  simp [csvRows]

/-- Without an end of the input and without an error of the callback there is
always another read. -/
theorem csvStep_not_returns (hsize : 0 < chunkSize)
    (hend : ∀ count, source.read (count + 1) ≠ .eof) (hcallback : ∀ count, ∃ stream after,
      csvStream normalizer mapping headers source chunkSize job newID callback
        store count = (.ok stream, after)) (result : ParseOutcome σ) :
    ¬ Returns (csvStep normalizer mapping headers source chunkSize job newID
        callback) ⟨1, 1, .initial, store⟩ result := by
  rw [csvStep_returns_iff hsize]
  -- the loop has taken the rows of its reads, and will take the next one
  refine not_returns_of_invariant
    (fun loop => loop.source = loop.index + 1 ∧
      csvStream normalizer mapping headers source chunkSize job newID callback
        store loop.index = (.ok loop.stream, loop.store)) ?_ ⟨rfl, rfl⟩ result
  rintro ⟨reads, index, stream, after⟩ ⟨hreads, hstream⟩
  dsimp only at hreads hstream
  subst hreads
  obtain ⟨stream', after', hnext⟩ := hcallback (index + 1)
  refine ⟨⟨index + 2, index + 1, stream', after'⟩, ?_, rfl, hnext⟩
  rw [csvStream_succ hstream] at hnext
  rw [streamStep_of_row (csvNext_of_ne (hend index)), hnext]

theorem csvStep_terminates_iff (hsize : 0 < chunkSize) (store : σ) :
    (∃ result, Returns (csvStep normalizer mapping headers source chunkSize job
        newID callback) ⟨1, 1, .initial, store⟩ result) ↔
      (∃ count, source.read (count + 1) = .eof) ∨
        ∃ count cause after, csvStream normalizer mapping headers source
          chunkSize job newID callback store count = (.error cause, after) := by
  constructor
  · rintro ⟨result, hreturns⟩
    by_contra hnever
    rw [not_or] at hnever
    refine csvStep_not_returns hsize (fun count hend => hnever.1 ⟨count, hend⟩) ?_ result hreturns
    intro count
    cases hstream : csvStream normalizer mapping headers source chunkSize job
        newID callback store count with
    | mk outcome after =>
      cases outcome with
      | ok stream => exact ⟨stream, after, rfl⟩
      | error cause => exact absurd ⟨count, cause, after, hstream⟩ hnever.2
  · intro hends
    by_cases hend : ∃ count, source.read (count + 1) = .eof
    · exact ⟨_, csvStep_returns hsize (fun index hindex => Nat.find_min hend hindex)
        (Nat.find_spec hend) store⟩
    · obtain ⟨count, cause, after, hstream⟩ := hends.resolve_left hend
      refine ⟨(.error cause, after), (csvStep_returns_iff hsize store _).mpr ?_⟩
      have hrows : ∀ index < count, source.read (index + 1) ≠ .eof :=
        fun index _ hindex => hend ⟨index, hindex⟩
      unfold csvStream at hstream
      rw [(csv_emits hrows).returns_iff, hstream]

end Endless

/-- The parser fails before its loop, or the input ends, or the callback refuses a
chunk of the rows before. -/
def CsvEnds {υ σ : Type} (normalizer : Normalizer υ) (job : IngestionJob)
    (fieldMap : Option FieldMapEntries) (chunkSize : ℤ) (newID : ℕ → UUID)
    (callback : StreamState → σ → Option GoError × σ) (source : CsvSource) (store : σ) : Prop :=
  (∃ cause, mappingFromFieldMap fieldMap = .error cause) ∨
    source.bom ≠ none ∨
    (∀ headers, source.read 0 ≠ .record headers) ∨
    (∃ count, source.read (count + 1) = .eof) ∨
    ∃ mapping headers count, mappingFromFieldMap fieldMap = .ok mapping ∧
      source.read 0 = .record headers ∧
      (runAll callback
        (csvChunks normalizer mapping (headers.map trimSpace) source
          (effectiveChunkSize chunkSize) job newID count) store).1 ≠ none

/--
The parser terminates exactly on the inputs that end.  One that fails again and
again after its headers is read forever.
-/
theorem parseCSV_terminates_iff {υ σ : Type} (normalizer : Normalizer υ) (job : IngestionJob)
    (fieldMap : Option FieldMapEntries) (chunkSize : ℤ) (newID : ℕ → UUID)
    (callback : StreamState → σ → Option GoError × σ) (source : CsvSource) (store : σ) :
    (∃ fuel result, parseCSV normalizer job fieldMap chunkSize newID callback
      fuel source store = some result) ↔
      CsvEnds normalizer job fieldMap chunkSize newID callback source
        store := by
  unfold CsvEnds parseCSV
  cases hmapping : mappingFromFieldMap fieldMap with
  | error cause => exact iff_of_true ⟨0, _, rfl⟩ (.inl ⟨cause, rfl⟩)
  | ok mapping =>
    cases hbom : source.bom with
    | some => exact iff_of_true ⟨0, _, rfl⟩ (.inr (.inl (by simp)))
    | none =>
      cases hread : source.read 0 with
      | eof | failed => exact iff_of_true ⟨0, _, rfl⟩ (by simp)
      | record headers =>
        rw [exists_comm]
        refine (csvStep_terminates_iff (effectiveChunkSize_pos chunkSize) store).trans ?_
        constructor
        · rintro (hend | ⟨count, hstream⟩)
          · exact .inr (.inr (.inr (.inl hend)))
          · exact .inr (.inr (.inr (.inr
              ⟨mapping, headers, count, rfl, rfl, csvStream_error_iff.mp hstream⟩)))
        · rintro (⟨cause, hcause⟩ | hbom | hheaders | hend |
            ⟨_, _, count, hmapping', hread', hrefused⟩)
          · cases hcause
          · exact absurd rfl hbom
          · exact absurd rfl (hheaders headers)
          · exact .inl hend
          · cases hmapping'
            cases hread'
            exact .inr ⟨count, csvStream_error_iff.mpr hrefused⟩

def brokenSource : CsvSource where
  bom := none
  read := fun
    | 0 => .record ["id", "amount", "currency", "date"]
    | _ + 1 => .failed (.sentinel ⟨"ECONNRESET", "connection reset by peer"⟩)

theorem broken_source_read_forever :
    ¬ ∃ fuel result, parseCSV ⟨id, fun _ _ _ => .ok ⟨"", 0, "", 0, none⟩⟩
      sampleJob
      (some [("external_id", some "id"), ("amount", some "amount"),
        ("currency", some "currency"), ("date", some "date")])
      100 (fun _ => UUID.zero) (fun _ store => (none, store)) fuel
      brokenSource () = some result := by
  rintro ⟨fuel, result, h⟩
  refine csvStep_not_returns (effectiveChunkSize_pos 100) ?_ ?_ result ⟨fuel, h⟩
  · intro count
    simp [brokenSource]
  · intro count
    exact (rowChunker _ _ _).stream_of_accepting (fun _ _ => rfl) _ _ _

end Matcher.Ingestion
