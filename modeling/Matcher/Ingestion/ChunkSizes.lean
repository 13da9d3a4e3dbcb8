import Matcher.Ingestion.CsvParser
import Matcher.Ingestion.JsonParser
import Matcher.Ingestion.XmlParser

/-!
# Parsing does not depend on the chunk size

The parsers are run with a callback that keeps the chunks.  What they hand over is
the list of the records of the file, cut into chunks; only a file whose reading
fails loses the chunk that was pending, since an error ends the parsing at once.
-/

namespace Matcher.Ingestion

open Foundation

inductive Input (υ : Type) : Type 1
  | csv (source : CsvSource) (hend : ∃ reads, source.read reads = .eof)
  | json (decoder : JsonDecoder υ) (start : decoder.State)
  | xml (source : ℕ → XmlRead) (hend : ∃ final, ∀ value, source final ≠ .token value)

section Parse

variable {υ σ : Type} (normalizer : Normalizer υ) (job : IngestionJob)
  (fieldMap : Option FieldMapEntries)

def Input.parse (input : Input υ) (chunkSize : ℤ) (newID : ℕ → UUID)
    (callback : StreamState → σ → Option GoError × σ) (fuel : ℕ) (store : σ) :
    Option (ParseOutcome σ) :=
  match input with
  | .csv source _ => parseCSV normalizer job fieldMap chunkSize newID callback fuel source store
  | .json decoder start =>
    parseJSON normalizer job fieldMap chunkSize newID callback fuel decoder start store
  | .xml source _ => parseXML normalizer job fieldMap chunkSize newID callback fuel source store

theorem Input.parse_readsAs (input : Input υ) :
    ∃ file, ReadsAs (fun chunkSize newID callback fuel (store : σ) =>
      input.parse normalizer job fieldMap chunkSize newID callback fuel store)
      job file := by
  cases input with
  | csv _ hend => exact parseCSV_readsAs normalizer job fieldMap hend
  | json _ start => exact parseJSON_readsAs normalizer job fieldMap start
  | xml _ hend => exact parseXML_readsAs normalizer job fieldMap hend

end Parse

/-! ## The chunks that are handed over -/

def collectChunks (stream : StreamState) (chunks : List (List IngestedTransaction)) :
    Option GoError × List (List IngestedTransaction) :=
  (none, chunks ++ [stream.chunk])

theorem runAll_collectChunks (streams : List StreamState)
    (chunks : List (List IngestedTransaction)) :
    runAll (flushChunk collectChunks) streams chunks =
      (none, chunks ++ streams.map StreamState.chunk) := by
  induction streams generalizing chunks with
  | nil => simp [runAll]
  | cons _ _ ih =>
    simp only [runAll, flushChunk, collectChunks]
    rw [ih]
    simp

def IngestedTransaction.withoutID (tx : IngestedTransaction) : IngestedTransaction :=
  { tx with id := UUID.zero }

def ParsedFile.transactions (file : ParsedFile) (job : IngestionJob) : List IngestedTransaction :=
  file.records.map (buildTransaction job UUID.zero)

theorem StreamState.addRow_length_le (job : IngestionJob) (newID : ℕ → UUID) (state : StreamState)
    (row : ParsedRow × ℕ) : (state.addRow job newID row).chunk.length ≤ state.chunk.length + 1 := by
  unfold StreamState.addRow
  cases row.1.record with
  | none => exact Nat.le_succ _
  | some => simp [StreamState.addRecord]

section Chunks

variable {chunkSize : ℕ} (hsize : 0 < chunkSize) (job : IngestionJob)
  (newID : ℕ → UUID) (file : ParsedFile)

include hsize in
theorem split_length (rows : List (ParsedRow × ℕ)) :
    (∀ state ∈ ((rowChunker chunkSize job newID).split rows .initial).1,
        state.chunk.length ≤ chunkSize) ∧
      ((rowChunker chunkSize job newID).split rows .initial).2.chunk.length <
        chunkSize := by
  refine (rowChunker chunkSize job newID).split_bounded
    (fun state => state.chunk.length < chunkSize)
    (fun state => state.chunk.length ≤ chunkSize) ?_ ?_ rows .initial hsize
  · intro state row _ hopen
    simpa [rowChunker] using hopen
  · intro state row hstate _
    exact ⟨(state.addRow_length_le job newID row).trans hstate, hsize⟩

include hsize in
theorem ParsedFile.chunks_length :
    ∀ state ∈ file.chunks chunkSize job newID, state.chunk.length ≤ chunkSize := by
  obtain ⟨hfull, hlast⟩ := split_length hsize job newID file.rows.zipIdx
  intro state hstate
  rcases ParsedFile.mem_chunks hstate with hstate | rfl
  · exact hfull state hstate
  · exact hlast.le

include hsize in
/-- Less than a chunk is lost, and nothing of a file that is read to its end. -/
theorem ParsedFile.chunks_transactions :
    ∃ lost, ((file.chunks chunkSize job newID).map
          StreamState.chunk).flatten.map IngestedTransaction.withoutID ++ lost =
        file.transactions job ∧
      lost.length < chunkSize ∧ (file.failure = none → lost = []) := by
  have hmap : ((file.chunks chunkSize job newID).flatMap fun state =>
      state.chunk.map IngestedTransaction.withoutID) ++ _ = file.transactions job :=
    file.chunks_map (fun _ _ => rfl) chunkSize newID
  rw [List.flatMap_def] at hmap
  rw [List.map_flatten, List.map_map]
  refine ⟨_, hmap, ?_, ?_⟩
  · split_ifs
    · exact hsize
    · rw [List.length_map]
      exact (split_length hsize job newID file.rows.zipIdx).2
  · intro hfailure
    rw [if_pos hfailure]

end Chunks

/-! ## The totals -/

structure Totals where
  totalRecords : ℕ
  totalErrors : ℕ
  dateRange : Option DateRange
deriving DecidableEq, Repr

def StreamingParseResult.totals (result : StreamingParseResult) : Totals :=
  ⟨result.totalRecords, result.totalErrors, result.dateRange⟩

def StreamState.totals (state : StreamState) : Totals :=
  ⟨state.result.totalRecords, state.result.totalErrors + state.chunkErrors.length,
    state.result.dateRange⟩

def Totals.addRow (totals : Totals) (row : ParsedRow × ℕ) : Totals :=
  match row.1.record with
  | none => { totals with totalErrors := totals.totalErrors + row.1.errors.length }
  | some record =>
    ⟨totals.totalRecords + 1, totals.totalErrors + row.1.errors.length,
      updateDateRange totals.dateRange record.date⟩

def ParsedFile.totals (file : ParsedFile) : Totals :=
  file.rows.zipIdx.foldl Totals.addRow ⟨0, 0, none⟩

theorem StreamState.addRow_totals (job : IngestionJob) (newID : ℕ → UUID) (state : StreamState)
    (row : ParsedRow × ℕ) : (state.addRow job newID row).totals = state.totals.addRow row := by
  unfold StreamState.addRow Totals.addRow
  cases row.1.record with
  | none | some => simp [StreamState.addRecord, StreamState.totals, Nat.add_assoc]

theorem ParsedFile.result_totals (file : ParsedFile) (chunkSize : ℕ) (job : IngestionJob)
    (newID : ℕ → UUID) : (file.result chunkSize job newID).totals = file.totals := by
  have hsplit := (rowChunker chunkSize job newID).split_value
    StreamState.totals Totals.addRow (StreamState.addRow_totals job newID)
    (fun _ => rfl) file.rows.zipIdx .initial
  refine Eq.trans ?_ hsplit
  unfold ParsedFile.result
  dsimp only
  split_ifs with hlast
  · rfl
  · -- a last chunk that is not handed over has no errors to count
    have hnil : ((rowChunker chunkSize job newID).split file.rows.zipIdx
        .initial).2.chunkErrors = [] := by
      by_contra herrors
      exact hlast (.inr herrors)
    simp [StreamingParseResult.totals, StreamState.totals, hnil]

/-! ## Any two chunk sizes -/

def ParsedFile.outcome (file : ParsedFile) : Except GoError Totals :=
  match file.failure with
  | some cause => .error cause
  | none => .ok file.totals

/-- What a parser answers with, and the chunks that it handed over, against an
outcome and a list of transactions that no chunk size is part of. -/
structure Delivers (outcome : Except GoError Totals) (transactions : List IngestedTransaction)
    (chunkSize : ℤ) (result : ParseOutcome (List (List IngestedTransaction))) : Prop where
  bounded : ∀ chunk ∈ result.2, (chunk.length : ℤ) ≤ chunkSize
  answer : result.1.map StreamingParseResult.totals = outcome
  handedOver : ∃ lost,
    result.2.flatten.map IngestedTransaction.withoutID ++ lost =
      transactions ∧ (lost.length : ℤ) < chunkSize ∧
      ((∃ totals, outcome = .ok totals) → lost = [])

theorem ParsedFile.delivers (file : ParsedFile) (job : IngestionJob)
    (newID : ℕ → UUID) {chunkSize : ℕ} (hsize : 0 < chunkSize) :
    Delivers file.outcome (file.transactions job) chunkSize
      (parseStreaming chunkSize job newID collectChunks file []) := by
  have hparse : parseStreaming chunkSize job newID collectChunks file [] =
      (match file.failure with
        | some cause => .error cause
        | none => .ok (file.result chunkSize job newID),
        (file.chunks chunkSize job newID).map StreamState.chunk) := by
    rw [parseStreaming_eq, runAll_collectChunks, List.nil_append]
    cases file.failure with
    | some | none => rfl
  rw [hparse]
  refine ⟨?_, ?_, ?_⟩
  · intro chunk hchunk
    obtain ⟨state, hstate, rfl⟩ := List.mem_map.mp hchunk
    exact Int.ofNat_le.mpr (file.chunks_length hsize job newID state hstate)
  · unfold ParsedFile.outcome
    cases file.failure with
    | some => rfl
    | none => exact congrArg Except.ok (file.result_totals chunkSize job newID)
  · obtain ⟨lost, hlost, hlength, hnil⟩ := file.chunks_transactions hsize job newID
    refine ⟨lost, hlost, Int.ofNat_lt.mpr hlength, ?_⟩
    rintro ⟨totals, htotals⟩
    apply hnil
    unfold ParsedFile.outcome at htotals
    cases hfailure : file.failure with
    | some =>
      rw [hfailure] at htotals
      cases htotals
    | none => rfl

/--
An input has one outcome and one list of transactions, up to their ids.  With every
chunk size they are what the parser answers with and what it hands over in chunks of
at most that size, apart from a pending chunk that a failed reading drops.
-/
theorem parse_delivers {υ : Type} (normalizer : Normalizer υ) (job : IngestionJob)
    (fieldMap : Option FieldMapEntries) (input : Input υ) :
    ∃ outcome transactions, ∀ chunkSize : ℤ, 0 < chunkSize →
      ∀ newID : ℕ → UUID, ∃ fuel result,
        input.parse normalizer job fieldMap chunkSize newID collectChunks fuel [] = some result ∧
          Delivers outcome transactions chunkSize result := by
  obtain ⟨file, hfile⟩ := input.parse_readsAs normalizer job fieldMap
  refine ⟨file.outcome, file.transactions job, ?_⟩
  intro chunkSize hsize newID
  obtain ⟨fuel, newID', hparse⟩ := hfile chunkSize newID collectChunks []
  refine ⟨fuel, _, hparse, ?_⟩
  have hdelivers := file.delivers job newID' (effectiveChunkSize_pos chunkSize)
  have heffective : ((effectiveChunkSize chunkSize : ℕ) : ℤ) = chunkSize := by
    rw [effectiveChunkSize, if_neg (by omega)]
    omega
  rwa [heffective] at hdelivers

/-- A record, and then the input breaks off. -/
def tornInput : Input String :=
  .xml
    (fun
      | 0 => .token (.startElement "transaction")
      | 1 => .token (.endElement "transaction")
      | _ + 2 => .failed (.sentinel ⟨"SyntaxError", "XML syntax error on line 1: unexpected EOF"⟩))
    ⟨2, by simp⟩

def acceptingNormalizer : Normalizer String :=
  ⟨id, fun _ _ _ => .ok ⟨"", 0, "", 0, none⟩⟩

def sampleFieldMap : Option FieldMapEntries :=
  some [("external_id", some "id"), ("amount", some "amount"),
    ("currency", some "currency"), ("date", some "date")]

theorem parse_delivers_torn :
    ∃ outcome transactions fuel result,
      tornInput.parse acceptingNormalizer sampleJob sampleFieldMap 2
          (fun _ => UUID.zero) collectChunks fuel [] = some result ∧
        Delivers outcome transactions 2 result := by
  obtain ⟨outcome, transactions, hdelivers⟩ := parse_delivers
    acceptingNormalizer sampleJob sampleFieldMap tornInput
  obtain ⟨fuel, result, hparse, hresult⟩ := hdelivers 2 (by decide) fun _ => UUID.zero
  exact ⟨outcome, transactions, fuel, result, hparse, hresult⟩

/-- Chunks of one hand the record over before the error, chunks of two do not. -/
theorem torn_chunks_differ :
    (tornInput.parse acceptingNormalizer sampleJob sampleFieldMap 1
        (fun _ => UUID.zero) collectChunks 3 []).map
        (fun result => result.2.flatten.length) = some 1 ∧
      (tornInput.parse acceptingNormalizer sampleJob sampleFieldMap 2
        (fun _ => UUID.zero) collectChunks 3 []).map
        (fun result => result.2.flatten.length) = some 0 := by
  decide +kernel

end Matcher.Ingestion
