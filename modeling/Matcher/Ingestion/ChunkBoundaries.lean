import Matcher.Ingestion.KeyFate

/-!
# Chunk boundaries

When no external id is repeated, what a run over chunks adds to the store is a
function of their transactions.  The streaming path, which cuts a file into chunks,
then stores what the other path stores, which does not.
-/

namespace Matcher.Ingestion

open Foundation
open Command (Fault)

variable {sha256Hex : String → String} {faults : ℕ → ChunkCall → Fault} {job : IngestionJob}
  {store : Store} {parser : Parser} {fieldMap : FieldMap} {newID : ℕ → UUID} {p : Processing}

theorem Store.filtered_of_nodup {contextID : UUID} {chunk : List IngestedTransaction}
    (hids : (chunkHashes sha256Hex chunk).Nodup) :
    (store.selection sha256Hex contextID chunk).filtered =
      chunk.filter fun tx => store.Fresh sha256Hex contextID tx.key := by
  rw [Store.selection, Store.marked, List.filter_filter]
  refine List.filter_congr fun tx htx => ?_
  have honce := List.count_eq_one_of_mem hids (List.mem_map_of_mem htx)
  have hfresh : store.Fresh sha256Hex contextID tx.key ↔
      ¬ store.HasRow tx.key ∧ store.Marks sha256Hex contextID chunk tx.key := by
    simp only [Store.Fresh, Store.Marks, honce, true_and, and_comm]
  rw [decide_eq_decide.mpr hfresh, Bool.decide_and]

/-- By induction over the chunks; an id of a later chunk is as fresh as it was before. -/
theorem ChunkRuns.rows_of_nodup {chunks : List (List IngestedTransaction)} {index : ℕ}
    {run : ChunkRun} (h : ChunkRuns sha256Hex faults job chunks index store run)
    (hids : (chunkHashes sha256Hex chunks.flatten).Nodup) (hsuccess : run.failure = none) :
    run.store.transactions.rows = store.transactions.rows ++
      chunks.flatten.filter fun tx => store.Fresh sha256Hex job.contextID tx.key := by
  induction h with
  | nil => exact (List.append_nil _).symm
  | stop => cases hsuccess
  | next _ heffect hchunk _ ih =>
    rw [List.flatten_cons, chunkHashes, List.map_append] at hids
    rw [ih hids.of_append_right hsuccess, heffect.rows_of_success hchunk,
      Store.filtered_of_nodup hids.of_append_left, List.flatten_cons, List.filter_append,
      List.append_assoc]
    congr 2
    refine List.filter_congr fun tx htx => decide_eq_decide.mpr ?_
    rw [heffect.fresh_iff hchunk]
    exact and_iff_left fun hhash =>
      List.disjoint_of_nodup_append hids hhash (List.mem_map_of_mem htx)

/-- What a row adds, under the id of its position in the file. -/
def rowTransactions (job : IngestionJob) (newID : ℕ → UUID) (row : ParsedRow × ℕ) :
    List IngestedTransaction :=
  (row.1.record.map (buildTransaction job (newID row.2))).toList

theorem StreamState.addRow_chunk (state : StreamState) (row : ParsedRow × ℕ) :
    (state.addRow job newID row).chunk = state.chunk ++ rowTransactions job newID row := by
  unfold StreamState.addRow rowTransactions
  cases row.1.record with
  | none | some => simp [StreamState.addRecord]

theorem ParsedFile.whole_chunk (file : ParsedFile) :
    (file.whole job newID).chunk = file.rows.zipIdx.flatMap (rowTransactions job newID) := by
  have hfold : ∀ (rows : List (ParsedRow × ℕ)) (state : StreamState),
      (rows.foldl (StreamState.addRow job newID) state).chunk =
        state.chunk ++ rows.flatMap (rowTransactions job newID) := by
    intro rows
    induction rows with
    | nil => simp
    | cons _ _ ih => simp [ih, StreamState.addRow_chunk]
  exact hfold _ _

/-- Both paths hand over the same transactions, with the same ids. -/
theorem Parser.plan_flatten (hfailure : (parser.parse fieldMap).failure = none) :
    ((parser.plan job fieldMap newID).chunks.map StreamState.chunk).flatten =
      ((parser.parse fieldMap).whole job newID).chunk := by
  have hsplit := (rowChunker defaultChunkSize job newID).split_flatMap StreamState.chunk _
    StreamState.addRow_chunk (fun _ => rfl) (parser.parse fieldMap).rows.zipIdx .initial
  unfold Parser.plan ParsedFile.chunks
  rw [ParsedFile.whole_chunk, ← List.flatMap_def]
  dsimp only
  split_ifs with hstreaming hlast
  · simpa using hsplit
  · simp_all
  · simp [ParsedFile.whole_chunk]

/-- On either path a call that processes the whole file stores its fresh transactions,
in the file's order, and marks the keys of all of them. -/
theorem processing_stores_fresh
    (hids : (chunkHashes sha256Hex ((parser.parse fieldMap).whole job newID).chunk).Nodup)
    (h : processIngestionFile sha256Hex faults parser fieldMap newID ⟨.initial job, 0, store⟩ =
      (none, p)) :
    let transactions := ((parser.parse fieldMap).whole job newID).chunk
    p.store.transactions.rows = store.transactions.rows ++
        transactions.filter (fun tx => store.Fresh sha256Hex job.contextID tx.key) ∧
      p.store.dedupeKeys =
        store.dedupeKeys ∪ keysOf job.contextID (chunkHashes sha256Hex transactions) := by
  rw [processIngestionFile_eq] at h
  have hprocessed : Processed _ job (runChunks sha256Hex faults job _ 0 store) (none, p) :=
    h ▸ (parser.plan job fieldMap newID).run_processed (fun _ => Parser.plan_text_ne) job store
  obtain ⟨hrun, totals, hending⟩ := hprocessed.succeeds rfl
  rw [← Parser.plan_flatten (Parser.failure_of_ending hending)] at hids ⊢
  dsimp only
  have hruns := runChunks_runs sha256Hex faults job
    ((parser.plan job fieldMap newID).chunks.map StreamState.chunk) 0 store
  rw [hprocessed.store, hruns.keys_of_success hrun, chunkHashes, List.map_flatten,
    ← List.flatMap_def]
  exact ⟨hruns.rows_of_nodup hids hrun, rfl⟩

theorem processing_stores_fresh_streamed :
    let file := sampleFile ["A", "B"]
    let newID := (sampleUpload []).newID
    let result := processIngestionFile id (fun _ _ => none) ⟨true, fun _ => file⟩ [] newID
      ⟨.initial sampleJob, 0, emptyStore⟩
    result.2.store.dedupeKeys =
      emptyStore.dedupeKeys ∪
        keysOf sampleJob.contextID (chunkHashes id (file.whole sampleJob newID).chunk) := by
  intro file newID result
  have hnone : result.1 = none := by decide +kernel
  cases hresult : result with
  | mk =>
    rw [hresult] at hnone
    cases hnone
    exact (processing_stores_fresh (by decide +kernel) hresult).2

end Matcher.Ingestion
