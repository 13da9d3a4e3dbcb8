import Matcher.Foundation.SetOnce
import Matcher.Ingestion.Entities

/-!
# Deduplication of a chunk

A chunk of parsed transactions is checked against the stored rows, its hashes are
marked in the dedupe store, and what is new goes in with one insert.  The digest
of a text is a parameter.  Keys belong to one tenant, and their expiry is not
modelled.
-/

namespace Matcher.Ingestion

open Foundation
open Command (Fault attempt)

variable {store : Store} {transactions : List IngestedTransaction}
  {contextID : UUID} {job : IngestionJob}

/-! ## The dedupe service -/

def dedupeKeyPrefix : String := "matcher:dedupe"

def calculateHash (sha256Hex : String → String) (sourceID : UUID) (externalID : String) : String :=
  sha256Hex (sourceID.toText ++ ":" ++ externalID)

def buildKey (contextID : UUID) (hash : String) : String :=
  dedupeKeyPrefix ++ ":" ++ contextID.toText ++ ":" ++ hash

theorem buildKey_injective (contextID : UUID) : Function.Injective (buildKey contextID) := by
  intro first second h
  exact String.append_right_inj _ |>.mp h

def errBulkResultLength : GoError :=
  .sentinel ⟨"errBulkResultLength", "mark seen bulk returned wrong number of entries"⟩

/-- One for a key that was set, zero for one that was there before. -/
def markSeenBulkScript (keys : List String) (dedupeKeys : Finset String) : List ℤ × Finset String :=
  let (reports, dedupeKeys) := setEachOnce dedupeKeys keys
  (reports.map fun isNew => if isNew then 1 else 0, dedupeKeys)

/-- A lookup of a hash that is not in the map answers false. -/
def parseMarkSeenBulkResult (values : List ℤ) (hashes : List String) :
    Except GoError (String → Bool) :=
  if values.length ≠ hashes.length then
    .error (.wrap "%w: got %d want %d"
      [toString values.length, toString hashes.length] errBulkResultLength)
  else
    .ok fun hash =>
      (reportByItem hashes (values.map fun value => value = 1) hash).getD false

def Store.markSeenBulk (store : Store) (contextID : UUID) (hashes : List String) :
    Except GoError (String → Bool) × Store :=
  if hashes = [] then (.ok fun _ => false, store)
  else
    let (values, dedupeKeys) := markSeenBulkScript
      (hashes.map (buildKey contextID)) store.dedupeKeys
    (parseMarkSeenBulkResult values hashes, { store with dedupeKeys := dedupeKeys })

def Store.clearBatch (store : Store) (contextID : UUID) (hashes : List String) : Store :=
  { store with dedupeKeys := store.dedupeKeys \ (hashes.map (buildKey contextID)).toFinset }

theorem Store.markSeenBulk_eq (store : Store) (contextID : UUID) (hashes : List String) :
    ∃ markedByHash,
      store.markSeenBulk contextID hashes =
        (.ok markedByHash, { store with
          dedupeKeys := store.dedupeKeys ∪ (hashes.map (buildKey contextID)).toFinset }) ∧
      ∀ hash, markedByHash hash = true ↔
        buildKey contextID hash ∉ store.dedupeKeys ∧ hashes.count hash = 1 := by
  by_cases hhashes : hashes = []
  · subst hhashes
    exact ⟨fun _ => false, by simp [Store.markSeenBulk], by simp⟩
  · have hbool : ∀ isNew : Bool,
        decide ((if isNew then 1 else 0 : ℤ) = 1) = isNew := by decide
    refine ⟨fun hash => (reportByItem hashes (setEachOnce store.dedupeKeys
      (hashes.map (buildKey contextID))).1 hash).getD false, ?_, ?_⟩
    · rw [Store.markSeenBulk, if_neg hhashes]
      simp only [markSeenBulkScript, parseMarkSeenBulkResult, List.length_map,
        setEachOnce_length, setEachOnce_store, ne_eq, not_true_eq_false,
        ↓reduceIte, List.map_map, Function.comp_def, hbool, List.map_id']
    · intro hash
      rw [← reportByItem_setEachOnce (buildKey_injective contextID)]
      dsimp only
      cases reportByItem hashes (setEachOnce store.dedupeKeys
        (hashes.map (buildKey contextID))).1 hash with
      | none => simp
      | some report => simp

/-! ## The transaction table -/

def Store.HasRow (store : Store) (key : ExternalIDKey) : Prop :=
  key ∈ store.transactions.rows.map IngestedTransaction.key

instance (store : Store) (key : ExternalIDKey) : Decidable (store.HasRow key) :=
  inferInstanceAs (Decidable (_ ∈ _))

/-- The map holds the requested keys that a row has. -/
def Store.existsBulk (store : Store) (keys : List ExternalIDKey) (key : ExternalIDKey) : Bool :=
  key ∈ keys ∧ store.HasRow key

def Store.createBatch (store : Store) (transactions : List IngestedTransaction) :
    Except GoError Store :=
  match store.transactions.insertAll transactions with
  | none =>
    .error (.wrap "failed to create batch: %w" []
      (.wrap "failed to execute statement: %w" [] Command.errDuplicateKey))
  | some table => .ok { store with transactions := table }

theorem Store.createBatch_eq_ok {store' : Store} (h : store.createBatch transactions = .ok store') :
    ∃ table, store.transactions.insertAll transactions = some table ∧
      store' = { store with transactions := table } := by
  unfold Store.createBatch at h
  split at h
  · cases h
  next table htable =>
  exact ⟨table, htable, (Except.ok.inj h).symm⟩

/-! ## One chunk -/

inductive ChunkCall
  | existsBulk
  | markSeenBulk
  | createBatch
deriving DecidableEq, Repr

variable {faults : ChunkCall → Fault}

structure ChunkOutcome where
  inserted : ℕ
  markedHashes : List String
  failure : Option GoError
  store : Store

structure Selection where
  markedHashes : List String
  filtered : List IngestedTransaction

section

variable (sha256Hex : String → String)

def ExternalIDKey.hash (key : ExternalIDKey) : String :=
  calculateHash sha256Hex key.sourceID key.externalID

/-- A hash that was there before is a duplicate; a stored row is left out. -/
def selectChunk (transactions : List IngestedTransaction) (existsMap : ExternalIDKey → Bool)
    (markedByHash : String → Bool) : Selection :=
  let marked := transactions.filter fun tx =>
    markedByHash (tx.key.hash sha256Hex)
  { markedHashes := marked.map fun tx => tx.key.hash sha256Hex
    filtered := marked.filter fun tx => !existsMap tx.key }

/-- The marked hashes are returned with the error as well. -/
def insertSelection (fault : Fault) (selection : Selection) (store : Store) : ChunkOutcome :=
  if 0 < selection.filtered.length then
    match attempt fault (store.createBatch selection.filtered) with
    | .error cause =>
      ⟨0, selection.markedHashes, some (.wrap "failed to insert transactions: %w" [] cause), store⟩
    | .ok store => ⟨selection.filtered.length, selection.markedHashes, none, store⟩
  else ⟨selection.filtered.length, selection.markedHashes, none, store⟩

def markChunk (fault : Fault) (job : IngestionJob) (transactions : List IngestedTransaction)
    (store : Store) : Except GoError (String → Bool) × Store :=
  match fault with
  | some cause => (.error cause, store)
  | none => store.markSeenBulk job.contextID (transactions.map fun tx => tx.key.hash sha256Hex)

def filterAndInsertChunk (faults : ChunkCall → Fault) (job : IngestionJob)
    (transactions : List IngestedTransaction) (store : Store) : ChunkOutcome :=
  if transactions = [] then ⟨0, [], none, store⟩
  else
    match attempt (faults .existsBulk)
        (.ok (store.existsBulk (transactions.map IngestedTransaction.key))) with
    | .error cause =>
      ⟨0, [], some (.wrap "failed to check existing transactions: %w" [] cause), store⟩
    | .ok existsMap =>
      match markChunk sha256Hex (faults .markSeenBulk) job transactions store with
      | (.error cause, store) =>
        ⟨0, [], some (.wrap "failed to mark transactions seen: %w" [] cause), store⟩
      | (.ok markedByHash, store) =>
        insertSelection (faults .createBatch)
          (selectChunk sha256Hex transactions existsMap markedByHash) store

/-! ## What a chunk does -/

def chunkHashes (transactions : List IngestedTransaction) : List String :=
  transactions.map fun tx => tx.key.hash sha256Hex

def chunkKeys (contextID : UUID) (transactions : List IngestedTransaction) : List String :=
  (chunkHashes sha256Hex transactions).map (buildKey contextID)

def Store.Marks (store : Store) (contextID : UUID)
    (transactions : List IngestedTransaction) (key : ExternalIDKey) : Prop :=
  buildKey contextID (key.hash sha256Hex) ∉ store.dedupeKeys ∧
    (chunkHashes sha256Hex transactions).count (key.hash sha256Hex) = 1

instance (store : Store) (contextID : UUID)
    (transactions : List IngestedTransaction) (key : ExternalIDKey) :
    Decidable (store.Marks sha256Hex contextID transactions key) :=
  inferInstanceAs (Decidable (_ ∧ _))

def Store.marked (store : Store) (contextID : UUID) (transactions : List IngestedTransaction) :
    List IngestedTransaction :=
  transactions.filter fun tx =>
    store.Marks sha256Hex contextID transactions tx.key

def Store.selection (store : Store) (contextID : UUID) (transactions : List IngestedTransaction) :
    Selection where
  markedHashes :=
    chunkHashes sha256Hex (store.marked sha256Hex contextID transactions)
  filtered := (store.marked sha256Hex contextID transactions).filter fun tx => ¬ store.HasRow tx.key

def Store.afterMarking (store : Store) (contextID : UUID)
    (transactions : List IngestedTransaction) : Store :=
  { store with
    dedupeKeys := store.dedupeKeys ∪ (chunkKeys sha256Hex contextID transactions).toFinset }

theorem selectChunk_eq {markedByHash : String → Bool} (h : ∀ hash, markedByHash hash = true ↔
      buildKey contextID hash ∉ store.dedupeKeys ∧
        (chunkHashes sha256Hex transactions).count hash = 1) :
    selectChunk sha256Hex transactions
        (store.existsBulk (transactions.map IngestedTransaction.key))
        markedByHash =
      store.selection sha256Hex contextID transactions := by
  have hmarked : (transactions.filter fun tx =>
      markedByHash (tx.key.hash sha256Hex)) = store.marked sha256Hex contextID transactions :=
    List.filter_congr fun tx _ => by
      rw [Bool.eq_iff_iff, h, decide_eq_true_iff, Store.Marks]
  have hfiltered : ((store.marked sha256Hex contextID transactions).filter
      fun tx => !store.existsBulk (transactions.map IngestedTransaction.key) tx.key) =
        (store.selection sha256Hex contextID transactions).filtered := by
    refine List.filter_congr fun tx htx => ?_
    have hmem : tx.key ∈ transactions.map IngestedTransaction.key :=
      List.mem_map_of_mem (List.mem_of_mem_filter htx)
    by_cases hrow : store.HasRow tx.key <;> simp [Store.existsBulk, hmem, hrow]
  unfold selectChunk
  dsimp only
  rw [hmarked, hfiltered]
  rfl

theorem filterAndInsertChunk_eq (hchunk : transactions ≠ []) (hexists : faults .existsBulk = none)
    (hmark : faults .markSeenBulk = none) (job : IngestionJob) (store : Store) :
    filterAndInsertChunk sha256Hex faults job transactions store =
      insertSelection (faults .createBatch) (store.selection sha256Hex job.contextID transactions)
        (store.afterMarking sha256Hex job.contextID transactions) := by
  obtain ⟨markedByHash, hmarked, hreport⟩ :=
    store.markSeenBulk_eq job.contextID (chunkHashes sha256Hex transactions)
  have hcall : markChunk sha256Hex none job transactions store =
      (.ok markedByHash, store.afterMarking sha256Hex job.contextID transactions) := hmarked
  unfold filterAndInsertChunk
  rw [if_neg hchunk, hexists, hmark, hcall]
  dsimp only [attempt]
  rw [selectChunk_eq sha256Hex hreport]

theorem Store.Marks.count_le_one {key : ExternalIDKey}
    (h : store.Marks sha256Hex contextID transactions key) :
    (transactions.map IngestedTransaction.key).count key ≤ 1 := by
  calc (transactions.map IngestedTransaction.key).count key
      ≤ ((transactions.map IngestedTransaction.key).map
          (ExternalIDKey.hash sha256Hex)).count (key.hash sha256Hex) :=
        List.count_le_count_map
    _ = (chunkHashes sha256Hex transactions).count (key.hash sha256Hex) := by
        rw [chunkHashes, List.map_map]; rfl
    _ = 1 := h.2

theorem Store.mem_filtered {tx : IngestedTransaction} :
    tx ∈ (store.selection sha256Hex contextID transactions).filtered ↔
      tx ∈ transactions ∧
        store.Marks sha256Hex contextID transactions tx.key ∧
        ¬ store.HasRow tx.key := by
  simp only [Store.selection, Store.marked, List.mem_filter, decide_eq_true_eq, and_assoc]

theorem Store.key_mem_filtered {key : ExternalIDKey} :
    key ∈ (store.selection sha256Hex contextID transactions).filtered.map
        IngestedTransaction.key ↔
      key ∈ transactions.map IngestedTransaction.key ∧
        store.Marks sha256Hex contextID transactions key ∧ ¬ store.HasRow key := by
  constructor
  · intro h
    obtain ⟨tx, htx, rfl⟩ := List.mem_map.mp h
    obtain ⟨hchunk, hmarks⟩ := (Store.mem_filtered sha256Hex).mp htx
    exact ⟨List.mem_map_of_mem hchunk, hmarks⟩
  · rintro ⟨hkey, hmarks⟩
    obtain ⟨tx, htx, rfl⟩ := List.mem_map.mp hkey
    exact List.mem_map_of_mem ((Store.mem_filtered sha256Hex).mpr ⟨htx, hmarks⟩)

theorem Store.count_filtered (store : Store) (contextID : UUID)
    (transactions : List IngestedTransaction) (key : ExternalIDKey) :
    ((store.selection sha256Hex contextID transactions).filtered.map
        IngestedTransaction.key).count key =
      if key ∈ transactions.map IngestedTransaction.key ∧
          store.Marks sha256Hex contextID transactions key ∧
          ¬ store.HasRow key then 1 else 0 := by
  have hsublist : ((store.selection sha256Hex contextID
      transactions).filtered.map IngestedTransaction.key).Sublist
        (transactions.map IngestedTransaction.key) :=
    (List.filter_sublist.trans List.filter_sublist).map _
  split
  case isTrue h =>
    have hpos := List.count_pos_iff.mpr ((Store.key_mem_filtered sha256Hex).mpr h)
    have hle := (hsublist.count_le key).trans (Store.Marks.count_le_one sha256Hex h.2.1)
    omega
  case isFalse h =>
    exact List.count_eq_zero.mpr fun hkey => h ((Store.key_mem_filtered sha256Hex).mp hkey)

theorem Store.insertAll_filtered (store : Store) (contextID : UUID)
    (transactions : List IngestedTransaction) :
    ∃ table, store.transactions.insertAll
        (store.selection sha256Hex contextID transactions).filtered =
      some table := by
  have hnodup : ((store.selection sha256Hex contextID
      transactions).filtered.map IngestedTransaction.key).Nodup := by
    refine List.nodup_iff_count_le_one.mpr fun key => ?_
    rw [Store.count_filtered]
    split
    · exact le_refl 1
    · exact Nat.zero_le 1
  have hdisjoint : (store.transactions.rows.map
      IngestedTransaction.key).Disjoint
        ((store.selection sha256Hex contextID transactions).filtered.map
          IngestedTransaction.key) := by
    intro key hstored hselected
    obtain ⟨tx, htx, rfl⟩ := List.mem_map.mp hselected
    exact ((Store.mem_filtered sha256Hex).mp htx).2.2 hstored
  unfold Table.insertAll
  rw [dif_pos (by
    rw [List.map_append]
    exact store.transactions.nodup.append hnodup hdisjoint)]
  exact ⟨_, rfl⟩

/--
Everything a chunk can do: a fault before the marking leaves the store alone, and
a fault of the insert leaves the hashes marked.
-/
inductive ChunkEffect (faults : ChunkCall → Fault) (job : IngestionJob)
    (transactions : List IngestedTransaction) (store : Store) :
    ChunkOutcome → Prop
  | empty (hchunk : transactions = []) :
      ChunkEffect faults job transactions store ⟨0, [], none, store⟩
  | unmarked (cause : GoError) (htext : trimSpace cause.text ≠ "") (hchunk : transactions ≠ [])
      (hfault : faults .existsBulk ≠ none ∨ faults .markSeenBulk ≠ none) :
      ChunkEffect faults job transactions store ⟨0, [], some cause, store⟩
  | refused (cause : GoError) (htext : trimSpace cause.text ≠ "") (hchunk : transactions ≠ [])
      (hexists : faults .existsBulk = none)
      (hmark : faults .markSeenBulk = none)
      (hcreate : faults .createBatch ≠ none)
      (hfiltered : (store.selection sha256Hex job.contextID transactions).filtered ≠ []) :
      ChunkEffect faults job transactions store
        ⟨0, (store.selection sha256Hex job.contextID transactions).markedHashes,
          some cause, store.afterMarking sha256Hex job.contextID transactions⟩
  | stored (table : Table IngestedTransaction.key) (hchunk : transactions ≠ [])
      (hexists : faults .existsBulk = none)
      (hmark : faults .markSeenBulk = none)
      (hcreate : (store.selection sha256Hex job.contextID
        transactions).filtered = [] ∨ faults .createBatch = none)
      (htable : store.transactions.insertAll
        (store.selection sha256Hex job.contextID transactions).filtered = some table) :
      ChunkEffect faults job transactions store
        ⟨(store.selection sha256Hex job.contextID transactions).filtered.length,
          (store.selection sha256Hex job.contextID transactions).markedHashes,
          none,
          { store.afterMarking sha256Hex job.contextID transactions with transactions := table }⟩

theorem insertSelection_cases (fault : Fault) (selection : Selection) (store : Store) :
    ((insertSelection fault selection store).failure ≠ none ∧
        (insertSelection fault selection store).store = store) ∨
      ((insertSelection fault selection store).failure = none ∧
        (insertSelection fault selection store).store.transactions.rows =
          store.transactions.rows ++ selection.filtered) := by
  unfold insertSelection
  split
  case isTrue =>
    cases hcreate : attempt fault (store.createBatch selection.filtered) with
    | error => exact .inl ⟨nofun, rfl⟩
    | ok =>
      obtain ⟨table, htable, rfl⟩ := Store.createBatch_eq_ok (Command.attempt_eq_ok.mp hcreate).2
      exact .inr ⟨rfl, (Table.insertAll_eq_some htable).1⟩
  case isFalse hlength =>
    have hnil : selection.filtered = [] :=
      List.length_eq_zero_iff.mp (Nat.eq_zero_of_not_pos hlength)
    exact .inr ⟨rfl, by rw [hnil, List.append_nil]⟩

theorem insertSelection_effect (hchunk : transactions ≠ [])
    (hexists : faults .existsBulk = none) (hmark : faults .markSeenBulk = none) :
    ChunkEffect sha256Hex faults job transactions store
      (insertSelection (faults .createBatch) (store.selection sha256Hex job.contextID transactions)
        (store.afterMarking sha256Hex job.contextID transactions)) := by
  obtain ⟨table, htable⟩ := store.insertAll_filtered sha256Hex job.contextID transactions
  unfold insertSelection
  split
  case isFalse hlength =>
    have hnil : (store.selection sha256Hex job.contextID transactions).filtered = [] :=
      List.length_eq_zero_iff.mp (Nat.eq_zero_of_not_pos hlength)
    have hsame : table = store.transactions := by
      rw [hnil, Table.insertAll_nil] at htable
      exact (Option.some.inj htable).symm
    subst hsame
    exact .stored _ hchunk hexists hmark (.inl hnil) htable
  case isTrue hlength =>
    have hcreated : (store.afterMarking sha256Hex job.contextID
        transactions).createBatch (store.selection sha256Hex job.contextID transactions).filtered =
        .ok { store.afterMarking sha256Hex job.contextID transactions with
          transactions := table } := by
      rw [Store.createBatch, Store.afterMarking]
      dsimp only
      rw [htable]
    cases hcreate : faults .createBatch with
    | none =>
      rw [attempt, hcreated]
      exact .stored table hchunk hexists hmark (.inr hcreate) htable
    | some =>
      exact .refused _ (trimSpace_text_wrap rfl (by decide) rfl _ _) hchunk
        hexists hmark (by simp [hcreate]) (List.ne_nil_of_length_pos hlength)

theorem filterAndInsertChunk_effect (faults : ChunkCall → Fault) (job : IngestionJob)
    (transactions : List IngestedTransaction) (store : Store) :
    ChunkEffect sha256Hex faults job transactions store
      (filterAndInsertChunk sha256Hex faults job transactions store) := by
  by_cases hchunk : transactions = []
  · rw [filterAndInsertChunk, if_pos hchunk]
    exact .empty hchunk
  cases hexists : faults .existsBulk with
  | some =>
    rw [filterAndInsertChunk, if_neg hchunk, hexists]
    exact .unmarked _ (trimSpace_text_wrap rfl (by decide) rfl _ _) hchunk
      (.inl (by simp [hexists]))
  | none =>
    cases hmark : faults .markSeenBulk with
    | some =>
      rw [filterAndInsertChunk, if_neg hchunk, hexists, hmark]
      exact .unmarked _ (trimSpace_text_wrap rfl (by decide) rfl _ _) hchunk
        (.inr (by simp [hmark]))
    | none =>
      rw [filterAndInsertChunk_eq sha256Hex hchunk hexists hmark]
      exact insertSelection_effect sha256Hex hchunk hexists hmark

/-! ## What a successful chunk inserts -/

/-- The key is neither marked in the dedupe store nor in the database. -/
def Store.Fresh (store : Store) (contextID : UUID) (key : ExternalIDKey) : Prop :=
  buildKey contextID (key.hash sha256Hex) ∉ store.dedupeKeys ∧ ¬ store.HasRow key

instance (store : Store) (contextID : UUID) (key : ExternalIDKey) :
    Decidable (store.Fresh sha256Hex contextID key) :=
  inferInstanceAs (Decidable (_ ∧ _))

/-- Each fresh key of the chunk got one row, and no other key got one. -/
def InsertsFreshOnce (contextID : UUID)
    (transactions : List IngestedTransaction) (store store' : Store) : Prop :=
  ∃ added, store'.transactions.rows = store.transactions.rows ++ added ∧
    ∀ key, (added.map IngestedTransaction.key).count key =
      if key ∈ transactions.map IngestedTransaction.key ∧
          store.Fresh sha256Hex contextID key then 1 else 0

variable {sha256Hex} in
theorem ChunkEffect.rows_of_success {outcome : ChunkOutcome}
    (heffect : ChunkEffect sha256Hex faults job transactions store outcome)
    (h : outcome.failure = none) :
    outcome.store.transactions.rows = store.transactions.rows ++
      (store.selection sha256Hex job.contextID transactions).filtered := by
  cases heffect with
  | empty hchunk => simp [hchunk, Store.selection, Store.marked]
  | unmarked | refused => cases h
  | stored _ _ _ _ _ htable => exact (Table.insertAll_eq_some htable).1

/--
A repeated hash is reported as new by its first mention and as known by its last,
so none of its rows is kept.
-/
theorem chunk_inserts_fresh_once_iff {faults : ChunkCall → Fault} {job : IngestionJob}
    {transactions : List IngestedTransaction} {store : Store}
    (h : (filterAndInsertChunk sha256Hex faults job transactions store).failure = none) :
    InsertsFreshOnce sha256Hex job.contextID transactions store
        (filterAndInsertChunk sha256Hex faults job transactions store).store ↔
      ∀ tx ∈ transactions, store.Fresh sha256Hex job.contextID tx.key →
        (chunkHashes sha256Hex transactions).count (tx.key.hash sha256Hex) = 1 := by
  have hrows := (filterAndInsertChunk_effect sha256Hex _ _ _ _).rows_of_success h
  constructor
  · rintro ⟨added, hadded, hcount⟩ tx htx hfresh
    have hselection : added = (store.selection sha256Hex job.contextID transactions).filtered :=
      List.append_cancel_left (hadded.symm.trans hrows)
    have hone := hcount tx.key
    rw [if_pos ⟨List.mem_map_of_mem htx, hfresh⟩, hselection, Store.count_filtered] at hone
    split at hone
    case isTrue hmarks => exact hmarks.2.1.2
    case isFalse => cases hone
  · intro honce
    refine ⟨_, hrows, fun key => ?_⟩
    rw [Store.count_filtered]
    refine if_congr (and_congr_right fun hkey => ?_) rfl rfl
    obtain ⟨tx, htx, rfl⟩ := List.mem_map.mp hkey
    constructor
    · rintro ⟨hmarks, hrow⟩
      exact ⟨hmarks.1, hrow⟩
    · intro hfresh
      exact ⟨⟨hfresh.1, honce tx htx hfresh⟩, hfresh.2⟩

end

/-! ## A chunk with a repeated external id -/

def emptyStore : Store where
  transactions := Table.empty _
  jobs := Table.empty _
  dedupeKeys := ∅
  outbox := []

def sampleJob : IngestionJob where
  id := ⟨1⟩
  contextID := ⟨2⟩
  sourceID := ⟨3⟩
  status := .processing
  metadata := ⟨"file.csv", 10, 0, 0, "", []⟩

def sampleTransaction (externalID : String) : IngestedTransaction :=
  { Command.plainTransaction ⟨4⟩ 10 with
    sourceID := sampleJob.sourceID
    externalID := externalID
    ingestionJobID := sampleJob.id }

theorem chunk_inserts_fresh_once_pair :
    InsertsFreshOnce id sampleJob.contextID
      [sampleTransaction "A", sampleTransaction "B"] emptyStore
      (filterAndInsertChunk id (fun _ => none) sampleJob
        [sampleTransaction "A", sampleTransaction "B"] emptyStore).store :=
  (chunk_inserts_fresh_once_iff id (by decide +kernel)).mpr (by decide +kernel)

theorem repeated_external_id_not_inserted :
    (filterAndInsertChunk id (fun _ => none) sampleJob
        [sampleTransaction "A", sampleTransaction "A"] emptyStore).failure =
      none ∧
    ¬ InsertsFreshOnce id sampleJob.contextID
      [sampleTransaction "A", sampleTransaction "A"] emptyStore
      (filterAndInsertChunk id (fun _ => none) sampleJob
        [sampleTransaction "A", sampleTransaction "A"] emptyStore).store := by
  refine ⟨by decide +kernel, ?_⟩
  rintro ⟨added, hadded, hcount⟩
  have hrows : (filterAndInsertChunk id (fun _ => none) sampleJob
      [sampleTransaction "A", sampleTransaction "A"]
      emptyStore).store.transactions.rows = [] := by decide +kernel
  have hnil : added = [] := by
    rw [hrows] at hadded
    exact (List.append_eq_nil_iff.mp hadded.symm).2
  have hone := hcount (sampleTransaction "A").key
  rw [hnil, if_pos (by decide +kernel)] at hone
  cases hone

end Matcher.Ingestion
