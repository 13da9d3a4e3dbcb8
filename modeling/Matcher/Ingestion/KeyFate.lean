import Matcher.Ingestion.KeyCleanup

/-!
# What a run over the chunks makes of a key

The first chunk that has the hash of a key decides, if the run reaches it.  The chunk
inserts a row for the key, or marks its hash without a row, or fails before it marks
anything.  Later chunks find the hash marked and leave the key as it is.
-/

namespace Matcher.Ingestion

open Foundation
open Command (Fault)

variable {sha256Hex : String → String} {chunkFaults : ChunkCall → Fault}
  {faults : ℕ → ChunkCall → Fault} {job : IngestionJob} {chunk : List IngestedTransaction}
  {chunks : List (List IngestedTransaction)} {index : ℕ} {store : Store} {outcome : ChunkOutcome}
  {run : ChunkRun} {key : ExternalIDKey} {streaming : Bool}

section

variable (sha256Hex)

/-- The first chunk that has the hash of the key has it on one row only. -/
def FirstChunkHasOnce (key : ExternalIDKey) : List (List IngestedTransaction) → Prop
  | [] => False
  | chunk :: rest =>
    if key.hash sha256Hex ∈ chunkHashes sha256Hex chunk then
      key ∈ chunk.map IngestedTransaction.key ∧
        (chunkHashes sha256Hex chunk).count (key.hash sha256Hex) = 1
    else FirstChunkHasOnce key rest

instance decidableFirstChunkHasOnce (key : ExternalIDKey) :
    ∀ chunks, Decidable (FirstChunkHasOnce sha256Hex key chunks)
  | [] => isFalse id
  | _ :: rest =>
    have := decidableFirstChunkHasOnce key rest
    inferInstanceAs (Decidable (ite _ _ _))

/-- What becomes of a key that was fresh. -/
inductive Fate
  | untouched
  /-- The hash is marked and there is no row; the flag says whether the call will clear it. -/
  | marked (recorded : Bool)
  | inserted
deriving DecidableEq, Repr

variable (streaming) (key : ExternalIDKey)

/-- What a chunk that has the hash of the key does. -/
def chunkFate (chunkFaults : ChunkCall → Fault) (chunk : List IngestedTransaction)
    (failure : Option GoError) : Fate :=
  if chunkFaults .existsBulk ≠ none ∨ chunkFaults .markSeenBulk ≠ none then .untouched
  else
    let once := (chunkHashes sha256Hex chunk).count (key.hash sha256Hex) = 1
    if once ∧ failure = none ∧ key ∈ chunk.map IngestedTransaction.key then .inserted
    else .marked (once ∧ (failure = none ∨ streaming = false))

variable (faults job) in
def keyFate : List (List IngestedTransaction) → ℕ → Store → Fate
  | [], _, _ => .untouched
  | chunk :: rest, index, store =>
    let outcome := filterAndInsertChunk sha256Hex (faults index) job chunk store
    if key.hash sha256Hex ∈ chunkHashes sha256Hex chunk then
      chunkFate sha256Hex streaming key (faults index) chunk outcome.failure
    else if outcome.failure = none then keyFate rest (index + 1) outcome.store
    else .untouched

def Fate.Describes (contextID : UUID) (recorded : List String) (store : Store) : Fate → Prop
  | .untouched => store.Fresh sha256Hex contextID key
  | .marked isRecorded =>
    buildKey contextID (key.hash sha256Hex) ∈ store.dedupeKeys ∧ ¬ store.HasRow key ∧
      (key.hash sha256Hex ∈ recorded ↔ isRecorded = true)
  | .inserted => store.HasRow key

end

/-! ## One chunk -/

namespace ChunkEffect

variable (h : ChunkEffect sha256Hex chunkFaults job chunk store outcome)

include h

theorem rows_of_failure (hfailure : outcome.failure ≠ none) :
    outcome.store.transactions.rows = store.transactions.rows := by
  cases h with
  | empty | stored => exact absurd rfl hfailure
  | unmarked | refused => rfl

theorem calls_of_success (hsuccess : outcome.failure = none) (hne : chunk ≠ []) :
    chunkFaults .existsBulk = none ∧ chunkFaults .markSeenBulk = none := by
  cases h with
  | empty hchunk => exact absurd hchunk hne
  | unmarked | refused => cases hsuccess
  | stored _ _ hexists hmark => exact ⟨hexists, hmark⟩

theorem fresh_iff (hsuccess : outcome.failure = none) (key : ExternalIDKey) :
    outcome.store.Fresh sha256Hex job.contextID key ↔
      store.Fresh sha256Hex job.contextID key ∧
        key.hash sha256Hex ∉ chunkHashes sha256Hex chunk := by
  have hselected : key ∈ (store.selection sha256Hex job.contextID
      chunk).filtered.map IngestedTransaction.key →
        key.hash sha256Hex ∈ chunkHashes sha256Hex chunk := by
    intro hkey
    obtain ⟨tx, htx, rfl⟩ := List.mem_map.mp hkey
    exact List.mem_map_of_mem ((Store.mem_filtered sha256Hex).mp htx).1
  unfold Store.Fresh Store.HasRow
  rw [h.keys_of_success hsuccess, h.rows_of_success hsuccess, List.map_append,
    List.mem_append, Finset.mem_union, buildKey_mem_keysOf]
  tauto

variable (hfresh : store.Fresh sha256Hex job.contextID key)

include hfresh

theorem fresh (hhash : key.hash sha256Hex ∉ chunkHashes sha256Hex chunk) :
    outcome.store.Fresh sha256Hex job.contextID key := by
  have hsuccess := h.fresh_iff
  cases h with
  | empty | unmarked => exact hfresh
  | refused =>
    refine ⟨fun hkey => ?_, hfresh.2⟩
    exact (Finset.mem_union.mp hkey).elim hfresh.1 fun hset => hhash (buildKey_mem_keysOf.mp hset)
  | stored => exact (hsuccess rfl key).mpr ⟨hfresh, hhash⟩

theorem fate (streaming : Bool) (hhash : key.hash sha256Hex ∈ chunkHashes sha256Hex chunk) :
    (chunkFate sha256Hex streaming key chunkFaults chunk outcome.failure).Describes
      sha256Hex key job.contextID
      (if outcome.failure ≠ none ∧ streaming = true then [] else outcome.markedHashes)
      outcome.store := by
  have hset : buildKey job.contextID (key.hash sha256Hex) ∈
      (store.afterMarking sha256Hex job.contextID chunk).dedupeKeys :=
    Finset.mem_union_right _ (buildKey_mem_keysOf.mpr hhash)
  have hrecorded : key.hash sha256Hex ∈ (store.selection sha256Hex job.contextID
      chunk).markedHashes ↔ (chunkHashes sha256Hex chunk).count (key.hash sha256Hex) = 1 :=
    Store.mem_markedHashes.trans (and_iff_right hfresh.1)
  unfold chunkFate
  cases h with
  | empty hchunk => simp [hchunk, chunkHashes] at hhash
  | unmarked _ _ _ hfault =>
    rw [if_pos hfault]
    exact hfresh
  | refused _ _ _ hexists hmark =>
    simp only [hexists, hmark, ne_eq, not_true_eq_false, or_self, ↓reduceIte, reduceCtorEq,
      false_and, and_false, false_or, not_false_eq_true, true_and]
    refine ⟨hset, hfresh.2, ?_⟩
    cases streaming with
    | false => simp [hrecorded]
    | true => simp
  | stored table _ hexists hmark _ htable =>
    simp only [hexists, hmark, ne_eq, not_true_eq_false, or_self, ↓reduceIte, true_and, true_or,
      and_true, false_and]
    have hrow : key ∈ table.rows.map IngestedTransaction.key ↔
        (chunkHashes sha256Hex chunk).count (key.hash sha256Hex) = 1 ∧
          key ∈ chunk.map IngestedTransaction.key := by
      rw [(Table.insertAll_eq_some htable).1, List.map_append, List.mem_append,
        Store.key_mem_filtered, Store.Marks, and_iff_right hfresh.1, and_iff_left hfresh.2,
        and_comm]
      exact or_iff_right hfresh.2
    split_ifs with hinserted
    · exact hrow.mpr hinserted
    · exact ⟨hset, fun h => hinserted (hrow.mp h), by simp [hrecorded]⟩

end ChunkEffect

/-! ## The run -/

theorem Fate.Describes.append_left {fate : Fate} {contextID : UUID} {hashes recorded : List String}
    (h : fate.Describes sha256Hex key contextID recorded store)
    (hhash : key.hash sha256Hex ∉ hashes) :
    fate.Describes sha256Hex key contextID (hashes ++ recorded) store := by
  cases fate with
  | untouched | inserted => exact h
  | marked =>
    refine ⟨h.1, h.2.1, ?_⟩
    rw [List.mem_append, or_iff_right hhash]
    exact h.2.2

namespace ChunkRuns

variable (h : ChunkRuns sha256Hex faults job chunks index store run)

include h

/-- The rows that a run adds are of its chunks, and their hashes were not marked before it. -/
theorem added :
    ∃ added, run.store.transactions.rows = store.transactions.rows ++ added ∧
      ∀ tx ∈ added, (∃ chunk ∈ chunks, tx ∈ chunk) ∧
        buildKey job.contextID (tx.key.hash sha256Hex) ∉ store.dedupeKeys := by
  induction h with
  | nil => exact ⟨[], (List.append_nil _).symm, List.forall_mem_nil _⟩
  | stop _ heffect hfailure =>
    refine ⟨[], ?_, List.forall_mem_nil _⟩
    rw [heffect.rows_of_failure (by simp [hfailure]), List.append_nil]
  | @next chunk rest _ store _ _ _ heffect hsuccess _ ih =>
    obtain ⟨added, hadded, hnew⟩ := ih
    refine ⟨(store.selection sha256Hex job.contextID chunk).filtered ++ added, ?_, ?_⟩
    · rw [← List.append_assoc, ← heffect.rows_of_success hsuccess]
      exact hadded
    · intro tx htx
      rcases List.mem_append.mp htx with htx | htx
      · obtain ⟨hmem, hmarks, -⟩ := (Store.mem_filtered sha256Hex).mp htx
        exact ⟨⟨chunk, List.mem_cons_self, hmem⟩, hmarks.1⟩
      · obtain ⟨⟨other, hother, hmem⟩, hunset⟩ := hnew tx htx
        exact ⟨⟨other, List.mem_cons_of_mem _ hother, hmem⟩,
          fun hset => hunset (heffect.keys_subset hset)⟩

/-- A run does nothing to a key whose hash is marked. -/
theorem describes {fate : Fate} {recorded : List String}
    (hfate : fate.Describes sha256Hex key job.contextID recorded store)
    (hset : buildKey job.contextID (key.hash sha256Hex) ∈ store.dedupeKeys) :
    fate.Describes sha256Hex key job.contextID (recorded ++ run.recorded streaming) run.store := by
  obtain ⟨added, hrows, hadded⟩ := h.added
  have hrow : run.store.HasRow key ↔ store.HasRow key := by
    unfold Store.HasRow
    rw [hrows, List.map_append, List.mem_append]
    refine or_iff_left fun hkey => ?_
    obtain ⟨tx, htx, rfl⟩ := List.mem_map.mp hkey
    exact (hadded tx htx).2 hset
  cases fate with
  | untouched => exact absurd hset hfate.1
  | marked =>
    obtain ⟨-, hnone, hiff⟩ := hfate
    refine ⟨h.keys_subset hset, fun hkey => hnone (hrow.mp hkey), ?_⟩
    rw [List.mem_append, ← hiff]
    exact or_iff_left fun hhash => h.recorded_new streaming _ hhash hset
  | inserted => exact hrow.mpr hfate

theorem fate (streaming : Bool) (hfresh : store.Fresh sha256Hex job.contextID key) :
    (keyFate sha256Hex faults job streaming key chunks index store).Describes
      sha256Hex key job.contextID (run.recorded streaming) run.store := by
  induction h with
  | nil => exact hfresh
  | @stop chunk _ _ _ _ _ houtcome heffect hfailure =>
    rw [keyFate, houtcome, hfailure]
    by_cases hhash : key.hash sha256Hex ∈ chunkHashes sha256Hex chunk
    · have hfate := heffect.fate hfresh streaming hhash
      rw [hfailure] at hfate
      rw [if_pos hhash]
      simpa [ChunkRun.recorded] using hfate
    · rw [if_neg hhash]
      exact heffect.fresh hfresh hhash
  | @next chunk _ _ _ _ _ houtcome heffect hsuccess hrest ih =>
    rw [keyFate, houtcome, hsuccess, ChunkRun.recorded_next]
    by_cases hhash : key.hash sha256Hex ∈ chunkHashes sha256Hex chunk
    · have hfate := heffect.fate hfresh streaming hhash
      rw [hsuccess] at hfate
      rw [if_pos hhash]
      refine hrest.describes (by simpa using hfate) ?_
      rw [heffect.keys_of_success hsuccess]
      exact Finset.mem_union_right _ (buildKey_mem_keysOf.mpr hhash)
    · have hstill := heffect.fresh hfresh hhash
      rw [if_neg hhash, if_pos rfl]
      exact (ih hstill).append_left fun hmem => hstill.1 (heffect.marked_new _ hmem).2

theorem inserts (streaming : Bool) :
    ∃ added, run.store.transactions.rows = store.transactions.rows ++ added ∧
      (∀ tx ∈ added, ∃ chunk ∈ chunks, tx ∈ chunk) ∧
      ∀ key, key ∈ added.map IngestedTransaction.key ↔
        store.Fresh sha256Hex job.contextID key ∧
          keyFate sha256Hex faults job streaming key chunks index store = .inserted := by
  obtain ⟨added, hrows, hadded⟩ := h.added
  have hrow : ∀ key, run.store.HasRow key ↔
      store.HasRow key ∨ key ∈ added.map IngestedTransaction.key := by
    intro key
    rw [Store.HasRow, hrows, List.map_append, List.mem_append]
    rfl
  have hnodup := run.store.transactions.nodup
  rw [hrows, List.map_append] at hnodup
  refine ⟨added, hrows, fun tx htx => (hadded tx htx).1, fun key => ⟨fun hkey => ?_, ?_⟩⟩
  · have hfresh : store.Fresh sha256Hex job.contextID key := by
      refine ⟨?_, fun hold => List.disjoint_of_nodup_append hnodup hold hkey⟩
      obtain ⟨tx, htx, rfl⟩ := List.mem_map.mp hkey
      exact (hadded tx htx).2
    have hfate := h.fate streaming hfresh
    refine ⟨hfresh, ?_⟩
    -- only in the last case does the run leave a row
    generalize keyFate sha256Hex faults job streaming key chunks index store = fate at hfate ⊢
    cases fate with
    | untouched => exact absurd ((hrow key).mpr (.inr hkey)) hfate.2
    | marked => exact absurd ((hrow key).mpr (.inr hkey)) hfate.2.1
    | inserted => rfl
  · rintro ⟨hfresh, hcase⟩
    have hfate := h.fate streaming hfresh
    rw [hcase] at hfate
    exact ((hrow key).mp hfate).resolve_left hfresh.2

/-- A run that succeeds reaches the first chunk that has the hash. -/
theorem inserted_iff (hsuccess : run.failure = none) :
    keyFate sha256Hex faults job streaming key chunks index store = .inserted ↔
      FirstChunkHasOnce sha256Hex key chunks := by
  induction h with
  | nil => exact iff_of_false nofun id
  | stop => cases hsuccess
  | @next chunk _ _ _ _ _ houtcome heffect hchunk _ ih =>
    rw [keyFate, houtcome, hchunk, FirstChunkHasOnce, if_pos rfl]
    by_cases hhash : key.hash sha256Hex ∈ chunkHashes sha256Hex chunk
    · obtain ⟨hexists, hmark⟩ := heffect.calls_of_success hchunk (by rintro rfl; cases hhash)
      rw [if_pos hhash, if_pos hhash, chunkFate, if_neg (by simp [hexists, hmark])]
      dsimp only
      split_ifs with hinserted
      · exact iff_of_true rfl ⟨hinserted.2.2, hinserted.1⟩
      · exact iff_of_false nofun fun hkey => hinserted ⟨hkey.2, rfl, hkey.1⟩
    · rw [if_neg hhash, if_neg hhash]
      exact ih hsuccess

end ChunkRuns

end Matcher.Ingestion
