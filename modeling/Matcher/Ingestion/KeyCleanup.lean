import Matcher.Ingestion.Processing

/-!
# The dedupe keys of a call that fails

A call that fails clears the hashes it has recorded.  A hash that a chunk repeats
is marked without being recorded, the streaming path does not record the hashes
of a chunk whose insert fails, and a completion that is refused clears nothing.
The keys that a failing call leaves behind are exactly those.
-/

namespace Matcher.Ingestion

open Foundation
open Command (Fault)

def keysOf (contextID : UUID) (hashes : List String) : Finset String :=
  (hashes.map (buildKey contextID)).toFinset

theorem buildKey_mem_keysOf {contextID : UUID} {hashes : List String} {hash : String} :
    buildKey contextID hash ∈ keysOf contextID hashes ↔ hash ∈ hashes := by
  rw [keysOf, List.mem_toFinset, List.mem_map_of_injective (buildKey_injective contextID)]

theorem keysOf_append (contextID : UUID) (first second : List String) :
    keysOf contextID (first ++ second) = keysOf contextID first ∪ keysOf contextID second := by
  rw [keysOf, List.map_append, List.toFinset_append]
  rfl

section

variable {sha256Hex : String → String} {job : IngestionJob} {store : Store}

/-! ## One chunk -/

variable (sha256Hex job) in
/-- Each key that the chunk sets is recorded, and the record is not dropped. -/
def ReturnsKeys (streaming : Bool) (chunkFaults : ChunkCall → Fault)
    (chunk : List IngestedTransaction) (store : Store) : Prop :=
  chunkFaults .existsBulk = none → chunkFaults .markSeenBulk = none →
    (∀ tx ∈ chunk,
      buildKey job.contextID (tx.key.hash sha256Hex) ∉ store.dedupeKeys →
        (chunkHashes sha256Hex chunk).count (tx.key.hash sha256Hex) = 1) ∧
    (streaming = true →
      (store.selection sha256Hex job.contextID chunk).filtered = [] ∨
        chunkFaults .createBatch = none)

instance (streaming : Bool) (chunkFaults : ChunkCall → Fault)
    (chunk : List IngestedTransaction) (store : Store) :
    Decidable (ReturnsKeys sha256Hex job streaming chunkFaults chunk store) :=
  inferInstanceAs (Decidable (_ → _ → _ ∧ _))

theorem Store.mem_markedHashes {contextID : UUID}
    {chunk : List IngestedTransaction} {hash : String} :
    hash ∈ (store.selection sha256Hex contextID chunk).markedHashes ↔
      buildKey contextID hash ∉ store.dedupeKeys ∧
        (chunkHashes sha256Hex chunk).count hash = 1 := by
  simp only [Store.selection, chunkHashes, Store.marked, List.mem_map,
    List.mem_filter, decide_eq_true_eq]
  constructor
  · rintro ⟨tx, ⟨-, hmarks⟩, rfl⟩
    exact hmarks
  · rintro ⟨hnew, hcount⟩
    obtain ⟨tx, htx, rfl⟩ := List.mem_map.mp
      (List.count_pos_iff.mp (by rw [hcount]; exact Nat.one_pos))
    exact ⟨tx, ⟨htx, hnew, hcount⟩, rfl⟩

theorem Store.afterMarking_subset_iff (store : Store) (contextID : UUID)
    (chunk : List IngestedTransaction) :
    (store.afterMarking sha256Hex contextID chunk).dedupeKeys \
        keysOf contextID (store.selection sha256Hex contextID chunk).markedHashes ⊆
        store.dedupeKeys ↔
      ∀ tx ∈ chunk,
        buildKey contextID (tx.key.hash sha256Hex) ∉ store.dedupeKeys →
          (chunkHashes sha256Hex chunk).count (tx.key.hash sha256Hex) = 1 := by
  simp only [Finset.subset_iff, Finset.mem_sdiff, Store.afterMarking, Finset.mem_union,
    List.mem_toFinset, chunkKeys, chunkHashes, List.mem_map, exists_exists_and_eq_and]
  constructor
  · intro h tx htx hnew
    by_contra hcount
    refine hnew (h ⟨.inr ⟨tx, htx, rfl⟩, fun hmarked => ?_⟩)
    exact hcount (Store.mem_markedHashes.mp (buildKey_mem_keysOf.mp hmarked)).2
  · rintro h key ⟨hkey | ⟨tx, htx, rfl⟩, hkept⟩
    · exact hkey
    · by_contra hnew
      exact hkept (buildKey_mem_keysOf.mpr (Store.mem_markedHashes.mpr ⟨hnew, h tx htx hnew⟩))

namespace ChunkEffect

variable {chunkFaults : ChunkCall → Fault} {chunk : List IngestedTransaction}
  {store : Store} {outcome : ChunkOutcome}

section

variable (h : ChunkEffect sha256Hex chunkFaults job chunk store outcome)

include h

theorem keys_subset : store.dedupeKeys ⊆ outcome.store.dedupeKeys := by
  cases h with
  | empty | unmarked => exact Finset.Subset.refl _
  | refused | stored => exact Finset.subset_union_left

theorem marked_new :
    ∀ hash ∈ outcome.markedHashes,
      buildKey job.contextID hash ∉ store.dedupeKeys ∧
        buildKey job.contextID hash ∈ outcome.store.dedupeKeys := by
  have hselected : ∀ hash ∈ (store.selection sha256Hex job.contextID chunk).markedHashes,
      buildKey job.contextID hash ∉ store.dedupeKeys ∧
        buildKey job.contextID hash ∈
          (store.afterMarking sha256Hex job.contextID chunk).dedupeKeys := by
    intro hash hhash
    obtain ⟨hnew, hcount⟩ := Store.mem_markedHashes.mp hhash
    refine ⟨hnew, Finset.mem_union_right _ (buildKey_mem_keysOf.mpr ?_)⟩
    exact List.count_pos_iff.mp (by rw [hcount]; exact Nat.one_pos)
  cases h with
  | empty | unmarked => exact nofun
  | refused | stored => exact hselected

theorem keys_of_success (hsuccess : outcome.failure = none) :
    outcome.store.dedupeKeys = store.dedupeKeys ∪
      keysOf job.contextID (chunkHashes sha256Hex chunk) := by
  cases h with
  | empty hchunk =>
    subst hchunk
    exact (Finset.union_empty _).symm
  | unmarked | refused => cases hsuccess
  | stored => rfl

theorem returns_iff_of_success (hsuccess : outcome.failure = none) (streaming : Bool) :
    outcome.store.dedupeKeys \ keysOf job.contextID outcome.markedHashes ⊆ store.dedupeKeys ↔
      ReturnsKeys sha256Hex job streaming chunkFaults chunk store := by
  cases h with
  | empty hchunk =>
    subst hchunk
    refine iff_of_true Finset.sdiff_subset fun _ _ => ⟨?_, fun _ => .inl rfl⟩
    exact fun tx htx => absurd htx List.not_mem_nil
  | unmarked | refused => cases hsuccess
  | stored _ _ hexists hmark hcreate =>
    refine (store.afterMarking_subset_iff job.contextID chunk).trans ?_
    constructor
    · intro honce _ _
      exact ⟨honce, fun _ => hcreate⟩
    · intro hreturns
      exact (hreturns hexists hmark).1

theorem returns_iff_of_failure (hfailure : outcome.failure ≠ none) (streaming : Bool) :
    outcome.store.dedupeKeys \ keysOf job.contextID
        (if streaming then [] else outcome.markedHashes) ⊆ store.dedupeKeys ↔
      ReturnsKeys sha256Hex job streaming chunkFaults chunk store := by
  cases h with
  | empty => exact absurd rfl hfailure
  | unmarked _ _ _ hfault =>
    refine iff_of_true Finset.sdiff_subset fun hexists hmark => ?_
    rcases hfault with hfault | hfault
    · exact absurd hexists hfault
    · exact absurd hmark hfault
  | refused _ _ _ hexists hmark hcreate hfiltered =>
    cases streaming with
    | false =>
      refine (store.afterMarking_subset_iff job.contextID chunk).trans ?_
      constructor
      · intro honce _ _
        exact ⟨honce, nofun⟩
      · intro hreturns
        exact (hreturns hexists hmark).1
    | true =>
      refine iff_of_false ?_ fun hreturns => ?_
      · intro hsubset
        obtain ⟨tx, htx⟩ := List.exists_mem_of_ne_nil _ hfiltered
        obtain ⟨hmem, hmarks, -⟩ := (Store.mem_filtered sha256Hex).mp htx
        refine hmarks.1 (hsubset (Finset.mem_sdiff.mpr ⟨?_, by simp [keysOf]⟩))
        exact Finset.mem_union_right _ (buildKey_mem_keysOf.mpr (List.mem_map_of_mem hmem))
      · rcases (hreturns hexists hmark).2 rfl with hnil | hnone
        · exact hfiltered hnil
        · exact hcreate hnone
  | stored => exact absurd rfl hfailure

end

end ChunkEffect

/-! ## The run over the chunks -/

variable {faults : ℕ → ChunkCall → Fault}

variable (sha256Hex faults job) in
def EachReached (condition : ℕ → List IngestedTransaction → Store → Prop) :
    List (List IngestedTransaction) → ℕ → Store → Prop
  | [], _, _ => True
  | chunk :: rest, index, store =>
    let outcome := filterAndInsertChunk sha256Hex (faults index) job chunk store
    condition index chunk store ∧
      (outcome.failure = none → EachReached condition rest (index + 1) outcome.store)

instance decidableEachReached {condition : ℕ → List IngestedTransaction → Store → Prop}
    [∀ index chunk store, Decidable (condition index chunk store)] :
    ∀ chunks index store, Decidable (EachReached sha256Hex job faults condition chunks index store)
  | [], _, _ => isTrue trivial
  | chunk :: rest, index, store =>
    have : Decidable (EachReached sha256Hex job faults condition rest
        (index + 1) (filterAndInsertChunk sha256Hex (faults index) job chunk
          store).store) := decidableEachReached rest (index + 1) _
    inferInstanceAs (Decidable (_ ∧ (_ → _)))

namespace ChunkRuns

variable {chunks : List (List IngestedTransaction)} {index : ℕ} {run : ChunkRun}

section

variable (h : ChunkRuns sha256Hex faults job chunks index store run)

include h

theorem keys_subset : store.dedupeKeys ⊆ run.store.dedupeKeys := by
  induction h with
  | nil => exact Finset.Subset.refl _
  | stop _ heffect => exact heffect.keys_subset
  | next _ heffect _ _ ih => exact heffect.keys_subset.trans ih

theorem recorded_new (streaming : Bool) :
    ∀ hash ∈ run.recorded streaming, buildKey job.contextID hash ∉ store.dedupeKeys := by
  induction h with
  | nil => simp [ChunkRun.recorded]
  | stop _ heffect =>
    intro hash hhash
    cases streaming with
    | true => simp [ChunkRun.recorded] at hhash
    | false => exact (heffect.marked_new hash (by simpa [ChunkRun.recorded] using hhash)).1
  | next _ heffect _ _ ih =>
    intro hash hhash
    rw [ChunkRun.recorded_next, List.mem_append] at hhash
    rcases hhash with hhash | hhash
    · exact (heffect.marked_new hash hhash).1
    · exact fun hkey => ih hash hhash (heffect.keys_subset hkey)

/-- By induction over the chunks, with what each stage records set apart. -/
theorem returns_iff (streaming : Bool) :
    run.store.dedupeKeys \ keysOf job.contextID (run.recorded streaming) ⊆ store.dedupeKeys ↔
      EachReached sha256Hex job faults
        (fun index => ReturnsKeys sha256Hex job streaming (faults index))
        chunks index store := by
  induction h with
  | nil => exact iff_of_true Finset.sdiff_subset trivial
  | stop houtcome heffect hfailure =>
    refine (heffect.returns_iff_of_failure (by simp [hfailure]) streaming).trans ?_
    rw [EachReached, houtcome, hfailure]
    exact (and_iff_left nofun).symm
  | next houtcome heffect hsuccess hrest ih =>
    rw [ChunkRun.recorded_next, keysOf_append, EachReached, houtcome, forall_prop_of_true hsuccess]
    refine (sdiff_union_subset_iff heffect.keys_subset hrest.keys_subset ?_ ?_).trans
      (and_congr (heffect.returns_iff_of_success hsuccess streaming) ih)
    · intro key hkey
      obtain ⟨hash, hhash, rfl⟩ := List.mem_map.mp (List.mem_toFinset.mp hkey)
      exact (heffect.marked_new hash hhash).2
    · intro key hkey
      obtain ⟨hash, hhash, rfl⟩ := List.mem_map.mp (List.mem_toFinset.mp hkey)
      exact hrest.recorded_new streaming hash hhash

theorem keys_of_success (hsuccess : run.failure = none) :
    run.store.dedupeKeys =
      store.dedupeKeys ∪ keysOf job.contextID (chunks.flatMap (chunkHashes sha256Hex)) := by
  induction h with
  | nil => exact (Finset.union_empty _).symm
  | stop => cases hsuccess
  | next _ heffect hchunk _ ih =>
    rw [ih hsuccess, heffect.keys_of_success hchunk, List.flatMap_cons, keysOf_append,
      Finset.union_assoc]

end

end ChunkRuns

end

/-! ## The whole call -/

theorem Store.clearBestEffort_keys (store : Store) (fault : Fault) (contextID : UUID)
    (hashes : List String) :
    (store.clearBestEffort fault contextID hashes).dedupeKeys =
      store.dedupeKeys \ if fault = none then keysOf contextID hashes else ∅ := by
  unfold Store.clearBestEffort
  split
  case isTrue hnil => simp [hnil, keysOf]
  case isFalse =>
    cases fault with
    | none => rfl
    | some => exact Finset.sdiff_empty.symm

theorem failJob_keys (environment : IngestionEnvironment) (job : IngestionJob)
    (cause : GoError) (markedHashes : List String) (store : Store) :
    (failJob environment job cause markedHashes store).2.dedupeKeys =
      (store.clearBestEffort (environment.faults .clearOnJobFailure)
        job.contextID markedHashes).dedupeKeys := by
  unfold failJob
  dsimp only
  generalize store.clearBestEffort _ _ _ = cleared
  cases job.fail cause.text with
  | error => rfl
  | ok failed =>
    dsimp only
    cases hpersist : cleared.persistJob (environment.faults .failJob) failed
        (.failed failed.id failed.metadata.error) with
    | error failure => rfl
    | ok stored =>
      rw [Store.persistJob_eq_ok hpersist]
      cases environment.faults .cleanupTransactions with
      | none | some => rfl

/-- The hashes are cleared twice, and one of the two is enough. -/
theorem failIngestion_keys (environment : IngestionEnvironment) (cause : GoError)
    (p : Processing) :
    (failIngestion environment cause p).2.dedupeKeys =
      p.store.dedupeKeys \
        if environment.faults .clearOnJobFailure = none ∨
            environment.faults .cleanupOnFailure = none then
          keysOf p.state.job.contextID p.state.markedHashes
        else ∅ := by
  unfold failIngestion
  dsimp only
  rw [Store.clearBestEffort_keys, failJob_keys, Store.clearBestEffort_keys, sdiff_sdiff_left]
  by_cases hlast : environment.faults .cleanupOnFailure = none
  · by_cases hfirst : environment.faults .clearOnJobFailure = none <;> simp [hfirst, hlast]
  · simp [hlast]

theorem Started.keys_subset_iff {environment : IngestionEnvironment} {store : Store}
    {sha256Hex : String → String} (started : Started environment store)
    (hsuccess : (started.process sha256Hex).1 = none) :
    (started.process sha256Hex).2.store.dedupeKeys ⊆ store.dedupeKeys ↔
      ∀ chunk ∈ started.chunks, ∀ tx ∈ chunk,
        buildKey environment.contextID (tx.key.hash sha256Hex) ∈ store.dedupeKeys := by
  have hprocessed := started.processed sha256Hex
  have hkeys : (started.process sha256Hex).2.store.dedupeKeys =
      store.dedupeKeys ∪ keysOf environment.contextID
        (started.chunks.flatMap (chunkHashes sha256Hex)) := by
    rw [hprocessed.store, ← started.opens.dedupeKeys, ← started.opens.contextID]
    exact (started.runs sha256Hex).keys_of_success (hprocessed.succeeds hsuccess).1
  rw [hkeys, Finset.union_subset_iff]
  simp only [Finset.Subset.refl, true_and, Finset.subset_iff, keysOf,
    List.mem_toFinset, List.mem_map, List.mem_flatMap, chunkHashes]
  constructor
  · intro hsubset chunk hchunk tx htx
    exact hsubset ⟨_, ⟨chunk, hchunk, tx, htx, rfl⟩, rfl⟩
  · rintro hknown key ⟨hash, ⟨chunk, hchunk, tx, htx, rfl⟩, rfl⟩
    exact hknown chunk hchunk tx htx

/--
When the processing fails, each chunk it reached has to return its keys.  When
only the completion of the job fails, no key of the file may have been new.
-/
def ReturnsEveryKey (sha256Hex : String → String)
    (environment : IngestionEnvironment) (store : Store) : Prop :=
  ∀ started : Started environment store,
    if (started.process sha256Hex).1 = none then
      ∀ chunk ∈ started.chunks, ∀ tx ∈ chunk,
        buildKey environment.contextID (tx.key.hash sha256Hex) ∈ store.dedupeKeys
    else
      EachReached sha256Hex started.job
        (fun index call => environment.faults (.chunk index call))
        (fun index => ReturnsKeys sha256Hex started.job started.plan.streaming
          (fun call => environment.faults (.chunk index call)))
        started.chunks 0 started.opened

instance (sha256Hex : String → String) (environment : IngestionEnvironment) (store : Store) :
    Decidable (ReturnsEveryKey sha256Hex environment store) :=
  inferInstanceAs (Decidable (∀ _ : Started environment store, ite _ _ _))

/-- An upload with one refused call. -/
def refusedUpload (streaming : Bool) (externalIDs : List String) (refused : IngestionCall) :
    IngestionEnvironment :=
  { sampleUpload externalIDs with
    parsers := fun _ => some ⟨streaming, fun _ => sampleFile externalIDs⟩
    faults := fun call =>
      if call = refused then some Command.errNoRows else none }

end Matcher.Ingestion
