import Matcher.Ingestion.JobFailure
import Matcher.Ingestion.KeyFate

/-!
# A second upload of a file

A file whose upload has failed is uploaded again, and the second call completes.  An
external id without row and dedupe key gets a live transaction from the first call, if
that has inserted one and does not withdraw it, or from the second.  The second can
insert it when the first has not touched the key, or has cleared it again.  A row that
the cleanup of the first call withdrew is counted as stored by the second.
-/

namespace Matcher.Ingestion

open Foundation
open Command (Fault)

variable {sha256Hex : String → String} {environment : IngestionEnvironment} {store : Store}

def Store.Live (store : Store) (key : ExternalIDKey) : Prop :=
  ∃ row ∈ store.transactions.rows, row.key = key ∧ row.status ≠ .ignored

instance (store : Store) (key : ExternalIDKey) : Decidable (store.Live key) :=
  inferInstanceAs (Decidable (∃ row ∈ _, _))

/-! ## What a call leaves -/

theorem failIngestion_rows {cause : GoError} {p : Processing} {row : IngestionJob}
    (hstatus : p.state.job.status = .processing) (htext : trimSpace cause.text ≠ "")
    (hrow : p.store.jobs.find? p.state.job.id = some row) :
    (failIngestion environment cause p).2.transactions.rows =
      p.store.transactions.rows.map fun tx =>
        if environment.faults .failJob = none ∧ environment.faults .cleanupTransactions = none then
          withdraw p.state.job.id tx
        else tx := by
  have hrows := Store.clearBestEffort_transactions p.store
    (environment.faults .clearOnJobFailure) p.state.job.contextID p.state.markedHashes
  have hjobs := Store.clearBestEffort_jobs p.store
    (environment.faults .clearOnJobFailure) p.state.job.contextID p.state.markedHashes
  unfold failIngestion failJob
  dsimp only
  rw [Store.clearBestEffort_transactions, ← hrows, IngestionJob.fail_of_processing hstatus htext]
  generalize p.store.clearBestEffort _ _ _ = cleared at hjobs ⊢
  dsimp only
  cases hwrite : environment.faults .failJob with
  | some => simp [Store.persistJob, Command.attempt]
  | none =>
    obtain ⟨stored, hstored, -⟩ := cleared.persistJob_of_row
      { p.state.job with
        status := .failed
        metadata := { p.state.job.metadata with error := trimSpace cause.text } }
      (by rw [hjobs]; exact hrow) (.failed p.state.job.id (trimSpace cause.text))
    rw [hstored, Store.persistJob_eq_ok hstored]
    cases environment.faults .cleanupTransactions with
    | none => simp [Store.cleanupBestEffort, Store.cleanupFailedJobTransactions, Table.modify]
    | some => simp [Store.cleanupBestEffort]

variable (sha256Hex) in
theorem startIngestion_unstarted (hstarted : ¬ Nonempty (Started environment store)) :
    (startIngestion sha256Hex environment store).2.transactions = store.transactions ∧
      (startIngestion sha256Hex environment store).2.dedupeKeys = store.dedupeKeys := by
  have heffect := startIngestion_effect sha256Hex environment store
  generalize (startIngestion sha256Hex environment store).1 = result,
    (startIngestion sha256Hex environment store).2 = final at heffect ⊢
  cases heffect with
  | unopened => exact ⟨rfl, rfl⟩
  | parserless _ _ _ _ hopen =>
    exact ⟨(openJob_opened hopen).transactions, (openJob_opened hopen).dedupeKeys⟩
  | failed started | uncompleted started | completed started => exact absurd ⟨started⟩ hstarted

theorem startIngestion_completed (h : (startIngestion sha256Hex environment store).1.isOk = true) :
    ∃ started : Started environment store, (started.process sha256Hex).1 = none := by
  have heffect := startIngestion_effect sha256Hex environment store
  generalize (startIngestion sha256Hex environment store).1 = result,
    (startIngestion sha256Hex environment store).2 = final at h heffect
  cases heffect with
  | unopened | parserless | failed | uncompleted => cases h
  | completed started _ _ _ hprocess => exact ⟨started, by rw [hprocess]⟩

/-- The chunks that a call makes of the file. -/
def IngestionEnvironment.chunksOf (environment : IngestionEnvironment) (file : ParsedFile) :
    List (List IngestedTransaction) :=
  match startedJob environment, environment.parser with
  | .ok job, .ok parser =>
    (Parser.plan ⟨parser.streaming, fun _ => file⟩ job [] environment.newID).chunks.map
      StreamState.chunk
  | _, _ => []

namespace Started

variable (sha256Hex) (started : Started environment store) (file : ParsedFile)
  (key : ExternalIDKey)

/-- The rows that the call has inserted are withdrawn. -/
def Withdraws : Prop :=
  (started.process sha256Hex).1 ≠ none ∧ environment.faults .failJob = none ∧
    environment.faults .cleanupTransactions = none

/-- The hashes that the call has recorded are cleared. -/
def Clears : Prop :=
  (started.process sha256Hex).1 ≠ none ∧
    (environment.faults .clearOnJobFailure = none ∨ environment.faults .cleanupOnFailure = none)

def fate : Fate :=
  keyFate sha256Hex (fun index call => environment.faults (.chunk index call)) started.job
    started.plan.streaming key (environment.chunksOf file) 0 started.opened

/-- The call inserts a row for the key and does not withdraw it. -/
def KeepsRow : Prop :=
  started.fate sha256Hex file key = .inserted ∧ ¬ started.Withdraws sha256Hex

/-- A key that was fresh before the call is so after it. -/
def KeepsFresh : Prop :=
  started.fate sha256Hex file key = .untouched ∨
    started.fate sha256Hex file key = .marked true ∧ started.Clears sha256Hex

instance : Decidable (started.Withdraws sha256Hex) :=
  inferInstanceAs (Decidable (_ ∧ _))

instance : Decidable (started.Clears sha256Hex) :=
  inferInstanceAs (Decidable (_ ∧ _))

instance : Decidable (started.KeepsFresh sha256Hex file key) :=
  inferInstanceAs (Decidable (_ ∨ _))

variable {sha256Hex file key}

theorem leaves :
    (startIngestion sha256Hex environment store).2.transactions.rows =
        (started.run sha256Hex).store.transactions.rows.map (fun tx =>
          if started.Withdraws sha256Hex then withdraw environment.jobID tx else tx) ∧
      ((startIngestion sha256Hex environment store).1.isOk = false →
        (startIngestion sha256Hex environment store).2.dedupeKeys =
          (started.run sha256Hex).store.dedupeKeys \
            if started.Clears sha256Hex then
              keysOf environment.contextID ((started.run sha256Hex).recorded started.plan.streaming)
            else ∅) := by
  have hprocessed := started.processed sha256Hex
  have hjobs := started.process_jobs sha256Hex
  have heffect := startIngestion_effect sha256Hex environment store
  unfold Withdraws Clears
  generalize (startIngestion sha256Hex environment store).1 = result,
    (startIngestion sha256Hex environment store).2 = final at heffect ⊢
  cases heffect with
  | unopened _ hopen => cases hopen.symm.trans started.hopen
  | parserless _ _ _ _ _ hparser => cases hparser.symm.trans started.hparser
  | failed other cause p hprocess =>
    rw [Subsingleton.elim other started] at hprocess
    rw [hprocess] at hprocessed hjobs
    have hid : p.state.job.id = environment.jobID := hprocessed.id.trans started.opens.id
    rw [failIngestion_rows (hprocessed.status.trans started.opens.status)
        (hprocessed.text_ne cause rfl) (by rw [hjobs, hid]; exact started.opens.row),
      failIngestion_keys, hprocessed.store, hprocessed.markedHashes, hid,
      hprocessed.contextID.trans started.opens.contextID]
    simp [hprocess]
  | uncompleted other _ _ hprocess =>
    rw [Subsingleton.elim other started] at hprocess
    rw [hprocess] at hprocessed
    rw [hprocessed.store]
    simp [hprocess]
  | completed other _ _ _ hprocess hcomplete =>
    rw [Subsingleton.elim other started] at hprocess
    rw [hprocess] at hprocessed
    rw [Store.clearBestEffort_transactions, (completeIngestionJob_eq_ok hcomplete).2.2,
      hprocessed.store]
    simp [hprocess, Except.isOk, Except.toBool]

theorem fresh_iff :
    started.opened.Fresh sha256Hex started.job.contextID key ↔
      store.Fresh sha256Hex environment.contextID key := by
  rw [Store.Fresh, Store.Fresh, Store.HasRow, Store.HasRow, started.opens.dedupeKeys,
    started.opens.transactions, started.opens.contextID]

variable (hfile : started.parser.parse started.fieldMap = file)

include hfile

theorem chunks_eq : started.chunks = environment.chunksOf file := by
  rw [IngestionEnvironment.chunksOf, started.opens.started, started.hparser]
  subst hfile
  rfl

theorem live_iff (hnew : started.Withdraws sha256Hex →
      ∀ row ∈ store.transactions.rows, row.ingestionJobID ≠ environment.jobID) :
    (startIngestion sha256Hex environment store).2.Live key ↔
      store.Live key ∨ store.Fresh sha256Hex environment.contextID key ∧
        started.KeepsRow sha256Hex file key := by
  obtain ⟨added, hrows, hchunks, hadded⟩ :=
    (started.runs sha256Hex).inserts started.plan.streaming
  have hbuilt : ∀ tx ∈ added, tx.BuiltFor started.job := fun tx htx =>
    let ⟨chunk, hchunk, hmem⟩ := hchunks tx htx
    started.builtFor chunk hchunk tx hmem
  have hold : store.transactions.rows.map (fun tx =>
      if started.Withdraws sha256Hex then withdraw environment.jobID tx else tx) =
        store.transactions.rows := by
    refine (List.map_congr_left fun row hrow => ?_).trans (List.map_id _)
    split_ifs with hwithdraws
    · exact if_neg fun hjob => hnew hwithdraws row hrow hjob.1
    · rfl
  unfold KeepsRow fate
  rw [← started.fresh_iff, ← and_assoc, ← started.chunks_eq hfile, ← hadded]
  unfold Store.Live
  rw [started.leaves.1, hrows, started.opens.transactions, List.map_append, hold]
  simp only [List.mem_append, or_and_right, exists_or, List.mem_map, exists_exists_and_eq_and]
  refine or_congr_right ?_
  by_cases hwithdraws : started.Withdraws sha256Hex
  · simp only [if_pos hwithdraws]
    refine iff_of_false ?_ fun hkept => hkept.2 hwithdraws
    rintro ⟨tx, htx, -, hlive⟩
    obtain ⟨-, hjob, hstatus⟩ := hbuilt tx htx
    exact hlive (by rw [withdraw, if_pos ⟨hjob.trans started.opens.id, hstatus⟩])
  · simp only [if_neg hwithdraws]
    rw [and_iff_left hwithdraws]
    refine exists_congr fun tx => and_congr_right fun htx => and_iff_left ?_
    rw [(hbuilt tx htx).2.2]
    exact nofun

theorem failed_fresh_iff (h : (startIngestion sha256Hex environment store).1.isOk = false) :
    (startIngestion sha256Hex environment store).2.Fresh sha256Hex environment.contextID key ↔
      store.Fresh sha256Hex environment.contextID key ∧
        started.KeepsFresh sha256Hex file key := by
  have hruns := started.runs sha256Hex
  have hcontext := started.opens.contextID
  have hrow : (startIngestion sha256Hex environment store).2.HasRow key ↔
      (started.run sha256Hex).store.HasRow key := by
    rw [Store.HasRow, started.leaves.1, List.map_map]
    refine iff_of_eq (congrArg (key ∈ ·) (List.map_congr_left fun tx _ => ?_))
    rw [Function.comp_apply]
    split_ifs
    · exact withdraw_key _ _
    · rfl
  rw [Store.Fresh, hrow, started.leaves.2 h, Finset.mem_sdiff, not_and_not_right]
  by_cases hfresh : store.Fresh sha256Hex environment.contextID key
  · have hfate := hruns.fate started.plan.streaming (started.fresh_iff.mpr hfresh)
    rw [started.chunks_eq hfile, hcontext] at hfate
    change (started.fate sha256Hex file key).Describes _ _ _ _ _ at hfate
    rw [and_iff_right hfresh, KeepsFresh]
    generalize started.fate sha256Hex file key = fate at hfate ⊢
    cases fate with
    | untouched =>
      exact iff_of_true ⟨fun hkey => absurd hkey hfate.1, hfate.2⟩ (.inl rfl)
    | marked isRecorded =>
      obtain ⟨hset, hnone, hrecorded⟩ := hfate
      by_cases hclears : started.Clears sha256Hex
      · simp [hset, hnone, hclears, buildKey_mem_keysOf, hrecorded]
      · simp [hset, hnone, hclears]
    | inserted => exact iff_of_false (fun hstill => hstill.2 hfate) (by simp)
  · refine iff_of_false (fun hstill => hfresh ⟨fun hset => ?_, fun hold => hstill.2 ?_⟩)
      fun hkept => hfresh hkept.1
    · rw [← started.opens.dedupeKeys, ← hcontext] at hset
      have hcleared := hstill.1 (hcontext ▸ hruns.keys_subset hset)
      split_ifs at hcleared
      · exact hruns.recorded_new _ _ (buildKey_mem_keysOf.mp hcleared) hset
      · cases hcleared
    · obtain ⟨added, hrows, -⟩ := hruns.added
      rw [Store.HasRow, hrows, started.opens.transactions, List.map_append]
      exact List.mem_append_left _ hold

end Started

/-! ## Two calls -/

/-- The first call fails, at whatever point, and the second one completes. -/
structure Retry (sha256Hex : String → String) (file : ParsedFile)
    (first second : IngestionEnvironment) (before between after : Store) : Prop where
  sourceID : second.sourceID = first.sourceID
  contextID : second.contextID = first.contextID
  firstFile : ∀ started : Started first before, started.parser.parse started.fieldMap = file
  secondFile : ∀ started : Started second between, started.parser.parse started.fieldMap = file
  jobID : ∀ row ∈ before.transactions.rows, row.ingestionJobID ≠ first.jobID
  fails : (startIngestion sha256Hex first before).1.isOk = false
  between_eq : (startIngestion sha256Hex first before).2 = between
  completes : (startIngestion sha256Hex second between).1.isOk = true
  after_eq : (startIngestion sha256Hex second between).2 = after

/--
A live row stays.  A key without row and mark gets one from the first call, if that
keeps it, or from the second, if the first leaves the key as it was and the chunk that
mentions it first does so once.
-/
def Recovered (sha256Hex : String → String) (file : ParsedFile)
    (first second : IngestionEnvironment) (before : Store) (key : ExternalIDKey) : Prop :=
  before.Live key ∨ before.Fresh sha256Hex first.contextID key ∧
    ((∃ started : Started first before, started.KeepsRow sha256Hex file key) ∨
      (∀ started : Started first before, started.KeepsFresh sha256Hex file key) ∧
        FirstChunkHasOnce sha256Hex key (second.chunksOf file))

variable {file : ParsedFile} {first second : IngestionEnvironment} {before between after : Store}

theorem Retry.live_iff (retry : Retry sha256Hex file first second before between after)
    (key : ExternalIDKey) :
    after.Live key ↔ Recovered sha256Hex file first second before key := by
  obtain ⟨started, hprocess⟩ := startIngestion_completed retry.completes
  have hparsed := retry.secondFile started
  have honce : started.KeepsRow sha256Hex file key ↔
      FirstChunkHasOnce sha256Hex key (second.chunksOf file) := by
    rw [Started.KeepsRow, and_iff_left fun h : started.Withdraws sha256Hex => h.1 hprocess,
      Started.fate, ← started.chunks_eq hparsed]
    exact (started.runs sha256Hex).inserted_iff ((started.processed sha256Hex).succeeds hprocess).1
  rw [← retry.after_eq, started.live_iff hparsed fun h => absurd hprocess h.1, honce,
    retry.contextID, ← retry.between_eq, Recovered]
  by_cases hfirst : Nonempty (Started first before)
  · obtain ⟨opened⟩ := hfirst
    have hread := retry.firstFile opened
    have hkeeps : (∃ other : Started first before, other.KeepsRow sha256Hex file key) ↔
        opened.KeepsRow sha256Hex file key :=
      ⟨fun ⟨other, h⟩ => Subsingleton.elim other opened ▸ h, fun h => ⟨opened, h⟩⟩
    have hfresh : (∀ other : Started first before, other.KeepsFresh sha256Hex file key) ↔
        opened.KeepsFresh sha256Hex file key :=
      ⟨fun h => h opened, fun h other => Subsingleton.elim opened other ▸ h⟩
    rw [opened.live_iff hread fun _ => retry.jobID, opened.failed_fresh_iff hread retry.fails,
      hkeeps, hfresh, or_assoc, and_assoc, ← and_or_left]
  · obtain ⟨htransactions, hkeys⟩ := startIngestion_unstarted sha256Hex hfirst
    have hnone : ¬ ∃ other : Started first before, other.KeepsRow sha256Hex file key :=
      fun ⟨other, _⟩ => hfirst ⟨other⟩
    have hall : ∀ other : Started first before, other.KeepsFresh sha256Hex file key :=
      fun other => absurd ⟨other⟩ hfirst
    rw [or_iff_right hnone, and_iff_right hall, Store.Live, Store.Live, Store.Fresh, Store.Fresh,
      Store.HasRow, Store.HasRow, htransactions, hkeys]

def secondUpload (externalIDs : List String) : IngestionEnvironment :=
  { sampleUpload externalIDs with
    jobID := ⟨7⟩
    newID := fun index => ⟨BitVec.ofNat 128 (index + 20)⟩
    parsers := fun _ => some ⟨true, fun _ => sampleFile externalIDs⟩ }

def firstResult (externalIDs : List String) (refused : IngestionCall) :
    Except GoError IngestionJob × Store :=
  startIngestion id (refusedUpload true externalIDs refused) emptyStore

def secondResult (externalIDs : List String) (refused : IngestionCall) :
    Except GoError IngestionJob × Store :=
  startIngestion id (secondUpload externalIDs) (firstResult externalIDs refused).2

theorem retry_of_run {externalIDs : List String} {refused : IngestionCall}
    (h : (firstResult externalIDs refused).1.isOk = false ∧
      (secondResult externalIDs refused).1.isOk = true) :
    Retry id (sampleFile externalIDs) (refusedUpload true externalIDs refused)
      (secondUpload externalIDs) emptyStore (firstResult externalIDs refused).2
      (secondResult externalIDs refused).2 where
  sourceID := rfl
  contextID := rfl
  firstFile started := by
    rw [← Except.ok.inj (Eq.trans rfl started.hparser)]
  secondFile started := by
    rw [← Except.ok.inj (Eq.trans rfl started.hparser)]
  jobID _ h := absurd h List.not_mem_nil
  fails := h.1
  between_eq := rfl
  completes := h.2
  after_eq := rfl

end Matcher.Ingestion
