import Matcher.Ingestion.Processing

/-!
# The job of a call that fails

A call that returns an error after the row of its job was written should leave
that job failed.  It does so when the processing of the file fails.  A parser
that is not found, and a completion that is refused, leave the job processing.
-/

namespace Matcher.Ingestion

open Foundation

variable {environment : IngestionEnvironment}

theorem Store.jobStatus_congr {first second : Store} (h : first.jobs = second.jobs) (jobID : UUID) :
    first.jobStatus jobID = second.jobStatus jobID := by
  rw [Store.jobStatus, Store.jobStatus, h]

theorem Opened.jobStatus {before after : Store} {job : IngestionJob}
    (h : Opened environment before job after) :
    after.jobStatus environment.jobID = some .processing := by
  rw [Store.jobStatus, h.row, Option.map_some, h.status]

theorem failIngestion_jobStatus {cause : GoError} {p : Processing} {row : IngestionJob}
    (hwrite : environment.faults .failJob = none) (hstatus : p.state.job.status = .processing)
    (htext : trimSpace cause.text ≠ "") (hrow : p.store.jobs.find? p.state.job.id = some row) :
    (failIngestion environment cause p).2.jobStatus p.state.job.id = some .failed := by
  have hcleared := Store.clearBestEffort_jobs p.store
    (environment.faults .clearOnJobFailure) p.state.job.contextID
    p.state.markedHashes
  unfold failIngestion failJob
  dsimp only
  generalize p.store.clearBestEffort _ _ _ = cleared at hcleared ⊢
  rw [IngestionJob.fail_of_processing hstatus htext, hwrite]
  obtain ⟨stored, hstored, hfailed⟩ := cleared.persistJob_of_row
    { p.state.job with
      status := .failed
      metadata := { p.state.job.metadata with error := trimSpace cause.text } }
    (by rw [hcleared]; exact hrow)
    (.failed p.state.job.id (trimSpace cause.text))
  dsimp only
  rw [hstored, Store.jobStatus_congr (Store.clearBestEffort_jobs _ _ _ _),
    Store.jobStatus_congr (Store.cleanupBestEffort_jobs _ _ _)]
  exact hfailed

theorem Started.process_jobs {store : Store} (started : Started environment store)
    (sha256Hex : String → String) :
    (started.process sha256Hex).2.store.jobs = started.opened.jobs := by
  rw [(started.processed sha256Hex).store]
  exact (started.runs sha256Hex).jobs

/--
The status is failed when the error arose in the processing of the file, and
processing when it arose before or after it.
-/
theorem failed_status_iff {sha256Hex : String → String} {environment : IngestionEnvironment}
    {store : Store} {failure : GoError} (hcreated : (openJob environment store).isOk = true)
    (hwrite : environment.faults .failJob = none)
    (h : (startIngestion sha256Hex environment store).1 = .error failure) :
    (startIngestion sha256Hex environment store).2.jobStatus environment.jobID = some .failed ↔
      ∃ started : Started environment store, (started.process sha256Hex).1 ≠ none := by
  have heffect := startIngestion_effect sha256Hex environment store
  rw [h] at heffect
  generalize (startIngestion sha256Hex environment store).2 = final at heffect ⊢
  cases heffect with
  | unopened _ hopen =>
    rw [hopen] at hcreated
    cases hcreated
  | parserless _ _ _ _ hopen hparser =>
    constructor
    · intro hfailed
      rw [(openJob_opened hopen).jobStatus] at hfailed
      cases hfailed
    · rintro ⟨started, -⟩
      cases hparser.symm.trans started.hparser
  | failed started cause p hprocess =>
    have hprocessed := started.processed sha256Hex
    have hjobs := started.process_jobs sha256Hex
    rw [hprocess] at hprocessed hjobs
    have hid : p.state.job.id = environment.jobID := hprocessed.id.trans started.opens.id
    have hfailed := failIngestion_jobStatus hwrite
      (hprocessed.status.trans started.opens.status)
      (hprocessed.text_ne cause rfl)
      (by rw [hjobs, hid]; exact started.opens.row)
    rw [hid] at hfailed
    exact iff_of_true hfailed ⟨started, by rw [hprocess]; exact nofun⟩
  | uncompleted started _ _ hprocess =>
    have hjobs := started.process_jobs sha256Hex
    rw [hprocess] at hjobs
    constructor
    · intro hfailed
      rw [Store.jobStatus_congr hjobs, started.opens.jobStatus] at hfailed
      cases hfailed
    · rintro ⟨other, hother⟩
      rw [Subsingleton.elim other started, hprocess] at hother
      exact absurd rfl hother

theorem failed_status_empty_file :
    (startIngestion id (sampleUpload []) emptyStore).1 = .error errEmptyFile ∧
    (startIngestion id (sampleUpload []) emptyStore).2.jobStatus sampleJob.id = some .failed := by
  have hfailure : (startIngestion id (sampleUpload []) emptyStore).1 =
      .error errEmptyFile := by decide +kernel
  exact ⟨hfailure, (failed_status_iff (by decide +kernel) rfl hfailure).mpr
    ⟨⟨_, _, _, _, rfl, rfl⟩, by decide +kernel⟩⟩

/-- A format without a parser, and a completion that is refused. -/
theorem error_leaves_job_processing :
    let unsupported := { sampleUpload ["A"] with format := "pdf" }
    let uncompleted := { sampleUpload ["A"] with
      faults := fun call =>
        if call = .completeJob then some Command.errNoRows else none }
    (startIngestion id unsupported emptyStore).1.isOk = false ∧
      (startIngestion id unsupported emptyStore).2.jobStatus sampleJob.id = some .processing ∧
      (startIngestion id uncompleted emptyStore).1.isOk = false ∧
      (startIngestion id uncompleted emptyStore).2.jobStatus sampleJob.id = some .processing := by
  decide +kernel

end Matcher.Ingestion
